import BuildTransform.Value.Basic

/-!
# Tables of TOML

The tables of a document while it is read, with marks for what may still be
changed.

* `Table.within` changes the table behind a dotted key and makes the tables on
  the way; behind an array of tables stands the last of them.
* `Tables` adds two sets of keys: tables that a header has opened or a dotted key
  has passed, and values that are closed with everything below them.
-/

namespace BuildTransform
namespace Toml

/-- A dotted key. -/
abbrev Key := List String

/-- The entries of a table. -/
abbrev Table := List (Value × Value)

namespace Table

/-- The value under a name. -/
def get? (name : String) (t : Table) : Option Value :=
  Value.lookup (.str name) t

/-- The table with a value under a name. -/
def put (name : String) (v : Value) (t : Table) : Table :=
  Value.put (.str name) v t

/-- The table with a new entry, unless there is one of that name. -/
def insertNew (name : String) (v : Value) (t : Table) : Option Table :=
  match t.get? name with
  | some _ => none
  | none => some (t.put name v)

/-- Changes the table behind a key. `throughLists` says whether the last table of
an array may be entered; nothing else but a table can be. -/
def within (throughLists : Bool) (change : Table → Option Table) : Key → Table → Option Table
  | [], t => change t
  | name :: key, t =>
      match t.get? name with
      | none => (within throughLists change key []).map fun inner => t.put name (.dict inner)
      | some (.dict inner) =>
          (within throughLists change key inner).map fun inner => t.put name (.dict inner)
      | some (.list items) =>
          match throughLists, items.getLast? with
          | true, some (.dict inner) =>
              (within throughLists change key inner).map fun inner =>
                t.put name (.list (items.dropLast ++ [.dict inner]))
          | _, _ => none
      | some _ => none

/-- The table with an empty table added to the array under a name. -/
def appendTo (name : String) (t : Table) : Option Table :=
  match t.get? name with
  | none => some (t.put name (.list [.dict []]))
  | some (.list items) => some (t.put name (.list (items ++ [.dict []])))
  | some _ => none

end Table

/-- The tables of a document and the marks on their keys; passed keys take effect
with the next header. -/
structure Tables where
  root : Table
  opened : List Key
  passed : List Key
  closed : List Key
deriving Repr

namespace Tables

/-- A document without entries. -/
def empty : Tables :=
  ⟨[], [], [], []⟩

/-- The key was opened by a header or passed before the last header. -/
def isOpened (s : Tables) (key : Key) : Bool :=
  !key.isEmpty && s.opened.contains key

/-- The key stands for a closed value or for something inside of one. -/
def isClosed (s : Tables) (key : Key) : Bool :=
  s.closed.any (·.isPrefixOf key)

/-- Marks the keys that were passed since the last header. -/
def settle (s : Tables) : Tables :=
  { s with opened := s.passed ++ s.opened, passed := [] }

/-- Opens the table of a header. -/
def openTable (s : Tables) (key : Key) : Option Tables :=
  if s.isOpened key || s.isClosed key then none
  else
    (Table.within true some key s.root).map fun root =>
      { s with root := root, opened := key :: s.opened }

/-- Opens a new table at the end of an array of tables; marks below the array are
forgotten. -/
def openItem (s : Tables) (key : Key) : Option Tables :=
  if s.isClosed key then none
  else
    (Table.within true (Table.appendTo (key.getLastD "")) key.dropLast s.root).map fun root =>
      { s with
        root := root
        opened := key :: s.opened.filter (fun k => !key.isPrefixOf k)
        closed := s.closed.filter (fun k => !key.isPrefixOf k) }

/-- The keys that a dotted key below a header passes on its way. -/
def passedBy (header key : Key) : List Key :=
  (List.range (key.length - 1)).map fun n => header ++ key.take (n + 1)

/-- The value is an array or a table. -/
def isCollection : Value → Bool
  | .dict _ => true
  | .list _ => true
  | _ => false

/-- Writes a value under a dotted key below a header. -/
def write (s : Tables) (header key : Key) (v : Value) : Option Tables :=
  let onWay := passedBy header key
  let parent := header ++ key.dropLast
  if onWay.any s.isOpened || s.isClosed parent then none
  else
    (Table.within true (Table.insertNew (key.getLastD "") v) parent s.root).map fun root =>
      { s with
        root := root
        passed := onWay ++ s.passed
        closed := if isCollection v then (header ++ key) :: s.closed else s.closed }

end Tables
end Toml
end BuildTransform
