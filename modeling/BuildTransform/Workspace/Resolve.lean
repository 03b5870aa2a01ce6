import BuildTransform.Workspace.Walk

/-!
# Resolving paths

The absolute path without links that a path denotes, whether or not anything
stands there.

* `FileTree.settle` replaces links by their targets one name after another; a
  link that leads back to itself leaves the remaining names as they are.
* `Workspace.resolve` is the settled path in normal form. It fails if the path
  still runs into a loop of links.
-/

namespace BuildTransform

/-- How far the links of a path could be replaced. -/
inductive Settled
  | complete (loc : Location)
  | stuck (names : List String)
deriving DecidableEq, Repr

namespace Settled

/-- The names reached so far. -/
def names : Settled → List String
  | .complete loc => loc
  | .stuck ns => ns

end Settled

/-- Why a path cannot be resolved. -/
inductive ResolveFault
  | loop
  | nulInName
deriving DecidableEq, Repr

namespace FileTree

/-- Names that follow a location; names whose text starts with a slash replace it. -/
def continued (loc : List String) : List String → List String
  | "" :: name :: rest => name :: rest
  | rest => loc ++ rest

/-- Replaces links by their targets. `visiting` holds the links that are being
replaced, `budget` bounds how deeply they are nested. -/
def settle (t : FileTree) (visiting : List Location) (budget : Nat) (loc : Location)
    (names : List String) : Settled :=
  match names with
  | [] => .complete loc
  | name :: rest =>
      if name = "" ∨ name = "." then settle t visiting budget loc rest
      else if name = ".." then settle t visiting budget loc.dropLast rest
      else
        let next := loc ++ [name]
        match t.linkAt? next with
        | some target =>
            if visiting.contains next then .stuck (continued next rest)
            else
              match budget with
              | 0 => .stuck (continued next rest)
              | budget + 1 =>
                  let origin := if Path.isAbsolute target then [] else loc
                  match settle t (next :: visiting) budget origin (Path.components target) with
                  | .stuck ns => .stuck (continued ns rest)
                  | .complete reached => settle t visiting (budget + 1) reached rest
        | none => settle t visiting budget next rest
termination_by (budget, names.length)

end FileTree

namespace Workspace

/-- The absolute path of a location. -/
def pathAt (loc : Location) : Path :=
  ⟨.single, loc⟩

/-- The path that a settled one denotes, with `..` taken literally. -/
def settledPath : Settled → Path
  | .complete loc => pathAt loc
  | .stuck ns => pathAt ((Joined.reduce true (ns.map String.toList)).map String.ofList)

/-- The names of a text with every link replaced as far as possible. -/
def settle (w : Workspace) (s : String) : Settled :=
  w.tree.settle [] w.tree.size (w.start s) (Path.components s)

/-- The absolute path without links that a path denotes. -/
def resolve (w : Workspace) (p : Path) : Except ResolveFault Path :=
  let s := p.text
  if s.toList.contains '\x00' then .error .nulInName
  else
    let q := settledPath (w.settle s)
    match w.stat q with
    | .error .tooManyLinks => .error .loop
    | _ => .ok q

end Workspace
end BuildTransform
