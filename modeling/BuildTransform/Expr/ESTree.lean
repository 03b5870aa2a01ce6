import BuildTransform.Decimal.Integer
import BuildTransform.Expr.Basic
import BuildTransform.Text.Units
import BuildTransform.Value.Display

/-!
# Expressions from ESTree objects

Reading an expression from an ESTree object, the form in which parsers of
ECMAScript exchange their trees.

* `ESTree.span` reads the place of a node from `range` or from `start` and
  `end`. These count 16-bit units; `SourceIndex` turns them into positions of
  characters when the source text is known.
* `ESTree.convert` reads the nodes with a rule of evaluation. Any other syntax
  becomes an unsupported node with its place.
-/

namespace BuildTransform

/-- Why an object is no tree. -/
inductive TreeFault
  | missingKey (shown : String)
  | notAnObject
  | unsuitable
  | malformedInteger
  | infiniteInteger
  | outOfRange
  | tooDeep
deriving DecidableEq, Repr

namespace ESTree

/-- What reading a tree yields. -/
abbrev Read (α : Type) := Except TreeFault α

/-- The characters of a source in which 16-bit units and characters differ. -/
abbrev SourceIndex := Option (List Char)

/-- The index of a source; none is needed if every character is one unit. -/
def indexOf (source : Option String) : SourceIndex :=
  match source with
  | none => none
  | some s => if s.toList.all (fun c => Units.width16 c == 1) then none else some s.toList

/-- The position of a character from a position in units. Positions past the end
fall on the end; negative ones count from behind the end. -/
def position (index : SourceIndex) (u : Int) : Read Int :=
  match index with
  | none => .ok u
  | some cs =>
      let last := Units.total Units.width16 cs
      let v := min u last
      let v := if v < 0 then v + (last + 1) else v
      if v < 0 then .error .outOfRange
      else .ok (Units.floorIndex Units.width16 cs v.toNat)

/-- The integer that a value stands for as a position. -/
def integerOf : Value → Read Int
  | .bool b => .ok (if b then 1 else 0)
  | .int i => .ok i
  | .float .nan => .error .malformedInteger
  | .float d =>
      match d.truncate? with
      | some i => .ok i
      | none => .error .infiniteInteger
  | .str s => ofChars s.toList
  | .bytes bs => ofChars (bs.map fun b => Char.ofNat b.toNat)
  | _ => .error .unsuitable
where
  /-- The integer that a text denotes. -/
  ofChars (cs : List Char) : Read Int :=
    match Integer.ofText cs with
    | .ok i => .ok i
    | .error _ => .error .malformedInteger

/-- The item of a value at one of two positions. -/
def item (v : Value) (i : Nat) : Read Value :=
  let at? (o : Option Value) : Read Value :=
    match o with
    | some x => .ok x
    | none => .error .outOfRange
  match v with
  | .list xs => at? xs[i]?
  | .tuple xs => at? xs[i]?
  | .str s => at? (s.toList[i]?.map fun c => .str (String.singleton c))
  | .bytes bs => at? (bs[i]?.map fun b => .int b.toNat)
  | .dict es =>
      match Value.lookup (.int i) es with
      | some x => .ok x
      | none => .error (.missingKey (Numeral.natText i))
  | _ => .error .unsuitable

/-- The number of items of a value. -/
def length : Value → Read Nat
  | .list xs => .ok xs.length
  | .tuple xs => .ok xs.length
  | .set xs => .ok xs.length
  | .dict es => .ok es.length
  | .str s => .ok s.toList.length
  | .bytes bs => .ok bs.length
  | _ => .error .unsuitable

/-- The entries of an object. -/
def entries : Value → Read (List (Value × Value))
  | .dict es => .ok es
  | _ => .error .notAnObject

/-- The value under a key, if there is one. -/
def find (es : List (Value × Value)) (key : String) : Option Value :=
  Value.lookup (.str key) es

/-- The value under a key, nothing if there is none. -/
def field (es : List (Value × Value)) (key : String) : Value :=
  (find es key).getD .null

/-- The value under a key that has to be there. -/
def require (es : List (Value × Value)) (key : String) : Read Value :=
  match find es key with
  | some v => .ok v
  | none => .error (.missingKey (Quoted.text key))

/-- The value is a certain text. -/
def isText (v : Value) (s : String) : Bool :=
  match v with
  | .str t => t == s
  | _ => false

/-- The place between two values. -/
def spanOf (index : SourceIndex) (start stop : Value) : Read (Option Span) := do
  let a ← integerOf start
  let b ← integerOf stop
  let a ← position index a
  let b ← position index b
  .ok (some ⟨a, b⟩)

/-- The place between the values under `start` and `end`, if both are there. -/
def spanOfEnds (index : SourceIndex) (es : List (Value × Value)) : Read (Option Span) :=
  match find es "start", find es "end" with
  | some a, some b => spanOf index a b
  | _, _ => .ok none

/-- The place of a node: its `range` if that has two items, else `start` and
`end`. -/
def span (index : SourceIndex) (es : List (Value × Value)) : Read (Option Span) :=
  match field es "range" with
  | .null => spanOfEnds index es
  | r => do
      if (← length r) = 2 then
        let a ← integerOf (← item r 0)
        let b ← integerOf (← item r 1)
        spanOf index (.int a) (.int b)
      else spanOfEnds index es

/-- The text of a value inside the kind of an unsupported node. -/
def kindText (v : Value) : Read String :=
  match v.text? with
  | some s => .ok s
  | none => .error .malformedInteger

/-- The arguments that a value lists. -/
def argumentsOf : Value → Read (List Value)
  | .list xs => .ok xs
  | .tuple xs => .ok xs
  | .set xs => .ok xs
  | .dict es => .ok (es.map (·.1))
  | .str s => .ok (s.toList.map fun c => .str (String.singleton c))
  | .bytes bs => .ok (bs.map fun b => .int b.toNat)
  | _ => .error .unsuitable

/-- The property that a member expression names, if it names one statically. -/
def propertyOf (es : List (Value × Value)) : Read (Option Value) := do
  let property ← entries (← require es "property")
  let type := field property "type"
  if (field es "computed").isTruthy then
    match isText type "Literal", field property "value" with
    | true, .str s => .ok (some (.str s))
    | _, _ => .ok none
  else if isText type "Identifier" then
    .ok (some (← require property "name"))
  else .ok none

/-- The object under a key that has to be there, read one level down. -/
def below (convert : Value → Read Expr) (es : List (Value × Value)) (key : String) :
    Read Expr := do
  convert (← require es key)

/-- A node of a known type from its entries; `convert` reads the nodes below. -/
def node (convert : Value → Read Expr) (type : Value) (es : List (Value × Value))
    (place : Option Span) : Read Expr :=
  match type with
  | .str "Literal" =>
      if (find es "regex").isSome || (find es "bigint").isSome then
        .ok (.unsupported (.str "Literal") place)
      else .ok (.literal (field es "value") place)
  | .str "Identifier" => do
      .ok (.identifier (← require es "name") place)
  | .str "ParenthesizedExpression" => below convert es "expression"
  | .str "MemberExpression" => do
      match ← propertyOf es with
      | none => .ok (.unsupported type place)
      | some property => .ok (.member (← below convert es "object") property place)
  | .str "BinaryExpression" => do
      let operator := field es "operator"
      if isText operator "+" then
        let left ← below convert es "left"
        let right ← below convert es "right"
        .ok (.plus left right place)
      else
        .ok (.unsupported (.str ("BinaryExpression(" ++ (← kindText operator) ++ ")")) place)
  | .str "CallExpression" => do
      if (field es "optional").isTruthy then
        .ok (.unsupported (.str "OptionalCallExpression") place)
      else
        let callee ← below convert es "callee"
        let arguments ←
          match find es "arguments" with
          | none => .ok []
          | some v => (← argumentsOf v).mapM convert
        .ok (.call callee arguments place)
  | _ => .ok (.unsupported type place)

/-- The expression that an object describes, looking at most `budget` objects
down. -/
def convert (index : SourceIndex) : Nat → Value → Read Expr
  | 0, _ => .error .tooDeep
  | budget + 1, v => do
      let es ← entries v
      let type := (find es "type").getD (.str "<unknown>")
      let place ← span index es
      node (convert index budget) type es place

/-- How deeply objects may be nested. -/
def depthLimit : Nat := 1000

/-- The expression that an object describes. With the source text, places become
positions of its characters. -/
def toExpr (v : Value) (source : Option String) : Read Expr :=
  convert (indexOf source) depthLimit v

end ESTree
end BuildTransform
