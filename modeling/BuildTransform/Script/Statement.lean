import BuildTransform.Script.Grammar

/-!
# Statements of scripts

The statements of a configuration module, read from tokens.

* A line holds simple statements with semicolons between them; statements with a body of
  their own do not belong to the language, and neither do those that change a binding in
  place.
* `Statement.isPlain` says which of the statements that can be read are run here; any
  other one is left to the system that the module belongs to.
-/

namespace BuildTransform
namespace Script

/-- A statement. -/
inductive Statement
  | pass
  | importing (module : Option String)
  | raising (exception cause : Option Node)
  | assignment (targets : List Node) (value : Node)
  | hinted (target hint : Node) (value : Option Node)
  | expression (value : Node)
deriving Repr

namespace Grammar

/-- A word is read as one of several names with dots between them. -/
def dottedName : Nat → Parse String
  | 0 => failure
  | n + 1 => do
      let first ← name
      if ← accept "." then
        let _ ← dottedName n
        pure first
      else pure first

/-- The other name that an import gives to what it imports, if there is one. -/
def otherName : Parse Unit := do
  if ← acceptWord "as" then discard name else pure ()

/-- Imported modules with commas between them; the first one decides. -/
def importedModules : Nat → Parse String
  | 0 => failure
  | n + 1 => do
      let first ← dottedName (← bound)
      otherName
      if ← accept "," then
        let _ ← importedModules n
        pure first
      else pure first

/-- Names imported from a module, with commas between them; in brackets a comma may stand
behind the last one. -/
def importedNames (inBrackets : Bool) : Nat → Parse Unit
  | 0 => failure
  | n + 1 => do
      let _ ← name
      otherName
      if ← accept "," then
        if inBrackets && (← nextIs ")") then pure () else importedNames inBrackets n
      else pure ()

/-- A statement that imports, from behind its first word on. -/
def importStatement : Parse Statement := do
  let module ← importedModules (← bound)
  pure (.importing (some module))

/-- One or three dots. -/
def isDots (l : Lexeme) : Bool :=
  isSymbol l "." || isSymbol l "..."

/-- The module that names are imported from; one that is given by its distance is not told
apart further. -/
def sourceModule : Parse (Option String) := do
  let dots ← whenever (acceptOf isDots) (pure ())
  if dots.isEmpty then
    let module ← dottedName (← bound)
    pure (some module)
  else
    if ← nextIsName then discard (dottedName (← bound))
    pure none

/-- A statement that imports from a module, from behind its first word on. -/
def fromStatement : Parse Statement := do
  let module ← sourceModule
  expectWord "import"
  if ← accept "*" then pure (.importing module)
  else if ← accept "(" then
    importedNames true (← bound)
    expect ")"
    pure (.importing module)
  else
    importedNames false (← bound)
    pure (.importing module)

/-- A statement ends here. -/
def atEnd : Parse Bool := do
  match ← peek with
  | .newline => pure true
  | .finish => pure true
  | .symbol ";" => pure true
  | _ => pure false

/-- A statement that raises, from behind its first word on. -/
def raiseStatement (b : Below) : Parse Statement := do
  if ← atEnd then pure (.raising none none)
  else
    let exception ← b.expression
    if ← acceptWord "from" then
      let cause ← b.expression
      pure (.raising (some exception) (some cause))
    else pure (.raising (some exception) none)

/-- Expressions with commas between them, some of which may be unpacked. -/
def expressions (b : Below) : Parse Node :=
  tupleOf (starExpression b) endsLine

/-- The node can be assigned to as a whole. -/
def isTarget : Node → Bool
  | .starred _ _ => false
  | n => assignable n

/-- The node can be annotated. -/
def isAnnotated : Node → Bool
  | .name _ _ => true
  | .member _ _ _ => true
  | .subscript _ _ _ => true
  | _ => false

/-- The values behind equals signs, the last of which is assigned to the others. -/
def assigned (b : Below) : Nat → Node → Parse Statement
  | 0, _ => failure
  | n + 1, first => do
      if !isTarget first then failure
      else
        let next ← expressions b
        if ← accept "=" then
          match ← assigned b n next with
          | .assignment targets value => pure (.assignment (first :: targets) value)
          | _ => failure
        else pure (.assignment [first] next)

/-- An assignment or an expression. -/
def expressionStatement (b : Below) : Parse Statement := do
  let first ← expressions b
  if ← accept "=" then assigned b (← bound) first
  else if ← accept ":" then
    if !isAnnotated first then failure
    else
      let hint ← b.expression
      if ← accept "=" then
        let value ← expressions b
        pure (.hinted first hint (some value))
      else pure (.hinted first hint none)
  else pure (.expression first)

/-- One statement. -/
def statement (b : Below) : Parse Statement := do
  if ← acceptWord "pass" then pure .pass
  else if ← acceptWord "import" then importStatement
  else if ← acceptWord "from" then fromStatement
  else if ← acceptWord "raise" then raiseStatement b
  else expressionStatement b

/-- The statements of one line. -/
def lineOfStatements (b : Below) : Nat → Parse (List Statement)
  | 0 => failure
  | n + 1 => do
      let s ← statement b
      if ← accept ";" then
        match ← peek with
        | .newline =>
            advance
            pure [s]
        | _ => do
            let rest ← lineOfStatements b n
            pure (s :: rest)
      else
        match ← peek with
        | .newline =>
            advance
            pure [s]
        | _ => failure

end Grammar

/-! ## Plain statements -/

/-- How deeply the forms of a plain statement may be nested. -/
def formLimit : Nat := 100

/-- A name in ASCII that means what it says. -/
def isPlainName (id : String) : Bool :=
  id.toList.all (fun c => c.toNat < 128) && id != "__debug__"

/-- A constant that holds no mark for a character that texts cannot hold. -/
def isPlainConstant : Value → Bool
  | .str s => !s.toList.contains '\x00'
  | _ => true

/-- The node is evaluated here: it has none of the forms that are only recognised. -/
def Node.isPlain : Nat → Node → Bool
  | 0, _ => false
  | n + 1, e =>
      match e with
      | .constant v _ => isPlainConstant v
      | .name id _ => isPlainName id
      | .member object field _ => isPlainName field && isPlain n object
      | .binary _ left right _ => isPlain n left && isPlain n right
      | .call callee arguments hasKeywords _ =>
          !hasKeywords && isPlain n callee && arguments.all (isPlain n)
      | .unary _ operand _ => isPlain n operand
      | .choice test yes no _ => isPlain n test && isPlain n yes && isPlain n no
      | .logical _ operands _ => operands.all (isPlain n)
      | .display _ items _ => items.all (isPlain n)
      | .dict keys values _ => keys.all (isPlain n) && values.all (isPlain n)
      | .subscript object index _ => isPlain n object && isPlain n index
      | _ => false

/-- Names that some scripts know and others do not. -/
def unsettledNames : List String :=
  ["__annotations__", "__cached__", "copyright", "credits", "exit", "help", "license", "quit"]

/-- The node is a place that is bound here. -/
def Node.isPlainTarget (e : Node) : Bool :=
  match e with
  | .name id _ => !unsettledNames.contains id && e.isPlain formLimit
  | .member _ _ _ => e.isPlain formLimit
  | .subscript _ _ _ => e.isPlain formLimit
  | _ => false

/-- Modules whose names start like this are nowhere to be found. -/
def absentPrefix : String :=
  "no_such_module"

/-- No module has the name. -/
def isAbsent (module : String) : Bool :=
  absentPrefix.toList.isPrefixOf module.toList && isPlainName module

namespace Statement

/-- The statement is run here. -/
def isPlain : Statement → Bool
  | .pass => true
  | .importing module => module.any isAbsent
  | .raising exception cause =>
      exception.all (Node.isPlain formLimit) && cause.all (Node.isPlain formLimit)
  | .assignment targets value => targets.all Node.isPlainTarget && value.isPlain formLimit
  | .hinted target hint value =>
      target.isPlainTarget && hint.isPlain formLimit && value.all (Node.isPlain formLimit)
  | .expression value => value.isPlain formLimit

/-- The name and the argument of a statement `name = open(argument).read()`. -/
def reads? : Statement → Option (String × Node)
  | .assignment [.name target _]
      (.call (.member (.call (.name "open" _) [argument] false _) "read" _) [] false _) =>
      some (target, argument)
  | _ => none

end Statement

end Script
end BuildTransform
