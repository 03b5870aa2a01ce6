import BuildTransform.Script.Lexer
import BuildTransform.Script.Node

/-!
# Expressions of scripts

Reading expressions from tokens by recursive descent.

* A `Parse` takes tokens from the front and fails without a reason; places run
  from the first token of a form to its last.
* Every form is read by a function that is given `Below`, the readers for forms
  that are nested one level deeper; `readers` ties the knot for a given depth.
* `parseExpression` reads a text that holds one expression.
-/

namespace BuildTransform
namespace Script
namespace Grammar

/-- The tokens to be read and the end of the last one read. -/
structure Cursor where
  rest : List Token
  last : Mark
deriving Inhabited

/-- One cursor is reached from another by taking tokens from the front. -/
inductive Cursor.Reaches : Cursor → Cursor → Prop
  | refl (c : Cursor) : Reaches c c
  | take {t : Token} {rest : List Token} {m : Mark} {d : Cursor}
      (h : Reaches ⟨rest, t.stop⟩ d) : Reaches ⟨t :: rest, m⟩ d

theorem Cursor.Reaches.trans {c d e : Cursor} (h : c.Reaches d) (h' : d.Reaches e) :
    c.Reaches e := by
  induction h with
  | refl => exact h'
  | take _ ih => exact .take (ih h')

/-- A reader of tokens: whatever it does with a cursor, it takes tokens from the
front. -/
structure Parse (α : Type) where
  run : Cursor → Option (α × Cursor)
  reaches : ∀ {c a d}, run c = some (a, d) → c.Reaches d

/-- The readers for nested forms. -/
structure Below where
  expression : Parse Node
  inversion : Parse Node
  factor : Parse Node
  formatted : Parse Node

/-- A reader that looks at the cursor and takes nothing. -/
def look {α : Type} (f : Cursor → α) : Parse α where
  run c := some (f c, c)
  reaches h := by
    cases h
    exact .refl _

/-- A reader that accepts nothing. -/
def failure {α : Type} : Parse α where
  run _ := none
  reaches h := by cases h

/-- Goes on behind what a reader took. -/
def Parse.andThen {α β : Type} (p : Parse α) (next : α → Parse β) : Parse β where
  run c :=
    match p.run c with
    | some (a, d) => (next a).run d
    | none => none
  reaches h := by
    split at h
    · rename_i hp
      exact (p.reaches hp).trans ((next _).reaches h)
    · cases h

instance : Monad Parse where
  pure a := look fun _ => a
  bind := Parse.andThen

/-! ## Tokens -/

/-- The next lexeme. -/
def Cursor.next (c : Cursor) : Lexeme :=
  match c.rest with
  | t :: _ => t.lexeme
  | [] => .finish

/-- The lexeme after the next. -/
def Cursor.second (c : Cursor) : Lexeme :=
  match c.rest with
  | _ :: t :: _ => t.lexeme
  | _ => .finish

/-- The start of the next token. -/
def Cursor.start (c : Cursor) : Mark :=
  match c.rest with
  | t :: _ => t.start
  | [] => c.last

/-- The next lexeme. -/
def peek : Parse Lexeme :=
  look Cursor.next

/-- The lexeme after the next. -/
def peekSecond : Parse Lexeme :=
  look Cursor.second

/-- The start of the next token. -/
def here : Parse Mark :=
  look Cursor.start

/-- Takes the next token. -/
def advance : Parse Unit where
  run c :=
    match c with
    | ⟨t :: rest, _⟩ => some ((), ⟨rest, t.stop⟩)
    | ⟨[], _⟩ => none
  reaches {c a d} h := by
    obtain ⟨_ | ⟨t, rest⟩, m⟩ := c
    · cases h
    · cases h
      exact .take (.refl _)

/-- The place from one mark to another. -/
def placeBetween (m e : Mark) : Place :=
  ⟨some m.line, some m.column, some e.line, some e.column⟩

/-- The place from a mark to the end of the last token. -/
def placeFrom (m : Mark) : Parse Place :=
  look fun c => placeBetween m c.last

/-- The lexeme is a certain symbol. -/
def isSymbol (l : Lexeme) (s : String) : Bool :=
  match l with
  | .symbol t => t == s
  | _ => false

/-- The lexeme is a certain word. -/
def isWord (l : Lexeme) (s : String) : Bool :=
  match l with
  | .word t => t == s
  | _ => false

/-- The next lexeme is one of a kind. -/
def nextOf (kind : Lexeme → Bool) : Parse Bool := do
  pure (kind (← peek))

/-- Takes a lexeme of a kind if one is next. -/
def acceptOf (kind : Lexeme → Bool) : Parse Bool := do
  if ← nextOf kind then
    advance
    pure true
  else pure false

/-- Takes a lexeme of a kind, one of which has to be next. -/
def expectOf (kind : Lexeme → Bool) : Parse Unit := do
  if ← acceptOf kind then pure () else failure

/-- The next token is a certain symbol. -/
def nextIs (s : String) : Parse Bool :=
  nextOf (isSymbol · s)

/-- The next token is a certain word. -/
def nextIsWord (s : String) : Parse Bool :=
  nextOf (isWord · s)

/-- Takes a symbol if it is next. -/
def accept (s : String) : Parse Bool :=
  acceptOf (isSymbol · s)

/-- Takes a word if it is next. -/
def acceptWord (s : String) : Parse Bool :=
  acceptOf (isWord · s)

/-- Takes a symbol that has to be next. -/
def expect (s : String) : Parse Unit :=
  expectOf (isSymbol · s)

/-- Takes a word that has to be next. -/
def expectWord (s : String) : Parse Unit :=
  expectOf (isWord · s)

/-- Takes a name, that is, a word that is not reserved. -/
def name : Parse String := do
  match ← peek with
  | .word w =>
      if reserved.contains w then failure
      else
        advance
        pure w
  | _ => failure

/-- The lexeme is a name. -/
def isName (l : Lexeme) : Bool :=
  match l with
  | .word w => !reserved.contains w
  | _ => false

/-- The next token is a name. -/
def nextIsName : Parse Bool :=
  nextOf isName

/-- A name and a certain symbol are next. -/
def nameThen (s : String) : Parse Bool := do
  if ← nextIsName then pure (isSymbol (← peekSecond) s) else pure false

/-- The number of tokens left bounds every repetition. -/
def bound : Parse Nat :=
  look fun c => c.rest.length + 1

/-- Repeats a reader until it yields nothing. -/
def repeated {α : Type} (p : Parse (Option α)) : Nat → Parse (List α)
  | 0 => failure
  | n + 1 => do
      match ← p with
      | none => pure []
      | some a => do
          let rest ← repeated p n
          pure (a :: rest)

/-- What a reader yields each time after a test succeeded. -/
def whenever {α : Type} (test : Parse Bool) (p : Parse α) : Parse (List α) := do
  repeated (do if ← test then pure (some (← p)) else pure none) (← bound)

/-- Items with commas between them up to a closing symbol, which is not taken; a
comma may stand behind the last item. -/
def commaItems {α : Type} (item : Parse α) (close : String) : Nat → Parse (List α)
  | 0 => failure
  | n + 1 => do
      if ← nextIs close then pure []
      else
        let a ← item
        if ← accept "," then
          let rest ← commaItems item close n
          pure (a :: rest)
        else if ← nextIs close then pure [a]
        else failure

/-- The items behind the first one, if a comma follows it. -/
def moreItems {α : Type} (item : Parse α) (close : String) : Parse (List α) := do
  if ← accept "," then commaItems item close (← bound) else pure []

/-! ## Operators -/

/-- The symbols of binary operators, in levels from loose to tight. -/
def levels : List (List (String × Operator)) :=
  [[("|", .bitOr)], [("^", .bitXor)], [("&", .bitAnd)],
    [("<<", .lShift), (">>", .rShift)], [("+", .add), ("-", .sub)],
    [("*", .mult), ("/", .div), ("//", .floorDiv), ("%", .mod), ("@", .matMult)]]

/-- The operator of a level that a lexeme is. -/
def operatorIn (ops : List (String × Operator)) (l : Lexeme) : Option Operator :=
  match l with
  | .symbol s => ops.lookup s
  | _ => none

/-- Takes an operator of a level if it is next. -/
def operatorOf (ops : List (String × Operator)) : Parse (Option Operator) := do
  match operatorIn ops (← peek) with
  | some o =>
      advance
      pure (some o)
  | none => pure none

/-- Operands joined by the operators of one level, grouped to the left. -/
def chain (operand : Parse Node) (ops : List (String × Operator)) (start : Mark) :
    Nat → Node → Parse Node
  | 0, _ => failure
  | n + 1, left => do
      match ← operatorOf ops with
      | none => pure left
      | some o => do
          let right ← operand
          let p ← placeFrom start
          chain operand ops start n (.binary o left right p)

/-- Operands joined by the operators of some levels. -/
def binaryOf (b : Below) : List (List (String × Operator)) → Parse Node
  | [] => b.factor
  | ops :: tighter => do
      let start ← here
      let left ← binaryOf b tighter
      chain (binaryOf b tighter) ops start (← bound) left

/-- Operands joined by binary operators. -/
def binary (b : Below) : Parse Node :=
  binaryOf b levels

/-- The lexeme is a symbol of comparison. -/
def isRelation (l : Lexeme) : Bool :=
  match l with
  | .symbol s => ["==", "!=", "<=", "<", ">=", ">"].contains s
  | _ => false

/-- Takes an operator of comparison if it is next. -/
def comparisonOperator : Parse Bool := do
  if ← acceptOf isRelation then pure true
  else if ← acceptWord "in" then pure true
  else if ← acceptWord "is" then
    let _ ← acceptWord "not"
    pure true
  else if ← nextIsWord "not" then
    if isWord (← peekSecond) "in" then
      advance
      advance
      pure true
    else pure false
  else pure false

/-- Operands compared with one another. -/
def comparison (b : Below) : Parse Node := do
  let start ← here
  let first ← binary b
  let more ← whenever comparisonOperator (binary b)
  if more.isEmpty then pure first
  else pure (.other "Compare" (first :: more) (← placeFrom start))

/-- A comparison, or the negation of one. -/
def inversion (b : Below) : Parse Node := do
  let start ← here
  if ← acceptWord "not" then
    let operand ← b.inversion
    pure (.unary .negation operand (← placeFrom start))
  else comparison b

/-- Operands joined by one logical word. -/
def logical (isOr : Bool) (word : String) (operand : Parse Node) : Parse Node := do
  let start ← here
  let first ← operand
  let more ← whenever (acceptWord word) operand
  if more.isEmpty then pure first
  else pure (.logical isOr (first :: more) (← placeFrom start))

/-- Operands joined by logical words. -/
def disjunction (b : Below) : Parse Node :=
  logical true "or" (logical false "and" (inversion b))

/-! ## Functions and names -/

/-- What the parameters read so far allow next. -/
structure ParameterState where
  any : Bool
  slash : Bool
  star : Bool
  bareStar : Bool
  defaulted : Bool
deriving Inhabited

/-- Takes the comma behind a parameter, which may be missing before the colon. -/
def parameterEnd : Parse Unit := do
  if ← accept "," then pure ()
  else if ← nextIs ":" then pure ()
  else failure

/-- The default of a parameter, if there is one. -/
def parameterDefault (b : Below) : Parse Bool := do
  if ← accept "=" then
    let _ ← b.expression
    pure true
  else pure false

/-- The parameters of a function up to its colon. -/
def parameters (b : Below) : Nat → ParameterState → Parse Unit
  | 0, _ => failure
  | n + 1, s => do
      if ← nextIs ":" then
        if s.bareStar then failure else pure ()
      else if ← accept "**" then
        if s.bareStar then failure
        else
          let _ ← name
          let _ ← accept ","
          if ← nextIs ":" then pure () else failure
      else if ← accept "*" then
        if s.star then failure
        else if ← accept "," then
          parameters b n { s with star := true, bareStar := true }
        else
          let _ ← name
          parameterEnd
          parameters b n { s with star := true }
      else if ← accept "/" then
        if !s.any || s.slash || s.star then failure
        else
          parameterEnd
          parameters b n { s with slash := true }
      else
        let _ ← name
        let hasDefault ← parameterDefault b
        if s.defaulted && !hasDefault && !s.star then failure
        else
          parameterEnd
          parameters b n
            { s with any := true, bareStar := false, defaulted := s.defaulted || hasDefault }

/-- A function without a name, from behind its word on. -/
def function (b : Below) (start : Mark) : Parse Node := do
  parameters b (← bound) ⟨false, false, false, false, false⟩
  expect ":"
  let _ ← b.expression
  pure (.other "Lambda" [] (← placeFrom start))

/-- An expression that binds no name. -/
def expression (b : Below) : Parse Node := do
  let start ← here
  if ← acceptWord "lambda" then function b start
  else
    let yes ← disjunction b
    if ← acceptWord "if" then
      let test ← disjunction b
      expectWord "else"
      let no ← b.expression
      pure (.choice test yes no (← placeFrom start))
    else pure yes

/-- An expression that may bind a name to its value. -/
def named (b : Below) : Parse Node := do
  if ← nameThen ":=" then
    let start ← here
    advance
    advance
    let value ← b.expression
    pure (.other "NamedExpr" [value] (← placeFrom start))
  else b.expression

/-- An unpacked operand, or what another reader yields. -/
def starredOr (b : Below) (p : Parse Node) : Parse Node := do
  let start ← here
  if ← accept "*" then
    let value ← binary b
    pure (.starred value (← placeFrom start))
  else p

/-- An unpacked operand, or an expression that may bind a name. -/
def starNamed (b : Below) : Parse Node :=
  starredOr b (named b)

/-- An unpacked operand or an expression. -/
def starExpression (b : Below) : Parse Node :=
  starredOr b b.expression

/-- The node unpacks a value. -/
def isStarred : Node → Bool
  | .starred _ _ => true
  | _ => false

/-! ## Comprehensions -/

mutual

/-- The node can be assigned to. -/
def assignable : Node → Bool
  | .name _ _ => true
  | .member _ _ _ => true
  | .subscript _ _ _ => true
  | .display .tuple items _ => allAssignable items
  | .display .list items _ => allAssignable items
  | _ => false

/-- All nodes can be assigned to, as they are or unpacked. -/
def allAssignable : List Node → Bool
  | [] => true
  | .starred v _ :: rest => assignable v && allAssignable rest
  | n :: rest => assignable n && allAssignable rest

end

/-- A clause of a comprehension follows. -/
def clauseNext : Parse Bool := do
  if ← nextIsWord "for" then pure true
  else if ← nextIsWord "async" then pure (isWord (← peekSecond) "for")
  else pure false

/-- A target of a clause. -/
def target (b : Below) : Parse Unit := do
  let _ ← accept "*"
  let n ← b.factor
  if assignable n then pure () else failure

/-- The targets of a clause up to the word behind them. -/
def targets (b : Below) : Nat → Parse Unit
  | 0 => failure
  | n + 1 => do
      target b
      if ← accept "," then
        if ← nextIsWord "in" then pure () else targets b n
      else pure ()

/-- A clause of a comprehension from its word on: targets, what they run over, and
conditions. -/
def forClause (b : Below) : Parse Node := do
  expectWord "for"
  targets b (← bound)
  expectWord "in"
  let source ← disjunction b
  let _ ← whenever (acceptWord "if") (disjunction b)
  pure source

/-- A clause of a comprehension, which may wait for what it runs over. -/
def clause (b : Below) : Parse Node := do
  let _ ← acceptWord "async"
  forClause b

/-- The clauses of a comprehension; of these only what the first one runs over is
evaluated at once. -/
def clauses (b : Below) : Parse Node := do
  let first ← clause b
  let _ ← whenever clauseNext (clause b)
  pure first

/-- A comprehension of a form, from its first clause to its closing symbol. -/
def comprehension (b : Below) (close form : String) (start : Mark) : Parse Node := do
  let source ← clauses b
  expect close
  pure (.other form [source] (← placeFrom start))

/-! ## Calls and subscripts -/

/-- An argument of a call. -/
inductive Argument
  | positional (n : Node)
  | unpacked (n : Node)
  | keyword (n : Node)
  | mapping (n : Node)

namespace Argument

/-- The argument is passed by its position. -/
def isPositional : Argument → Bool
  | .positional _ => true
  | _ => false

/-- The argument is passed by a name. -/
def isKeyword : Argument → Bool
  | .keyword _ => true
  | .mapping _ => true
  | _ => false

/-- The argument is an unpacked mapping. -/
def isMapping : Argument → Bool
  | .mapping _ => true
  | _ => false

/-- The node of an argument. -/
def node : Argument → Node
  | .positional n => n
  | .unpacked n => n
  | .keyword n => n
  | .mapping n => n

end Argument

/-- One argument of a call. -/
def argument (b : Below) : Parse Argument := do
  let start ← here
  if ← accept "*" then
    let v ← b.expression
    pure (.unpacked (.starred v (← placeFrom start)))
  else if ← accept "**" then
    pure (.mapping (← b.expression))
  else if ← nameThen "=" then
    advance
    advance
    pure (.keyword (← b.expression))
  else pure (.positional (← named b))

/-- Positional arguments stand before named ones, and nothing is unpacked by
position behind an unpacked mapping. -/
def wellOrdered : List Argument → Bool
  | [] => true
  | a :: rest =>
      (if a.isMapping then rest.all Argument.isKeyword
        else if a.isKeyword then rest.all (!·.isPositional)
        else true) && wellOrdered rest

/-- The call of a function, from behind its first argument on. -/
def callBehind (b : Below) (callee : Node) (start : Mark) (first : Argument) :
    Parse Node := do
  let more ← moreItems (argument b) ")"
  expect ")"
  let all := first :: more
  if wellOrdered all then
    pure (.call callee ((all.filter (!·.isKeyword)).map Argument.node)
      (all.any Argument.isKeyword) (← placeFrom start))
  else failure

/-- The call of a function, from behind its opening bracket on. -/
def callOf (b : Below) (callee : Node) (start bracket : Mark) :
    Parse Node := do
  if ← accept ")" then
    pure (.call callee [] false (← placeFrom start))
  else
    let first ← argument b
    match first, ← clauseNext with
    | .positional _, true => do
        let generator ← comprehension b ")" "GeneratorExp" bracket
        pure (.call callee [generator] false (← placeFrom start))
    | first, _ => callBehind b callee start first

/-- The bound of a slice, which may be missing. -/
def sliceBound (b : Below) : Parse Unit := do
  match ← peek with
  | .symbol s => if [":", ",", "]"].contains s then pure () else discard b.expression
  | _ => discard b.expression

/-- The rest of a slice from its first colon on. -/
def sliceRest (b : Below) : Parse Unit := do
  expect ":"
  sliceBound b
  if ← accept ":" then sliceBound b else pure ()

/-- An index, or a slice that has its first bound; a name that is bound is no bound. -/
def sliceFrom (b : Below) (start : Mark) (binds : Bool) : Parse Node := do
  let n ← named b
  if !binds && (← nextIs ":") then
    sliceRest b
    pure (.other "Slice" [n] (← placeFrom start))
  else pure n

/-- An index or a slice. -/
def slice (b : Below) : Parse Node := do
  let start ← here
  if ← nextIs ":" then
    sliceRest b
    pure (.other "Slice" [] (← placeFrom start))
  else if ← accept "*" then
    let v ← b.expression
    pure (.starred v (← placeFrom start))
  else sliceFrom b start (← nameThen ":=")

/-- The index of a subscript; with a comma or an unpacked value it is a tuple. -/
def indexOf (b : Below) : Parse Node := do
  let start ← here
  let first ← slice b
  if ← accept "," then
    let more ← commaItems (slice b) "]" (← bound)
    pure (.display .tuple (first :: more) (← placeFrom start))
  else if isStarred first then pure (.display .tuple [first] (← placeFrom start))
  else pure first

/-- The subscript of an object, from behind its opening bracket on. -/
def subscriptOf (b : Below) (object : Node) (start : Mark) : Parse Node := do
  let index ← indexOf b
  expect "]"
  pure (.subscript object index (← placeFrom start))

/-- Members, calls and subscripts behind an object. -/
def trailers (b : Below) (start : Mark) : Nat → Node → Parse Node
  | 0, _ => failure
  | n + 1, object => do
      let bracket ← here
      if ← accept "." then
        let field ← name
        let p ← placeFrom start
        trailers b start n (.member object field p)
      else if ← accept "(" then
        let call ← callOf b object start bracket
        trailers b start n call
      else if ← accept "[" then
        let sub ← subscriptOf b object start
        trailers b start n sub
      else pure object

/-! ## Atoms -/

/-- The expressions behind a yield, if there are any. -/
def yielded (b : Below) : Parse (List Node) := do
  if ← nextIs ")" then pure []
  else commaItems (starExpression b) ")" (← bound)

/-- A yield between brackets, from its word on. -/
def yieldOf (b : Below) : Parse Node := do
  let start ← here
  expectWord "yield"
  if ← acceptWord "from" then
    let v ← b.expression
    pure (.other "YieldFrom" [v] (← placeFrom start))
  else
    let vs ← yielded b
    pure (.other "Yield" vs (← placeFrom start))

/-- Something in round brackets behind its first item: a tuple, a generator or the item
itself. -/
def groupRest (b : Below) (start : Mark) (first : Node) : Parse Node := do
  if ← accept "," then
    let more ← commaItems (starNamed b) ")" (← bound)
    expect ")"
    pure (.display .tuple (first :: more) (← placeFrom start))
  else if isStarred first then failure
  else if ← clauseNext then comprehension b ")" "GeneratorExp" start
  else
    expect ")"
    pure first

/-- Something in round brackets, from behind the opening one on. -/
def parenthesized (b : Below) (start : Mark) : Parse Node := do
  if ← accept ")" then
    pure (.display .tuple [] (← placeFrom start))
  else if ← nextIsWord "yield" then
    let y ← yieldOf b
    expect ")"
    pure y
  else
    let first ← starNamed b
    groupRest b start first

/-- A list or a set behind its first item: a comprehension, or more items. -/
def displayRest (b : Below) (shape : Display) (close form : String) (start : Mark)
    (first : Node) : Parse Node := do
  if ← clauseNext then
    if isStarred first then failure else comprehension b close form start
  else
    let more ← moreItems (starNamed b) close
    expect close
    pure (.display shape (first :: more) (← placeFrom start))

/-- Something in square brackets, from behind the opening one on. -/
def listOf (b : Below) (start : Mark) : Parse Node := do
  if ← accept "]" then
    pure (.display .list [] (← placeFrom start))
  else
    let first ← starNamed b
    displayRest b .list "]" "ListComp" start first

/-- An entry of a dictionary; an unpacked mapping has no key. -/
def entry (b : Below) : Parse (Option Node × Node) := do
  if ← accept "**" then pure (none, ← binary b)
  else
    let key ← b.expression
    expect ":"
    pure (some key, ← b.expression)

/-- A dictionary of entries; one with an unpacked mapping is not told apart further. -/
def dictOf (entries : List (Option Node × Node)) (p : Place) : Node :=
  match entries.mapM (·.1) with
  | some keys => .dict keys (entries.map (·.2)) p
  | none => .other "Dict" (entries.flatMap fun e => e.1.toList ++ [e.2]) p

/-- A dictionary behind its first entry. -/
def dictRest (b : Below) (start : Mark) (first : Option Node × Node) :
    Parse Node := do
  if ← clauseNext then
    if first.1.isNone then failure else comprehension b "\x7d" "DictComp" start
  else
    let more ← moreItems (entry b) "\x7d"
    expect "\x7d"
    pure (dictOf (first :: more) (← placeFrom start))

/-- A set, or a dictionary whose first key is an expression, which binds no name. -/
def setOrDictFrom (b : Below) (start : Mark) (binds : Bool) : Parse Node := do
  let first ← starNamed b
  if !binds && !isStarred first && (← nextIs ":") then
    advance
    let value ← b.expression
    dictRest b start (some first, value)
  else displayRest b .set "\x7d" "SetComp" start first

/-- Something in curly brackets, from behind the opening one on. -/
def setOrDict (b : Below) (start : Mark) : Parse Node := do
  if ← accept "\x7d" then
    pure (.dict [] [] (← placeFrom start))
  else if ← nextIs "**" then
    let first ← entry b
    dictRest b start first
  else setOrDictFrom b start (← nameThen ":=")

/-! ## Templates -/

/-- A brace in a template. -/
def isBrace (c : Char) : Bool :=
  c == '\x7b' || c == '\x7d'

/-- The text of a template up to the brace of its next expression or its end. In
the outermost text a doubled brace stands for one, and a closing brace has to be
doubled. -/
def templateText (outermost raw : Bool) : Nat → List Char → Option (List Char × List Char)
  | 0, _ => none
  | _ + 1, [] => some ([], [])
  | fuel + 1, c :: rest =>
      let keep (kept after : List Char) : Option (List Char × List Char) :=
        (templateText outermost raw fuel after).map fun (t, r) => (kept ++ t, r)
      if c == '\\' && !raw then
        match rest with
        | [] => some ([c], [])
        | d :: after => if isBrace d then keep [c] rest else keep [c, d] after
      else if isBrace c && outermost then
        if rest.head? == some c then keep [c] (rest.drop 1)
        else if c == '\x7b' then some ([], c :: rest)
        else none
      else if isBrace c then some ([], c :: rest)
      else keep [c] rest

/-- Two characters that form an operator of comparison. -/
def isComparison (c d : Char) : Bool :=
  d == '=' && (c == '!' || c == '=' || c == '<' || c == '>')

/-- The quotation mark that is open, and whether it is a triple one. -/
abbrev OpenQuote := Option (Char × Bool)

/-- The text of an expression inside a template up to the character that ends it,
where `quote` is the quotation mark that is open and `open_` are the brackets that
are. Backslashes and comments are refused. -/
def embedded : Nat → OpenQuote → List Char → List Char → Option (List Char × List Char)
  | 0, _, _, _ => none
  | _ + 1, _, _, [] => none
  | fuel + 1, quote, open_, c :: rest =>
      let keep (quote : OpenQuote) (open_ kept after : List Char) :
          Option (List Char × List Char) :=
        (embedded fuel quote open_ after).map fun (t, r) => (kept ++ t, r)
      let tripled := [c, c].isPrefixOf rest
      match quote with
      | some (q, triple) =>
          if c == '\\' then none
          else if c != q then keep quote open_ [c] rest
          else if !triple then keep none open_ [c] rest
          else if tripled then keep none open_ [c, c, c] (rest.drop 2)
          else keep quote open_ [c] rest
      | none =>
          if c == '\\' || c == '#' then none
          else if Lexer.isQuote c then
            if tripled then keep (some (c, true)) open_ [c, c, c] (rest.drop 2)
            else keep (some (c, false)) open_ [c] rest
          else if open_.isEmpty && ['!', ':', '\x7d', '=', '<', '>'].contains c then
            if (rest.head?.map (isComparison c)).getD false then
              keep none open_ (c :: rest.take 1) (rest.drop 1)
            else if c == '<' || c == '>' then keep none open_ [c] rest
            else some ([], c :: rest)
          else
            match Lexer.bracketed? open_ (String.singleton c) with
            | none => none
            | some open_ => keep none open_ [c] rest

/-- The expression of a text, read as if it stood in round brackets. -/
def embeddedNode (b : Below) (cs : List Char) : Option Node :=
  if cs.all (fun c => Lexer.isBlank c || c == '\n' || c == '\r') then none
  else
    match tokens (String.ofList ('(' :: (cs ++ [')']))) with
    | .error _ => none
    | .ok ts => (b.formatted.run ⟨ts, ⟨1, 0⟩⟩).map (·.1)

/-- The characters behind the equals sign that shows an expression's own text. -/
def afterEquals (cs : List Char) : List Char :=
  match cs with
  | '=' :: rest =>
      rest.dropWhile fun c => Lexer.isBlank c || c == '\n' || c == '\r' || c == '\x0b'
  | _ => cs

/-- The characters behind a conversion, which is one of three letters. -/
def afterConversion (cs : List Char) : Option (List Char) :=
  match cs with
  | '!' :: c :: rest => if c == 's' || c == 'r' || c == 'a' then some rest else none
  | ['!'] => none
  | _ => some cs

/-- The characters behind the colon in front of a format. -/
def afterColon (cs : List Char) : Option (List Char) :=
  match cs with
  | ':' :: rest => some rest
  | _ => none

/-- The characters behind a closing brace. -/
def afterBrace (cs : List Char) : Option (List Char) :=
  match cs with
  | '\x7d' :: rest => some rest
  | _ => none

/-- The expressions of a template and the characters behind it. Expressions may
stand in the format of another expression, but not in the format of those. -/
def templateNodes (b : Below) (raw : Bool) :
    Nat → Nat → List Char → Option (List Node × List Char)
  | 0, _, _ => none
  | fuel + 1, level, cs => do
      let (text, rest) ← templateText (level == 0) raw (cs.length + 1) cs
      let _ ← Literal.unescaped? raw text
      match rest with
      | '\x7b' :: rest =>
          if 2 ≤ level then none
          else
            let (e, rest) ← embedded (rest.length + 1) none [] rest
            let node ← embeddedNode b e
            let rest ← afterConversion (afterEquals rest)
            let (inner, rest) ←
              (afterColon rest).elim (some ([], rest)) (templateNodes b raw fuel (level + 1))
            let rest ← afterBrace rest
            let (more, rest) ← templateNodes b raw fuel level rest
            some (node :: (inner ++ more), rest)
      | rest => if level == 0 && !rest.isEmpty then none else some ([], rest)

/-! ## Quoted texts -/

/-- Quoted texts in a row. -/
def quotations : Nat → Parse (List Quotation)
  | 0 => failure
  | n + 1 => do
      match ← peek with
      | .quotation q =>
          advance
          let rest ← quotations n
          pure (q :: rest)
      | _ => pure []

/-- The expressions of all templates among quoted texts. -/
def templatesOf (b : Below) : List Quotation → Option (List Node)
  | [] => some []
  | .template raw body :: rest => do
      let (nodes, _) ← templateNodes b raw (2 * body.length + 2) 0 body
      some (nodes ++ (← templatesOf b rest))
  | _ :: rest => templatesOf b rest

/-- The bytes of quoted texts that are all sequences of bytes. -/
def bytesOf : List Quotation → Option (List UInt8)
  | [] => some []
  | .bytes bs :: rest => (bytesOf rest).map (bs ++ ·)
  | _ :: _ => none

/-- The text of quoted texts that are all plain. -/
def textOf : List Quotation → Option String
  | [] => some ""
  | .text s :: rest => (textOf rest).map (s ++ ·)
  | _ :: _ => none

/-- The quoted text is a sequence of bytes. -/
def isBytes : Quotation → Bool
  | .bytes _ => true
  | _ => false

/-- Quoted texts in a row stand for one; bytes and texts do not mix. -/
def quoted (b : Below) : Parse Node := do
  let start ← here
  let qs ← quotations (← bound)
  let p ← placeFrom start
  match textOf qs, bytesOf qs with
  | some s, _ => pure (.constant (.str s) p)
  | _, some bs => pure (.constant (.bytes bs) p)
  | _, _ =>
      if qs.any isBytes then failure
      else
        match templatesOf b qs with
        | some nodes => pure (.other "JoinedStr" nodes p)
        | none => failure

/-! ## Operands -/

/-- The value of a reserved word that stands for one. -/
def constantWord? : String → Option Value
  | "None" => some .null
  | "True" => some (.bool true)
  | "False" => some (.bool false)
  | _ => none

/-- An operand without operators. -/
def atom (b : Below) : Parse Node := do
  let start ← here
  match ← peek with
  | .number v =>
      advance
      pure (.constant v (← placeFrom start))
  | .quotation _ => quoted b
  | .word w =>
      match constantWord? w with
      | some v =>
          advance
          pure (.constant v (← placeFrom start))
      | none =>
          let id ← name
          pure (.name id (← placeFrom start))
  | .symbol "..." =>
      advance
      pure (.constant .ellipsis (← placeFrom start))
  | .symbol "(" =>
      advance
      parenthesized b start
  | .symbol "[" =>
      advance
      listOf b start
  | .symbol "\x7b" =>
      advance
      setOrDict b start
  | _ => failure

/-- An operand with its members, calls and subscripts. -/
def primary (b : Below) : Parse Node := do
  let start ← here
  let a ← atom b
  trailers b start (← bound) a

/-- An operand that may be awaited. -/
def awaited (b : Below) : Parse Node := do
  let start ← here
  if ← acceptWord "await" then
    let v ← primary b
    pure (.other "Await" [v] (← placeFrom start))
  else primary b

/-- An operand raised to a power. -/
def power (b : Below) : Parse Node := do
  let start ← here
  let base ← awaited b
  if ← accept "**" then
    let exponent ← b.factor
    pure (.binary .pow base exponent (← placeFrom start))
  else pure base

/-- The signs in front of operands. -/
def signs : List (String × Sign) :=
  [("+", .plus), ("-", .minus), ("~", .invert)]

/-- An operand with signs in front. -/
def factor (b : Below) : Parse Node := do
  let start ← here
  match ← peek with
  | .symbol s =>
      match signs.lookup s with
      | some sign =>
          advance
          let operand ← b.factor
          pure (.unary sign operand (← placeFrom start))
      | none => power b
  | _ => power b

/-- Expressions with commas between them, where `item` reads each. -/
def tupleOf (item : Parse Node) (ends : Lexeme → Bool) : Parse Node := do
  let start ← here
  let first ← item
  if ← nextIs "," then
    let more ← repeated
      (do
        if ← accept "," then
          if ends (← peek) then pure none else pure (some (← item))
        else pure none) (← bound)
    pure (.display .tuple (first :: more) (← placeFrom start))
  else if isStarred first then failure
  else pure first

/-- The lexeme ends a line of expressions. -/
def endsLine : Lexeme → Bool
  | .newline => true
  | .finish => true
  | .symbol s => [";", "=", ")"].contains s
  | _ => false

/-- The readers for a given depth of nesting. -/
def readers : Nat → Below
  | 0 => ⟨failure, failure, failure, failure⟩
  | n + 1 =>
      let b := readers n
      ⟨expression b, inversion b, factor b, tupleOf (starExpression b) endsLine⟩

/-- One expression, or several with commas between them, to the end of the text. -/
def wholeExpression (b : Below) : Parse Node := do
  let n ← tupleOf b.expression endsLine
  let _ ← repeated
    (do
      match ← peek with
      | .newline =>
          advance
          pure (some ())
      | _ => pure none) (← bound)
  match ← peek with
  | .finish => pure n
  | _ => failure

end Grammar

/-- The depth of nesting that a text of some length can reach. -/
def depthBound (length : Nat) : Nat :=
  2 * length + 8

/-- The expression that a text holds. -/
def parseExpression (text : String) : Except Refusal Node := do
  let ts ← tokens text
  let b := Grammar.readers (depthBound text.toList.length)
  match (Grammar.wholeExpression b).run ⟨ts, ⟨1, 0⟩⟩ with
  | some (n, _) => .ok (.root n ⟨none, none, none, none⟩)
  | none => .error .malformed

end Script
end BuildTransform
