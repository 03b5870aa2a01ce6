import BuildTransform.Decimal.Numeral
import BuildTransform.Text.Class
import BuildTransform.Value.Calendar

/-!
# Tags of YAML

The kinds of YAML nodes, and the kind that a scalar without quotes has by its text.

* `Tag.ofName` gives the tag of a full name; names outside of the standard ones
  are kept as they are.
* `Schema.tagOf` recognizes truth values, numbers, dates and the like by their form;
  anything else is a text.
-/

namespace BuildTransform
namespace Yaml

/-- The kind of a node. -/
inductive Tag
  | null
  | bool
  | int
  | float
  | binary
  | timestamp
  | omap
  | pairs
  | set
  | str
  | seq
  | map
  | merge
  | value
  | other (name : String)
deriving DecidableEq, Repr, Inhabited

namespace Tag

/-- What the names of standard tags start with. -/
def standard : String :=
  "tag:yaml.org,2002:"

/-- The standard tags by the rest of their names. -/
def table : List (String × Tag) :=
  [("null", .null), ("bool", .bool), ("int", .int), ("float", .float), ("binary", .binary),
    ("timestamp", .timestamp), ("omap", .omap), ("pairs", .pairs), ("set", .set),
    ("str", .str), ("seq", .seq), ("map", .map), ("merge", .merge), ("value", .value)]

/-- The tag of a full name. -/
def ofName (name : String) : Tag :=
  match table.find? (fun (s, _) => standard ++ s == name) with
  | some (_, t) => t
  | none => .other name

end Tag

namespace Schema

/-- A digit or a low line. -/
def isDigitOrLine (c : Char) : Bool :=
  Numeral.isDigit c || c == '_'

/-- The characters behind a sign, if there is one. -/
def unsigned (cs : List Char) : List Char :=
  match cs with
  | '+' :: rest => rest
  | '-' :: rest => rest
  | _ => cs

/-- A digit and then digits or low lines. -/
def isDigitRun (cs : List Char) : Bool :=
  match cs with
  | [] => false
  | c :: rest => Numeral.isDigit c && rest.all isDigitOrLine

/-- A number below sixty of one or two digits. -/
def isSixtieth (cs : List Char) : Bool :=
  match cs with
  | [d] => Numeral.isDigit d
  | [c, d] => '0' ≤ c && c ≤ '5' && Numeral.isDigit d
  | _ => false

/-- At least two pieces between colons: a number and sixtieths. -/
def isSexagesimal (cs : List Char) : Bool :=
  match Text.pieces (· == ':') cs with
  | first :: second :: rest => isDigitRun first && (second :: rest).all isSixtieth
  | _ => false

/-- A truth value: a word in small letters, in capitals, or capitalized. -/
def isTruth (s : String) : Bool :=
  ["yes", "Yes", "YES", "no", "No", "NO", "true", "True", "TRUE", "false", "False", "FALSE",
    "on", "On", "ON", "off", "Off", "OFF"].contains s

/-- Nothing, or a word for it. -/
def isNull (s : String) : Bool :=
  ["", "~", "null", "Null", "NULL"].contains s

/-- One character or more, all of which satisfy a test. -/
def someAll (p : Char → Bool) (cs : List Char) : Bool :=
  !cs.isEmpty && cs.all p

/-- An integer without its sign. -/
def isUnsignedInt (cs : List Char) : Bool :=
  match cs with
  | [] => false
  | '0' :: rest =>
      match rest with
      | [] => true
      | 'b' :: rest => someAll (fun c => c == '0' || c == '1' || c == '_') rest
      | 'x' :: rest =>
          someAll (fun c => (Numeral.digitValue? 16 c).isSome || c == '_') rest
      | _ => rest.all fun c => ('0' ≤ c && c ≤ '7') || c == '_'
  | _ => isDigitRun cs || isSexagesimal cs

/-- An integer in base two, eight, ten, sixteen or sixty. -/
def isInt (cs : List Char) : Bool :=
  isUnsignedInt (unsigned cs)

/-- Nothing, or an exponent with a sign. -/
def isExponent (cs : List Char) : Bool :=
  match cs with
  | [] => true
  | e :: s :: ds =>
      (e == 'e' || e == 'E') && (s == '+' || s == '-') && someAll Numeral.isDigit ds
  | _ => false

/-- A fraction of digits and low lines with an optional exponent. -/
def isFraction (cs : List Char) : Bool :=
  isExponent (cs.dropWhile isDigitOrLine)

/-- A number with a point, without its sign. -/
def isUnsignedFloat (cs : List Char) : Bool :=
  let whole := cs.takeWhile (· ≠ '.')
  match cs.drop whole.length with
  | '.' :: fraction =>
      (isDigitRun whole && isFraction fraction) ||
        (isSexagesimal whole && fraction.all isDigitOrLine)
  | _ => false

/-- A number that starts with a point. -/
def isPointFirst (cs : List Char) : Bool :=
  match cs with
  | '.' :: d :: rest => Numeral.isDigit d && isFraction rest
  | _ => false

/-- A number with a point, an infinity or the undefined number. -/
def isFloat (cs : List Char) : Bool :=
  let body := String.ofList (unsigned cs)
  isUnsignedFloat (unsigned cs) || isPointFirst cs ||
    [".inf", ".Inf", ".INF"].contains body ||
    [".nan", ".NaN", ".NAN"].contains (String.ofList cs)

/-! ## Timestamps -/

/-- The value of digits. -/
def numberOf (ds : List Char) : Nat :=
  Numeral.ofDigits 10 (ds.map fun d => d.toNat - 48)

/-- A number of `least` to two digits at the front. -/
def oneOrTwo? (least : Nat) (cs : List Char) : Option (Nat × List Char) :=
  let ds := (cs.take 2).takeWhile Numeral.isDigit
  if least ≤ ds.length then some (numberOf ds, cs.drop ds.length) else none

/-- The characters behind one that has to be next. -/
def behind? (c : Char) : List Char → Option (List Char)
  | d :: rest => if d = c then some rest else none
  | [] => none

/-- A year of four digits, a month and a day at the front. -/
def day? (cs : List Char) : Option (Date × List Char) := do
  let ds := (cs.take 4).takeWhile Numeral.isDigit
  let rest ← if ds.length = 4 then behind? '-' (cs.drop 4) else none
  let (month, rest) ← oneOrTwo? 1 rest
  let rest ← behind? '-' rest
  let (day, rest) ← oneOrTwo? 1 rest
  some (⟨numberOf ds, month, day⟩, rest)

/-- The offset from universal time that a text denotes as a whole, in minutes. -/
def offset? (cs : List Char) : Option (Option Int) :=
  match cs with
  | [] => some none
  | _ =>
      match cs.dropWhile fun c => c == ' ' || c == '\t' with
      | ['Z'] => some (some 0)
      | s :: rest =>
          if s == '+' || s == '-' then do
            let (hours, rest) ← oneOrTwo? 1 rest
            let (minutes, rest) ←
              match rest with
              | ':' :: rest => oneOrTwo? 2 rest
              | _ => some (0, rest)
            let total : Int := (hours * 60 + minutes : Nat)
            if rest.isEmpty then some (some (if s == '-' then -total else total)) else none
          else none
      | [] => none

/-- The fraction of a second at the front, in microseconds. -/
def micro (cs : List Char) : Nat × List Char :=
  match cs with
  | '.' :: rest =>
      let ds := rest.takeWhile Numeral.isDigit
      (Time.microOfDigits (ds.map fun d => d.toNat - 48), rest.drop ds.length)
  | _ => (0, cs)

/-- The time that stands behind a date as a whole. -/
def timeOfDay? (cs : List Char) : Option Time := do
  let rest ←
    match cs with
    | c :: rest =>
        if c == 'T' || c == 't' then some rest
        else if c == ' ' || c == '\t' then
          some (rest.dropWhile fun c => c == ' ' || c == '\t')
        else none
    | [] => none
  let (hour, rest) ← oneOrTwo? 1 rest
  let rest ← behind? ':' rest
  let (minute, rest) ← oneOrTwo? 2 rest
  let rest ← behind? ':' rest
  let (second, rest) ← oneOrTwo? 2 rest
  let (micros, rest) := micro rest
  let offset ← offset? rest
  some ⟨hour, minute, second, micros, offset⟩

/-- The date, with a time or without, that a text denotes as a whole; whether the
day exists is not checked. -/
def timestamp? (cs : List Char) : Option (Date × Option Time) := do
  let (d, rest) ← day? cs
  match rest with
  | [] => some (d, none)
  | _ => (timeOfDay? rest).map fun t => (d, some t)

/-- A timestamp by its form: month and day of a mere date have two digits. -/
def isTimestamp (cs : List Char) : Bool :=
  match timestamp? cs with
  | none => false
  | some (_, none) => cs.length == 10
  | some (_, some _) => true

/-- A line feed at the end of a text does not matter for its form. -/
def withoutLineFeed (cs : List Char) : List Char :=
  if cs.getLast? == some '\n' then cs.dropLast else cs

/-- The tag of a scalar by its form. -/
def tagOf (text : String) : Tag :=
  let cs := withoutLineFeed text.toList
  let s := String.ofList cs
  if text = "" then .null
  else if cs.isEmpty then .str
  else if isTruth s then .bool
  else if isFloat cs then .float
  else if isInt cs then .int
  else if s = "<<" then .merge
  else if isNull s then .null
  else if isTimestamp cs then .timestamp
  else if s = "=" then .value
  else if s = "!" ∨ s = "&" ∨ s = "*" then .other (Tag.standard ++ "yaml")
  else .str

end Schema
end Yaml
end BuildTransform
