import BuildTransform.Decimal.Layout
import BuildTransform.Text.Quoted
import BuildTransform.Value.Basic

/-!
# Displayed values

The text by which a value is shown in messages.

* `Value.display?` quotes texts and brackets collections; it gives nothing if
  an integer inside is too long to be written.
* `Value.text?` is the same, except that a text stands for itself.
-/

namespace BuildTransform
namespace Value

/-- Displayed items between brackets. -/
def bracketed (left right : String) (items : List String) : String :=
  left ++ ", ".intercalate items ++ right

mutual

/-- The displayed form of a value, unless an integer inside is too long. -/
def display? : Value → Option String
  | .null => some "None"
  | .bool b => some (if b then "True" else "False")
  | .int i => Numeral.intText? i
  | .float d => some (Layout.displayed.text d)
  | .str s => some (Quoted.text s)
  | .bytes bs => some (Quoted.bytes bs)
  | .list xs => (displayAll? xs).map (bracketed "[" "]")
  | .tuple xs => (displayAll? xs).map fun items =>
      if items.length = 1 then bracketed "(" ",)" items else bracketed "(" ")" items
  | .set xs => (displayAll? xs).map fun items =>
      if items.isEmpty then "set()" else bracketed "\x7b" "\x7d" items
  | .dict es => (displayEntries? es).map (bracketed "\x7b" "\x7d")
  | .date d => some d.iso
  | .datetime d t => some (d.iso ++ "T" ++ t.iso)
  | .time t => some t.iso
  | .complex s => some s
  | .ellipsis => some "Ellipsis"

/-- The displayed forms of several values. -/
def displayAll? : List Value → Option (List String)
  | [] => some []
  | x :: xs =>
      match display? x, displayAll? xs with
      | some s, some ss => some (s :: ss)
      | _, _ => none

/-- The displayed forms of the entries of a dictionary. -/
def displayEntries? : List (Value × Value) → Option (List String)
  | [] => some []
  | (k, v) :: rest =>
      match display? k, display? v, displayEntries? rest with
      | some s, some t, some ss => some ((s ++ ": " ++ t) :: ss)
      | _, _, _ => none

end

/-- The text of a value: a text as it is, anything else as displayed. -/
def text? : Value → Option String
  | .str s => some s
  | v => v.display?

end Value
end BuildTransform
