/-!
# Positions in other units

Positions in a text counted in units of an encoding, and the characters that
they fall on.

* `Units.floorIndex` is the greatest number of leading characters that take at
  most a given number of units; a position inside a character belongs to it.
* `Units.slice` cuts out the characters between two positions, where negative
  positions count from the end.
-/

namespace BuildTransform
namespace Units

/-- The number of 16-bit units of a character. -/
def width16 (c : Char) : Nat :=
  if 0xFFFF < c.toNat then 2 else 1

/-- The number of bytes of a character in UTF-8. -/
def width8 (c : Char) : Nat :=
  let n := c.toNat
  if n < 0x80 then 1 else if n < 0x800 then 2 else if n < 0x10000 then 3 else 4

/-- The number of units of a text. -/
def total (width : Char → Nat) : List Char → Nat
  | [] => 0
  | c :: cs => width c + total width cs

/-- The greatest number of leading characters that take at most `u` units. -/
def floorIndex (width : Char → Nat) : List Char → Nat → Nat
  | [], _ => 0
  | c :: cs, u => if width c ≤ u then floorIndex width cs (u - width c) + 1 else 0

/-- A position that may count from the end, brought between 0 and the length. -/
def clamped (length : Nat) (i : Int) : Nat :=
  if i < 0 then (i + length).toNat else min i.toNat length

/-- The characters between two positions. -/
def slice (cs : List Char) (start stop : Int) : List Char :=
  let a := clamped cs.length start
  let b := clamped cs.length stop
  (cs.take b).drop a

end Units
end BuildTransform
