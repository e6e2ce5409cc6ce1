import BatchInsert.Text.Numeral

/-!
# Decimal numbers

A coefficient of at most 96 bits with up to 28 places after the point, and a sign, also for zero.
Places are part of a number, so `1.0` and `1.00` differ, but they have the same value.
-/

namespace BatchInsert

structure Decimal where
  negative : Bool
  coefficient : Nat
  scale : Nat
  coefficient_lt : coefficient < 2 ^ 96
  scale_le : scale ≤ 28
deriving DecidableEq

namespace Decimal

/-- The number with the given parts if they are in range; the sign of a zero is dropped. -/
def ofParts? (negative : Bool) (coefficient scale : Nat) : Option Decimal :=
  if h : coefficient < 2 ^ 96 ∧ scale ≤ 28 then
    some ⟨negative && coefficient != 0, coefficient, scale, h.1, h.2⟩
  else none

def ofInt? (i : Int) : Option Decimal := ofParts? (i < 0) i.natAbs 0

/-- The coefficient with the sign. -/
def signed (d : Decimal) : Int := if d.negative then -(d.coefficient : Int) else d.coefficient

/-- Equality of values whatever the scales. -/
def sameValue (a b : Decimal) : Bool := a.signed * 10 ^ b.scale == b.signed * 10 ^ a.scale

def text (d : Decimal) : String :=
  let sign := if d.negative then "-" else ""
  let digits := Text.padZeros (d.scale + 1) (Text.decimalChars d.coefficient)
  let whole := digits.length - d.scale
  sign ++ String.ofList (digits.take whole) ++
    (if d.scale = 0 then "" else String.ofList ('.' :: digits.drop whole))

/-- The number with the sign of a zero dropped. -/
def unsignedZero (d : Decimal) : Decimal := { d with negative := d.negative && d.coefficient != 0 }

theorem ofParts?_parts (d : Decimal) :
    ofParts? d.negative d.coefficient d.scale = some d.unsignedZero :=
  dif_pos ⟨d.coefficient_lt, d.scale_le⟩

end Decimal

end BatchInsert
