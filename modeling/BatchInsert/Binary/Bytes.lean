import BatchInsert.Power

/-!
# Integers as bytes

Naturals and integers in a fixed number of bytes, negative ones in two's complement. What does not
fit loses its high bytes.
-/

namespace BatchInsert.Binary

/-- The lowest `width` bytes, the lowest first. -/
def littleEndian : Nat → Nat → List UInt8
  | 0, _ => []
  | width + 1, n => UInt8.ofNat n :: littleEndian width (n / 256)

/-- The lowest `width` bytes, the lowest last. -/
def bigEndian (width n : Nat) : List UInt8 := (littleEndian width n).reverse

/-- The natural that stands for an integer in `width` bytes. -/
def twosComplement (width : Nat) (i : Int) : Nat := (i % (256 ^ width : Nat)).toNat

theorem length_littleEndian (width n : Nat) : (littleEndian width n).length = width := by
  induction width generalizing n with
  | zero => rfl
  | succ width ih => simp [littleEndian, ih]

theorem length_bigEndian (width n : Nat) : (bigEndian width n).length = width := by
  simp [bigEndian, length_littleEndian]

end BatchInsert.Binary
