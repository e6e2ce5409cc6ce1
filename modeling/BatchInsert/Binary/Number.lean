import BatchInsert.Power

/-!
# Binary floating-point numbers

Numbers of an IEEE 754 interchange format as their bits. A finite number is `m * 2 ^ q` for
naturals `m` and a bounded exponent; `ofRatio` is the one rounding, of a quotient of naturals to
the nearest number, ties to the even one, and arithmetic goes through it.
-/

namespace BatchInsert.Binary

/-- Widths of the two fields after the sign. -/
structure Format where
  exponent : Nat
  fraction : Nat
deriving DecidableEq, Repr

namespace Format

def single : Format := ⟨8, 23⟩

def double : Format := ⟨11, 52⟩

def width (f : Format) : Nat := 1 + f.exponent + f.fraction

def bias (f : Format) : Nat := 2 ^ (f.exponent - 1) - 1

/-- The exponent of the last place of the smallest numbers. -/
def leastExponent (f : Format) : Int := 1 - (f.bias + f.fraction : Nat)

/-- The exponent field of the infinities and the NaNs. -/
def topField (f : Format) : Nat := 2 ^ f.exponent - 1

end Format

structure Number (f : Format) where
  bits : BitVec f.width
deriving DecidableEq, Repr

abbrev Binary32 := Number .single

abbrev Binary64 := Number .double

/-- A quotient of naturals rounded to the nearest natural, a tie to the even one. -/
def roundHalfEven (num den : Nat) : Nat :=
  let q := num / den
  let r := num % den
  if 2 * r < den then q
  else if den < 2 * r then q + 1
  else q + q % 2

/-- `⌊log₂ (num / den)⌋` for positive `num` and `den`. -/
def log2Ratio (num den : Nat) : Int :=
  let k : Int := (num.log2 : Int) - den.log2
  let reached := if 0 ≤ k then den * 2 ^ k.toNat ≤ num else den ≤ num * 2 ^ (-k).toNat
  if reached then k else k - 1

namespace Number

variable {f : Format}

def ofFields (f : Format) (negative : Bool) (magnitude : Nat) : Number f :=
  ⟨BitVec.ofNat f.width
    ((if negative then 2 ^ (f.exponent + f.fraction) else 0) + magnitude)⟩

def infinity (f : Format) (negative : Bool) : Number f :=
  ofFields f negative (f.topField * 2 ^ f.fraction)

/-- The quiet NaN with no payload. -/
def nan (f : Format) : Number f :=
  ofFields f false (f.topField * 2 ^ f.fraction + 2 ^ (f.fraction - 1))

def zero (f : Format) : Number f := ofFields f false 0

def isNegative (x : Number f) : Bool := 2 ^ (f.exponent + f.fraction) ≤ x.bits.toNat

def exponentField (x : Number f) : Nat := x.bits.toNat / 2 ^ f.fraction % 2 ^ f.exponent

def fractionField (x : Number f) : Nat := x.bits.toNat % 2 ^ f.fraction

def isFinite (x : Number f) : Bool := x.exponentField != f.topField

def isNaN (x : Number f) : Bool := x.exponentField == f.topField && x.fractionField != 0

/-- The integer `m` of a finite number `m * 2 ^ q`, without its sign. -/
def mantissa (x : Number f) : Nat :=
  if x.exponentField = 0 then x.fractionField else 2 ^ f.fraction + x.fractionField

/-- The exponent `q` of a finite number `m * 2 ^ q`. -/
def exponent (x : Number f) : Int :=
  f.leastExponent + (x.exponentField - 1 : Nat)

def isZero (x : Number f) : Bool := x.isFinite && x.mantissa == 0

/-- The number nearest to `num / den`, an infinity when that is beyond the largest. -/
def ofRatio (f : Format) (negative : Bool) (num den : Nat) : Number f :=
  if num = 0 then ofFields f negative 0
  else
    let q := max f.leastExponent (log2Ratio num den - f.fraction)
    let m := if 0 ≤ q then roundHalfEven num (den * 2 ^ q.toNat)
      else roundHalfEven (num * 2 ^ (-q).toNat) den
    let magnitude := (q - f.leastExponent).toNat * 2 ^ f.fraction + m
    if f.topField * 2 ^ f.fraction ≤ magnitude then infinity f negative
    else ofFields f negative magnitude

def ofInt (f : Format) (i : Int) : Number f := ofRatio f (i < 0) i.natAbs 1

/-- A finite number without its sign as a quotient of naturals. -/
def ratio (x : Number f) : Nat × Nat :=
  (x.mantissa * 2 ^ x.exponent.toNat, 2 ^ (-x.exponent).toNat)

def neg (x : Number f) : Number f :=
  ofFields f (!x.isNegative) (x.bits.toNat % 2 ^ (f.exponent + f.fraction))

/-- The product of finite numbers. -/
def mul (x y : Number f) : Number f :=
  ofRatio f (x.isNegative != y.isNegative) (x.ratio.1 * y.ratio.1) (x.ratio.2 * y.ratio.2)

/-- The quotient of finite numbers, the divisor not zero. -/
def div (x y : Number f) : Number f :=
  ofRatio f (x.isNegative != y.isNegative) (x.ratio.1 * y.ratio.2) (x.ratio.2 * y.ratio.1)

/-- The nearest number of another format. -/
def convert (g : Format) (x : Number f) : Number g :=
  if x.isFinite then ofRatio g x.isNegative x.ratio.1 x.ratio.2
  else if x.isNaN then ofFields g x.isNegative (nan g).bits.toNat
  else infinity g x.isNegative

/-- Comparison by value: zeros of either sign are equal and a NaN equals nothing. -/
def sameValue (x y : Number f) : Bool :=
  !x.isNaN && !y.isNaN && (x.bits == y.bits || (x.isZero && y.isZero))

end Number

end BatchInsert.Binary
