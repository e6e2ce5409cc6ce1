import BatchInsert.Binary.Number
import BatchInsert.Text.Numeral

/-!
# Shortest decimal texts

The decimal with the fewest digits that rounds to a given number, of several the nearest one, and
the texts built from its digits.
-/

namespace BatchInsert.Binary

/-- `coefficient * 10 ^ exponent`. -/
structure Scientific where
  coefficient : Nat
  exponent : Int
deriving DecidableEq, Repr

namespace Scientific

/-- The value as a quotient of naturals. -/
def ratio (d : Scientific) : Nat × Nat :=
  (d.coefficient * 10 ^ d.exponent.toNat, 10 ^ (-d.exponent).toNat)

/-- The binary number nearest to the value. -/
def toNumber (f : Format) (negative : Bool) (d : Scientific) : Number f :=
  Number.ofRatio f negative d.ratio.1 d.ratio.2

/-- The exponent of the leading digit. -/
def leading (d : Scientific) : Int :=
  d.exponent + ((Text.decimalChars d.coefficient).length - 1 : Nat)

end Scientific

/-- `⌊log₁₀ (num / den)⌋` for positive `num` and `den`. -/
def log10Ratio (num den : Nat) : Int :=
  let k : Int := (Text.decimalChars num).length - (Text.decimalChars den).length
  let reached := if 0 ≤ k then den * 10 ^ k.toNat ≤ num else den ≤ num * 10 ^ (-k).toNat
  if reached then k else k - 1

/-- The neighbours of `num / den` on the grid `10 ^ g`, as multiples of it, with the distance of
the value from the lower one as a quotient. -/
def gridFloor (num den : Nat) (g : Int) : Nat × Nat × Nat :=
  let num' := num * 10 ^ (-g).toNat
  let den' := den * 10 ^ g.toNat
  (num' / den', num' % den', den')

namespace Number

variable {f : Format}

/-- The neighbour of `x` on the grid `10 ^ g` that rounds to `x`, the nearer if both do, the even
one if they are equally near. -/
def onGrid? (x : Number f) (g : Int) : Option Scientific :=
  let (low, rest, den) := gridFloor x.ratio.1 x.ratio.2 g
  let below : Scientific := ⟨low, g⟩
  let above : Scientific := ⟨low + 1, g⟩
  let reads (d : Scientific) := d.toNumber f x.isNegative == x
  match reads below, reads above with
  | true, true =>
    if 2 * rest < den || (2 * rest == den && low % 2 == 0) then some below else some above
  | true, false => some below
  | false, true => some above
  | false, false => none

/-- The first grid with a neighbour that reads back, from the coarsest on. -/
def firstGrid (x : Number f) (g : Int) : Nat → Scientific
  | 0 => ⟨(gridFloor x.ratio.1 x.ratio.2 g).1, g⟩
  | fuel + 1 =>
    match x.onGrid? g with
    | some d => d
    | none => firstGrid x (g - 1) fuel

/-- The shortest decimal of a finite number; seventeen digits tell apart any two of 64 bits. The
power of ten above the number is tried first. -/
def shortest (x : Number f) : Scientific :=
  if x.isZero then ⟨0, 0⟩ else firstGrid x (log10Ratio x.ratio.1 x.ratio.2 + 1) 18

end Number

/-- What a text of a number leaves open. -/
structure Style where
  /-- Leading exponents written without a power of ten. -/
  positional : Int → Bool
  /-- Whether an integer ends in `.0`. -/
  pointZero : Bool
  infinity : String
  nan : String

/-- Every digit is written out. -/
def Style.plain : Style := ⟨fun _ => true, false, "inf", "NaN"⟩

/-- Every digit is written out, and there is always a point. -/
def Style.pointed : Style := ⟨fun _ => true, true, "inf", "NaN"⟩

/-- `digits * 10 ^ e` without an exponent. -/
def positionalText (pointZero : Bool) (d : Scientific) : String :=
  let digits := Text.decimalChars d.coefficient
  if 0 ≤ d.exponent then
    String.ofList (digits ++ List.replicate d.exponent.toNat '0') ++
      (if pointZero then ".0" else "")
  else
    let places := (-d.exponent).toNat
    let padded := Text.padZeros (places + 1) digits
    let whole := padded.length - places
    String.ofList (padded.take whole ++ '.' :: padded.drop whole)

/-- One digit, the others after a point, and a signed power of ten. -/
def exponentText (d : Scientific) : String :=
  let lead := d.leading
  let sign := if 0 ≤ lead then "+" else ""
  let head := match Text.decimalChars d.coefficient with
    | c :: r@(_ :: _) => String.ofList (c :: '.' :: r)
    | cs => String.ofList cs
  head ++ "e" ++ sign ++ Text.integer lead

/-- The text of a number in a style; the sign of a zero is kept. -/
def Number.text {f : Format} (style : Style) (x : Number f) : String :=
  if x.isNaN then style.nan
  else
    let sign := if x.isNegative then "-" else ""
    if !x.isFinite then sign ++ style.infinity
    else
      let d := x.shortest
      sign ++ if style.positional d.leading then positionalText style.pointZero d
        else exponentText d

end BatchInsert.Binary
