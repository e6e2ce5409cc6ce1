/-!
# Punycode

Labels of a domain name in ASCII: the ASCII characters of a label, then the others in ascending
order as differences, each a number of variable length in base 36 whose thresholds adapt to the
numbers so far.
-/

namespace BatchInsert.Url.Punycode

def digit (d : Nat) : Char := if d < 26 then Char.ofNat (97 + d) else Char.ofNat (22 + d)

def digitValue? (c : Char) : Option Nat :=
  let n := c.toNat
  if 97 ≤ n && n ≤ 122 then some (n - 97)
  else if 65 ≤ n && n ≤ 90 then some (n - 65)
  else if 48 ≤ n && n ≤ 57 then some (n - 22)
  else none

/-- The threshold of the digit of weight index `k`, between 1 and 26. -/
def threshold (k bias : Nat) : Nat := if k ≤ bias then 1 else if bias + 26 ≤ k then 26 else k - bias

theorem threshold_bounds (k bias : Nat) : 1 ≤ threshold k bias ∧ threshold k bias ≤ 26 := by
  simp only [threshold]
  split
  · omega
  · split <;> omega

def adaptFrom (delta k : Nat) : Nat :=
  if 455 < delta then adaptFrom (delta / 35) (k + 36) else k + 36 * delta / (delta + 38)
termination_by delta
decreasing_by omega

/-- The bias after `count` characters, the last one at distance `delta`. -/
def adapt (delta count : Nat) (first : Bool) : Nat :=
  let scaled := if first then delta / 700 else delta / 2
  adaptFrom (scaled + scaled / count) 0

def numeral (bias k n : Nat) : List Char :=
  if n < threshold k bias then [digit n]
  else
    digit (threshold k bias + (n - threshold k bias) % (36 - threshold k bias)) ::
      numeral bias (k + 36) ((n - threshold k bias) / (36 - threshold k bias))
termination_by n
decreasing_by
  have h := threshold_bounds k bias
  exact Nat.lt_of_le_of_lt (Nat.div_le_self _ _) (by omega)

structure Encoder where
  output : List Char
  delta : Nat
  bias : Nat
  count : Nat

/-- One character of the label while `point` is being placed. -/
def Encoder.visit (basic point : Nat) (e : Encoder) (c : Char) : Encoder :=
  if c.toNat < point then { e with delta := e.delta + 1 }
  else if c.toNat = point then
    ⟨e.output ++ numeral e.bias 36 e.delta, 0, adapt e.delta (e.count + 1) (e.count == basic),
      e.count + 1⟩
  else e

/-- The characters outside ASCII from `start` on, in ascending order; `points` are their codes. -/
def encodePoints (label : List Char) (basic : Nat) : List Nat → Nat → Encoder → List Char
  | [], _, e => e.output
  | point :: points, start, e =>
    let reached := { e with delta := e.delta + (point - start) * (e.count + 1) }
    let done := label.foldl (Encoder.visit basic point) reached
    encodePoints label basic points (point + 1) { done with delta := done.delta + 1 }

def insertPoint (n : Nat) : List Nat → List Nat
  | [] => [n]
  | m :: ms => if n < m then n :: m :: ms else if n = m then m :: ms else m :: insertPoint n ms

def encode (label : List Char) : List Char :=
  let basic := label.filter fun c => c.toNat < 128
  let points := (label.filter fun c => 128 ≤ c.toNat).foldr (fun c ps => insertPoint c.toNat ps) []
  let start := if basic.isEmpty then [] else basic ++ ['-']
  encodePoints label basic.length points 128 ⟨start, 0, 72, basic.length⟩

/-- A number off the front of a text. -/
def readNumeral? (bias : Nat) (k weight acc : Nat) : List Char → Option (Nat × List Char)
  | [] => none
  | c :: cs =>
    (digitValue? c).bind fun d =>
      let acc := acc + d * weight
      if d < threshold k bias then some (acc, cs)
      else readNumeral? bias (k + 36) (weight * (36 - threshold k bias)) acc cs

/-- The characters that the numbers in a text insert into `label`; each takes a digit or more. No
character has been inserted as long as `index` is zero. -/
def decodeFrom? (point index bias : Nat) (label : List Char) : Nat → List Char → Option (List Char)
  | _, [] => some label
  | 0, _ => none
  | fuel + 1, cs =>
    (readNumeral? bias 36 1 0 cs).bind fun (n, rest) =>
      let size := label.length + 1
      let at_ := index + n
      let point' := point + at_ / size
      if 0x10ffff < point' then none
      else
        let place := at_ % size
        decodeFrom? point' (place + 1) (adapt n size (index == 0))
          (label.take place ++ Char.ofNat point' :: label.drop place) fuel rest

/-- The label that a text encodes; the part before the last hyphen is plain. -/
def decode? (cs : List Char) : Option (List Char) :=
  let tail := (cs.reverse.takeWhile (· != '-')).reverse
  let plain := cs.take (cs.length - tail.length - 1)
  let digits := if cs.contains '-' then tail else cs
  decodeFrom? 128 0 72 (if cs.contains '-' then plain else []) digits.length digits

end BatchInsert.Url.Punycode
