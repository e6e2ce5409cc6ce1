import BatchInsert.Decimal.Basic

/-!
# Reading decimals

Plain numerals have an optional sign, digits with underscores after the first one, and a point
anywhere. A digit too many after the point rounds the number half up and ends the reading;
before the point it is refused. A power of ten may follow.
-/

namespace BatchInsert.Decimal

/-- What has been read of a numeral. -/
structure Progress where
  coefficient : Nat
  scale : Nat
  /-- Whether the point has been read. -/
  point : Bool
  /-- Whether a digit has been read. -/
  digits : Bool

/-- The number when `c` is the first character that no longer counts. -/
def roundAt (negative : Bool) (p : Progress) (c : Char) : Option Decimal :=
  let digit? := if c == '_' || c == '.' then some 0 else Text.digitValue? 10 c
  digit?.bind fun digit =>
    if digit < 5 then ofParts? negative p.coefficient p.scale
    else if p.coefficient + 1 < 2 ^ 96 then ofParts? negative (p.coefficient + 1) p.scale
    else if p.scale = 0 then none
    else ofParts? negative ((p.coefficient + 5) / 10) (p.scale - 1)

def readFrom (negative : Bool) (p : Progress) : List Char → Option Decimal
  | [] => if p.digits then ofParts? negative p.coefficient p.scale else none
  | c :: cs =>
    if p.point && 28 ≤ p.scale then roundAt negative p c
    else if c == '.' then
      if p.point then none else readFrom negative { p with point := true } cs
    else if c == '_' then
      if p.digits then readFrom negative p cs else none
    else
      match Text.digitValue? 10 c with
      | none => none
      | some d =>
        let next := p.coefficient * 10 + d
        if next < 2 ^ 96 then
          readFrom negative ⟨next, if p.point then p.scale + 1 else p.scale, p.point, true⟩ cs
        else if p.point then roundAt negative p c
        else none

/-- A numeral without a power of ten. -/
def ofPlainText? : List Char → Option Decimal
  | '-' :: cs => readFrom true ⟨0, 0, false, false⟩ cs
  | '+' :: cs => readFrom false ⟨0, 0, false, false⟩ cs
  | cs => readFrom false ⟨0, 0, false, false⟩ cs

/-- `d * 10 ^ n`; places are dropped first, then the coefficient grows, by at most 28 digits. -/
def scaleUp? (d : Decimal) (n : Nat) : Option Decimal :=
  if n ≤ d.scale then ofParts? d.negative d.coefficient (d.scale - n)
  else if 28 < n then none
  else ofParts? d.negative (d.coefficient * 10 ^ (n - d.scale)) 0

/-- `d * 10 ^ (-n)`; the count of places is a 32-bit word. -/
def scaleDown? (d : Decimal) (n : Nat) : Option Decimal :=
  ofParts? d.negative d.coefficient ((d.scale + n) % 2 ^ 32)

/-- A numeral with a power of ten after an `e` of either case. -/
def ofScientificText? (cs : List Char) : Option Decimal :=
  let isMark (c : Char) := c == 'e' || c == 'E'
  match cs.dropWhile (!isMark ·) with
  | [] => none
  | _ :: power =>
    (ofPlainText? (cs.takeWhile (!isMark ·))).bind fun base =>
      match power with
      | '-' :: n => (Text.below? (2 ^ 32) n).bind base.scaleDown?
      | n => (Text.below? (2 ^ 32) n).bind base.scaleUp?

def ofText? (s : String) : Option Decimal :=
  (ofPlainText? s.toList).or (ofScientificText? s.toList)

end BatchInsert.Decimal
