import BatchInsert.Power

/-!
# Numerals

Naturals and integers as digits, and back. `decimalChars` writes no leading zero;
`natural?_decimalChars` reads every such numeral back.
-/

namespace BatchInsert.Text

/-- The digit for `d < 16`, lower case. -/
def digitChar (d : Nat) : Char :=
  if d < 10 then Char.ofNat (48 + d) else Char.ofNat (87 + d)

def decimalChars (n : Nat) : List Char :=
  if n < 10 then [digitChar n] else decimalChars (n / 10) ++ [digitChar (n % 10)]
termination_by n
decreasing_by omega

def hexChars (n : Nat) : List Char :=
  if n < 16 then [digitChar n] else hexChars (n / 16) ++ [digitChar (n % 16)]
termination_by n
decreasing_by omega

/-- `cs` after as many zeros as it takes to reach `width`. -/
def padZeros (width : Nat) (cs : List Char) : List Char :=
  List.replicate (width - cs.length) '0' ++ cs

def decimal (n : Nat) : String := String.ofList (decimalChars n)

def paddedDecimal (width n : Nat) : String := String.ofList (padZeros width (decimalChars n))

def paddedHex (width n : Nat) : String := String.ofList (padZeros width (hexChars n))

/-- A minus sign before a negative integer, nothing before the others. -/
def integer : Int → String
  | .ofNat n => decimal n
  | .negSucc n => "-" ++ decimal (n + 1)

def isDigit (c : Char) : Bool := '0' ≤ c && c ≤ '9'

/-- The value of a digit in `base`, at most 36, either case of a letter. -/
def digitValue? (base : Nat) (c : Char) : Option Nat :=
  let n := c.toNat
  let v? :=
    if 48 ≤ n && n ≤ 57 then some (n - 48)
    else if 97 ≤ n && n ≤ 122 then some (n - 87)
    else if 65 ≤ n && n ≤ 90 then some (n - 55)
    else none
  v?.filter (· < base)

/-- The value of a run of digits after `acc`, `none` at the first character that is no digit. -/
def digitsValue? (base acc : Nat) : List Char → Option Nat
  | [] => some acc
  | c :: cs => (digitValue? base c).bind fun d => digitsValue? base (acc * base + d) cs

/-- At least one digit and nothing else. -/
def natural? (base : Nat) (cs : List Char) : Option Nat :=
  if cs.isEmpty then none else digitsValue? base 0 cs

/-- A numeral with an optional sign. -/
def signed? (base : Nat) : List Char → Option Int
  | '+' :: cs => (natural? base cs).map Int.ofNat
  | '-' :: cs => (natural? base cs).map fun n => -(Int.ofNat n)
  | cs => (natural? base cs).map Int.ofNat

/-- A signed decimal numeral in the range of a 32-bit word. -/
def int32? (cs : List Char) : Option Int :=
  (signed? 10 cs).filter fun i => -2147483648 ≤ i && i ≤ 2147483647

/-- A decimal numeral, a plus sign allowed, below `bound`. -/
def below? (bound : Nat) : List Char → Option Nat
  | '+' :: cs => (natural? 10 cs).filter (· < bound)
  | cs => (natural? 10 cs).filter (· < bound)

theorem digitValue?_digitChar {d : Nat} (h : d < 10) : digitValue? 10 (digitChar d) = some d := by
  have all : ∀ e ∈ List.range 10, digitValue? 10 (digitChar e) = some e := by decide
  exact all d (List.mem_range.mpr h)

theorem digitsValue?_append (base acc : Nat) (xs ys : List Char) :
    digitsValue? base acc (xs ++ ys) =
      (digitsValue? base acc xs).bind fun v => digitsValue? base v ys := by
  induction xs generalizing acc with
  | nil => rfl
  | cons c cs ih =>
    simp only [List.cons_append, digitsValue?]
    cases digitValue? base c with
    | none => rfl
    | some d => exact ih _

theorem digitsValue?_decimalChars (n : Nat) : digitsValue? 10 0 (decimalChars n) = some n := by
  induction n using Nat.strongRecOn with
  | ind n ih =>
    rw [decimalChars]
    split
    · simp [digitsValue?, digitValue?_digitChar ‹n < 10›]
    · rw [digitsValue?_append, ih (n / 10) (by omega)]
      simp only [Option.bind_some, digitsValue?, digitValue?_digitChar (Nat.mod_lt n (by omega))]
      congr 1
      omega

theorem decimalChars_ne_nil (n : Nat) : decimalChars n ≠ [] := by
  rw [decimalChars]
  split <;> simp

theorem natural?_decimalChars (n : Nat) : natural? 10 (decimalChars n) = some n := by
  rw [natural?, if_neg (by simp [decimalChars_ne_nil]), digitsValue?_decimalChars]

end BatchInsert.Text
