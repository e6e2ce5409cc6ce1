import BatchInsert.Text.Numeral
import Mathlib.Tactic.Lemma

/-!
# Numerals

Numerals in base ten and sixteen are written by the same recursion, one digit at a time. They have
no more digits than their number needs, zeros before them make no difference, and their value is
the number that they were written for.
-/

namespace BatchInsert.Proofs

open Text

/-! ### Values of digits -/

lemma digitValue?_digitChar {base d : Nat} (hbase : base ≤ 16) (hd : d < base) :
    digitValue? base (digitChar d) = some d := by
  have all : ∀ b < 17, ∀ e < b, digitValue? b (digitChar e) = some e := by decide
  exact all base (Nat.lt_succ_of_le hbase) d hd

lemma isDigit_digitChar {d : Nat} (hd : d < 10) : isDigit (digitChar d) = true := by
  have all : ∀ e < 10, isDigit (digitChar e) = true := by decide
  exact all d hd

lemma digitChar_ne_zero {d : Nat} (hd : d < 10) (hpos : d ≠ 0) : digitChar d ≠ '0' := by
  have all : ∀ e < 10, e ≠ 0 → digitChar e ≠ '0' := by decide
  exact all d hd hpos

lemma digitValue?_of_isDigit {c : Char} (hc : isDigit c = true) :
    digitValue? 10 c = some (c.toNat - 48) := by
  have hrange : 48 ≤ c.toNat ∧ c.toNat ≤ 57 := by
    simp only [isDigit, Bool.and_eq_true, decide_eq_true_eq] at hc
    exact ⟨hc.1, hc.2⟩
  have hlt : c.toNat - 48 < 10 := by omega
  simp [digitValue?, hrange.1, hrange.2, Option.filter, hlt]

lemma isDigit_of_digitValue? {c : Char} {d : Nat} (h : digitValue? 10 c = some d) :
    isDigit c = true := by
  obtain ⟨hvalue, hd⟩ := Option.filter_eq_some_iff.mp h
  have hd : d < 10 := by simpa using hd
  have hrange : 48 ≤ c.toNat ∧ c.toNat ≤ 57 := by
    split at hvalue
    · rename_i hc
      simpa using hc
    · split at hvalue
      · rename_i hc
        have hc : 97 ≤ c.toNat ∧ c.toNat ≤ 122 := by simpa using hc
        cases hvalue
        omega
      · split at hvalue
        · rename_i hc
          have hc : 65 ≤ c.toNat ∧ c.toNat ≤ 90 := by simpa using hc
          cases hvalue
          omega
        · cases hvalue
  simp only [isDigit, Bool.and_eq_true, decide_eq_true_eq]
  exact hrange

lemma le_of_digitsValue? {base acc n : Nat} {cs : List Char} (hbase : 0 < base)
    (h : digitsValue? base acc cs = some n) : acc ≤ n := by
  induction cs generalizing acc with
  | nil => exact Nat.le_of_eq (Option.some.inj h)
  | cons c cs ih =>
    obtain ⟨d, -, hrest⟩ := Option.bind_eq_some_iff.mp h
    have hmul : acc * 1 ≤ acc * base := Nat.mul_le_mul_left acc hbase
    exact Nat.le_trans (by omega) (ih hrest)

/-! ### Positional notation -/

/-- Numerals are written from the last digit on. -/
structure Positional (base : Nat) (write : Nat → List Char) : Prop where
  two_le : 2 ≤ base
  le_sixteen : base ≤ 16
  write_eq : ∀ n, write n =
    if n < base then [digitChar n] else write (n / base) ++ [digitChar (n % base)]

lemma positional_decimal : Positional 10 decimalChars where
  two_le := by decide
  le_sixteen := by decide
  write_eq n := by rw [decimalChars]

lemma positional_hex : Positional 16 hexChars where
  two_le := by decide
  le_sixteen := by decide
  write_eq n := by rw [hexChars]

namespace Positional

variable {base : Nat} {write : Nat → List Char}

lemma write_ne_nil (h : Positional base write) (n : Nat) : write n ≠ [] := by
  rw [h.write_eq]
  split <;> simp

lemma induction (h : Positional base write) {P : Nat → Prop} (hdigit : ∀ n < base, P n)
    (hmore : ∀ n, base ≤ n → P (n / base) → P n) (n : Nat) : P n := by
  induction n using Nat.strongRecOn with
  | ind n ih =>
    by_cases hn : n < base
    · exact hdigit n hn
    · have htwo := h.two_le
      exact hmore n (Nat.le_of_not_lt hn) (ih _ (Nat.div_lt_self (by omega) htwo))

lemma digitsValue?_write (h : Positional base write) (n : Nat) :
    digitsValue? base 0 (write n) = some n := by
  have hpos : 0 < base := Nat.lt_of_lt_of_le Nat.zero_lt_two h.two_le
  induction n using h.induction with
  | hdigit n hn =>
    rw [h.write_eq, if_pos hn]
    simp [digitsValue?, digitValue?_digitChar h.le_sixteen hn]
  | hmore n hn ih =>
    have hlast : digitValue? base (digitChar (n % base)) = some (n % base) :=
      digitValue?_digitChar h.le_sixteen (Nat.mod_lt n hpos)
    rw [h.write_eq, if_neg (Nat.not_lt.mpr hn), digitsValue?_append, ih]
    simp only [Option.bind_some, digitsValue?, hlast, Nat.div_add_mod']

lemma length_write_le (h : Positional base write) {n k : Nat} (hk : 0 < k) (hn : n < base ^ k) :
    (write n).length ≤ k := by
  induction n using h.induction generalizing k with
  | hdigit n hdigit =>
    rw [h.write_eq, if_pos hdigit]
    exact hk
  | hmore n hmore ih =>
    have hpos : 0 < base := Nat.lt_of_lt_of_le Nat.zero_lt_two h.two_le
    obtain ⟨k, rfl⟩ : ∃ j, k = j + 1 := ⟨k - 1, by omega⟩
    have hquotient : n / base < base ^ k := by
      rw [Nat.div_lt_iff_lt_mul hpos, ← Nat.pow_succ]
      exact hn
    have hk' : 0 < k := by
      rcases Nat.eq_zero_or_pos k with rfl | hk'
      · rw [Nat.zero_add, Nat.pow_one] at hn
        omega
      · exact hk'
    have hlength := ih hk' hquotient
    rw [h.write_eq, if_neg (Nat.not_lt.mpr hmore), List.length_append, List.length_singleton]
    omega

lemma forall_mem_write (h : Positional base write) {P : Char → Prop}
    (hP : ∀ d < base, P (digitChar d)) (n : Nat) : ∀ c ∈ write n, P c := by
  have hpos : 0 < base := Nat.lt_of_lt_of_le Nat.zero_lt_two h.two_le
  induction n using h.induction with
  | hdigit n hn =>
    rw [h.write_eq, if_pos hn]
    exact List.forall_mem_singleton.mpr (hP n hn)
  | hmore n hn ih =>
    rw [h.write_eq, if_neg (Nat.not_lt.mpr hn)]
    intro c hc
    rcases List.mem_append.mp hc with hc | hc
    · exact ih c hc
    · rw [List.mem_singleton.mp hc]
      exact hP _ (Nat.mod_lt n hpos)

lemma head?_write (h : Positional base write) {n : Nat} (hn : 0 < n) :
    ∃ d, 0 < d ∧ d < base ∧ (write n).head? = some (digitChar d) := by
  have htwo := h.two_le
  induction n using h.induction with
  | hdigit n hdigit =>
    refine ⟨n, hn, hdigit, ?_⟩
    rw [h.write_eq, if_pos hdigit]
    rfl
  | hmore n hmore ih =>
    obtain ⟨d, hd, hlt, hhead⟩ := ih (Nat.div_pos hmore (by omega))
    refine ⟨d, hd, hlt, ?_⟩
    rw [h.write_eq, if_neg (Nat.not_lt.mpr hmore), List.head?_append, hhead]
    rfl

end Positional

/-! ### Zeros in front -/

lemma digitsValue?_padZeros {base width : Nat} (hbase : 0 < base) (cs : List Char) :
    digitsValue? base 0 (padZeros width cs) = digitsValue? base 0 cs := by
  have hzero : digitValue? base '0' = some 0 := by simp [digitValue?, Option.filter, hbase]
  have hzeros (k : Nat) : digitsValue? base 0 (List.replicate k '0') = some 0 := by
    induction k with
    | zero => rfl
    | succ k ih => simpa [List.replicate_succ, digitsValue?, hzero] using ih
  rw [padZeros, digitsValue?_append, hzeros, Option.bind_some]

lemma Positional.natural?_padZeros {base : Nat} {write : Nat → List Char}
    (h : Positional base write) (width n : Nat) :
    natural? base (padZeros width (write n)) = some n := by
  have hpos : 0 < base := Nat.lt_of_lt_of_le Nat.zero_lt_two h.two_le
  rw [natural?, if_neg, digitsValue?_padZeros hpos, h.digitsValue?_write]
  simp [padZeros, h.write_ne_nil]

lemma length_padZeros {width : Nat} {cs : List Char} (h : cs.length ≤ width) :
    (padZeros width cs).length = width := by
  rw [padZeros, List.length_append, List.length_replicate]
  omega

lemma forall_mem_padZeros {P : Char → Prop} {width : Nat} {cs : List Char} (hzero : P '0')
    (hcs : ∀ c ∈ cs, P c) : ∀ c ∈ padZeros width cs, P c := by
  intro c hc
  rcases List.mem_append.mp hc with hc | hc
  · rw [List.eq_of_mem_replicate hc]
    exact hzero
  · exact hcs c hc

/-- Digits, and the number that they are. -/
structure IsNumeral (n : Nat) (cs : List Char) : Prop where
  value_eq : digitsValue? 10 0 cs = some n
  forall_isDigit : ∀ c ∈ cs, isDigit c = true

lemma isNumeral_decimalChars (n : Nat) : IsNumeral n (decimalChars n) where
  value_eq := digitsValue?_decimalChars n
  forall_isDigit := positional_decimal.forall_mem_write (fun _ hd => isDigit_digitChar hd) n

lemma IsNumeral.padZeros {n : Nat} {cs : List Char} (h : IsNumeral n cs) (width : Nat) :
    IsNumeral n (padZeros width cs) where
  value_eq := by rw [digitsValue?_padZeros (by decide), h.value_eq]
  forall_isDigit := forall_mem_padZeros (by decide) h.forall_isDigit

end BatchInsert.Proofs
