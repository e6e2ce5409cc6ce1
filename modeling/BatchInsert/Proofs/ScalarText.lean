import BatchInsert.Decimal.Reader
import BatchInsert.Proofs.Numerals
import BatchInsert.Uuid

/-!
# Decimals and UUIDs as texts

Both are written by their digits, with a point or hyphens at fixed places among them. So the digits
are found again at these places, and with them the number.
-/

namespace BatchInsert.Proofs

open Text (isDigit)

/-! ### Decimals -/

section Decimal

open Decimal (readFrom ofPlainText? Progress)

lemma readFrom_digit {negative : Bool} {p : Progress} {c : Char} {cs : List Char}
    (hc : isDigit c = true) (hplaces : p.point = true → p.scale < 28)
    (hfits : p.coefficient * 10 + (c.toNat - 48) < 2 ^ 96) :
    readFrom negative p (c :: cs) = readFrom negative
      ⟨p.coefficient * 10 + (c.toNat - 48), if p.point then p.scale + 1 else p.scale, p.point, true⟩
      cs := by
  have hplace : (p.point && 28 ≤ p.scale) = false := by
    cases hpoint : p.point with
    | false => rfl
    | true => simpa using hplaces hpoint
  have hpoint : (c == '.') = false := by
    refine beq_eq_false_iff_ne.mpr ?_
    rintro rfl
    cases hc
  have hunderscore : (c == '_') = false := by
    refine beq_eq_false_iff_ne.mpr ?_
    rintro rfl
    cases hc
  simp only [readFrom, hplace, hpoint, hunderscore, Bool.false_eq_true, if_false,
    digitValue?_of_isDigit hc, hfits, if_true]

lemma readFrom_digits (negative : Bool) (p : Progress) (rest : List Char) {ds : List Char} {n : Nat}
    (hvalue : Text.digitsValue? 10 p.coefficient ds = some n) (hn : n < 2 ^ 96)
    (hdigits : ∀ c ∈ ds, isDigit c = true) (hplaces : p.point = true → p.scale + ds.length ≤ 28) :
    readFrom negative p (ds ++ rest) = readFrom negative
      ⟨n, if p.point then p.scale + ds.length else p.scale, p.point, p.digits || !ds.isEmpty⟩
      rest := by
  induction ds generalizing p with
  | nil =>
    cases hvalue
    obtain ⟨coefficient, scale, point, digits⟩ := p
    cases point <;> simp
  | cons c ds ih =>
    obtain ⟨hc, hds⟩ := List.forall_mem_cons.mp hdigits
    obtain ⟨d, hd, hrest⟩ := Option.bind_eq_some_iff.mp hvalue
    obtain rfl : c.toNat - 48 = d := Option.some.inj ((digitValue?_of_isDigit hc).symm.trans hd)
    have hfits := Nat.lt_of_le_of_lt (le_of_digitsValue? (by decide) hrest) hn
    have hroom : p.point = true → p.scale + 1 + ds.length ≤ 28 := by
      intro hpoint
      have hplaces := hplaces hpoint
      rw [List.length_cons] at hplaces
      omega
    have hhere : p.point = true → p.scale < 28 := fun hpoint => by have := hroom hpoint; omega
    obtain ⟨coefficient, scale, point, digits⟩ := p
    rw [List.cons_append, readFrom_digit hc hhere hfits, ih _ hrest hds fun hpoint => ?_]
    · cases point <;> simp [Nat.add_assoc, Nat.add_comm 1]
    · simpa only [if_pos hpoint] using hroom hpoint

/-- The digits of a decimal before its point and behind it. -/
structure Places (d : Decimal) (whole places : List Char) : Prop where
  whole_ne_nil : whole ≠ []
  length_places : places.length = d.scale
  numeral : IsNumeral d.coefficient (whole ++ places)

lemma exists_places (d : Decimal) : ∃ whole places, Places d whole places ∧
    d.text.toList = (if d.negative then ['-'] else []) ++
      (whole ++ if d.scale = 0 then [] else '.' :: places) := by
  let digits := Text.padZeros (d.scale + 1) (Text.decimalChars d.coefficient)
  have hlength : d.scale + 1 ≤ digits.length := by
    simp only [digits, Text.padZeros, List.length_append, List.length_replicate]
    omega
  refine ⟨digits.take (digits.length - d.scale), digits.drop (digits.length - d.scale),
    ⟨?_, ?_, ?_⟩, ?_⟩
  · rw [← List.length_pos_iff, List.length_take]
    omega
  · rw [List.length_drop]
    omega
  · rw [List.take_append_drop]
    exact (isNumeral_decimalChars d.coefficient).padZeros _
  · simp only [Decimal.text, String.toList_append, String.toList_ofList, List.append_assoc]
    congr 1
    · split <;> rfl
    · congr 1
      split <;> simp [digits]

lemma readFrom_places {d : Decimal} {whole places : List Char} (h : Places d whole places) :
    readFrom d.negative ⟨0, 0, false, false⟩
      (whole ++ if d.scale = 0 then [] else '.' :: places) = some d.unsignedZero := by
  obtain ⟨hwhole, hlength, hvalue, hdigits⟩ := h
  obtain ⟨hdigitsWhole, hdigitsPlaces⟩ := List.forall_mem_append.mp hdigits
  rw [Text.digitsValue?_append] at hvalue
  obtain ⟨n, hn, hplaces⟩ := Option.bind_eq_some_iff.mp hvalue
  have hle : n ≤ d.coefficient := le_of_digitsValue? (by decide) hplaces
  have hlt := d.coefficient_lt
  have hempty : whole.isEmpty = false := by simpa using hwhole
  rw [readFrom_digits _ _ _ hn (by omega) hdigitsWhole (by simp), hempty]
  by_cases hscale : d.scale = 0
  · rw [hscale] at hlength
    rw [List.length_eq_zero_iff.mp hlength] at hplaces
    cases hplaces
    have hparts := d.ofParts?_parts
    rw [hscale] at hparts
    simp [hscale, Decimal.readFrom, hparts]
  · have hpoint : readFrom d.negative ⟨n, 0, false, true⟩ ('.' :: places) =
        readFrom d.negative ⟨n, 0, true, true⟩ places := by
      simp [Decimal.readFrom]
    have hroom := d.scale_le
    have hlast := readFrom_digits d.negative ⟨n, 0, true, true⟩ [] hplaces hlt hdigitsPlaces
      (by simp only [hlength]; omega)
    rw [List.append_nil] at hlast
    simp only [hscale, Bool.false_eq_true, if_false, Bool.not_false, Bool.or_true]
    rw [hpoint, hlast]
    simp [Decimal.readFrom, hlength, d.ofParts?_parts]

/-- A decimal is read back from its text with its scale; a zero loses its sign. -/
theorem decimal_ofText (d : Decimal) : Decimal.ofText? d.text = some d.unsignedZero := by
  obtain ⟨whole, places, h, htext⟩ := exists_places d
  have hplain : ofPlainText? d.text.toList = some d.unsignedZero := by
    rw [htext, ← readFrom_places h]
    cases d.negative with
    | true => rfl
    | false =>
      obtain ⟨c, cs, hcs⟩ := List.exists_cons_of_ne_nil h.whole_ne_nil
      have hc := h.numeral.forall_isDigit c (by simp [hcs])
      rw [hcs, List.cons_append]
      change ofPlainText? (c :: _) = _
      unfold ofPlainText?
      split
      · rename_i heq
        obtain ⟨rfl, -⟩ := List.cons.inj heq
        cases hc
      · rename_i heq
        obtain ⟨rfl, -⟩ := List.cons.inj heq
        cases hc
      · rfl
  rw [Decimal.ofText?, hplain]
  rfl

end Decimal

/-! ### UUIDs -/

section Uuid

open Uuid (groups ofDigits? ofHyphenated? splitGroups unhyphenate? unwrap)

lemma unhyphenate?_intercalate {ns : List Nat} (hns : ns ≠ []) {cs : List Char}
    (hcs : cs.length = ns.foldr (· + ·) 0) :
    unhyphenate? ns (['-'].intercalate (splitGroups ns cs)) = some cs := by
  induction ns generalizing cs with
  | nil => exact absurd rfl hns
  | cons n ns ih =>
    cases ns with
    | nil =>
      have hlength : cs.length = n := by simpa using hcs
      simp [splitGroups, unhyphenate?, hlength, List.take_of_length_le]
    | cons m ns =>
      rw [List.foldr_cons] at hcs
      have htake : (cs.take n).length = n := by rw [List.length_take]; omega
      have hdrop : (cs.drop n).length = (m :: ns).foldr (· + ·) 0 := by rw [List.length_drop]; omega
      have hrest := ih (List.cons_ne_nil m ns) hdrop
      rw [splitGroups, splitGroups, List.intercalate_cons_cons, ← splitGroups, List.append_assoc,
        List.singleton_append]
      rw [unhyphenate?, List.drop_left' htake, List.take_left' htake]
      · simp only [hrest, Option.map_some, List.take_append_drop]
      · exact List.cons_ne_nil m ns

/-- A UUID is read back from its text. -/
theorem uuid_ofText (u : Uuid) : Uuid.ofText u.text = .ok u := by
  let digits := Text.padZeros 32 (Text.hexChars u.bits.toNat)
  have hlength : digits.length = 32 := by
    refine length_padZeros (positional_hex.length_write_le (by decide) ?_)
    exact Nat.lt_of_lt_of_eq u.bits.isLt (by decide)
  have htext : u.text.toList = ['-'].intercalate (splitGroups groups digits) := by
    rw [Uuid.text, String.toList_intercalate, List.map_map]
    have hsame : String.toList ∘ String.ofList = id := funext fun _ => String.toList_ofList
    rw [hsame, List.map_id]
    rfl
  have hhyphenated : ofHyphenated? u.text.toList = some u := by
    rw [ofHyphenated?, htext, unhyphenate?_intercalate (by decide) hlength, Option.bind_some,
      ofDigits?, if_pos hlength, positional_hex.natural?_padZeros]
    simp
  have hplain : ofDigits? u.text.toList = none := by
    rw [ofDigits?, if_neg]
    simp [htext, groups, splitGroups, List.intercalate_cons_cons, hlength]
  have hunwrap : unwrap u.text.toList = none := by
    have hdigit : ∀ d < 16, Text.digitChar d ≠ '\x7b' ∧ Text.digitChar d ≠ 'u' := by decide
    have hdigits : ∀ c ∈ digits, c ≠ '\x7b' ∧ c ≠ 'u' :=
      forall_mem_padZeros (by decide) (positional_hex.forall_mem_write hdigit _)
    obtain ⟨c, cs, hcs⟩ : ∃ c cs, digits = c :: cs :=
      List.exists_cons_of_ne_nil (by rintro hnil; rw [hnil] at hlength; cases hlength)
    obtain ⟨hbrace, hurn⟩ := hdigits c (by simp [hcs])
    simp only [htext, groups, splitGroups, List.intercalate_cons_cons, hcs, List.take_succ_cons,
      List.cons_append]
    unfold unwrap
    split
    · rename_i heq
      exact absurd (List.cons.inj heq).1 hbrace
    · rename_i heq
      exact absurd (List.cons.inj heq).1 hurn
    · rfl
  simp only [Uuid.ofText, hunwrap, hplain, hhyphenated, Option.none_or]

end Uuid

end BatchInsert.Proofs
