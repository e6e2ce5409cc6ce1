import BatchInsert.Proofs.Loading
import BatchInsert.Proofs.Numerals
import Mathlib.Data.Nat.Digits.Defs

/-!
# Texts of tags

Blanks around a text are left out, and letters of ASCII count as the same in either case. What is
left is the name of a type or a decimal code of 32 bits, or there is no tag. Names and codes are
never taken for one another, because no name begins with a digit or a sign.
-/

namespace BatchInsert.Proofs

open Sql (Standard Tag furtherNames)
open Text (isDigit lower trim)

/-! ### Signed numerals -/

/-- The number that digits stand for, the last one for the ones. -/
def digitsNumber (ds : List Char) : Nat := Nat.ofDigits 10 (ds.reverse.map fun d => d.toNat - 48)

/-- One digit or more; zeros may come first. -/
structure IsDigits (ds : List Char) : Prop where
  ne_nil : ds ≠ []
  forall_isDigit : ∀ d ∈ ds, isDigit d = true

/-- Digits behind a sign, which may be left out. -/
inductive SignedNumeral : List Char → Int → Prop
  | unsigned {ds : List Char} (h : IsDigits ds) : SignedNumeral ds (digitsNumber ds)
  | plus {ds : List Char} (h : IsDigits ds) : SignedNumeral ('+' :: ds) (digitsNumber ds)
  | minus {ds : List Char} (h : IsDigits ds) : SignedNumeral ('-' :: ds) (-digitsNumber ds)

lemma digitsNumber_cons (d : Char) (ds : List Char) :
    digitsNumber (d :: ds) = (d.toNat - 48) * 10 ^ ds.length + digitsNumber ds := by
  simp only [digitsNumber, List.reverse_cons, List.map_append, List.map_singleton,
    Nat.ofDigits_append, Nat.ofDigits_singleton, List.length_map, List.length_reverse]
  rw [Nat.add_comm, Nat.mul_comm]

lemma digitsValue?_eq_some_iff {ds : List Char} {acc n : Nat} :
    Text.digitsValue? 10 acc ds = some n ↔
      (∀ d ∈ ds, isDigit d = true) ∧ n = acc * 10 ^ ds.length + digitsNumber ds := by
  induction ds generalizing acc with
  | nil =>
    rw [Text.digitsValue?, Option.some_inj, List.length_nil, Nat.pow_zero, Nat.mul_one]
    exact ⟨fun h => ⟨List.forall_mem_nil _, h.symm⟩, fun h => h.2.symm⟩
  | cons d ds ih =>
    rw [Text.digitsValue?, List.forall_mem_cons, digitsNumber_cons, List.length_cons]
    by_cases hd : isDigit d = true
    · have hplaces : acc * 10 ^ (ds.length + 1) + ((d.toNat - 48) * 10 ^ ds.length +
          digitsNumber ds) = (acc * 10 + (d.toNat - 48)) * 10 ^ ds.length + digitsNumber ds := by
        ring
      rw [digitValue?_of_isDigit hd, Option.bind_some, ih, hplaces]
      simp only [hd, true_and]
    · have hnone : Text.digitValue? 10 d = none := by
        cases hvalue : Text.digitValue? 10 d with
        | none => rfl
        | some v => exact absurd (isDigit_of_digitValue? hvalue) hd
      simp [hnone, hd]

lemma natural?_eq_some_iff {ds : List Char} {n : Nat} :
    Text.natural? 10 ds = some n ↔ IsDigits ds ∧ n = digitsNumber ds := by
  rw [Text.natural?]
  split
  · rename_i hnil
    have hnot : ¬ IsDigits ds := fun h => h.ne_nil (List.isEmpty_iff.mp hnil)
    simp [hnot]
  · rename_i hne
    rw [digitsValue?_eq_some_iff, Nat.zero_mul, Nat.zero_add]
    have hdigits : IsDigits ds ↔ ∀ d ∈ ds, isDigit d = true :=
      ⟨IsDigits.forall_isDigit, fun h => ⟨fun hnil => hne (List.isEmpty_iff.mpr hnil), h⟩⟩
    rw [hdigits]

lemma IsDigits.not_sign {c : Char} {ds : List Char} (h : IsDigits (c :: ds)) :
    c ≠ '+' ∧ c ≠ '-' := by
  have hc := h.forall_isDigit c List.mem_cons_self
  constructor <;> rintro rfl <;> cases hc

lemma signed?_eq_some_iff {cs : List Char} {i : Int} :
    Text.signed? 10 cs = some i ↔ SignedNumeral cs i := by
  have hnatural {ds : List Char} {f : Nat → Int} :
      (Text.natural? 10 ds).map f = some i ↔ IsDigits ds ∧ f (digitsNumber ds) = i := by
    rw [Option.map_eq_some_iff]
    constructor
    · rintro ⟨n, hn, rfl⟩
      obtain ⟨hds, rfl⟩ := natural?_eq_some_iff.mp hn
      exact ⟨hds, rfl⟩
    · rintro ⟨hds, rfl⟩
      exact ⟨_, natural?_eq_some_iff.mpr ⟨hds, rfl⟩, rfl⟩
  constructor
  · intro h
    unfold Text.signed? at h
    split at h
    · obtain ⟨hds, rfl⟩ := hnatural.mp h
      exact .plus hds
    · obtain ⟨hds, rfl⟩ := hnatural.mp h
      exact .minus hds
    · obtain ⟨hds, rfl⟩ := hnatural.mp h
      exact .unsigned hds
  · rintro (hds | hds | hds)
    · unfold Text.signed?
      split
      · exact absurd rfl hds.not_sign.1
      · exact absurd rfl hds.not_sign.2
      · exact hnatural.mpr ⟨hds, rfl⟩
    · exact hnatural.mpr ⟨hds, rfl⟩
    · exact hnatural.mpr ⟨hds, rfl⟩

lemma int32?_eq_some_iff {cs : List Char} {i : Int} :
    Text.int32? cs = some i ↔ SignedNumeral cs i ∧ -2 ^ 31 ≤ i ∧ i < 2 ^ 31 := by
  rw [Text.int32?, Option.filter_eq_some_iff, signed?_eq_some_iff, Bool.and_eq_true,
    decide_eq_true_eq, decide_eq_true_eq]
  exact and_congr_right fun _ => by omega

/-- A digit or a sign. -/
def isNumeric (c : Char) : Bool := isDigit c || c == '+' || c == '-'

lemma SignedNumeral.forall_isNumeric {cs : List Char} {i : Int} (h : SignedNumeral cs i) :
    ∀ c ∈ cs, isNumeric c = true := by
  have hdigits {ds : List Char} (hds : IsDigits ds) : ∀ d ∈ ds, isNumeric d = true :=
    fun d hd => by simp [isNumeric, hds.forall_isDigit d hd]
  rcases h with hds | hds | hds
  · exact hdigits hds
  · exact List.forall_mem_cons.mpr ⟨rfl, hdigits hds⟩
  · exact List.forall_mem_cons.mpr ⟨rfl, hdigits hds⟩

lemma SignedNumeral.ne_nil {cs : List Char} {i : Int} (h : SignedNumeral cs i) : cs ≠ [] := by
  rcases h with hds | hds | hds
  · exact hds.ne_nil
  · exact List.cons_ne_nil _ _
  · exact List.cons_ne_nil _ _

/-! ### The case of letters -/

lemma toLower_of_isNumeric {c : Char} (hc : isNumeric c = true) : c.toLower = c := by
  refine Text.toLower_of_not_upper ?_
  simp only [isNumeric, isDigit, Bool.or_eq_true, Bool.and_eq_true, decide_eq_true_eq,
    beq_iff_eq] at hc
  rcases hc with (⟨-, hc⟩ | rfl) | rfl
  · have hle : c.toNat ≤ 57 := hc
    omega
  · decide
  · decide

lemma isNumeric_toLower (c : Char) : isNumeric c.toLower = isNumeric c := by
  by_cases hupper : 65 ≤ c.toNat ∧ c.toNat ≤ 90
  · have all : ∀ n, 65 ≤ n → n ≤ 90 →
        isNumeric (Char.ofNat n).toLower = isNumeric (Char.ofNat n) := by decide
    simpa using all c.toNat hupper.1 hupper.2
  · rw [Text.toLower_of_not_upper hupper]

lemma toList_lower (s : String) : (lower s).toList = s.toList.map Char.toLower :=
  String.toList_ofList

lemma signedNumeral_lower {s : String} {i : Int} :
    SignedNumeral (lower s).toList i ↔ SignedNumeral s.toList i := by
  have hsame (h : ∀ c ∈ s.toList, isNumeric c = true) : (lower s).toList = s.toList := by
    rw [toList_lower]
    exact (List.map_congr_left fun c hc => toLower_of_isNumeric (h c hc)).trans (List.map_id _)
  constructor
  · intro h
    rw [← hsame fun c hc => ?_]
    · exact h
    · rw [← isNumeric_toLower]
      exact h.forall_isNumeric _ (by rw [toList_lower]; exact List.mem_map_of_mem hc)
  · intro h
    rw [hsame h.forall_isNumeric]
    exact h

lemma int32?_congr {s t : String} (h : lower s = lower t) :
    Text.int32? s.toList = Text.int32? t.toList := by
  refine Option.ext fun i => ?_
  rw [int32?_eq_some_iff, int32?_eq_some_iff, ← signedNumeral_lower, h, signedNumeral_lower]

lemma sameLetters_congr {s t : String} (h : lower s = lower t) (name : String) :
    Text.sameLetters name s = Text.sameLetters name t := by
  rw [Bool.eq_iff_iff, Text.sameLetters_iff, Text.sameLetters_iff, h]

lemma ofText?_congr {s t : String} (h : lower (trim s) = lower (trim t)) :
    Tag.ofText? s = Tag.ofText? t := by
  simp only [Tag.ofText?, sameLetters_congr h, int32?_congr h]

/-! ### Names -/

lemma ofText?_name (t : Standard) : Tag.ofText? t.name = some (.standard t) := by
  have hall : ∀ t ∈ Standard.all, Tag.ofText? t.name = some (.standard t) := by
    decide +kernel
  exact hall t t.mem_all

lemma ofText?_further : ∀ n ∈ furtherNames, Tag.ofText? n.1 = some (.other n.2) := by
  decide +kernel

lemma trim_name (t : Standard) : trim t.name = t.name := by
  have hall : ∀ t ∈ Standard.all, trim t.name = t.name := by decide +kernel
  exact hall t t.mem_all

lemma trim_further : ∀ n ∈ furtherNames, trim n.1 = n.1 := by
  decide +kernel

/-- The names of all types begin with a letter. -/
def beginsNumeric (s : String) : Bool := s.toList.head?.any isNumeric

lemma beginsNumeric_lower (s : String) : beginsNumeric (lower s) = beginsNumeric s := by
  rw [beginsNumeric, beginsNumeric, toList_lower, List.head?_map]
  cases s.toList.head? with
  | none => rfl
  | some c => exact isNumeric_toLower c

lemma not_sameLetters_of_numeral {name w : String} {i : Int} (hname : beginsNumeric name = false)
    (h : SignedNumeral w.toList i) : Text.sameLetters name w = false := by
  refine Bool.eq_false_iff.mpr fun hsame => ?_
  obtain ⟨c, cs, hcs⟩ := List.exists_cons_of_ne_nil h.ne_nil
  have hw : beginsNumeric w = true := by
    rw [beginsNumeric, hcs]
    exact h.forall_isNumeric c (by rw [hcs]; exact List.mem_cons_self)
  rw [← beginsNumeric_lower, (Text.sameLetters_iff name w).mp hsame, beginsNumeric_lower, hw]
    at hname
  cases hname

/-! ### Tags -/

/-- The tag that a text stands for when the blanks around it are gone. -/
inductive Denotes (w : String) : Tag → Prop
  | standard (t : Standard) (h : lower w = lower t.name) : Denotes w (.standard t)
  | further {name : String} {c : Int32} (hmem : (name, c) ∈ furtherNames)
      (h : lower w = lower name) : Denotes w (.other c)
  | code {i : Int} (h : SignedNumeral w.toList i) (hrange : -2 ^ 31 ≤ i ∧ i < 2 ^ 31) :
      Denotes w (.ofCode (.ofInt i))

lemma denotes_of_ofText? {s : String} {t : Tag} (h : Tag.ofText? s = some t) :
    Denotes (trim s) t := by
  have hletters {name : String} (hsame : Text.sameLetters name (trim s) = true) :
      lower (trim s) = lower name := ((Text.sameLetters_iff _ _).mp hsame).symm
  simp only [Tag.ofText?] at h
  split at h
  · rename_i t' ht'
    cases h
    have hsame := List.find?_some ht'
    exact .standard t' (hletters hsame)
  · split at h
    · rename_i n hn
      cases h
      have hsame := List.find?_some hn
      exact .further (List.mem_of_find?_eq_some hn) (hletters hsame)
    · obtain ⟨i, hi, rfl⟩ := Option.map_eq_some_iff.mp h
      obtain ⟨hnumeral, hrange⟩ := int32?_eq_some_iff.mp hi
      exact .code hnumeral hrange

lemma ofText?_of_denotes {s : String} {t : Tag} (h : Denotes (trim s) t) :
    Tag.ofText? s = some t := by
  rcases h with ⟨t, h⟩ | ⟨hmem, h⟩ | ⟨h, hrange⟩
  · rw [← trim_name t] at h
    rw [ofText?_congr h, ofText?_name]
  · rename_i name c
    have htrim : trim name = name := trim_further (name, c) hmem
    rw [← htrim] at h
    rw [ofText?_congr h]
    exact ofText?_further (name, c) hmem
  · have hstandard : Standard.all.find? (fun t => Text.sameLetters t.name (trim s)) = none := by
      have hall : ∀ t ∈ Standard.all, beginsNumeric t.name = false := by decide +kernel
      refine List.find?_eq_none.mpr fun t ht => Bool.eq_false_iff.mp ?_
      exact not_sameLetters_of_numeral (hall t ht) h
    have hfurther : furtherNames.find? (fun n => Text.sameLetters n.1 (trim s)) = none := by
      have hall : ∀ n ∈ furtherNames, beginsNumeric n.1 = false := by decide +kernel
      refine List.find?_eq_none.mpr fun n hn => Bool.eq_false_iff.mp ?_
      exact not_sameLetters_of_numeral (hall n hn) h
    simp only [Tag.ofText?, hstandard, hfurther, int32?_eq_some_iff.mpr ⟨h, hrange⟩,
      Option.map_some]

lemma ofText_eq_ok_iff {s : String} {t : Tag} :
    Tag.ofText s = .ok t ↔ Tag.ofText? s = some t := by
  rw [Tag.ofText]
  cases Tag.ofText? s <;> simp

lemma toOption_ofText (s : String) : (Tag.ofText s).toOption = Tag.ofText? s := by
  rw [Tag.ofText]
  cases Tag.ofText? s <;> rfl

/-- The error of a text that is no tag shows it without the blanks around it. -/
def unknownTag (s : String) : Database.Error :=
  .configuration ("unknown SQL type '" ++ trim s ++ "'")

/-- A text is read as the tag that it stands for, which is never a bare code of a standard type, and
a text that stands for none is refused. Texts that are the same but for blanks around them and the
case of letters are read alike. -/
theorem tag_of_text (s : String) :
    (∀ t, Tag.ofText s = .ok t ↔ Denotes (trim s) t) ∧
    (∀ t, Tag.ofText s = .ok t → IsNormal t) ∧
    (∀ s', lower (trim s') = lower (trim s) →
      (Tag.ofText s').toOption = (Tag.ofText s).toOption) ∧
    ((∀ t, ¬ Denotes (trim s) t) → Tag.ofText s = .error (unknownTag s)) := by
  have hiff (t : Tag) : Tag.ofText s = .ok t ↔ Denotes (trim s) t :=
    ofText_eq_ok_iff.trans ⟨denotes_of_ofText?, ofText?_of_denotes⟩
  refine ⟨hiff, fun t => isNormal_ofText, fun s' h => ?_, fun hnone => ?_⟩
  · rw [toOption_ofText, toOption_ofText, ofText?_congr h]
  · rw [Tag.ofText]
    split
    · rename_i t ht
      exact absurd (denotes_of_ofText? ht) (hnone t)
    · rfl

/-- A code behind a sign and zeros is that of a date, whose name is read alike in other letters. One
more than the largest code is refused, and so is a name with the letter U+017F, which is not an s
here. -/
theorem tag_of_text_of_codes :
    Denotes (trim "\u3000+00091\t") (.standard .date) ∧
      Tag.ofText "\u3000+00091\t" = .ok (.standard .date) ∧ IsNormal (.standard .date) ∧
      lower (trim "dAtE\u2029") = lower (trim " DATE") ∧
      (Tag.ofText "dAtE\u2029").toOption = (Tag.ofText " DATE").toOption ∧
      Tag.ofText "2147483648 " = .error (.configuration "unknown SQL type '2147483648'") ∧
      Tag.ofText "\u017fmallint" = .error (.configuration "unknown SQL type '\u017fmallint'") := by
  have hnumeral : SignedNumeral (trim "\u3000+00091\t").toList 91 := by
    have htrim : (trim "\u3000+00091\t").toList = '+' :: "00091".toList := by decide +kernel
    rw [htrim]
    exact SignedNumeral.plus ⟨by decide, List.all_eq_true.mp (by decide)⟩
  have hdate : Denotes (trim "\u3000+00091\t") (.standard .date) := .code hnumeral (by decide)
  have hread := ((tag_of_text _).1 _).mpr hdate
  have hsame : lower (trim "dAtE\u2029") = lower (trim " DATE") := by decide +kernel
  have hnone {s : String} (hs : Tag.ofText? s = none) (t : Tag) : ¬ Denotes (trim s) t := by
    intro h
    rw [ofText_eq_ok_iff.mp (((tag_of_text s).1 t).mpr h)] at hs
    cases hs
  have hlarge := (tag_of_text "2147483648 ").2.2.2 (hnone (by decide +kernel))
  have hletter := (tag_of_text "\u017fmallint").2.2.2 (hnone (by decide +kernel))
  have hunknown : unknownTag "2147483648 " = .configuration "unknown SQL type '2147483648'" ∧
      unknownTag "\u017fmallint" = .configuration "unknown SQL type '\u017fmallint'" := by
    decide +kernel
  rw [hunknown.1] at hlarge
  rw [hunknown.2] at hletter
  exact ⟨hdate, hread, (tag_of_text _).2.1 _ hread, hsame, (tag_of_text _).2.2.1 _ hsame, hlarge,
    hletter⟩

end BatchInsert.Proofs
