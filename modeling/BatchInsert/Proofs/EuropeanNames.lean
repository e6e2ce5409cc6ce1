import BatchInsert.Proofs.AddressText
import BatchInsert.Proofs.PunycodeText
import BatchInsert.Url.European
import Mathlib.Tactic.SplitIfs

/-!
# The European reading of names

Folding letters leaves folded ones, and a label in code is the code of a label. So what has been
read is read as it is, and all that is relied on of a reading of names holds of this one.
-/

namespace BatchInsert.Proofs

open Url

/-! ### Characters of a name -/

/-- A character that may stand in the normal form of a name. -/
structure IsPlain (c : Char) : Prop where
  fold_eq : European.fold c = c
  kept : European.isIgnored c = false
  allowed : European.isRefused c = false

instance (c : Char) : Decidable (IsPlain c) :=
  decidable_of_iff
    (European.fold c = c ∧ European.isIgnored c = false ∧ European.isRefused c = false)
    ⟨fun h => ⟨h.1, h.2.1, h.2.2⟩, fun h => ⟨h.fold_eq, h.kept, h.allowed⟩⟩

/-- A character that folding leaves as it is, and that is kept. -/
def IsSettled (c : Char) : Prop := European.fold c = c ∧ European.isIgnored c = false

lemma toNat_ofNat_of_lt {n : Nat} (hn : n < 0xd800) : (Char.ofNat n).toNat = n := by
  have hvalid : n.isValidChar := .inl hn
  rw [Char.ofNat, dif_pos hvalid]
  rfl

/-- The small letters in which the capitals of Europe end up. -/
def IsSmall (n : Nat) : Prop :=
  (0xe0 ≤ n ∧ n ≤ 0xfe) ∨ (0x3b1 ≤ n ∧ n ≤ 0x3c9) ∨ (0x430 ≤ n ∧ n ≤ 0x45f) ∨
    (n % 2 = 1 ∧ (0x101 ≤ n ∧ n ≤ 0x137 ∨ 0x14b ≤ n ∧ n ≤ 0x177)) ∨
      (n % 2 = 0 ∧ (0x13a ≤ n ∧ n ≤ 0x148 ∨ 0x17a ≤ n ∧ n ≤ 0x17e))

lemma isSettled_small {n : Nat} (hn : IsSmall n) : IsSettled (Char.ofNat n) := by
  unfold IsSmall at hn
  have hcode : (Char.ofNat n).toNat = n := toNat_ofNat_of_lt (by omega)
  refine ⟨?_, ?_⟩
  · simp only [European.fold, hcode, Bool.and_eq_true, Bool.or_eq_true, decide_eq_true_eq,
      beq_iff_eq, bne_iff_ne]
    rw [if_neg (by omega), if_neg (by omega), if_neg (by omega), if_neg (by omega),
      if_neg (by omega), if_neg (by omega), if_neg (by omega)]
  · simp only [European.isIgnored, hcode, Bool.or_eq_false_iff, Bool.and_eq_false_iff,
      beq_eq_false_iff_ne, decide_eq_false_iff_not]
    omega

lemma isSettled_toLower {c : Char} (hc : c.toNat < 128) : IsSettled c.toLower := by
  refine forall_char_lt (P := fun c => IsSettled c.toLower) ?_ hc
  simp only [IsSettled]
  decide +kernel

/-- What is folded at all is folded for good. -/
lemma fold_cases (c : Char) : European.fold c = c ∨ IsSettled (European.fold c) := by
  simp only [European.fold, Bool.and_eq_true, Bool.or_eq_true, decide_eq_true_eq, beq_iff_eq,
    bne_iff_ne]
  split_ifs with hascii hwide hstop hrow hlow heven hodd
  · exact .inr (isSettled_toLower hascii)
  · refine .inr (isSettled_toLower ?_)
    rw [toNat_ofNat_of_lt (by omega)]
    omega
  · exact .inr ⟨by decide, by decide⟩
  · exact .inr (isSettled_small (by unfold IsSmall; omega))
  · exact .inr (isSettled_small (by unfold IsSmall; omega))
  · exact .inr (isSettled_small (by unfold IsSmall; omega))
  · exact .inr (isSettled_small (by unfold IsSmall; omega))
  · exact .inl rfl

lemma isSettled_fold {c : Char} (hc : European.isIgnored c = false) :
    IsSettled (European.fold c) := by
  rcases fold_cases c with h | h
  · rw [h]
    exact ⟨h, hc⟩
  · exact h

lemma isPlain_of_mem_normal {cs : List Char} {c : Char} (hc : c ∈ European.normal cs)
    (hallowed : European.isRefused c = false) : IsPlain c := by
  obtain ⟨a, ha, rfl⟩ := List.mem_map.mp hc
  have hkept : European.isIgnored a = false := by simpa using (List.mem_filter.mp ha).2
  obtain ⟨hfold, hkept⟩ := isSettled_fold hkept
  exact ⟨hfold, hkept, hallowed⟩

lemma normal_of_plain {cs : List Char} (h : ∀ c ∈ cs, IsPlain c) : European.normal cs = cs := by
  rw [European.normal, List.filter_eq_self.mpr fun c hc => by simp [(h c hc).kept]]
  exact (List.map_congr_left fun c hc => (h c hc).fold_eq).trans (List.map_id cs)

lemma not_refused_of_plain {cs : List Char} (h : ∀ c ∈ cs, IsPlain c) :
    cs.any European.isRefused = false :=
  List.any_eq_false.mpr fun c hc => by simp [(h c hc).allowed]

lemma isPlain_of_isPunyDigit {c : Char} (h : IsPunyDigit c) : IsPlain c ∧ c ≠ '.' := by
  obtain ⟨d, hd, rfl⟩ := h
  have all : ∀ e < 36, IsPlain (Punycode.digit e) ∧ Punycode.digit e ≠ '.' := by decide +kernel
  exact all d hd

/-! ### Labels and names -/

/-- A part of a name that is read as it is. -/
structure IsLabel (l : List Char) : Prop where
  read : European.label? l = some l
  chars : ∀ c ∈ l, IsPlain c ∧ c ≠ '.'

lemma isLabel_encode {g : List Char} (hascii : European.isAscii g = false)
    (hg : ∀ c ∈ g, IsPlain c ∧ c ≠ '.') : IsLabel ("xn--".toList ++ Punycode.encode g) := by
  have hplain : ∀ c ∈ g, IsPlain c := fun c hc => (hg c hc).1
  refine ⟨?_, ?_⟩
  · have hrefused : (European.isAscii g || g.any European.isRefused || European.normal g != g) =
        false := by
      simp [hascii, not_refused_of_plain hplain, normal_of_plain hplain]
    change European.label? ('x' :: 'n' :: '-' :: '-' :: Punycode.encode g) = _
    rw [European.label?, decode?_encode, Option.bind_some, hrefused, if_neg Bool.false_ne_true,
      if_pos (beq_self_eq_true _)]
    rfl
  · have hmarks : ∀ c ∈ "xn--".toList, IsPlain c ∧ c ≠ '.' := by
      simp only [String.reduceToList, List.mem_cons, List.not_mem_nil, or_false, forall_eq_or_imp,
        forall_eq]
      decide +kernel
    intro c hc
    rcases List.mem_append.mp hc with hc | hc
    · exact hmarks c hc
    · rcases mem_encode hc with ⟨hc, -⟩ | rfl | hdigit
      · exact hg c hc
      · exact hmarks '-' (by decide)
      · exact isPlain_of_isPunyDigit hdigit

lemma isLabel_of_label? {g l : List Char} (hg : ∀ c ∈ g, IsPlain c ∧ c ≠ '.')
    (h : European.label? g = some l) : IsLabel l := by
  have hread := h
  unfold European.label? at h
  split at h
  · obtain ⟨plain, -, h⟩ := Option.bind_eq_some_iff.mp h
    split at h
    · cases h
    · split at h
      · cases h
        exact ⟨hread, hg⟩
      · cases h
  · split at h
    · cases h
      exact ⟨hread, hg⟩
    · rename_i hascii
      cases h
      exact isLabel_encode (by simpa using hascii) hg

/-- A name in its normal form. -/
structure IsName (name : List Char) : Prop where
  read : European.toAscii? name = some name
  plain : ∀ c ∈ name, IsPlain c

lemma isName_of_labels {labels : List (List Char)} (hne : labels ≠ [])
    (h : ∀ l ∈ labels, IsLabel l) : IsName (joinWith ['.'] labels) := by
  have hplain : ∀ c ∈ joinWith ['.'] labels, IsPlain c := by
    intro c hc
    rcases mem_joinWith hc with hc | ⟨l, hl, hc⟩
    · obtain rfl := List.mem_singleton.mp hc
      decide +kernel
    · exact ((h l hl).chars c hc).1
  have hsplit : splitAt '.' (joinWith ['.'] labels) = labels :=
    splitAt_joinWith (fun l hl hpoint => ((h l hl).chars '.' hpoint).2 rfl) hne
  have hlabels : labels.mapM European.label? = some labels := by
    simpa using mapM_eq_some_map (g := id) fun l hl => (h l hl).read
  refine ⟨?_, hplain⟩
  rw [European.toAscii?, normal_of_plain hplain, not_refused_of_plain hplain,
    if_neg Bool.false_ne_true, hsplit, hlabels, Option.map_some]

/-- Reading a name makes it normal. -/
theorem isName_of_toAscii? {cs name : List Char} (h : European.toAscii? cs = some name) :
    IsName name := by
  rw [European.toAscii?] at h
  split at h
  · cases h
  · rename_i hallowed
    obtain ⟨labels, hlabels, rfl⟩ := Option.map_eq_some_iff.mp h
    have hne : labels ≠ [] := by
      intro hnil
      have hlength := length_of_mapM hlabels
      rw [hnil, List.length_nil] at hlength
      exact splitAt_ne_nil _ (List.length_eq_zero_iff.mp hlength.symm)
    refine isName_of_labels hne ?_
    intro l hl
    obtain ⟨g, hg, hlabel⟩ := exists_of_mem_mapM hlabels hl
    refine isLabel_of_label? ?_ hlabel
    intro c hc
    obtain ⟨hmem, hpoint⟩ := of_mem_splitAt hg c hc
    refine ⟨isPlain_of_mem_normal hmem ?_, hpoint⟩
    rw [← Bool.not_eq_true]
    exact fun hrefused => hallowed (List.any_eq_true.mpr ⟨c, hmem, hrefused⟩)

/-! ### What is relied on -/

lemma toAscii?_of_at {cs : List Char} (hcs : '@' ∈ cs) : European.toAscii? cs = none := by
  have hat : '@' ∈ European.normal cs :=
    List.mem_map.mpr ⟨'@', List.mem_filter.mpr ⟨hcs, by decide⟩, by decide⟩
  rw [European.toAscii?, if_pos]
  exact List.any_eq_true.mpr ⟨'@', hat, by decide⟩

lemma infix_joinWith {between part : List Char} {parts : List (List Char)} (h : part ∈ parts) :
    part <:+: joinWith between parts := by
  fun_induction joinWith between parts with
  | case1 => cases h
  | case2 p => exact List.mem_singleton.mp h ▸ List.infix_rfl
  | case3 p q ps ih =>
    rcases List.mem_cons.mp h with rfl | h
    · rw [List.append_assoc]
      exact (List.prefix_append _ _).isInfix
    · exact (ih h).trans (List.suffix_append _ _).isInfix

lemma label?_of_ascii {l : List Char} (hascii : European.isAscii l = true)
    (hcoded : ¬"xn--".toList <+: l) : European.label? l = some l := by
  unfold European.label?
  split
  · rename_i coded
    exact absurd (List.prefix_append "xn--".toList coded) hcoded
  · rw [if_pos hascii]

lemma toAscii?_of_ascii {cs : List Char} (hcs : ∀ c ∈ cs, c.toNat < 128 ∧ isForbidden c = false)
    (hcoded : ¬"xn--".toList <:+: cs.map Char.toLower) :
    European.toAscii? cs = some (cs.map Char.toLower) := by
  have hchar : ∀ c ∈ cs, European.isIgnored c = false ∧ European.fold c = c.toLower ∧
      c.toLower.toNat < 128 ∧ European.isRefused c.toLower = false := by
    intro c hc
    refine forall_char_lt (P := fun c => isForbidden c = false → European.isIgnored c = false ∧
      European.fold c = c.toLower ∧ c.toLower.toNat < 128 ∧ European.isRefused c.toLower = false)
      ?_ (hcs c hc).1 (hcs c hc).2
    decide +kernel
  have hnormal : European.normal cs = cs.map Char.toLower := by
    rw [European.normal, List.filter_eq_self.mpr fun c hc => by simp [(hchar c hc).1]]
    exact List.map_congr_left fun c hc => (hchar c hc).2.1
  have hlower : ∀ c ∈ cs.map Char.toLower, c.toNat < 128 ∧ European.isRefused c = false :=
    List.forall_mem_map.mpr fun c hc => (hchar c hc).2.2
  have hjoined : joinWith ['.'] (splitAt '.' (cs.map Char.toLower)) = cs.map Char.toLower := by
    rw [splitAt_eq, joinWith_eq, List.intercalate_splitOn]
  have hlabels : (splitAt '.' (cs.map Char.toLower)).mapM European.label? =
      some (splitAt '.' (cs.map Char.toLower)) := by
    have hlabel : ∀ l ∈ splitAt '.' (cs.map Char.toLower), European.label? (id l) = some l := by
      intro l hl
      refine label?_of_ascii ?_ ?_
      · exact List.all_eq_true.mpr fun c hc =>
          decide_eq_true (hlower c (of_mem_splitAt hl c hc).1).1
      · intro hmarked
        exact hcoded (hmarked.isInfix.trans (hjoined ▸ infix_joinWith hl))
    simpa using mapM_eq_some_map hlabel
  have hallowed : (cs.map Char.toLower).any European.isRefused = false :=
    List.any_eq_false.mpr fun c hc => by simp [(hlower c hc).2]
  rw [European.toAscii?, hnormal, hallowed, if_neg Bool.false_ne_true, hlabels, Option.map_some,
    hjoined]

open scoped Url.European

instance : LawfulNames where
  again h := (isName_of_toAscii? h).read
  allowed h c hc := by
    have hrefused := ((isName_of_toAscii? h).plain c hc).allowed
    simp only [European.isRefused, Bool.or_eq_false_iff] at hrefused
    exact hrefused.1.1.1.1.1.1.1
  lower _ := toAscii?_of_ascii
  at_refused := toAscii?_of_at

end BatchInsert.Proofs
