import BatchInsert.Proofs.DeclaredTypes

/-!
# What a value is bound as

Under a declared type a value is bound as a null of that type, as it is, or in the form of the
type, or it is refused. Which of these it is depends on whether the value is null, on the kind of
the value, and on the type that the tag stands for, in this order; a bare code never counts as such
where it is that of a standard type.
-/

namespace BatchInsert.Proofs

open Database (Error)
open Sql (Param Standard Tag TypedValue)

/-! ### Tags -/

lemma normalize_normalize (t : Tag) : t.normalize.normalize = t.normalize := by
  cases t with
  | standard s => rfl
  | other c =>
    cases hc : Standard.ofCode? c with
    | some s => simp only [Tag.normalize, Tag.ofCode, hc]
    | none => simp only [Tag.normalize, Tag.ofCode, hc]

lemma normalize_code (s : Standard) : (Tag.other s.code).normalize = .standard s := by
  rw [Tag.normalize, Tag.ofCode, Standard.ofCode?_code]

/-! ### Values of a type -/

/-- The error of a value whose kind is not that of the type. -/
def unfitValue (v : Value) (tag : Tag) : Error :=
  .conversion ("cannot bind " ++ v.kind.name ++ " value " ++ v.text ++ " as " ++ tag.text)

section Standard

variable {s : Standard} {v : Value}

lemma exists_ofKind? (h : s.kind? = some v.kind) : ∃ tv, TypedValue.ofKind? v = some tv := by
  cases v with
  | null | moment _ | uuid _ | json _ => cases s <;> cases h
  | _ => exact ⟨_, rfl⟩

lemma ofValue_of_kind (h : s.kind? = some v.kind) :
    ∃ tv, TypedValue.ofValue (.standard s) v = .ok tv := by
  obtain ⟨tv, htv⟩ := exists_ofKind? h
  exact ⟨tv, by simp only [TypedValue.ofValue, Tag.kind?, h, if_true, htv]⟩

lemma ofValue_of_ne_kind (hs : s ≠ .null) (h : s.kind? ≠ some v.kind) :
    TypedValue.ofValue (.standard s) v = .error (unfitValue v (.standard s)) := by
  cases hkind : s.kind? with
  | none => cases s <;> first | exact absurd rfl hs | cases hkind
  | some k =>
    have hk : v.kind ≠ k := fun hk => h (by rw [hkind, hk])
    simp only [TypedValue.ofValue, Tag.kind?, hkind, if_neg hk, unfitValue]

end Standard

/-! ### One field -/

/-- What a value comes to under a tag. -/
inductive BoundAs (position : Nat) (v : Value) (tag : Tag) : Except WriteFailure Param → Prop
  | null (h : v.isNull = true ∨ tag = .standard .null) : BoundAs position v tag (.ok (.null tag))
  | object {c : Int32} (hv : v.isNull = false) (htag : tag = .other c) :
      BoundAs position v tag (.ok (.object v))
  | typed {s : Standard} {tv : TypedValue} (htag : tag = .standard s)
      (hkind : s.kind? = some v.kind) (hvalue : tv.value = v) :
      BoundAs position v tag (.ok (.typed tag tv))
  | mismatch {s : Standard} (hv : v.isNull = false) (htag : tag = .standard s) (hs : s ≠ .null)
      (hkind : s.kind? ≠ some v.kind) :
      BoundAs position v tag (.error (.mismatch position tag v.kind (unfitValue v tag)))

section Field

variable {position : Nat} {v : Value} {tag : Tag} {s : Standard}
  {result : Except WriteFailure Param}

lemma param_of_null (hv : v.isNull = true) :
    Binding.param position v (some tag) = .ok (.null tag.normalize) := by
  simp only [Binding.param, hv, if_true]

lemma param_of_null_tag (htag : tag.normalize = .standard .null) :
    Binding.param position v (some tag) = .ok (.null (.standard .null)) := by
  simp only [Binding.param, htag]
  split <;> rfl

lemma param_of_other {c : Int32} (hv : v.isNull = false) (htag : tag.normalize = .other c) :
    Binding.param position v (some tag) = .ok (.object v) := by
  simp only [Binding.param, htag, hv, Bool.false_eq_true, if_false]

lemma param_of_ok {tv : TypedValue} (hv : v.isNull = false) (htag : tag.normalize = .standard s)
    (hs : s ≠ .null) (h : TypedValue.ofValue (.standard s) v = .ok tv) :
    Binding.param position v (some tag) = .ok (.typed (.standard s) tv) := by
  cases s with
  | null => exact absurd rfl hs
  | _ => simp only [Binding.param, htag, hv, Bool.false_eq_true, if_false, h]

lemma param_of_error {e : Error} (hv : v.isNull = false) (htag : tag.normalize = .standard s)
    (hs : s ≠ .null) (h : TypedValue.ofValue (.standard s) v = .error e) :
    Binding.param position v (some tag) = .error (.mismatch position (.standard s) v.kind e) := by
  cases s with
  | null => exact absurd rfl hs
  | _ => simp only [Binding.param, htag, hv, Bool.false_eq_true, if_false, h]

lemma isNull_of_kind? (h : s.kind? = some v.kind) : v.isNull = false ∧ s ≠ .null := by
  constructor
  · cases v with
    | null => cases s <;> cases h
    | _ => rfl
  · rintro rfl
    cases h

lemma boundAs_param (position : Nat) (v : Value) (tag : Tag) :
    BoundAs position v tag.normalize (Binding.param position v (some tag)) := by
  cases hv : v.isNull with
  | true =>
    rw [param_of_null hv]
    exact .null (.inl hv)
  | false =>
    cases htag : tag.normalize with
    | other c =>
      rw [param_of_other hv htag]
      exact .object hv rfl
    | standard s =>
      by_cases hs : s = .null
      · subst hs
        rw [param_of_null_tag htag]
        exact .null (.inr rfl)
      · by_cases hkind : s.kind? = some v.kind
        · obtain ⟨tv, htv⟩ := ofValue_of_kind hkind
          rw [param_of_ok hv htag hs htv]
          exact .typed rfl hkind (value_of_ofValue htv)
        · rw [param_of_error hv htag hs (ofValue_of_ne_kind hs hkind)]
          exact .mismatch hv rfl hs hkind

lemma BoundAs.eq_param (h : BoundAs position v tag.normalize result) :
    Binding.param position v (some tag) = result := by
  generalize hnormal : tag.normalize = normal at h
  cases h with
  | null h =>
    rcases h with hv | rfl
    · rw [param_of_null hv, hnormal]
    · exact param_of_null_tag hnormal
  | object hv htag => exact param_of_other hv (hnormal.trans htag)
  | typed htag hkind hvalue =>
    obtain ⟨hv, hs⟩ := isNull_of_kind? hkind
    obtain ⟨tv', htv'⟩ := ofValue_of_kind hkind
    have hsame := TypedValue.ofKind?_value tv'
    rw [value_of_ofValue htv', ← hvalue, TypedValue.ofKind?_value, Option.some.injEq] at hsame
    subst hsame
    rw [param_of_ok hv (hnormal.trans htag) hs htv', htag]
  | mismatch hv htag hs hkind =>
    rw [param_of_error hv (hnormal.trans htag) hs (ofValue_of_ne_kind hs hkind), htag]

lemma BoundAs.isNull_iff {p : Param} (h : BoundAs position v tag (.ok p)) :
    p.isNull = true ↔ v.isNull = true ∨ tag = .standard .null := by
  cases h with
  | null h => exact iff_of_true rfl h
  | object hv htag => simp [Param.isNull, hv, htag]
  | typed htag hkind hvalue =>
    obtain ⟨hv, hs⟩ := isNull_of_kind? hkind
    simp [Param.isNull, hv, htag, hs]

end Field

/-- A parameter holds the value that it was made of, if it holds one; under a type it does so only
if the type is one that takes values. -/
structure Unaltered (p : Param) (v : Value) : Prop where
  typed : ∀ tag tv, p = .typed tag tv → tv.value = v ∧ ∃ s, tag = .standard s ∧ s ≠ .null
  object : ∀ w, p = .object w → w = v

lemma BoundAs.unaltered {position : Nat} {v : Value} {tag : Tag} {p : Param}
    (h : BoundAs position v tag (.ok p)) : Unaltered p v := by
  cases h with
  | null h => exact ⟨by simp, by simp⟩
  | object hv htag => exact ⟨by simp, fun w hw => (Param.object.inj hw).symm⟩
  | @typed s tv htag hkind hvalue =>
    refine ⟨?_, by simp⟩
    rintro _ _ ⟨⟩
    exact ⟨hvalue, s, htag, (isNull_of_kind? hkind).2⟩

/-- What comes of a value under a declared type, whichever way the type is given: by its own code it
is the same type. -/
theorem param_classified (position : Nat) (v : Value) (tag : Tag) :
    (∀ result, Binding.param position v (some tag) = result ↔
      BoundAs position v tag.normalize result) ∧
    Binding.param position v (some tag) = Binding.param position v (some tag.normalize) ∧
    (∀ s : Standard, Binding.param position v (some (.other s.code)) =
      Binding.param position v (some (.standard s))) ∧
    ∀ p, Binding.param position v (some tag) = .ok p →
      (p.isNull = true ↔ v.isNull = true ∨ tag.normalize = .standard .null) ∧ Unaltered p v := by
  have hiff (tag : Tag) (result : Except WriteFailure Param) :
      Binding.param position v (some tag) = result ↔ BoundAs position v tag.normalize result :=
    ⟨fun h => h ▸ boundAs_param position v tag, BoundAs.eq_param⟩
  have hsame {tag tag' : Tag} (h : tag.normalize = tag'.normalize) :
      Binding.param position v (some tag) = Binding.param position v (some tag') := by
    rw [hiff, h]
    exact boundAs_param position v tag'
  refine ⟨hiff tag, hsame (normalize_normalize tag).symm, fun s => hsame (normalize_code s), ?_⟩
  intro p hp
  have hbound := (hiff tag _).mp hp
  exact ⟨hbound.isNull_iff, hbound.unaltered⟩

/-- An integer under the code of `INTEGER`, and under that of `VARCHAR`, which takes none. -/
theorem param_classified_codes :
    Binding.param 1 (.int32 7) (some (.other 4)) =
        .ok (.typed (.standard .integer) (.int 7)) ∧
      Binding.param 2 (.int32 7) (some (.other 12)) = .error (.mismatch 2 (.standard .varchar)
        .int32 (unfitValue (.int32 7) (.standard .varchar))) := by
  have htaken : Standard.integer.kind? = some (Value.int32 7).kind := by decide
  have hrefused : Standard.varchar.kind? ≠ some (Value.int32 7).kind := by decide
  exact ⟨((param_classified 1 (.int32 7) (.other 4)).1 _).mpr (.typed rfl htaken rfl),
    ((param_classified 2 (.int32 7) (.other 12)).1 _).mpr (.mismatch rfl rfl (by decide) hrefused)⟩

end BatchInsert.Proofs
