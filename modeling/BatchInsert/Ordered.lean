/-!
# Ordered association lists

Entries in ascending order of their keys, each key once.
-/

namespace BatchInsert.Ordered

variable {κ α : Type} [LT κ] [DecidableLT κ] [DecidableEq κ]

/-- The entries with `k` set to `a`. -/
def insert (k : κ) (a : α) : List (κ × α) → List (κ × α)
  | [] => [(k, a)]
  | (j, b) :: rest =>
    if k < j then (k, a) :: (j, b) :: rest
    else if k = j then (k, a) :: rest
    else (j, b) :: insert k a rest

/-- The value at `k`. -/
def find? (k : κ) : List (κ × α) → Option α
  | [] => none
  | (j, b) :: rest => if k = j then some b else find? k rest

theorem find?_insert_self (k : κ) (a : α) (m : List (κ × α)) : find? k (insert k a m) = some a := by
  induction m with
  | nil => simp [insert, find?]
  | cons e m ih =>
    obtain ⟨j, b⟩ := e
    simp only [insert]
    split
    · simp [find?]
    · split
      · simp [find?]
      · simp [find?, *]

theorem find?_insert_of_ne {k l : κ} (h : l ≠ k) (a : α) (m : List (κ × α)) :
    find? l (insert k a m) = find? l m := by
  induction m with
  | nil => simp [insert, find?, h]
  | cons e m ih =>
    obtain ⟨j, b⟩ := e
    simp only [insert]
    split
    · simp [find?, h]
    · split
      · subst k
        simp [find?, h]
      · simp [find?, ih]

omit [LT κ] [DecidableLT κ] in
theorem find?_map {β : Type} (f : α → β) (k : κ) (m : List (κ × α)) :
    find? k (m.map fun (j, a) => (j, f a)) = (find? k m).map f := by
  induction m with
  | nil => rfl
  | cons e m ih =>
    simp only [List.map_cons, find?]
    split
    · rfl
    · exact ih

theorem mem_keys_insert {j k : κ} {a : α} {m : List (κ × α)} :
    j ∈ (insert k a m).map Prod.fst ↔ j = k ∨ j ∈ m.map Prod.fst := by
  induction m with
  | nil => simp [insert]
  | cons e m ih =>
    obtain ⟨i, b⟩ := e
    simp only [insert]
    split
    · simp
    · split
      · rename_i heq
        simp [heq]
      · simp only [List.map_cons, List.mem_cons, ih]
        exact or_left_comm

omit [LT κ] [DecidableLT κ] in
theorem isSome_find?_iff {k : κ} {m : List (κ × α)} :
    (find? k m).isSome = true ↔ k ∈ m.map Prod.fst := by
  induction m with
  | nil => simp [find?]
  | cons e m ih =>
    obtain ⟨i, b⟩ := e
    simp only [find?, List.map_cons, List.mem_cons]
    split
    · rename_i heq
      simp [heq]
    · rename_i hne
      simp only [hne, ih, false_or]

section Ascending

variable [Trans (α := κ) (· < ·) (· < ·) (· < ·)]

theorem ascending_insert [Std.Trichotomous (α := κ) (· < ·)] {k : κ} {a : α} {m : List (κ × α)}
    (h : (m.map Prod.fst).Pairwise (· < ·)) :
    ((insert k a m).map Prod.fst).Pairwise (· < ·) := by
  induction m with
  | nil => simp [insert]
  | cons e m ih =>
    obtain ⟨i, b⟩ := e
    obtain ⟨hhead, htail⟩ := List.pairwise_cons.mp h
    simp only [insert]
    split
    · rename_i hlt
      refine List.pairwise_cons.mpr ⟨?_, h⟩
      intro j hj
      rcases List.mem_cons.mp hj with rfl | hj
      · exact hlt
      · exact Trans.trans hlt (hhead j hj)
    · split
      · rename_i heq
        exact heq ▸ h
      · rename_i hnot hne
        refine List.pairwise_cons.mpr ⟨?_, ih htail⟩
        intro j hj
        rcases mem_keys_insert.mp hj with rfl | hj
        · exact Decidable.byContradiction fun hlt =>
            hne (Std.Trichotomous.trichotomous _ _ hnot hlt)
        · exact hhead j hj

omit [DecidableLT κ] [Trans (α := κ) (· < ·) (· < ·) (· < ·)] in
theorem find?_eq_none [Std.Irrefl (α := κ) (· < ·)] {k : κ} {m : List (κ × α)}
    (h : ∀ j ∈ m.map Prod.fst, k < j) : find? k m = none := by
  induction m with
  | nil => rfl
  | cons e m ih =>
    obtain ⟨i, b⟩ := e
    obtain ⟨hhead, htail⟩ := List.forall_mem_cons.mp h
    have hne : k ≠ i := by
      rintro rfl
      exact Std.Irrefl.irrefl (r := (· < ·)) k hhead
    rw [find?, if_neg hne, ih htail]

omit [DecidableLT κ] in
theorem not_lt_of_find? [Std.Irrefl (α := κ) (· < ·)] {k : κ} {a : α} {e : κ × α}
    {m : List (κ × α)} (h : ((e :: m).map Prod.fst).Pairwise (· < ·))
    (hfound : find? k (e :: m) = some a) : ¬ k < e.1 := by
  intro hlt
  have hnone : find? k (e :: m) = none := find?_eq_none fun j hj => by
    rcases List.mem_cons.mp hj with rfl | hj
    · exact hlt
    · exact Trans.trans hlt ((List.pairwise_cons.mp h).1 j hj)
  cases hnone.symm.trans hfound

omit [DecidableLT κ] in
/-- Entries in ascending order are told apart by what is found in them. -/
theorem eq_of_find?_eq [Std.Irrefl (α := κ) (· < ·)] [Std.Trichotomous (α := κ) (· < ·)]
    {m m' : List (κ × α)} (h : (m.map Prod.fst).Pairwise (· < ·))
    (h' : (m'.map Prod.fst).Pairwise (· < ·)) (heq : ∀ k, find? k m = find? k m') : m = m' := by
  induction m generalizing m' with
  | nil =>
    cases m' with
    | nil => rfl
    | cons e' m' =>
      have hfound := heq e'.1
      simp [find?] at hfound
  | cons e m ih =>
    obtain ⟨k, a⟩ := e
    obtain ⟨hhead, htail⟩ := List.pairwise_cons.mp h
    cases m' with
    | nil =>
      have hfound := heq k
      simp [find?] at hfound
    | cons e' m' =>
      obtain ⟨k', a'⟩ := e'
      obtain ⟨hhead', htail'⟩ := List.pairwise_cons.mp h'
      have hfound : find? k ((k', a') :: m') = some a := by
        rw [← heq, find?, if_pos rfl]
      have hfound' : find? k' ((k, a) :: m) = some a' := by
        rw [heq, find?, if_pos rfl]
      have hkey : k = k' := Std.Trichotomous.trichotomous (r := (· < ·)) k k'
        (not_lt_of_find? h' hfound) (not_lt_of_find? h hfound')
      subst hkey
      have hvalue : a = a' := by simpa [find?] using heq k
      have hrest : ∀ j, find? j m = find? j m' := by
        intro j
        by_cases hj : j = k
        · rw [hj, find?_eq_none hhead, find?_eq_none hhead']
        · simpa [find?, hj] using heq j
      rw [hvalue, ih htail htail' hrest]

end Ascending

end BatchInsert.Ordered
