import BatchInsert.Proofs.Discarding
import Mathlib.Order.Interval.Finset.Nat

/-!
# Which positions are bound

The bound parameters of a statement stand in ascending order of their positions, each of which is
one of the placeholders. So there are as many parameters as placeholders exactly when every
placeholder has one, and a row lists them by position, in whatever order they were bound.
-/

namespace BatchInsert.Proofs

open Database (Backend Error Placeholders Reply)

variable {α ω κ τ σ : Type}

/-! ### Entries under ascending numbers -/

def keys (m : List (Nat × α)) : List Nat := m.map Prod.fst

lemma mem_keys_insert {j k : Nat} {a : α} {m : List (Nat × α)} :
    j ∈ keys (Ordered.insert k a m) ↔ j = k ∨ j ∈ keys m :=
  Ordered.mem_keys_insert

lemma ascending_insert {k : Nat} {a : α} {m : List (Nat × α)} (h : (keys m).Pairwise (· < ·)) :
    (keys (Ordered.insert k a m)).Pairwise (· < ·) :=
  Ordered.ascending_insert h

lemma find?_insert_eq_update {bound : Nat → Option α} {position : Nat} {a : α}
    {m : List (Nat × α)} (h : ∀ k, Ordered.find? k m = bound k) (k : Nat) :
    Ordered.find? k (Ordered.insert position a m) =
      Function.update bound position (some a) k := by
  by_cases hk : k = position
  · subst hk
    rw [Ordered.find?_insert_self, Function.update_self]
  · rw [Ordered.find?_insert_of_ne hk, Function.update_of_ne hk, h]

lemma isSome_find?_iff {k : Nat} {m : List (Nat × α)} :
    (Ordered.find? k m).isSome = true ↔ k ∈ keys m :=
  Ordered.isSome_find?_iff

/-- If all numbers from `n` to `n + i` have entries, and none before them has, the entry of `n + i`
is the one at index `i`. -/
lemma getElem?_of_all_keys {n i : Nat} {m : List (Nat × α)} (hsorted : (keys m).Pairwise (· < ·))
    (hlow : ∀ k ∈ keys m, n ≤ k) (hall : ∀ k, n ≤ k → k ≤ n + i → k ∈ keys m) :
    (m.map Prod.snd)[i]? = Ordered.find? (n + i) m := by
  induction m generalizing n i with
  | nil => cases hall n (Nat.le_refl n) (Nat.le_add_right n i)
  | cons e m ih =>
    obtain ⟨j, b⟩ := e
    obtain ⟨hhead, htail⟩ := List.pairwise_cons.mp hsorted
    have hfirst : n = j := by
      have hj : n ≤ j := hlow j List.mem_cons_self
      rcases List.mem_cons.mp (hall n (Nat.le_refl n) (Nat.le_add_right n i)) with h | h
      · exact h
      · exact absurd (hhead n h) (by omega)
    subst hfirst
    cases i with
    | zero => simp [Ordered.find?]
    | succ i =>
      have hrest := ih (n := n + 1) (i := i) htail hhead fun k hk hki => by
        rcases List.mem_cons.mp (hall k (by omega) (by omega)) with h | h
        · exact absurd h (by simp only; omega)
        · exact h
      rw [List.map_cons, List.getElem?_cons_succ, hrest, Ordered.find?, if_neg (by omega),
        Nat.add_assoc, Nat.add_comm 1]

/-! ### Placeholders -/

/-- Each parameter stands at a placeholder, and after those of the placeholders before it. -/
structure Tidy (x : Placeholders) : Prop where
  ascending : (keys x.bound).Pairwise (· < ·)
  inRange : ∀ k ∈ keys x.bound, 1 ≤ k ∧ k ≤ x.count

namespace Tidy

variable {x : Placeholders}

lemma of_nothing_bound (h : x.bound = []) : Tidy x := by
  constructor <;> simp [h, keys]

lemma keys_eq_iff (h : Tidy x) :
    x.bound.length = x.count ↔ ∀ k, 1 ≤ k → k ≤ x.count → k ∈ keys x.bound := by
  have hlength : (keys x.bound).length = x.bound.length := List.length_map _
  have hcard : (keys x.bound).toFinset.card = x.bound.length := by
    rw [List.toFinset_card_of_nodup (h.ascending.imp ne_of_lt), hlength]
  have hsub : (keys x.bound).toFinset ⊆ Finset.Icc 1 x.count := by
    intro k hk
    exact Finset.mem_Icc.mpr (h.inRange k (List.mem_toFinset.mp hk))
  have hfull : (Finset.Icc 1 x.count).card = x.count := by simp
  constructor
  · intro hcount k hlow hhigh
    have heq := Finset.eq_of_subset_of_card_le hsub (by omega)
    rw [← List.mem_toFinset, heq]
    exact Finset.mem_Icc.mpr ⟨hlow, hhigh⟩
  · intro hall
    have hsuper : Finset.Icc 1 x.count ⊆ (keys x.bound).toFinset := by
      intro k hk
      obtain ⟨hlow, hhigh⟩ := Finset.mem_Icc.mp hk
      exact List.mem_toFinset.mpr (hall k hlow hhigh)
    have := Finset.card_le_card hsuper
    have := Finset.card_le_card hsub
    omega

lemma full_iff (h : Tidy x) :
    x.bound.length = x.count ↔ ∀ i < x.count, (Ordered.find? (i + 1) x.bound).isSome = true := by
  rw [h.keys_eq_iff]
  constructor
  · intro hall i hi
    exact isSome_find?_iff.mpr (hall (i + 1) (by omega) hi)
  · intro hall k hlow hhigh
    have hk := hall (k - 1) (by omega)
    rw [Nat.sub_add_cancel hlow] at hk
    exact isSome_find?_iff.mp hk

lemma getElem?_row (h : Tidy x) (hfull : x.bound.length = x.count) (i : Nat) :
    (x.bound.map Prod.snd)[i]? = Ordered.find? (i + 1) x.bound := by
  by_cases hi : i < x.count
  · rw [Nat.add_comm]
    refine getElem?_of_all_keys h.ascending (fun k hk => (h.inRange k hk).1) fun k hlow hhigh => ?_
    exact h.keys_eq_iff.mp hfull k hlow (by omega)
  · have hnone : Ordered.find? (i + 1) x.bound = none := by
      rw [← Option.not_isSome_iff_eq_none, isSome_find?_iff]
      intro hk
      have := h.inRange _ hk
      omega
    rw [hnone, List.getElem?_eq_none]
    rw [List.length_map, hfull]
    omega

end Tidy

/-- The placeholders after a call on their statement. -/
def placeholdersAfter (c : StatementCall) (x : Placeholders) : Placeholders :=
  match c with
  | .bind position p => (x.bind position p).toOption.getD x
  | .addBatch => (x.takeRow.toOption.map Prod.snd).getD x
  | .executeBatch => x
  | .close => x.clear

/-- The parameters that are bound, by position. -/
abbrev Bindings := Nat → Option Sql.Param

/-- Whether every one of `n` placeholders has a parameter. -/
def Bindings.isFull (n : Nat) (bound : Bindings) : Prop := ∀ i < n, (bound (i + 1)).isSome = true

instance (n : Nat) (bound : Bindings) : Decidable (bound.isFull n) :=
  inferInstanceAs (Decidable (∀ i < n, (bound (i + 1)).isSome = true))

/-- What is bound after a call on a statement with `n` placeholders: a parameter takes the place of
the one bound before it, and all are gone when they have been moved into the batch as a row, or when
the statement is closed. -/
def bindingsAfter (n : Nat) (bound : Bindings) : StatementCall → Bindings
  | .bind position p =>
    if 1 ≤ position ∧ position ≤ n then Function.update bound position (some p) else bound
  | .addBatch => if bound.isFull n then fun _ => none else bound
  | .executeBatch => bound
  | .close => fun _ => none

/-- What is bound after calls, nothing having been bound before them. -/
def boundBy (n : Nat) (calls : List StatementCall) : Bindings :=
  calls.foldl (bindingsAfter n) fun _ => none

/-- The placeholders hold the given parameters. -/
structure Tells (x : Placeholders) (n : Nat) (bound : Bindings) : Prop extends Tidy x where
  count : x.count = n
  found : ∀ k, Ordered.find? k x.bound = bound k

namespace Tells

variable {x : Placeholders} {n : Nat} {bound : Bindings}

lemma of_nothing_bound (h : x.bound = []) : Tells x x.count fun _ => none :=
  ⟨Tidy.of_nothing_bound h, rfl, fun _ => by rw [h]; rfl⟩

lemma full_iff (h : Tells x n bound) : x.bound.length = x.count ↔ bound.isFull n := by
  rw [h.toTidy.full_iff, h.count]
  exact forall_congr' fun i => by rw [h.found]

lemma bind_ok_iff (h : Tells x n bound) (position : Nat) (p : Sql.Param) :
    (∃ y, x.bind position p = .ok y) ↔ 1 ≤ position ∧ position ≤ n := by
  rw [← h.count]
  constructor
  · rintro ⟨y, hy⟩
    exact (placeholders_bind_ok hy).2
  · intro hrange
    exact ⟨_, if_neg (by omega)⟩

lemma takeRow_ok_iff (h : Tells x n bound) :
    (∃ row y, x.takeRow = .ok (row, y)) ↔ bound.isFull n := by
  rw [← h.full_iff]
  constructor
  · rintro ⟨row, y, hy⟩
    exact (placeholders_takeRow_ok hy).2
  · intro hfull
    exact ⟨_, _, if_pos hfull⟩

lemma row_eq (h : Tells x n bound) {row : List Sql.Param} {y : Placeholders}
    (hrow : x.takeRow = .ok (row, y)) : row.length = n ∧ ∀ i, row[i]? = bound (i + 1) := by
  have hfull := (placeholders_takeRow_ok hrow).2
  have heq : row = x.bound.map Prod.snd := by
    rw [Placeholders.takeRow, if_pos hfull] at hrow
    cases hrow
    rfl
  subst heq
  refine ⟨?_, fun i => ?_⟩
  · rw [List.length_map, hfull, h.count]
  · rw [h.toTidy.getElem?_row hfull, h.found]

lemma bind (h : Tells x n bound) {position : Nat} {p : Sql.Param} {y : Placeholders}
    (hy : x.bind position p = .ok y) : Tells y n (Function.update bound position (some p)) := by
  obtain ⟨_, hlow, hhigh⟩ := placeholders_bind_ok hy
  rw [Placeholders.bind, if_neg (by omega)] at hy
  cases hy
  refine ⟨⟨ascending_insert h.ascending, ?_⟩, h.count, ?_⟩
  · intro k hk
    rcases mem_keys_insert.mp hk with rfl | hk
    · exact ⟨hlow, hhigh⟩
    · exact h.inRange k hk
  · exact find?_insert_eq_update h.found

lemma cleared (h : Tells x n bound) : Tells x.clear n fun _ => none := by
  rw [← h.count]
  exact Tells.of_nothing_bound (x := x.clear) rfl

lemma after (h : Tells x n bound) (c : StatementCall) :
    Tells (placeholdersAfter c x) n (bindingsAfter n bound c) := by
  cases c with
  | bind position p =>
    have hrange := h.bind_ok_iff position p
    cases hbind : x.bind position p with
    | error e =>
      simp only [hbind, reduceCtorEq, exists_false, false_iff] at hrange
      simp only [placeholdersAfter, bindingsAfter, hbind, if_neg hrange]
      exact h
    | ok y =>
      simp only [hbind, Except.ok.injEq, exists_eq', true_iff] at hrange
      simp only [placeholdersAfter, bindingsAfter, hbind, if_pos hrange]
      exact h.bind hbind
  | addBatch =>
    have hfull := h.takeRow_ok_iff
    cases htake : x.takeRow with
    | error e =>
      simp only [htake, reduceCtorEq, exists_false, false_iff] at hfull
      simp only [placeholdersAfter, bindingsAfter, htake, if_neg hfull]
      exact h
    | ok taken =>
      have hclear : taken.2 = x.clear := by
        rw [Placeholders.takeRow, if_pos (placeholders_takeRow_ok htake).2] at htake
        cases htake
        rfl
      simp only [placeholdersAfter, bindingsAfter, htake,
        if_pos (hfull.mp ⟨taken.1, taken.2, htake⟩)]
      change Tells taken.2 n _
      rw [hclear]
      exact h.cleared
  | executeBatch => exact h
  | close => exact h.cleared

end Tells

/-- A statement whose calls answer as its placeholders do, and which forgets the parameters when it
is closed, holds after every call what its placeholders hold. -/
lemma places_ask {b : Backend ω κ τ} {places : τ → Placeholders} (hb : Placed b places)
    (hclose : ∀ s w, places (b.closeStatement s w).state.1 = (places s).clear)
    (c : StatementCall) (s : τ) (w : ω) :
    places (c.ask b s w).state.1 = placeholdersAfter c (places s) := by
  cases c with
  | bind position p =>
    cases hbind : (places s).bind position p with
    | error e =>
      simp only [placeholdersAfter, hbind]
      exact congrArg places (hb.bind_error hbind).2
    | ok y =>
      simp only [placeholdersAfter, hbind]
      exact (hb.bind_ok hbind).2.1
  | addBatch =>
    cases htake : (places s).takeRow with
    | error e =>
      simp only [placeholdersAfter, htake]
      exact congrArg places (hb.add_error htake).2
    | ok taken =>
      simp only [placeholdersAfter, htake]
      exact (hb.add_ok htake).2.1
  | executeBatch => exact (hb.execute s w).1
  | close => exact hclose s w

lemma tells_leftBy {b : Backend ω κ τ} {places : τ → Placeholders} (hb : Placed b places)
    (hclose : ∀ s w, places (b.closeStatement s w).state.1 = (places s).clear)
    {sql : String} {c : κ} {w : ω} {s : τ} (hs : (b.prepare sql c w).result = .ok s)
    (calls : List (StatementCall × ω)) :
    Tells (places (leftBy b calls s)) (places s).count
      (boundBy (places s).count (calls.map Prod.fst)) := by
  have hrun : ∀ {n : Nat} {bound : Bindings} {s : τ}, Tells (places s) n bound →
      Tells (places (leftBy b calls s)) n
        ((calls.map Prod.fst).foldl (bindingsAfter n) bound) := by
    induction calls with
    | nil => exact id
    | cons call calls ih =>
      intro n bound s h
      refine ih ?_
      rw [places_ask hb hclose]
      exact h.after call.1
  exact hrun (Tells.of_nothing_bound (hb.prepare hs).1)

lemma places_close_postgres (server : Postgres.Server σ) (s : Postgres.Statement) (w : σ) :
    ((Postgres.backend server).closeStatement s w).state.1.placeholders = s.placeholders.clear :=
  rfl

lemma places_close_mysql (server : Mysql.Server σ) (s : Mysql.Statement) (w : Mysql.World σ) :
    ((Mysql.backend server).closeStatement s w).state.1.placeholders = s.placeholders.clear := by
  simp only [Mysql.backend, Mysql.Statement.close]
  repeat' split
  all_goals rfl

end BatchInsert.Proofs
