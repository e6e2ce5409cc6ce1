import BatchInsert.Proofs.Positions

/-!
# Rows that the in-memory backend records

In memory the placeholders of a statement are not counted. A row lists what has been bound since the
row before it, in ascending order of the positions but without them. So a parameter stands at the
index of its placeholder as long as every placeholder before has one. Behind one that has none, all
parameters move up and stand at the indices of others.
-/

namespace BatchInsert.Proofs

open Database (Error)
open Memory (Row)

variable {α : Type}

/-! ### Entries without their numbers -/

lemma find?_of_mem {m : List (Nat × α)} (hsorted : (keys m).Pairwise (· < ·)) {e : Nat × α}
    (he : e ∈ m) : Ordered.find? e.1 m = some e.2 := by
  induction m with
  | nil => cases he
  | cons entry m ih =>
    obtain ⟨hhead, htail⟩ := List.pairwise_cons.mp hsorted
    rcases List.mem_cons.mp he with rfl | he
    · exact if_pos rfl
    · have hlt := hhead e.1 (List.mem_map_of_mem he)
      rw [Ordered.find?, if_neg (Nat.ne_of_gt hlt), ih htail he]

lemma le_of_getElem?_ascending {n i k : Nat} {l : List Nat} (hsorted : l.Pairwise (· < ·))
    (hlow : ∀ j ∈ l, n ≤ j) (hk : l[i]? = some k) : n + i ≤ k := by
  induction l generalizing n i with
  | nil => cases hk
  | cons j l ih =>
    obtain ⟨hhead, htail⟩ := List.pairwise_cons.mp hsorted
    have hj : n ≤ j := hlow j List.mem_cons_self
    cases i with
    | zero =>
      cases hk
      exact hj
    | succ i =>
      have hnext := ih (n := j + 1) htail hhead hk
      omega

lemma le_length_of_all_mem {l : List Nat} (hall : ∀ i < l.length, i + 1 ∈ l) {k : Nat}
    (hk : k ∈ l) : k ≤ l.length := by
  have hsub : List.range' 1 l.length ⊆ l := by
    intro j hj
    obtain ⟨hlow, hhigh⟩ := List.mem_range'_1.mp hj
    have hmem := hall (j - 1) (by omega)
    rwa [Nat.sub_add_cancel hlow] at hmem
  have hperm : (List.range' 1 l.length).Perm l :=
    (List.subperm_of_subset List.nodup_range' hsub).perm_of_length_le (by rw [List.length_range'])
  have := List.mem_range'_1.mp (hperm.mem_iff.mpr hk)
  omega

/-! ### What a statement holds -/

/-- The parameters that are held after a call that is answered so. A call that fails leaves them,
and a bind that succeeds replaces what was bound at its position. -/
def heldAfter (held : Bindings) (c : StatementCall) : Except Error (List Nat) → Bindings
  | .error _ => held
  | .ok _ =>
    match c with
    | .bind position p => Function.update held position (some p)
    | .executeBatch => held
    | .addBatch | .close => fun _ => none

/-- The parameters that are held after calls, each of which finds some world. -/
def heldAlong : List (StatementCall × Memory.World) → Memory.Statement → Bindings → Bindings
  | [], _, held => held
  | (c, w) :: calls, s, held =>
    let reply := c.ask Memory.backend s w
    heldAlong calls reply.state.1 (heldAfter held c reply.result)

/-- The statement lists the parameters in ascending order of their positions. -/
structure Lists (s : Memory.Statement) (held : Bindings) : Prop where
  ascending : (keys s.current).Pairwise (· < ·)
  positive : ∀ k ∈ keys s.current, 1 ≤ k
  found : ∀ k, Ordered.find? k s.current = held k

namespace Lists

variable {s : Memory.Statement} {held : Bindings}

lemma of_nothing_bound (h : s.current = []) : Lists s fun _ => none := by
  refine ⟨?_, ?_, ?_⟩
  · simp [h, keys]
  · simp [h, keys]
  · simp [h, Ordered.find?]

lemma mem_keys_iff (h : Lists s held) (k : Nat) :
    k ∈ keys s.current ↔ (held k).isSome = true := by
  rw [← isSome_find?_iff, h.found]

lemma bind (h : Lists s held) {position : Nat} (hposition : position ≠ 0) (p : Sql.Param) :
    Lists { s with current := Ordered.insert position p s.current }
      (Function.update held position (some p)) := by
  refine ⟨ascending_insert h.ascending, ?_, ?_⟩
  · intro k hk
    rcases mem_keys_insert.mp hk with rfl | hk
    · exact Nat.one_le_iff_ne_zero.mpr hposition
    · exact h.positive k hk
  · exact find?_insert_eq_update h.found

lemma ask (h : Lists s held) (c : StatementCall) (w : Memory.World) :
    Lists (c.ask Memory.backend s w).state.1
      (heldAfter held c (c.ask Memory.backend s w).result) := by
  cases c with
  | bind position p =>
    simp only [StatementCall.ask, uncounted, Memory.backend, Memory.Statement.bind]
    split
    · exact h
    · rename_i hposition
      split
      · exact h
      · exact h.bind hposition p
  | addBatch =>
    simp only [StatementCall.ask, uncounted, Memory.backend, Memory.Statement.addBatch]
    split
    · exact h
    · exact of_nothing_bound rfl
  | executeBatch =>
    simp only [StatementCall.ask, Memory.backend, Memory.Statement.executeBatch]
    split <;> exact ⟨h.ascending, h.positive, h.found⟩
  | close =>
    simp only [StatementCall.ask, uncounted, Memory.backend, Memory.Statement.close]
    split
    · exact h
    · exact of_nothing_bound rfl

lemma leftBy (h : Lists s held) (calls : List (StatementCall × Memory.World)) :
    Lists (leftBy Memory.backend calls s) (heldAlong calls s held) := by
  induction calls generalizing s held with
  | nil => exact h
  | cons call calls ih => exact ih (h.ask call.1 call.2)

end Lists

/-! ### Rows -/

/-- The row is what is held at the positions, which are all at which something is. -/
structure InOrder (held : Bindings) (positions : List Nat) (row : Row) : Prop where
  ascending : positions.Pairwise (· < ·)
  positive : ∀ k ∈ positions, 1 ≤ k
  mem_iff : ∀ k, k ∈ positions ↔ (held k).isSome = true
  parameters : row.map some = positions.map held

/-- At each index of the row is the parameter of the position after it. -/
def ByPosition (held : Bindings) (row : Row) : Prop := ∀ i < row.length, row[i]? = held (i + 1)

/-- Every position before one at which something is held holds something, too. -/
def Bindings.Contiguous (held : Bindings) : Prop :=
  ∀ k l, 1 ≤ k → k ≤ l → (held l).isSome = true → (held k).isSome = true

namespace Lists

variable {s : Memory.Statement} {held : Bindings}

lemma inOrder (h : Lists s held) :
    InOrder held (keys s.current) (s.current.map Prod.snd) := by
  refine ⟨h.ascending, h.positive, h.mem_keys_iff, ?_⟩
  rw [keys, List.map_map, List.map_map]
  refine List.map_congr_left fun e he => ?_
  exact ((h.found e.1).symm.trans (find?_of_mem h.ascending he)).symm

lemma getElem?_row (h : Lists s held) {i : Nat}
    (hall : ∀ k, 1 ≤ k → k ≤ i + 1 → (held k).isSome = true) :
    (s.current.map Prod.snd)[i]? = held (i + 1) := by
  rw [← h.found, Nat.add_comm i]
  refine getElem?_of_all_keys h.ascending h.positive fun k hlow hhigh => ?_
  exact (h.mem_keys_iff k).mpr (hall k hlow (by omega))

lemma byPosition_iff (h : Lists s held) :
    ByPosition held (s.current.map Prod.snd) ↔ held.Contiguous := by
  have hlength : (keys s.current).length = (s.current.map Prod.snd).length := by simp [keys]
  constructor
  · intro hrow k l hlow hkl hl
    have hall : ∀ i < (keys s.current).length, i + 1 ∈ keys s.current := by
      intro i hi
      rw [hlength] at hi
      rw [h.mem_keys_iff, ← hrow i hi, List.getElem?_eq_getElem hi, Option.isSome_some]
    have hlast := le_length_of_all_mem hall ((h.mem_keys_iff l).mpr hl)
    have hmem := hall (k - 1) (by omega)
    rwa [Nat.sub_add_cancel hlow, h.mem_keys_iff] at hmem
  · intro hheld i hi
    rw [← hlength] at hi
    have hlast := le_of_getElem?_ascending h.ascending h.positive (List.getElem?_eq_getElem hi)
    have hbound := (h.mem_keys_iff _).mp (List.getElem_mem hi)
    exact h.getElem?_row fun k hlow hhigh => hheld k _ hlow (by omega) hbound

end Lists

/-- Whatever has been called on a statement since it was prepared, in whatever worlds: a row that is
moved into the batch is what is held then, in ascending order of the positions, and an execution
that succeeds records it behind the rows before it. A parameter is at the index of its placeholder
if something is held at every position before. All parameters of the row are so exactly when no
position is left out. -/
theorem recorded_row {sql : String} {c : Memory.Connection} {w : Memory.World}
    {s : Memory.Statement} (hs : (Memory.prepare sql c w).result = .ok s)
    (calls : List (StatementCall × Memory.World)) (w' : Memory.World) :
    let later := leftBy Memory.backend calls s
    let held := heldAlong calls s fun _ => none
    let adding := later.addBatch w'
    adding.result = .ok () → ∃ (positions : List Nat) (row : Row),
      adding.state.1.batch = later.batch.push row ∧ InOrder held positions row ∧
      (∀ (w'' : Memory.World) (counts : List Nat),
        (adding.state.1.executeBatch w'').result = .ok counts →
        (adding.state.1.executeBatch w'').state.2.journal.batches =
          w''.journal.batches.push (later.batch.toList ++ [row])) ∧
      (∀ i, (∀ k, 1 ≤ k → k ≤ i + 1 → (held k).isSome = true) → row[i]? = held (i + 1)) ∧
      (ByPosition held row ↔ held.Contiguous) := by
  intro later held adding hadded
  have hlists : Lists later held :=
    (Lists.of_nothing_bound (lawful_memory.prepare hs).1).leftBy calls
  have hbatch : adding.state.1.batch = later.batch.push (later.current.map Prod.snd) := by
    simp only [adding, Memory.Statement.addBatch] at hadded ⊢
    split at hadded
    · cases hadded
    · rename_i hfault
      rw [if_neg hfault]
      rfl
  refine ⟨keys later.current, later.current.map Prod.snd, hbatch, hlists.inOrder, ?_,
    fun i => hlists.getElem?_row, hlists.byPosition_iff⟩
  intro w'' counts hexecuted
  simp only [Memory.Statement.executeBatch] at hexecuted ⊢
  split at hexecuted
  · cases hexecuted
  · rename_i hfault
    rw [if_neg hfault, hbatch]
    simp [Database.Reply.ok, Memory.Journal.execute]

/-- Parameters that are bound out of order, one of them anew, are at the indices of their
placeholders. -/
theorem recorded_row_out_of_order :
    let s : Memory.Statement := ⟨"INSERT INTO t VALUES (?, ?)", [], #[]⟩
    let calls : List (StatementCall × Memory.World) :=
      [(.bind 2 (.object (.int32 5)), .start), (.bind 1 (.object (.int32 7)), .start),
        (.bind 2 (.object (.int32 9)), .start)]
    let held := heldAlong calls s fun _ => none
    let adding := (leftBy Memory.backend calls s).addBatch .start
    (Memory.prepare s.sql ⟨false⟩ .start).result = .ok s ∧ adding.result = .ok () ∧
      held.Contiguous ∧
      ∃ row, adding.state.1.batch = #[row] ∧ ByPosition held row ∧
        row[1]? = some (.object (.int32 9)) := by
  intro s calls held adding
  have hprepared : (Memory.prepare s.sql ⟨false⟩ .start).result = .ok s := rfl
  have hadded : adding.result = .ok () := rfl
  have hheld : ∀ k, (held k).isSome = true ↔ k = 1 ∨ k = 2 := by
    intro k
    have hcalls : held = Function.update (Function.update (Function.update (fun _ => none) 2
        (some (.object (.int32 5)))) 1 (some (.object (.int32 7)))) 2
        (some (.object (.int32 9))) := rfl
    rw [hcalls]
    by_cases h2 : k = 2
    · simp [h2]
    · by_cases h1 : k = 1
      · simp [h1]
      · simp [Function.update_of_ne, h1, h2]
  have hcontiguous : held.Contiguous := by
    intro k l hlow hkl hl
    rw [hheld] at hl ⊢
    omega
  obtain ⟨positions, row, hbatch, -, -, hindex, hrow⟩ :=
    recorded_row hprepared calls .start hadded
  refine ⟨hprepared, hadded, hcontiguous, row, hbatch, hrow.mpr hcontiguous, ?_⟩
  exact hindex 1 fun k hlow hhigh => (hheld k).mpr (by omega)

/-- Nothing is bound at the second of three placeholders. The row has the parameter of the third at
the index of the second. -/
theorem sparse_row_moves_up :
    let s : Memory.Statement := ⟨"INSERT INTO t VALUES (?, ?, ?)", [], #[]⟩
    let calls : List (StatementCall × Memory.World) :=
      [(.bind 1 (.object (.int32 7)), .start), (.bind 3 (.object (.int32 9)), .start)]
    let held := heldAlong calls s fun _ => none
    let adding := (leftBy Memory.backend calls s).addBatch .start
    let row : Row := [.object (.int32 7), .object (.int32 9)]
    (Memory.prepare s.sql ⟨false⟩ .start).result = .ok s ∧ adding.result = .ok () ∧
      adding.state.1.batch = #[row] ∧ held 2 = none ∧ row[1]? = held 3 ∧
      ¬ ByPosition held row := by
  intro s calls held adding row
  refine ⟨rfl, rfl, rfl, rfl, rfl, ?_⟩
  intro hrow
  cases hrow 1 (by decide)

end BatchInsert.Proofs
