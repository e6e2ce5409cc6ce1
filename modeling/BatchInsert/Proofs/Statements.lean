import BatchInsert.Builtin
import Mathlib.Tactic.Lemma

/-!
# What a backend does to a statement

A statement holds the parameters that are bound so far and a batch of rows. What the calls on it do
to the two is the same over every built-in backend, save that a statement of a server has numbered
placeholders and checks against their number.
-/

namespace BatchInsert.Proofs

open Database (Backend Placeholders Reply)

variable {ω κ τ σ σ' : Type}

/-- The parameters bound so far, and the number of placeholders where they are numbered. -/
structure Slots where
  bound : List (Nat × Sql.Param)
  room : Option Nat

/-- The calls of a backend on statements. One that fails changes nothing, save that an execution
always empties the batch. -/
structure Lawful (b : Backend ω κ τ) (slots : τ → Slots) : Prop where
  prepare : ∀ {sql c w s}, (b.prepare sql c w).result = .ok s →
    (slots s).bound = [] ∧ b.batchLength s = 0
  bind_ok : ∀ {position p s w}, (b.bind position p s w).result = .ok () →
    slots (b.bind position p s w).state.1 =
        { slots s with bound := Ordered.insert position p (slots s).bound } ∧
      b.batchLength (b.bind position p s w).state.1 = b.batchLength s
  bind_error : ∀ {position p s w e}, (b.bind position p s w).result = .error e →
    (b.bind position p s w).state.1 = s
  bind_gate : ∀ {position p s w n}, (slots s).room = some n →
    ((b.bind position p s w).result = .ok () ↔ 1 ≤ position ∧ position ≤ n)
  add_ok : ∀ {s w}, (b.addBatch s w).result = .ok () →
    slots (b.addBatch s w).state.1 = { slots s with bound := [] } ∧
      b.batchLength (b.addBatch s w).state.1 = b.batchLength s + 1
  add_error : ∀ {s w e}, (b.addBatch s w).result = .error e → (b.addBatch s w).state.1 = s
  add_gate : ∀ {s w n}, (slots s).room = some n →
    ((b.addBatch s w).result = .ok () ↔ (slots s).bound.length = n)
  execute : ∀ s w, slots (b.executeBatch s w).state.1 = slots s ∧
    b.batchLength (b.executeBatch s w).state.1 = 0

/-! ### Statements in memory -/

/-- The in-memory backend takes any position. -/
def memorySlots (s : Memory.Statement) : Slots := ⟨s.current, none⟩

theorem lawful_memory : Lawful Memory.backend memorySlots where
  prepare := by
    intro sql c w s h
    simp only [Memory.backend, Memory.prepare] at h
    repeat' split at h
    · cases h
    · cases h
    · cases h
      exact ⟨rfl, rfl⟩
  bind_ok := by
    intro position p s w h
    simp only [Memory.backend, Memory.Statement.bind] at h ⊢
    repeat' split at h
    · cases h
    · cases h
    · rename_i hposition hfault
      rw [if_neg hposition, if_neg hfault]
      exact ⟨rfl, rfl⟩
  bind_error := by
    intro position p s w e h
    simp only [Memory.backend, Memory.Statement.bind] at h ⊢
    repeat' split
    · rfl
    · rfl
    · rename_i hposition hfault
      rw [if_neg hposition, if_neg hfault] at h
      cases h
  bind_gate := by
    intro position p s w n hroom
    cases hroom
  add_ok := by
    intro s w h
    simp only [Memory.backend, Memory.Statement.addBatch] at h ⊢
    split at h
    · cases h
    · rename_i hfault
      rw [if_neg hfault]
      exact ⟨rfl, Array.size_push _⟩
  add_error := by
    intro s w e h
    simp only [Memory.backend, Memory.Statement.addBatch] at h ⊢
    split at h
    · rename_i hfault
      rw [if_pos hfault]
      rfl
    · cases h
  add_gate := by
    intro s w n hroom
    cases hroom
  execute := by
    intro s w
    simp only [Memory.backend, Memory.Statement.executeBatch]
    split <;> exact ⟨rfl, rfl⟩

/-! ### Statements of a server -/

def placeholderSlots (x : Placeholders) : Slots := ⟨x.bound, some x.count⟩

lemma placeholders_bind_ok {position : Nat} {p : Sql.Param} {x y : Placeholders}
    (h : x.bind position p = .ok y) :
    placeholderSlots y =
        { placeholderSlots x with bound := Ordered.insert position p x.bound } ∧
      1 ≤ position ∧ position ≤ x.count := by
  simp only [Placeholders.bind] at h
  split at h
  · cases h
  · cases h
    exact ⟨rfl, by omega⟩

lemma placeholders_bind_error {position : Nat} {p : Sql.Param} {x : Placeholders}
    {e : Database.Error} (h : x.bind position p = .error e) :
    ¬ (1 ≤ position ∧ position ≤ x.count) := by
  simp only [Placeholders.bind] at h
  split at h
  · omega
  · cases h

lemma placeholders_takeRow_ok {x y : Placeholders} {row : List Sql.Param}
    (h : x.takeRow = .ok (row, y)) :
    placeholderSlots y = { placeholderSlots x with bound := [] } ∧ x.bound.length = x.count := by
  simp only [Placeholders.takeRow] at h
  split at h
  · rename_i hcount
    cases h
    exact ⟨rfl, hcount⟩
  · cases h

lemma placeholders_takeRow_error {x : Placeholders} {e : Database.Error}
    (h : x.takeRow = .error e) : x.bound.length ≠ x.count := by
  simp only [Placeholders.takeRow] at h
  split at h
  · cases h
  · assumption

/-- The calls of a backend whose statements answer as their placeholders do. -/
structure Placed (b : Backend ω κ τ) (places : τ → Placeholders) : Prop where
  prepare : ∀ {sql c w s}, (b.prepare sql c w).result = .ok s →
    (places s).bound = [] ∧ b.batchLength s = 0
  bind_ok : ∀ {position p s w y}, (places s).bind position p = .ok y →
    (b.bind position p s w).result = .ok () ∧ places (b.bind position p s w).state.1 = y ∧
      b.batchLength (b.bind position p s w).state.1 = b.batchLength s
  bind_error : ∀ {position p s w e}, (places s).bind position p = .error e →
    (b.bind position p s w).result = .error e ∧ (b.bind position p s w).state.1 = s
  add_ok : ∀ {s w row y}, (places s).takeRow = .ok (row, y) →
    (b.addBatch s w).result = .ok () ∧ places (b.addBatch s w).state.1 = y ∧
      b.batchLength (b.addBatch s w).state.1 = b.batchLength s + 1
  add_error : ∀ {s w e}, (places s).takeRow = .error e →
    (b.addBatch s w).result = .error e ∧ (b.addBatch s w).state.1 = s
  execute : ∀ s w, places (b.executeBatch s w).state.1 = places s ∧
    b.batchLength (b.executeBatch s w).state.1 = 0

theorem lawful_of_placed {b : Backend ω κ τ} {places : τ → Placeholders} (hb : Placed b places) :
    Lawful b fun s => placeholderSlots (places s) where
  prepare := hb.prepare
  bind_ok := by
    intro position p s w h
    cases hp : (places s).bind position p with
    | error e => simp [(hb.bind_error hp).1] at h
    | ok y =>
      obtain ⟨_, hy, hlength⟩ := hb.bind_ok hp
      exact ⟨hy ▸ (placeholders_bind_ok hp).1, hlength⟩
  bind_error := by
    intro position p s w e h
    cases hp : (places s).bind position p with
    | error e => exact (hb.bind_error hp).2
    | ok y => simp [(hb.bind_ok hp).1] at h
  bind_gate := by
    intro position p s w n hroom
    cases hroom
    cases hp : (places s).bind position p with
    | error e =>
      exact iff_of_false (by simp [(hb.bind_error hp).1]) (placeholders_bind_error hp)
    | ok y => exact iff_of_true (hb.bind_ok hp).1 (placeholders_bind_ok hp).2
  add_ok := by
    intro s w h
    cases hp : (places s).takeRow with
    | error e => simp [(hb.add_error hp).1] at h
    | ok y =>
      obtain ⟨_, hy, hlength⟩ := hb.add_ok hp
      exact ⟨hy ▸ (placeholders_takeRow_ok hp).1, hlength⟩
  add_error := by
    intro s w e h
    cases hp : (places s).takeRow with
    | error e => exact (hb.add_error hp).2
    | ok y => simp [(hb.add_ok hp).1] at h
  add_gate := by
    intro s w n hroom
    cases hroom
    cases hp : (places s).takeRow with
    | error e => exact iff_of_false (by simp [(hb.add_error hp).1]) (placeholders_takeRow_error hp)
    | ok y => exact iff_of_true (hb.add_ok hp).1 (placeholders_takeRow_ok hp).2
  execute := by
    intro s w
    obtain ⟨hplaces, hlength⟩ := hb.execute s w
    exact ⟨congrArg placeholderSlots hplaces, hlength⟩

theorem placed_postgres (server : Postgres.Server σ) :
    Placed (Postgres.backend server) Postgres.Statement.placeholders where
  prepare := by
    intro sql c w s h
    simp only [Postgres.backend, Postgres.prepare] at h
    repeat' split at h
    · cases h
    · cases h
    · cases h
      exact ⟨rfl, rfl⟩
  bind_ok := by
    intro position p s w y h
    simp only [Postgres.backend, Postgres.Statement.bind, h]
    exact ⟨rfl, rfl, rfl⟩
  bind_error := by
    intro position p s w e h
    simp only [Postgres.backend, Postgres.Statement.bind, h]
    exact ⟨rfl, rfl⟩
  add_ok := by
    intro s w row y h
    simp only [Postgres.backend, Postgres.Statement.addBatch, h]
    exact ⟨rfl, rfl, Array.size_push _⟩
  add_error := by
    intro s w e h
    simp only [Postgres.backend, Postgres.Statement.addBatch, h]
    exact ⟨rfl, rfl⟩
  execute := by
    intro s w
    simp only [Postgres.backend, Postgres.Statement.executeBatch]
    split <;> exact ⟨rfl, rfl⟩

theorem placed_mysql (server : Mysql.Server σ) :
    Placed (Mysql.backend server) Mysql.Statement.placeholders where
  prepare := by
    intro sql c w s h
    simp only [Mysql.backend, Mysql.prepare] at h
    repeat' split at h
    · cases h
    · cases h
    · cases h
      exact ⟨rfl, rfl⟩
  bind_ok := by
    intro position p s w y h
    simp only [Mysql.backend, Mysql.Statement.bind, h]
    exact ⟨rfl, rfl, rfl⟩
  bind_error := by
    intro position p s w e h
    simp only [Mysql.backend, Mysql.Statement.bind, h]
    exact ⟨rfl, rfl⟩
  add_ok := by
    intro s w row y h
    simp only [Mysql.backend, Mysql.Statement.addBatch, h]
    exact ⟨rfl, rfl, Array.size_push _⟩
  add_error := by
    intro s w e h
    simp only [Mysql.backend, Mysql.Statement.addBatch, h]
    exact ⟨rfl, rfl⟩
  execute := by
    intro s w
    simp only [Mysql.backend, Mysql.Statement.executeBatch]
    repeat' split
    all_goals exact ⟨rfl, rfl⟩

lemma lawful_postgres (server : Postgres.Server σ) :
    Lawful (Postgres.backend server) fun s => placeholderSlots s.placeholders :=
  lawful_of_placed (placed_postgres server)

lemma lawful_mysql (server : Mysql.Server σ) :
    Lawful (Mysql.backend server) fun s => placeholderSlots s.placeholders :=
  lawful_of_placed (placed_mysql server)

/-! ### Statements of any built-in backend -/

def builtinSlots : Builtin.Statement → Slots
  | .memory s => memorySlots s
  | .postgres s => placeholderSlots s.placeholders
  | .mysql s => placeholderSlots s.placeholders

lemma embed_ok {α β ρ ρ' : Type} {value : α → β} {state : ρ → ρ'} {r : Reply Database.Error ρ α}
    {v : β} (h : (Builtin.embed value state r).result = .ok v) :
    ∃ a, r.result = .ok a ∧ v = value a := by
  simp only [Builtin.embed] at h
  cases hr : r.result with
  | error e => simp [hr, Except.map] at h
  | ok a =>
    simp only [hr, Except.map, Except.ok.injEq] at h
    exact ⟨a, rfl, h.symm⟩

/-- A statement of the built-in backend does what that of its own database does. -/
theorem lawful_builtin (pg : Postgres.Server σ) (my : Mysql.Server σ') :
    Lawful (Builtin.backend pg my) builtinSlots where
  prepare := by
    intro sql c w s h
    cases c with
    | memory c =>
      obtain ⟨t, ht, rfl⟩ := embed_ok h
      exact lawful_memory.prepare ht
    | postgres c =>
      obtain ⟨t, ht, rfl⟩ := embed_ok h
      exact (lawful_postgres pg).prepare ht
    | mysql c =>
      obtain ⟨t, ht, rfl⟩ := embed_ok h
      exact (lawful_mysql my).prepare ht
  bind_ok := by
    intro position p s w h
    cases s with
    | memory s => exact lawful_memory.bind_ok h
    | postgres s => exact (lawful_postgres pg).bind_ok h
    | mysql s => exact (lawful_mysql my).bind_ok h
  bind_error := by
    intro position p s w e h
    cases s with
    | memory s => exact congrArg _ (lawful_memory.bind_error h)
    | postgres s => exact congrArg _ ((lawful_postgres pg).bind_error h)
    | mysql s => exact congrArg _ ((lawful_mysql my).bind_error h)
  bind_gate := by
    intro position p s w n hroom
    cases s with
    | memory s => exact lawful_memory.bind_gate hroom
    | postgres s => exact (lawful_postgres pg).bind_gate hroom
    | mysql s => exact (lawful_mysql my).bind_gate hroom
  add_ok := by
    intro s w h
    cases s with
    | memory s => exact lawful_memory.add_ok h
    | postgres s => exact (lawful_postgres pg).add_ok h
    | mysql s => exact (lawful_mysql my).add_ok h
  add_error := by
    intro s w e h
    cases s with
    | memory s => exact congrArg _ (lawful_memory.add_error h)
    | postgres s => exact congrArg _ ((lawful_postgres pg).add_error h)
    | mysql s => exact congrArg _ ((lawful_mysql my).add_error h)
  add_gate := by
    intro s w n hroom
    cases s with
    | memory s => exact lawful_memory.add_gate hroom
    | postgres s => exact (lawful_postgres pg).add_gate hroom
    | mysql s => exact (lawful_mysql my).add_gate hroom
  execute := by
    intro s w
    cases s with
    | memory s => exact lawful_memory.execute s w.memory
    | postgres s => exact (lawful_postgres pg).execute s w.postgres
    | mysql s => exact (lawful_mysql my).execute s w.mysql

end BatchInsert.Proofs
