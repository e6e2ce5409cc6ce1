import BatchInsert.Proofs.Client

/-!
# Closing a statement

Closing a statement forgets the bound parameters over every built-in backend, and over the two that
have a server its batch, too. In memory the batch outlives the close, and the next execution still
executes it.
-/

namespace BatchInsert.Proofs

open Database (Backend Reply)

variable {ω κ τ σ σ' : Type}

namespace StatementCall

def isAdd : StatementCall → Bool
  | addBatch => true
  | _ => false

def isExecution : StatementCall → Bool
  | executeBatch => true
  | _ => false

end StatementCall

/-- The statement after calls that each find some world. What others do in between, and to what,
makes no difference. -/
def leftBy (b : Backend ω κ τ) : List (StatementCall × ω) → τ → τ
  | [], s => s
  | (c, w) :: calls, s => leftBy b calls (c.ask b s w).state.1

/-- The rows that a statement keeps when it is closed. -/
def keptRows : Builtin.Statement → List Memory.Row
  | .memory s => s.batch.toList
  | .postgres _ | .mysql _ => []

def executedRows (w : Builtin.World σ σ') : List Memory.Row :=
  w.memory.journal.batches.toList.flatten

/-- The batch is made up of rows that a close keeps. -/
structure Holds (rows : List Memory.Row) (s : Builtin.Statement) : Prop where
  kept : keptRows s = rows
  length : Builtin.batchLength s = rows.length

section Builtin

variable (pg : Postgres.Server σ) (my : Mysql.Server σ') {rows : List Memory.Row}
  {s : Builtin.Statement}

lemma holds_of_closed {w : Builtin.World σ σ'}
    (h : ((Builtin.backend pg my).closeStatement s w).result = .ok ()) :
    Holds (keptRows s) ((Builtin.backend pg my).closeStatement s w).state.1 ∧
      (builtinSlots ((Builtin.backend pg my).closeStatement s w).state.1).bound = [] := by
  cases s with
  | memory s =>
    simp only [Builtin.backend, Builtin.onStatement, Memory.backend, Memory.Statement.close] at h ⊢
    split at h
    · cases h
    · rename_i hfault
      rw [if_neg hfault]
      exact ⟨⟨rfl, rfl⟩, rfl⟩
  | postgres s => exact ⟨⟨rfl, rfl⟩, rfl⟩
  | mysql s =>
    simp only [Builtin.backend, Builtin.onStatement, Mysql.backend, Mysql.Statement.close]
    split
    · exact ⟨⟨rfl, rfl⟩, rfl⟩
    · split <;> exact ⟨⟨rfl, rfl⟩, rfl⟩

lemma Holds.ask (h : Holds rows s) {c : StatementCall} (hc : c.isAdd = false)
    (w : Builtin.World σ σ') :
    Holds (if c.isExecution then [] else rows) (c.ask (Builtin.backend pg my) s w).state.1 := by
  cases c with
  | addBatch => cases hc
  | executeBatch =>
    have hlength := ((lawful_builtin pg my).execute s w).2
    refine ⟨?_, hlength⟩
    cases s with
    | memory s => exact List.eq_nil_of_length_eq_zero hlength
    | postgres s => rfl
    | mysql s => rfl
  | bind position p =>
    change Holds rows _
    cases s with
    | memory s =>
      rw [StatementCall.ask_memory]
      simp only [StatementCall.ask, Memory.backend, Memory.Statement.bind]
      repeat' split
      all_goals exact ⟨h.kept, h.length⟩
    | postgres s =>
      rw [StatementCall.ask_postgres]
      simp only [StatementCall.ask, Postgres.backend, Postgres.Statement.bind]
      split <;> exact ⟨h.kept, h.length⟩
    | mysql s =>
      rw [StatementCall.ask_mysql]
      simp only [StatementCall.ask, Mysql.backend, Mysql.Statement.bind]
      split <;> exact ⟨h.kept, h.length⟩
  | close =>
    change Holds rows _
    cases s with
    | memory s =>
      rw [StatementCall.ask_memory]
      simp only [StatementCall.ask, Memory.backend, Memory.Statement.close]
      split <;> exact ⟨h.kept, h.length⟩
    | postgres s =>
      obtain ⟨rfl, _⟩ := h
      exact ⟨rfl, rfl⟩
    | mysql s =>
      obtain ⟨rfl, _⟩ := h
      rw [StatementCall.ask_mysql]
      simp only [StatementCall.ask, Mysql.backend, Mysql.Statement.close]
      split
      · exact ⟨rfl, rfl⟩
      · split <;> exact ⟨rfl, rfl⟩

lemma holds_leftBy (h : Holds rows s) {calls : List (StatementCall × Builtin.World σ σ')}
    (hcalls : ∀ call ∈ calls, call.1.isAdd = false) :
    Holds (if calls.any (·.1.isExecution) then [] else rows)
      (leftBy (Builtin.backend pg my) calls s) := by
  induction calls generalizing rows s with
  | nil => exact h
  | cons call calls ih =>
    obtain ⟨hcall, hrest⟩ := List.forall_mem_cons.mp hcalls
    have hleft := ih (h.ask pg my hcall call.2) hrest
    rw [List.any_cons, leftBy]
    cases hexecution : call.1.isExecution with
    | false => simpa only [hexecution, Bool.false_or, Bool.false_eq_true, ↓reduceIte] using hleft
    | true => simpa only [hexecution, Bool.true_or, ↓reduceIte, ite_self] using hleft

/-- An execution executes the rows of the batch, or none of them. Where none can be there, no server
hears of it. -/
lemma Holds.executeBatch (h : Holds rows s) (w : Builtin.World σ σ') :
    let execution := (Builtin.backend pg my).executeBatch s w
    execution.state.2.postgres = w.postgres ∧ execution.state.2.mysql = w.mysql ∧
      executedRows execution.state.2 =
        executedRows w ++ (match execution.result with | .ok _ => rows | .error _ => []) := by
  intro execution
  cases s with
  | memory s =>
    have hbatch : s.batch.toList = rows := h.kept
    simp only [execution, Builtin.backend, Builtin.onStatement, Memory.backend,
      Memory.Statement.executeBatch, hbatch]
    split
    · exact ⟨rfl, rfl, (List.append_nil _).symm⟩
    · refine ⟨rfl, rfl, ?_⟩
      simp [executedRows, Builtin.World.withMemory, Memory.Journal.execute, Reply.ok,
        Reply.mapState]
  | postgres s =>
    obtain rfl : rows = [] := h.kept.symm
    have hempty : s.batch = #[] := Array.eq_empty_of_size_eq_zero h.length
    have hcall : (Postgres.backend pg).executeBatch s w.postgres =
        .ok [] ({ s with batch := #[] }, w.postgres) := by
      simp only [Postgres.backend, Postgres.Statement.executeBatch, hempty]
      rfl
    simp only [execution, Builtin.backend, Builtin.onStatement, hcall]
    exact ⟨rfl, rfl, (List.append_nil _).symm⟩
  | mysql s =>
    obtain rfl : rows = [] := h.kept.symm
    have hempty : s.batch = #[] := Array.eq_empty_of_size_eq_zero h.length
    have hcall : (Mysql.backend my).executeBatch s w.mysql =
        .ok [] ({ s with batch := #[] }, w.mysql) := by
      simp only [Mysql.backend, Mysql.Statement.executeBatch, hempty]
      rfl
    simp only [execution, Builtin.backend, Builtin.onStatement, hcall]
    exact ⟨rfl, rfl, (List.append_nil _).symm⟩

/-- After any statement of a built-in backend has been closed with success, nothing is bound, and the
batch is made up of the rows that are kept: none over a server, all in memory. Whatever is then
called but the moving of a row, and whatever others do in between: the batch is those rows until it
is executed, and empty from then on. An execution executes what the batch is, and reaches no
server. -/
theorem closed_statement_batch (s : Builtin.Statement) (w w' : Builtin.World σ σ')
    (calls : List (StatementCall × Builtin.World σ σ')) :
    let b := Builtin.backend pg my
    let closing := b.closeStatement s w
    let due := if calls.any (·.1.isExecution) then [] else keptRows s
    let later := leftBy b calls closing.state.1
    let execution := b.executeBatch later w'
    closing.result = .ok () → (∀ call ∈ calls, call.1.isAdd = false) →
      (builtinSlots closing.state.1).bound = [] ∧
      b.batchLength closing.state.1 = (keptRows s).length ∧ b.batchLength later = due.length ∧
      execution.state.2.postgres = w'.postgres ∧ execution.state.2.mysql = w'.mysql ∧
      executedRows execution.state.2 =
        executedRows w' ++ (match execution.result with | .ok _ => due | .error _ => []) := by
  intro b closing due later execution hclosed hcalls
  obtain ⟨hholds, hbound⟩ := holds_of_closed pg my hclosed
  have hlater := holds_leftBy pg my hholds hcalls
  exact ⟨hbound, hholds.length, hlater.length, hlater.executeBatch pg my w'⟩

end Builtin

/-- A statement of a server, with a row in its batch and a parameter bound. -/
def busyStatement : Mysql.Statement :=
  ⟨0, ⟨"INSERT INTO t VALUES (?)", 1, [(1, .object (.int32 2))]⟩, #[[.integer 1]]⟩

/-- Nothing of either is left when the statement has been closed, and no row is executed after
that. -/
theorem closed_statement_batch_of_server :
    let b := Builtin.backend Postgres.unreachable (tally 1)
    let w : Builtin.World Unit Nat := ⟨.start, (), ⟨0, [0]⟩⟩
    let closing := b.closeStatement (.mysql busyStatement) w
    let calls : List (StatementCall × Builtin.World Unit Nat) :=
      [(.bind 1 (.object (.int32 3)), w), (.executeBatch, w), (.close, w)]
    let later := leftBy b calls closing.state.1
    b.batchLength (.mysql busyStatement) = 1 ∧ closing.result = .ok () ∧
      (∀ call ∈ calls, call.1.isAdd = false) ∧ b.batchLength closing.state.1 = 0 ∧
      (b.executeBatch later w).state.2.mysql.server = 0 := by
  intro b w closing calls later
  have hclosed : closing.result = .ok () := rfl
  have hcalls : ∀ call ∈ calls, call.1.isAdd = false := by simp [calls, StatementCall.isAdd]
  obtain ⟨_, hlength, _, _, hmysql, _⟩ := closed_statement_batch Postgres.unreachable (tally 1)
    (.mysql busyStatement) w w calls hclosed hcalls
  refine ⟨rfl, hclosed, hcalls, hlength, ?_⟩
  exact congrArg Mysql.World.server hmysql

/-- A statement in memory is closed between a row that is moved into its batch and the execution,
which executes the row. -/
theorem closed_statement_executes_row :
    let b := Builtin.backend Postgres.unreachable Mysql.unreachable
    let w : Builtin.World Unit Unit := ⟨.start, (), .start ()⟩
    let filled := leftBy b [(.bind 1 (.object (.int32 1)), w), (.addBatch, w)]
      (.memory ⟨"INSERT INTO t VALUES (?)", [], #[]⟩)
    let closing := b.closeStatement filled w
    let execution := b.executeBatch closing.state.1 closing.state.2
    closing.result = .ok () ∧ b.batchLength closing.state.1 = 1 ∧ execution.result = .ok [1] ∧
      (executedRows execution.state.2).length = 1 := by
  intro b w filled closing execution
  exact ⟨rfl, rfl, rfl, rfl⟩

end BatchInsert.Proofs
