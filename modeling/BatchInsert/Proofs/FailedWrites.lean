import BatchInsert.Proofs.Exchanges
import BatchInsert.Proofs.Fields
import BatchInsert.Proofs.Journal
import BatchInsert.Url.European

/-!
# What a failed write leaves behind

A record that is rejected changes the parameters bound to the statement and the count of rejected
records, and nothing else. A record that is taken and whose batch cannot be executed is lost with
the batch: the count starts over, and the rows of the batch are counted as failed.
-/

namespace BatchInsert.Proofs

open Database (Backend Driver Reply)
open Writer (Session)

variable {ω κ τ ι σ σ' : Type}

/-! ### Statements apart from what is bound -/

/-- The statement without the parameters that are bound so far: its text, its place on the server
and the rows of its batch. -/
def unbound : Builtin.Statement → Builtin.Statement
  | .memory s => .memory { s with current := [] }
  | .postgres s => .postgres { s with placeholders := s.placeholders.clear }
  | .mysql s => .mysql { s with placeholders := s.placeholders.clear }

lemma clear_bind {position : Nat} {p : Sql.Param} {x y : Database.Placeholders}
    (h : x.bind position p = .ok y) : y.clear = x.clear := by
  simp only [Database.Placeholders.bind] at h
  split at h
  · cases h
  · cases h
    rfl

lemma unbound_bind (pg : Postgres.Server σ) (my : Mysql.Server σ') (position : Nat)
    (p : Sql.Param) (s : Builtin.Statement) (w : Builtin.World σ σ') :
    unbound ((Builtin.backend pg my).bind position p s w).state.1 = unbound s := by
  cases s with
  | memory s =>
    simp only [Builtin.backend, Builtin.onStatement, Memory.backend, Memory.Statement.bind]
    repeat' split
    all_goals rfl
  | postgres s =>
    simp only [Builtin.backend, Builtin.onStatement, Postgres.backend, Postgres.Statement.bind]
    split
    · rfl
    · rename_i hbind
      simp [Reply.mapState, Reply.ok, unbound, clear_bind hbind]
  | mysql s =>
    simp only [Builtin.backend, Builtin.onStatement, Mysql.backend, Mysql.Statement.bind]
    split
    · rfl
    · rename_i hbind
      simp [Reply.mapState, Reply.ok, unbound, clear_bind hbind]

lemma unbound_append (pg : Postgres.Server σ) (my : Mysql.Server σ')
    (types : Option (List Sql.Tag)) (r : Record) (s : Builtin.Statement) (w : Builtin.World σ σ')
    {f : WriteFailure} (hf : (Writer.append (Builtin.backend pg my) types r s w).result = .error f) :
    unbound (Writer.append (Builtin.backend pg my) types r s w).state.1 = unbound s := by
  have hbound : unbound (Binding.record (Builtin.backend pg my) types r s w).state.1 = unbound s :=
    bindFrom_statement (Builtin.backend pg my) unbound (unbound_bind pg my) types s w 0 r.fields
  rcases append_cases (Builtin.backend pg my) types r s w with
    ⟨_, _, _, h⟩ | ⟨e, _, he, _, h⟩ | ⟨_, _, h, _⟩
  · rw [h]
    exact hbound
  · rw [h, (lawful_builtin pg my).add_error he]
    exact hbound
  · rw [h] at hf
    cases hf

/-! ### How a write fails -/

/-- A write fails before the record is taken, or after it, in executing the batch that it fills. -/
theorem failed_write_cases (b : Backend ω κ τ) (r : Record) {x : Writer ω κ τ} {s : Session κ τ}
    (hx : x.phase = .active s) (w : ω) {f : WriteFailure}
    (hf : (x.write b r w).result = .error f) :
    let added := Writer.append b x.plan.columnTypes r s.statement w
    let call := b.executeBatch added.state.1 added.state.2
    (isRejection f = true ∧ added.result = .error f ∧
      (x.write b r w).state =
        x.resume ({ s with statement := added.state.1 }, x.stats.reject, added.state.2)) ∨
    (∃ e, f = .execution (s.pending + 1) e ∧ added.result = .ok () ∧
      x.plan.batchSize ≤ s.pending + 1 ∧ call.result = .error e ∧
      (x.write b r w).state = x.resume ({ s with statement := call.state.1, pending := 0 },
        x.stats.write.fail (.ofNat (s.pending + 1)), call.state.2)) := by
  intro added call
  rcases write_cases b r hx w with ⟨g, ha, hr, h⟩ | ⟨_, _, hr, _⟩ | ⟨ha, hle, hr, h⟩
  · have hfg : g = f := Except.error.inj (hr.symm.trans hf)
    subst hfg
    exact .inl ⟨append_error_isRejection b _ ha, ha, h⟩
  · rw [hr] at hf
    cases hf
  · let taken : Session κ τ := { s with statement := added.state.1, pending := s.pending + 1 }
    rcases execute_of_pos b (s := taken) (Nat.succ_ne_zero _) x.stats.write added.state.2 with
      ⟨_, _, hok, _⟩ | ⟨e, he, herror, hstate⟩
    · rw [hr.trans hok] at hf
      cases hf
    · have hexecution : f = .execution (s.pending + 1) e :=
        Except.error.inj (hf.symm.trans (hr.trans herror))
      exact .inr ⟨e, hexecution, ha, hle, he, h.trans (congrArg x.resume hstate)⟩

/-! ### Executions that a write asks for -/

def executionsOf (w : Watched ω κ) : List (Nat × Option Database.Error) :=
  w.exchanges.filterMap Exchange.executed?

lemma executionsOf_append (b : Backend ω κ τ) (types : Option (List Sql.Tag)) (r : Record) (s : τ)
    (w : Watched ω κ) :
    executionsOf (Writer.append (Watched.backend b) types r s w).state.2 = executionsOf w := by
  refine append_world (Watched.backend b) executionsOf ?_ ?_ types r s w
  · intro position p s w
    simp [executionsOf, Watched.backend, Watched.noted, Watched.after, Reply.mapState,
      Exchange.executed?]
  · intro s w
    simp [executionsOf, Watched.backend, Watched.noted, Watched.after, Reply.mapState,
      Exchange.executed?]

lemma executionsOf_executeBatch (b : Backend ω κ τ) (s : τ) (w : Watched ω κ) :
    executionsOf ((Watched.backend b).executeBatch s w).state.2 =
      executionsOf w ++ [(b.batchLength s, errorOf (b.executeBatch s w.world).result)] := by
  simp [executionsOf, Watched.backend, Watched.noted, Watched.after, Reply.mapState,
    Exchange.executed?]

lemma failed_write_executions [Url.Names] (b : Backend ω κ τ) (r : Record) {x : Writer ω κ τ}
    {s : Session κ τ} (hx : x.phase = .active s) (w : ω) {f : WriteFailure}
    (hf : (x.write b r w).result = .error f) :
    let added := Writer.append b x.plan.columnTypes r s.statement w
    let executions := (asks b (.write r) (x, w)).filterMap Exchange.executed?
    (isRejection f = true → executions = []) ∧
      ∀ rows e, f = .execution rows e →
        executions = [(b.batchLength added.state.1, some e)] := by
  intro added executions
  let watching : Watched ω κ := ⟨w, []⟩
  let noted := Writer.append (Watched.backend b) x.plan.columnTypes r s.statement watching
  have hphase : (Watched.writer x).phase = .active s := hx
  have hwatched : ((Watched.writer x).write (Watched.backend b) r watching).result = .error f :=
    (Answer.written.inj (perform_watched b (.write r) x watching).answer).trans hf
  have hadded : added.state.1 = noted.state.1 :=
    congrArg (fun reply => reply.state.1)
      (append_through (simulates_watched b) x.plan.columnTypes r s.statement watching)
  have hnone : executionsOf noted.state.2 = [] :=
    executionsOf_append b x.plan.columnTypes r s.statement watching
  have hexecutions : executions =
      executionsOf ((Watched.writer x).write (Watched.backend b) r watching).state.2 := rfl
  rcases failed_write_cases (Watched.backend b) r hphase watching hwatched with
    ⟨hrejection, _, h⟩ | ⟨e, hexecution, _, _, he, h⟩
  · rw [hexecutions, h]
    refine ⟨fun _ => hnone, ?_⟩
    rintro rows e rfl
    cases hrejection
  · have hcall : (b.executeBatch noted.state.1 noted.state.2.world).result = .error e := he
    have hone := executionsOf_executeBatch b noted.state.1 noted.state.2
    rw [hnone, hcall, List.nil_append] at hone
    subst hexecution
    refine ⟨fun hrejection => absurd hrejection Bool.false_ne_true, ?_⟩
    intro rows e' hsame
    have herrors : e = e' := (WriteFailure.execution.inj hsame).2
    rw [hexecutions, h, hadded, ← herrors]
    exact hone

/-- After any run of a writer over the built-in backends, a write of the active writer that fails
has either rejected the record, and then the parameters bound to the statement are all that has
changed besides the count of rejected records, and nothing was executed; or it has filled the batch
with the record and executed it in vain, and then the batch is empty and its rows are counted as
failed. -/
theorem failed_write_effect [Url.Names] (pg : Postgres.Server σ) (my : Mysql.Server σ')
    (plan : Plan) (registry : Registry (Driver (Builtin.World σ σ') Builtin.Connection))
    (steps : List (Step (Builtin.World σ σ' → Builtin.World σ σ'))) (w : Builtin.World σ σ')
    (s : Session Builtin.Connection Builtin.Statement) (r : Record) (f : WriteFailure) :
    let b := Builtin.backend pg my
    let state := run b id steps (.ofPlan plan registry, w)
    let reply := state.1.write b r state.2
    let left := reply.state.1
    let counts := state.1.stats
    let executions := (asks b (.write r) state).filterMap Exchange.executed?
    state.1.phase = .active s → reply.result = .error f →
    ∃ s', left.phase = .active s' ∧ s'.connection = s.connection ∧
      ((isRejection f = true ∧ s'.pending = s.pending ∧
          unbound s'.statement = unbound s.statement ∧
          b.batchLength s'.statement = b.batchLength s.statement ∧
          left.stats = { counts with rejected := counts.rejected + 1 } ∧ executions = []) ∨
        ∃ e, f = .execution (s.pending + 1) e ∧ s.pending + 1 = plan.batchSize ∧
          s'.pending = 0 ∧ b.batchLength s'.statement = 0 ∧
          left.stats = { counts with
            written := counts.written + 1
            failed := counts.failed + .ofNat (s.pending + 1)
            batchesFailed := counts.batchesFailed + 1 } ∧
          executions = [(s.pending + 1, some e)]) := by
  intro b state reply left counts executions hs hf
  have hb : Lawful b builtinSlots := lawful_builtin pg my
  have hconsistent : Consistent b state.1 :=
    consistent_run hb id steps (.ofPlan plan registry, w) (consistent_of_session_none rfl)
  have hplan : state.1.plan = plan := (run_fixed b id steps (.ofPlan plan registry, w)).1
  obtain ⟨hcount, hroom⟩ := hconsistent s hs
  have hlength := batchLength_append hb state.1.plan.columnTypes r s.statement state.2
  obtain ⟨hnothing, honce⟩ := failed_write_executions b r hs state.2 hf
  rcases failed_write_cases b r hs state.2 hf with
    ⟨hrejection, ha, h⟩ | ⟨e, hexecution, ha, hfull, he, h⟩
  · rw [ha] at hlength
    let kept : Session Builtin.Connection Builtin.Statement :=
      { s with statement := (Writer.append b state.1.plan.columnTypes r s.statement state.2).state.1 }
    refine ⟨kept, congrArg (·.1.phase) h, rfl, .inl ⟨hrejection, rfl, ?_, hlength, ?_, ?_⟩⟩
    · exact unbound_append pg my _ r s.statement state.2 ha
    · exact congrArg (·.1.stats) h
    · exact hnothing hrejection
  · rw [ha] at hlength
    have hsize : s.pending + 1 = plan.batchSize := by
      rw [hplan] at hroom hfull
      exact Nat.le_antisymm hroom hfull
    let added := Writer.append b state.1.plan.columnTypes r s.statement state.2
    let emptied : Session Builtin.Connection Builtin.Statement :=
      { s with statement := (b.executeBatch added.state.1 added.state.2).state.1, pending := 0 }
    refine ⟨emptied, congrArg (·.1.phase) h, rfl, .inr ⟨e, hexecution, hsize, rfl, ?_, ?_, ?_⟩⟩
    · exact (hb.execute _ _).2
    · exact congrArg (·.1.stats) h
    · rw [hcount]
      exact (honce _ e hexecution).trans (by rw [hlength])

/-- One record waits, and executing fails from then on. -/
def halfPair : List (Step (Builtin.World Unit Unit → Builtin.World Unit Unit)) :=
  [.call (.start 0 1), .call (.write ⟨[.int32 1]⟩),
    .outside fun w => { w with memory := w.memory.fail .executeBatch }]

open scoped Url.European

def afterHalfPair : Writer (Builtin.World Unit Unit) Builtin.Connection Builtin.Statement ×
    Builtin.World Unit Unit :=
  run (Builtin.backend Postgres.unreachable Mysql.unreachable) id halfPair
    (.ofPlan pairsPlan offline, ⟨.start, (), .start ()⟩)

/-- The record that fills the pair is lost with it. -/
theorem failed_write_effect_on_pair :
    let b := Builtin.backend Postgres.unreachable Mysql.unreachable
    let reply := afterHalfPair.1.write b ⟨[.int32 2]⟩ afterHalfPair.2
    let f := WriteFailure.execution 2 (Memory.injected .executeBatch)
    ∃ s s', afterHalfPair.1.phase = .active s ∧ reply.result = .error f ∧
      reply.state.1.phase = .active s' ∧ s'.pending = 0 ∧ b.batchLength s'.statement = 0 ∧
      reply.state.1.stats.failed = 2 := by
  intro b reply f
  have hs : afterHalfPair.1.session?.isSome = true := by decide +kernel
  obtain ⟨s, hs⟩ := Option.isSome_iff_exists.mp hs
  have hphase := session?_eq_some.mp hs
  have hf : reply.result = .error f := by decide +kernel
  obtain ⟨s', hleft, _, hcases⟩ :=
    failed_write_effect Postgres.unreachable Mysql.unreachable pairsPlan offline halfPair
      ⟨.start, (), .start ()⟩ s ⟨[.int32 2]⟩ f hphase hf
  refine ⟨s, s', hphase, hf, hleft, ?_⟩
  rcases hcases with ⟨hrejection, _⟩ | ⟨_, _, _, hzero, hempty, _⟩
  · cases hrejection
  · exact ⟨hzero, hempty, by decide +kernel⟩

end BatchInsert.Proofs
