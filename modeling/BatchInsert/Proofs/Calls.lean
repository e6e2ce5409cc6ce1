import BatchInsert.Proofs.Run

/-!
# What a call can do

One statement for each operation of a writer, over any backend, says every way in which the
operation ends: its result, the session that it leaves, the counters and the world. Invariants are
derived from these and do not open the operations again.
-/

namespace BatchInsert.Proofs

open Database (Backend Reply)
open Writer (Session CloseReport Closing)

variable {ω κ τ ι : Type}

/-- The failures of a record that is not taken: it cannot be bound or added. -/
def isRejection : WriteFailure → Bool
  | .mismatch _ _ _ _ | .bind _ _ | .addBatch _ => true
  | .execution _ _ | .notOpen => false

lemma session?_eq_some {x : Writer ω κ τ} {s : Session κ τ} :
    x.session? = some s ↔ x.phase = .active s := by
  cases h : x.phase <;> simp [Writer.session?, h]

/-! ### Binding and adding a record -/

lemma param_error_eq {position : Nat} {v : Value} {tag : Option Sql.Tag} {f : WriteFailure}
    (h : Binding.param position v tag = .error f) :
    ∃ expected kind cause, f = .mismatch position expected kind cause := by
  cases tag with
  | none => simp [Binding.param] at h
  | some tag =>
    simp only [Binding.param] at h
    repeat' split at h
    all_goals first | cases h; done | (cases h; exact ⟨_, _, _, rfl⟩)

lemma bindFrom_error_isRejection (b : Backend ω κ τ) (types : Option (List Sql.Tag)) {s : τ} {w : ω}
    {index : Nat} {vs : List Value} {f : WriteFailure}
    (h : (Binding.bindFrom b types s w index vs).result = .error f) : isRejection f = true := by
  induction vs generalizing s w index with
  | nil => simp [Binding.bindFrom, Reply.ok] at h
  | cons v vs ih =>
    simp only [Binding.bindFrom] at h
    split at h
    · rename_i g hp
      simp only [Reply.after, Reply.fail, Except.error.injEq] at h
      obtain ⟨_, _, _, hg⟩ := param_error_eq hp
      rw [← h, hg]
      rfl
    · split at h
      · simp only [Except.error.injEq] at h
        exact h ▸ rfl
      · exact ih h

/-- A record is taken when all its fields are bound and the row is added to the batch. -/
theorem append_cases (b : Backend ω κ τ) (types : Option (List Sql.Tag)) (r : Record) (s : τ)
    (w : ω) :
    let bound := Binding.record b types r s w
    let call := b.addBatch bound.state.1 bound.state.2
    let added := Writer.append b types r s w
    (∃ f, bound.result = .error f ∧ added.result = .error f ∧ added.state = bound.state) ∨
    (∃ e, bound.result = .ok () ∧ call.result = .error e ∧ added.result = .error (.addBatch e) ∧
      added.state = call.state) ∨
    (bound.result = .ok () ∧ call.result = .ok () ∧ added.result = .ok () ∧
      added.state = call.state) := by
  dsimp only
  cases hbound : (Binding.record b types r s w).result with
  | error f => exact .inl ⟨f, rfl, by simp [Writer.append, hbound]⟩
  | ok a =>
    cases hcall : (b.addBatch (Binding.record b types r s w).state.1
        (Binding.record b types r s w).state.2).result with
    | error e =>
      refine .inr (.inl ⟨e, rfl, rfl, ?_⟩)
      simp [Writer.append, hbound, hcall, Reply.after, Reply.mapError, Except.mapError]
    | ok a =>
      refine .inr (.inr ⟨rfl, rfl, ?_⟩)
      simp [Writer.append, hbound, hcall, Reply.after, Reply.mapError, Except.mapError]

lemma append_error_isRejection (b : Backend ω κ τ) (types : Option (List Sql.Tag)) {r : Record}
    {s : τ} {w : ω} {f : WriteFailure} (h : (Writer.append b types r s w).result = .error f) :
    isRejection f = true := by
  rcases append_cases b types r s w with ⟨g, hb, ha, _⟩ | ⟨e, _, _, ha, _⟩ | ⟨_, _, ha, _⟩
  · rw [ha, Except.error.injEq] at h
    exact h ▸ bindFrom_error_isRejection b types hb
  · rw [ha, Except.error.injEq] at h
    exact h ▸ rfl
  · simp [ha] at h

lemma bindFrom_statement {α : Type} (b : Backend ω κ τ) (f : τ → α)
    (hbind : ∀ position p s w, f (b.bind position p s w).state.1 = f s)
    (types : Option (List Sql.Tag)) (s : τ) (w : ω) (index : Nat) (vs : List Value) :
    f (Binding.bindFrom b types s w index vs).state.1 = f s := by
  induction vs generalizing s w index with
  | nil => rfl
  | cons v vs ih =>
    simp only [Binding.bindFrom]
    split
    · rfl
    · split
      · exact hbind _ _ _ _
      · exact (ih _ _ _).trans (hbind _ _ _ _)

lemma bindFrom_world {α : Type} (b : Backend ω κ τ) (f : ω → α)
    (hbind : ∀ position p s w, f (b.bind position p s w).state.2 = f w)
    (types : Option (List Sql.Tag)) (s : τ) (w : ω) (index : Nat) (vs : List Value) :
    f (Binding.bindFrom b types s w index vs).state.2 = f w := by
  induction vs generalizing s w index with
  | nil => rfl
  | cons v vs ih =>
    simp only [Binding.bindFrom]
    split
    · rfl
    · split
      · exact hbind _ _ _ _
      · exact (ih _ _ _).trans (hbind _ _ _ _)

lemma append_world {α : Type} (b : Backend ω κ τ) (f : ω → α)
    (hbind : ∀ position p s w, f (b.bind position p s w).state.2 = f w)
    (hadd : ∀ s w, f (b.addBatch s w).state.2 = f w) (types : Option (List Sql.Tag)) (r : Record)
    (s : τ) (w : ω) : f (Writer.append b types r s w).state.2 = f w := by
  have hrecord : f (Binding.record b types r s w).state.2 = f w :=
    bindFrom_world b f hbind types s w 0 r.fields
  rcases append_cases b types r s w with ⟨_, _, _, h⟩ | ⟨_, _, _, _, h⟩ | ⟨_, _, _, h⟩
  · rw [h]
    exact hrecord
  · rw [h]
    exact (hadd _ _).trans hrecord
  · rw [h]
    exact (hadd _ _).trans hrecord

/-! ### Opening -/

/-- Opening leaves the writer as it was, or makes an unopened one active with an empty count and a
statement just prepared. -/
theorem start_cases [Url.Names] (b : Backend ω κ τ) (index total : Nat) (x : Writer ω κ τ) (w : ω) :
    (∃ f, (x.start b index total w).result = .error f ∧ (x.start b index total w).state.1 = x) ∨
    (∃ s w', x.phase = .unopened ∧ (x.start b index total w).result = .ok () ∧
      (x.start b index total w).state.1 = { x with phase := .active s } ∧ s.pending = 0 ∧
      (b.prepare x.plan.statement s.connection w').result = .ok s.statement) := by
  cases hx : x.phase with
  | active s => exact .inl ⟨.alreadyOpen, by simp [Writer.start, hx, Reply.fail]⟩
  | closed => exact .inl ⟨.closed, by simp [Writer.start, hx, Reply.fail]⟩
  | unopened =>
    cases hc : (x.connect b w).result with
    | error f => exact .inl ⟨f, by simp [Writer.start, hx, hc]⟩
    | ok s =>
      refine .inr ⟨s, ?_⟩
      have hs : ∃ w', s.pending = 0 ∧
          (b.prepare x.plan.statement s.connection w').result = .ok s.statement := by
        simp only [Writer.connect] at hc
        split at hc
        · simp [Reply.fail] at hc
        · split at hc
          · simp at hc
          · split at hc
            · rename_i hp
              simp only [Except.ok.injEq] at hc
              subst hc
              exact ⟨_, rfl, hp⟩
            · simp at hc
      obtain ⟨w', hs⟩ := hs
      exact ⟨w', rfl, by simp [Writer.start, hx, hc], by simp [Writer.start, hx, hc], hs⟩

/-- Opening changes of the world what connecting, preparing and giving up the connection change. -/
theorem start_world [Url.Names] {α : Type} (b : Backend ω κ τ) (f : ω → α) {x : Writer ω κ τ}
    (hconnect : ∀ d, x.registry.find? x.plan.driver = some d →
      ∀ t w, f (d.connect t w).state = f w)
    (hprepare : ∀ sql c w, f (b.prepare sql c w).state = f w)
    (hclose : ∀ c w, f (b.closeConnection c w).state.2 = f w) (index total : Nat) (w : ω) :
    f (x.start b index total w).state.2 = f w := by
  have hopen : f (x.connect b w).state = f w := by
    simp only [Writer.connect, Registry.resolve]
    cases hd : x.registry.find? x.plan.driver with
    | none => rfl
    | some d =>
      have hconnect := hconnect d hd x.plan.target w
      dsimp only
      split
      · exact hconnect
      · split
        · exact (hprepare _ _ _).trans hconnect
        · exact (hclose _ _).trans ((hprepare _ _ _).trans hconnect)
  cases hx : x.phase with
  | active s => simp [Writer.start, hx, Reply.fail]
  | closed => simp [Writer.start, hx, Reply.fail]
  | unopened =>
    rw [← hopen]
    cases hc : (x.connect b w).result <;> simp [Writer.start, hx, hc]

/-! ### Executing the batch -/

lemma execute_of_zero (b : Backend ω κ τ) {s : Session κ τ} (hs : s.pending = 0) (stats : Stats)
    (w : ω) : Writer.execute b s stats w = .ok () (s, stats, w) := by
  rw [Writer.execute, if_pos hs]

/-- A batch with records in it is handed to the statement once, and the count starts over whatever
the statement answers. -/
theorem execute_of_pos (b : Backend ω κ τ) {s : Session κ τ} (hs : s.pending ≠ 0) (stats : Stats)
    (w : ω) :
    let call := b.executeBatch s.statement w
    let left := { s with statement := call.state.1, pending := 0 }
    (∃ counts, call.result = .ok counts ∧ (Writer.execute b s stats w).result = .ok () ∧
      (Writer.execute b s stats w).state =
        (left, stats.flush (.ofNat s.pending) (b.executionTime s.statement w), call.state.2)) ∨
    (∃ e, call.result = .error e ∧
      (Writer.execute b s stats w).result = .error (.execution s.pending e) ∧
      (Writer.execute b s stats w).state =
        (left, stats.fail (.ofNat s.pending), call.state.2)) := by
  dsimp only
  rw [Writer.execute, if_neg hs]
  cases hc : (b.executeBatch s.statement w).result with
  | ok counts => exact .inl ⟨counts, rfl, by simp [hc]⟩
  | error e => exact .inr ⟨e, rfl, by simp [hc]⟩

lemma execute_result (b : Backend ω κ τ) (s : Session κ τ) (stats : Stats) (w : ω) :
    (Writer.execute b s stats w).result = .ok () ∨
      ∃ rows e, (Writer.execute b s stats w).result = .error (.execution rows e) := by
  by_cases hs : s.pending = 0
  · rw [execute_of_zero b hs]
    exact .inl rfl
  · rcases execute_of_pos b hs stats w with ⟨_, _, h, _⟩ | ⟨e, _, h, _⟩
    · exact .inl h
    · exact .inr ⟨_, e, h⟩

lemma execute_pending (b : Backend ω κ τ) (s : Session κ τ) (stats : Stats) (w : ω) :
    (Writer.execute b s stats w).state.1.pending = 0 := by
  by_cases hs : s.pending = 0
  · rw [execute_of_zero b hs]
    exact hs
  · rcases execute_of_pos b hs stats w with ⟨_, _, _, h⟩ | ⟨_, _, _, h⟩ <;> rw [h]

/-! ### Writing -/

/-- A write of an active writer is rejected, takes the record, or takes it and executes the batch
that it has filled. -/
theorem write_cases (b : Backend ω κ τ) (r : Record) {x : Writer ω κ τ} {s : Session κ τ}
    (hx : x.phase = .active s) (w : ω) :
    let added := Writer.append b x.plan.columnTypes r s.statement w
    let left := { s with statement := added.state.1 }
    let taken := { s with statement := added.state.1, pending := s.pending + 1 }
    let executed := Writer.execute b taken x.stats.write added.state.2
    (∃ f, added.result = .error f ∧ (x.write b r w).result = .error f ∧
      (x.write b r w).state = x.resume (left, x.stats.reject, added.state.2)) ∨
    (added.result = .ok () ∧ s.pending + 1 < x.plan.batchSize ∧
      (x.write b r w).result = .ok () ∧
      (x.write b r w).state = x.resume (taken, x.stats.write, added.state.2)) ∨
    (added.result = .ok () ∧ x.plan.batchSize ≤ s.pending + 1 ∧
      (x.write b r w).result = executed.result ∧
      (x.write b r w).state = x.resume executed.state) := by
  dsimp only
  cases ha : (Writer.append b x.plan.columnTypes r s.statement w).result with
  | error f => exact .inl ⟨f, rfl, by simp [Writer.write, hx, ha]⟩
  | ok a =>
    by_cases hlt : s.pending + 1 < x.plan.batchSize
    · exact .inr (.inl ⟨rfl, hlt, by simp [Writer.write, hx, ha, hlt]⟩)
    · refine .inr (.inr ⟨rfl, Nat.not_lt.mp hlt, ?_⟩)
      simp [Writer.write, hx, ha, hlt, Reply.after, Reply.mapState]

lemma write_of_session_none (b : Backend ω κ τ) (r : Record) {x : Writer ω κ τ}
    (hx : x.session? = none) (w : ω) : x.write b r w = .fail .notOpen (x, w) := by
  cases h : x.phase with
  | active s => simp [session?_eq_some.mpr h] at hx
  | unopened => simp [Writer.write, h]
  | closed => simp [Writer.write, h]

lemma flush_of_active (b : Backend ω κ τ) {x : Writer ω κ τ} {s : Session κ τ}
    (hx : x.phase = .active s) (w : ω) :
    x.flush b w = (Writer.execute b s x.stats w).mapState x.resume := by
  simp [Writer.flush, hx]

lemma flush_of_session_none (b : Backend ω κ τ) {x : Writer ω κ τ} (hx : x.session? = none)
    (w : ω) : x.flush b w = .fail .notOpen (x, w) := by
  cases h : x.phase with
  | active s => simp [session?_eq_some.mpr h] at hx
  | unopened => simp [Writer.flush, h]
  | closed => simp [Writer.flush, h]

/-! ### Closing -/

lemma close_phase (b : Backend ω κ τ) (x : Writer ω κ τ) (w : ω) :
    (x.close b w).state.1.phase = .closed := by
  cases h : x.phase <;> simp [Writer.close, h]

/-- The last batch is executed as any other, unless it is empty. -/
theorem closeBatch_cases (b : Backend ω κ τ) (s : Session κ τ) (stats : Stats) (w : ω) :
    let call := b.executeBatch s.statement w
    let closing := Writer.closeBatch b s stats w
    (s.pending = 0 ∧ closing.state.2.2 = w ∧ closing.report.flushFailed = false) ∨
    (∃ counts, s.pending ≠ 0 ∧ call.result = .ok counts ∧ closing.state.2.2 = call.state.2 ∧
      closing.report.flushFailed = false) ∨
    (∃ e, s.pending ≠ 0 ∧ call.result = .error e ∧ closing.state.2.2 = call.state.2 ∧
      closing.report.flushFailed = true) := by
  dsimp only
  by_cases hs : s.pending = 0
  · refine .inl ⟨hs, ?_⟩
    simp [Writer.closeBatch, hs, CloseReport.flushFailed]
  · cases hc : (b.executeBatch s.statement w).result with
    | ok counts =>
      refine .inr (.inl ⟨counts, hs, rfl, ?_⟩)
      simp [Writer.closeBatch, hs, hc, CloseReport.flushFailed]
    | error e =>
      refine .inr (.inr ⟨e, hs, rfl, ?_⟩)
      simp [Writer.closeBatch, hs, hc, CloseReport.flushFailed]

lemma closeBatch_state (b : Backend ω κ τ) (s : Session κ τ) (stats : Stats) (w : ω) :
    (Writer.closeBatch b s stats w).state =
      ((Writer.execute b s stats w).state.1.statement, (Writer.execute b s stats w).state.2) := by
  simp only [Writer.closeBatch, Writer.execute]
  split
  · rfl
  · split <;> rfl

/-- Closing goes on to the statement and the connection, and neither of them answers for the last
batch. -/
theorem close_of_active (b : Backend ω κ τ) {x : Writer ω κ τ} {s : Session κ τ}
    (hx : x.phase = .active s) (w : ω) :
    let batch := Writer.closeBatch b s x.stats w
    let statement := b.closeStatement batch.state.1 batch.state.2.2
    (x.close b w).state.2 = (b.closeConnection s.connection statement.state.2).state.2 ∧
      (x.close b w).report.flushFailed = batch.report.flushFailed := by
  have hstatement (t : τ) (w : ω) :
      (Writer.closeStatement b t w).state = (b.closeStatement t w).state.2 ∧
        (Writer.closeStatement b t w).report.flushFailed = false := by
    cases h : (b.closeStatement t w).result <;>
      simp [Writer.closeStatement, h, CloseReport.flushFailed]
  have hconnection (c : κ) (w : ω) :
      (Writer.closeConnection b c w).state = (b.closeConnection c w).state.2 ∧
        (Writer.closeConnection b c w).report.flushFailed = false := by
    cases h : (b.closeConnection c w).result <;>
      simp [Writer.closeConnection, h, CloseReport.flushFailed]
  have happend (r r' : CloseReport) : CloseReport.flushFailed (r ++ r') =
      (r.flushFailed || r'.flushFailed) := List.any_append
  simp only [Writer.close, hx, Writer.closeSession, happend, hstatement, hconnection,
    Bool.or_false, and_self]

/-! ### What no call touches -/

@[simp] lemma resume_phase (x : Writer ω κ τ) (state : Session κ τ × Stats × ω) :
    (x.resume state).1.phase = .active state.1 := rfl

@[simp] lemma resume_plan (x : Writer ω κ τ) (state : Session κ τ × Stats × ω) :
    (x.resume state).1.plan = x.plan := rfl

@[simp] lemma resume_registry (x : Writer ω κ τ) (state : Session κ τ × Stats × ω) :
    (x.resume state).1.registry = x.registry := rfl

@[simp] lemma resume_world (x : Writer ω κ τ) (state : Session κ τ × Stats × ω) :
    (x.resume state).2 = state.2.2 := rfl

lemma write_fixed (b : Backend ω κ τ) (r : Record) (x : Writer ω κ τ) (w : ω) :
    (x.write b r w).state.1.plan = x.plan ∧ (x.write b r w).state.1.registry = x.registry := by
  cases hx : x.phase with
  | unopened => simp [Writer.write, hx, Reply.fail]
  | closed => simp [Writer.write, hx, Reply.fail]
  | active s =>
    rcases write_cases b r hx w with ⟨_, _, _, h⟩ | ⟨_, _, _, h⟩ | ⟨_, _, _, h⟩ <;> simp [h]

lemma flush_fixed (b : Backend ω κ τ) (x : Writer ω κ τ) (w : ω) :
    (x.flush b w).state.1.plan = x.plan ∧ (x.flush b w).state.1.registry = x.registry := by
  cases hx : x.phase <;> simp [Writer.flush, hx, Reply.fail, Reply.mapState]

lemma start_fixed [Url.Names] (b : Backend ω κ τ) (index total : Nat) (x : Writer ω κ τ) (w : ω) :
    (x.start b index total w).state.1.plan = x.plan ∧
      (x.start b index total w).state.1.registry = x.registry := by
  rcases start_cases b index total x w with ⟨_, _, h⟩ | ⟨_, _, _, _, h, _⟩ <;> simp [h]

lemma close_fixed (b : Backend ω κ τ) (x : Writer ω κ τ) (w : ω) :
    (x.close b w).state.1.plan = x.plan ∧ (x.close b w).state.1.registry = x.registry := by
  cases hx : x.phase <;> simp [Writer.close, hx]

/-- A writer keeps its plan and its registry for life. -/
theorem run_fixed [Url.Names] (b : Backend ω κ τ) (act : ι → ω → ω) (steps : List (Step ι))
    (state : Writer ω κ τ × ω) :
    (run b act steps state).1.plan = state.1.plan ∧
      (run b act steps state).1.registry = state.1.registry := by
  refine run_induction b act state
    (fun _ s => s.1.plan = state.1.plan ∧ s.1.registry = state.1.registry) ⟨rfl, rfl⟩ ?_ steps
  rintro _ ⟨x, w⟩ step ⟨hp, hr⟩
  have h : (moment b act step (x, w)).after.1.plan = x.plan ∧
      (moment b act step (x, w)).after.1.registry = x.registry := by
    cases step with
    | outside i => exact ⟨rfl, rfl⟩
    | call c =>
      cases c with
      | start index total => exact start_fixed b index total x w
      | write r => exact write_fixed b r x w
      | flush => exact flush_fixed b x w
      | close => exact close_fixed b x w
  exact ⟨h.1.trans hp, h.2.trans hr⟩

/-- A call of a writer changes of the world what the calls that it makes change. -/
theorem perform_world [Url.Names] {α : Type} (b : Backend ω κ τ) (f : ω → α) {x : Writer ω κ τ}
    (hconnect : ∀ d, x.registry.find? x.plan.driver = some d →
      ∀ t w, f (d.connect t w).state = f w)
    (hprepare : ∀ sql c w, f (b.prepare sql c w).state = f w)
    (hbind : ∀ position p s w, f (b.bind position p s w).state.2 = f w)
    (hadd : ∀ s w, f (b.addBatch s w).state.2 = f w)
    (hexecute : ∀ s w, f (b.executeBatch s w).state.2 = f w)
    (hstatement : ∀ s w, f (b.closeStatement s w).state.2 = f w)
    (hconnection : ∀ c w, f (b.closeConnection c w).state.2 = f w) (c : Command) (w : ω) :
    f (perform b c (x, w)).state.2 = f w := by
  have hexecution (s : Writer.Session κ τ) (stats : Stats) (w : ω) :
      f (Writer.execute b s stats w).state.2.2 = f w := by
    by_cases hs : s.pending = 0
    · rw [execute_of_zero b hs]
      rfl
    · rcases execute_of_pos b hs stats w with ⟨_, _, _, h⟩ | ⟨_, _, _, h⟩
      · rw [h]
        exact hexecute _ _
      · rw [h]
        exact hexecute _ _
  cases c with
  | start index total => exact start_world b f hconnect hprepare hconnection index total w
  | write r =>
    cases hs : x.session? with
    | none =>
      have hreply := write_of_session_none b r hs w
      simp only [perform, hreply, Reply.fail]
    | some s =>
      have happend := append_world b f hbind hadd x.plan.columnTypes r s.statement w
      have hphase := session?_eq_some.mp hs
      rcases write_cases b r hphase w with ⟨_, _, _, h⟩ | ⟨_, _, _, h⟩ | ⟨_, _, _, h⟩
      · simp only [perform, h]
        exact happend
      · simp only [perform, h]
        exact happend
      · simp only [perform, h]
        exact (hexecution _ _ _).trans happend
  | flush =>
    cases hs : x.session? with
    | none =>
      have hreply := flush_of_session_none b hs w
      simp only [perform, hreply, Reply.fail]
    | some s =>
      have hreply := flush_of_active b (session?_eq_some.mp hs) w
      simp only [perform, hreply]
      exact hexecution _ _ _
  | close =>
    cases hphase : x.phase with
    | unopened => simp only [perform, Writer.close, hphase]
    | closed => simp only [perform, Writer.close, hphase]
    | active s =>
      have hlast : f (Writer.closeBatch b s x.stats w).state.2.2 = f w := by
        rw [closeBatch_state]
        exact hexecution _ _ _
      have hworld := (close_of_active b hphase w).1
      simp only [perform, hworld]
      exact (hconnection _ _).trans ((hstatement _ _).trans hlast)

end BatchInsert.Proofs
