import BatchInsert.Proofs.Calls
import BatchInsert.Proofs.Statements

/-!
# The count of records and the batch

A writer counts the records that it has taken, and its statement holds their rows. The two agree in
every state that a run reaches, and the count stays below the size of a batch.
-/

namespace BatchInsert.Proofs

open Database (Backend Reply)
open Writer (Session)

variable {ω κ τ ι : Type} {b : Backend ω κ τ} {slots : τ → Slots}

/-! ### Records on their way into the batch -/

lemma batchLength_bind (hb : Lawful b slots) (position : Nat) (p : Sql.Param) (s : τ) (w : ω) :
    b.batchLength (b.bind position p s w).state.1 = b.batchLength s := by
  cases h : (b.bind position p s w).result with
  | ok a => exact (hb.bind_ok h).2
  | error e => rw [hb.bind_error h]

/-- A record that is taken puts one row into the batch, a rejected one none. -/
theorem batchLength_append (hb : Lawful b slots) (types : Option (List Sql.Tag)) (r : Record)
    (s : τ) (w : ω) :
    b.batchLength (Writer.append b types r s w).state.1 =
      match (Writer.append b types r s w).result with
      | .ok () => b.batchLength s + 1
      | .error _ => b.batchLength s := by
  have hbind : b.batchLength (Binding.record b types r s w).state.1 = b.batchLength s :=
    bindFrom_statement b b.batchLength (batchLength_bind hb) types s w 0 r.fields
  rcases append_cases b types r s w with ⟨f, _, h, hs⟩ | ⟨e, _, ha, h, hs⟩ | ⟨_, ha, h, hs⟩
  · rw [h, hs]
    exact hbind
  · rw [h, hs, hb.add_error ha]
    exact hbind
  · rw [h, hs, (hb.add_ok ha).2]
    exact congrArg (· + 1) hbind

/-! ### The invariant -/

/-- The count is the length of the batch and leaves room for one record more. -/
def Consistent (b : Backend ω κ τ) (x : Writer ω κ τ) : Prop :=
  ∀ s, x.phase = .active s →
    s.pending = b.batchLength s.statement ∧ s.pending < x.plan.batchSize

lemma consistent_of_session_none {x : Writer ω κ τ} (hx : x.session? = none) : Consistent b x := by
  intro s hs
  simp [session?_eq_some.mpr hs] at hx

lemma pending_lt_batchSize {x : Writer ω κ τ} (hx : Consistent b x) :
    x.pending < x.plan.batchSize := by
  cases hs : x.session? with
  | none => simpa [Writer.pending, hs] using x.plan.batchSize_pos
  | some s => simpa [Writer.pending, hs] using (hx s (session?_eq_some.mp hs)).2

lemma consistent_resume {x : Writer ω κ τ} {state : Session κ τ × Stats × ω}
    (hcount : state.1.pending = b.batchLength state.1.statement)
    (hroom : state.1.pending < x.plan.batchSize) : Consistent b (x.resume state).1 := by
  intro s hs
  cases hs
  exact ⟨hcount, hroom⟩

lemma consistent_execute (hb : Lawful b slots) (x : Writer ω κ τ) {s : Session κ τ}
    (hs : s.pending = b.batchLength s.statement) (stats : Stats) (w : ω) :
    Consistent b (x.resume (Writer.execute b s stats w).state).1 := by
  by_cases hzero : s.pending = 0
  · rw [execute_of_zero b hzero]
    exact consistent_resume hs (hzero ▸ x.plan.batchSize_pos)
  · rcases execute_of_pos b hzero stats w with ⟨_, _, _, h⟩ | ⟨_, _, _, h⟩
    all_goals
      rw [h]
      exact consistent_resume (hb.execute _ _).2.symm x.plan.batchSize_pos

lemma consistent_start [Url.Names] (hb : Lawful b slots) (index total : Nat) {x : Writer ω κ τ}
    (hx : Consistent b x) (w : ω) : Consistent b (x.start b index total w).state.1 := by
  rcases start_cases b index total x w with ⟨_, _, h⟩ | ⟨s, w', _, _, h, hzero, hprep⟩
  · rw [h]
    exact hx
  · rw [h]
    intro t ht
    cases ht
    exact ⟨hzero.trans (hb.prepare hprep).2.symm, hzero ▸ x.plan.batchSize_pos⟩

lemma consistent_write (hb : Lawful b slots) (r : Record) {x : Writer ω κ τ} (hx : Consistent b x)
    (w : ω) : Consistent b (x.write b r w).state.1 := by
  cases hs : x.session? with
  | none =>
    rw [write_of_session_none b r hs]
    exact hx
  | some s =>
    have hphase := session?_eq_some.mp hs
    obtain ⟨hcount, hroom⟩ := hx s hphase
    have hlength := batchLength_append hb x.plan.columnTypes r s.statement w
    rcases write_cases b r hphase w with ⟨f, ha, _, h⟩ | ⟨ha, hlt, _, h⟩ | ⟨ha, _, _, h⟩
    · rw [ha] at hlength
      rw [h]
      exact consistent_resume (hcount.trans hlength.symm) hroom
    · rw [ha] at hlength
      rw [h]
      exact consistent_resume ((congrArg (· + 1) hcount).trans hlength.symm) hlt
    · rw [ha] at hlength
      rw [h]
      exact consistent_execute hb x ((congrArg (· + 1) hcount).trans hlength.symm) _ _

lemma consistent_flush (hb : Lawful b slots) {x : Writer ω κ τ} (hx : Consistent b x) (w : ω) :
    Consistent b (x.flush b w).state.1 := by
  cases hs : x.session? with
  | none =>
    rw [flush_of_session_none b hs]
    exact hx
  | some s =>
    have hphase := session?_eq_some.mp hs
    rw [flush_of_active b hphase]
    exact consistent_execute hb x (hx s hphase).1 _ _

lemma consistent_close (x : Writer ω κ τ) (w : ω) : Consistent b (x.close b w).state.1 := by
  apply consistent_of_session_none
  simp [Writer.session?, close_phase]

/-- Whatever the calls and their outcomes are, the count agrees with the batch. -/
theorem consistent_run [Url.Names] (hb : Lawful b slots) (act : ι → ω → ω) (steps : List (Step ι))
    (state : Writer ω κ τ × ω) (hstate : Consistent b state.1) :
    Consistent b (run b act steps state).1 := by
  refine run_induction b act state (fun _ s => Consistent b s.1) hstate ?_ steps
  rintro _ ⟨x, w⟩ step hx
  cases step with
  | outside i => exact hx
  | call c =>
    cases c with
    | start index total => exact consistent_start hb index total hx w
    | write r => exact consistent_write hb r hx w
    | flush => exact consistent_flush hb hx w
    | close => exact consistent_close x w

end BatchInsert.Proofs
