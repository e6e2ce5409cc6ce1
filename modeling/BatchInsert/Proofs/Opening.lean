import BatchInsert.Proofs.Exchanges
import BatchInsert.Proofs.Fields
import BatchInsert.Proofs.Journal
import BatchInsert.Url.European

/-!
# Opening

Opening resolves the driver, connects and prepares the statement, up to the first of these that
fails. A failure is answered with its own error, a connection that was made is closed again, and the
writer is as if it had not been opened: however often opening has failed, it is still as new.
-/

namespace BatchInsert.Proofs

open Database (Backend Driver Error Reply)

variable {ω κ τ ι : Type}

/-- How opening ends: what it asks, what it answers, and the world that it leaves. -/
inductive Opening (b : Backend ω κ τ) (x : Writer ω κ τ) (w : ω) :
    List (Exchange κ) → Except OpenFailure Unit → ω → Prop
  | unresolved {e : Error} (hdriver : x.registry.resolve x.plan.driver = .error e) :
    Opening b x w [] (.error (.driver x.plan.driver e)) w
  | unconnected {d : Driver ω κ} {e : Error} {w₁ : ω} {log : List Log.Entry}
    (hdriver : x.registry.resolve x.plan.driver = .ok d)
    (hconnect : d.connect x.plan.target w = ⟨.error e, w₁, log⟩) :
    Opening b x w [.connect (.error e)] (.error (.connection e)) w₁
  | unprepared {d : Driver ω κ} {c c' : κ} {e : Error} {closed : Except Error Unit} {w₁ w₂ w₃ : ω}
    {log log' log'' : List Log.Entry} (hdriver : x.registry.resolve x.plan.driver = .ok d)
    (hconnect : d.connect x.plan.target w = ⟨.ok c, w₁, log⟩)
    (hprepare : b.prepare x.plan.statement c w₁ = ⟨.error e, w₂, log'⟩)
    (hclose : b.closeConnection c w₂ = ⟨closed, (c', w₃), log''⟩) :
    Opening b x w [.connect (.ok c), .prepare c (some e), .closeConnection c (errorOf closed)]
      (.error (.statement x.plan.statement e)) w₃
  | opened {d : Driver ω κ} {c : κ} {s : τ} {w₁ w₂ : ω} {log log' : List Log.Entry}
    (hdriver : x.registry.resolve x.plan.driver = .ok d)
    (hconnect : d.connect x.plan.target w = ⟨.ok c, w₁, log⟩)
    (hprepare : b.prepare x.plan.statement c w₁ = ⟨.ok s, w₂, log'⟩) :
    Opening b x w [.connect (.ok c), .prepare c none] (.ok ()) w₂

/-- The first error among resolving the driver and what is asked after it. -/
def firstError {δ : Type} (resolved : Except Error δ) (made : List (Exchange κ)) : Option Error :=
  (errorOf resolved).or (made.findSome? Exchange.error?)

/-! ### One call -/

section Call

variable {b : Backend ω κ τ} {x : Writer ω κ τ}

theorem start_opening [Url.Names] (b : Backend ω κ τ) (hx : x.phase = .unopened)
    (index total : Nat) (w : ω) :
    let reply := x.start b index total w
    Opening b x w (asks b (.start index total) (x, w)) reply.result reply.state.2 := by
  intro reply
  cases hdriver : x.registry.resolve x.plan.driver with
  | error e =>
    have h := Opening.unresolved (b := b) (w := w) hdriver
    simpa [reply, asks, perform, Writer.start, Writer.connect, hx, hdriver, resolve_watched,
      Watched.writer, Reply.fail, Except.map] using h
  | ok d =>
    rcases hconnect : d.connect x.plan.target w with ⟨connected, w₁, log⟩
    cases connected with
    | error e =>
      have h := Opening.unconnected (b := b) hdriver hconnect
      simpa [reply, asks, perform, Writer.start, Writer.connect, hx, hdriver, resolve_watched,
        Watched.writer, Watched.driver, Watched.after, hconnect, Reply.mapState, Except.map] using h
    | ok c =>
      rcases hprepare : b.prepare x.plan.statement c w₁ with ⟨prepared, w₂, log'⟩
      cases prepared with
      | ok s =>
        have h := Opening.opened hdriver hconnect hprepare
        simpa [reply, asks, perform, Writer.start, Writer.connect, hx, hdriver, resolve_watched,
          Watched.writer, Watched.driver, Watched.backend, Watched.after, hconnect, hprepare,
          Reply.mapState, Except.map, errorOf] using h
      | error e =>
        rcases hclose : b.closeConnection c w₂ with ⟨closed, ⟨c', w₃⟩, log''⟩
        have h := Opening.unprepared hdriver hconnect hprepare hclose
        simpa [reply, asks, perform, Writer.start, Writer.connect, hx, hdriver, resolve_watched,
          Watched.writer, Watched.driver, Watched.backend, Watched.noted, Watched.after, hconnect,
          hprepare, hclose, Reply.mapState, Except.map, errorOf] using h

lemma Opening.failure {w w' : ω} {made : List (Exchange κ)} {f : OpenFailure}
    (h : Opening b x w made (.error f) w') :
    (∃ e, firstError (x.registry.resolve x.plan.driver) made = some e ∧
      (Failure.opening f).cause? = some e ∧ (Failure.opening f).isRetriable = e.isRetriable) ∧
      made.filterMap Exchange.closed? = made.filterMap Exchange.connected? := by
  cases h with
  | unresolved hdriver => exact ⟨⟨_, by rw [hdriver]; rfl, rfl, rfl⟩, rfl⟩
  | unconnected hdriver _ => exact ⟨⟨_, by rw [hdriver]; rfl, rfl, rfl⟩, rfl⟩
  | unprepared hdriver _ _ _ => exact ⟨⟨_, by rw [hdriver]; rfl, rfl, rfl⟩, rfl⟩

lemma start_of_opened [Url.Names] (b : Backend ω κ τ) (hx : x.phase ≠ .unopened)
    (index total : Nat) (w : ω) :
    ∃ f, x.start b index total w = .fail f (x, w) ∧ asks b (.start index total) (x, w) = [] := by
  cases hphase : x.phase with
  | unopened => exact absurd hphase hx
  | active s =>
    exact ⟨.alreadyOpen, by simp [Writer.start, hphase],
      by simp [asks, perform, Writer.start, Watched.writer, hphase, Reply.fail]⟩
  | closed =>
    exact ⟨.closed, by simp [Writer.start, hphase],
      by simp [asks, perform, Writer.start, Watched.writer, hphase, Reply.fail]⟩

lemma start_error_state [Url.Names] {index total : Nat} {w : ω} {f : OpenFailure}
    (h : (x.start b index total w).result = .error f) : (x.start b index total w).state.1 = x := by
  rcases start_cases b index total x w with ⟨_, _, hstate⟩ | ⟨_, _, _, hok, _⟩
  · exact hstate
  · rw [hok] at h
    cases h

end Call

/-! ### Writers that are still unopened -/

section Runs

variable (b : Backend ω κ τ) (act : ι → ω → ω)

/-- No call leads back to an unopened writer, and one that stays unopened stays as it is. -/
lemma eq_of_unopened_after [Url.Names] {x : Writer ω κ τ} {w : ω} (step : Step ι)
    (hafter : (moment b act step (x, w)).after.1.phase = .unopened) :
    (moment b act step (x, w)).after.1 = x := by
  cases step with
  | outside i => rfl
  | call c =>
    have hmoves := stage_perform b c x w
    rw [show (perform b c (x, w)).state.1.phase = .unopened from hafter] at hmoves
    have hx : x.session? = none := by
      cases hphase : x.phase with
      | active s =>
        rw [hphase] at hmoves
        cases hmoves
      | unopened => simp [Writer.session?, hphase]
      | closed => simp [Writer.session?, hphase]
    cases c with
    | start index total =>
      rcases start_cases b index total x w with ⟨_, _, h⟩ | ⟨s, _, _, _, h, _⟩
      · exact h
      · simp [moment, perform, h] at hafter
    | write r => simp [moment, perform, write_of_session_none b r hx, Reply.fail]
    | flush => simp [moment, perform, flush_of_session_none b hx, Reply.fail]
    | close => simp [moment, perform, close_phase] at hafter

lemma eq_of_unopened_run [Url.Names] (steps : List (Step ι)) (state : Writer ω κ τ × ω)
    (hrun : (run b act steps state).1.phase = .unopened) : (run b act steps state).1 = state.1 := by
  induction steps using List.reverseRecOn with
  | nil => rfl
  | append_singleton steps step ih =>
    rw [run_append] at hrun ⊢
    have hlast := eq_of_unopened_after b act step hrun
    have hbefore : (run b act steps state).1.phase = .unopened :=
      (congrArg Writer.phase hlast.symm).trans hrun
    exact hlast.trans (ih hbefore)

/-- Whether a step was an opening that failed, or no call at all. -/
def isFailedStart (m : Moment ω κ τ ι) : Bool :=
  match m.answer with
  | none | some (.started (.error _)) => true
  | _ => false

lemma eq_of_failed_starts [Url.Names] (steps : List (Step ι)) (state : Writer ω κ τ × ω)
    (hfailed : ∀ m ∈ history b act steps state, isFailedStart m = true) :
    (run b act steps state).1 = state.1 := by
  induction steps generalizing state with
  | nil => rfl
  | cons step steps ih =>
    obtain ⟨hfirst, hrest⟩ := List.forall_mem_cons.mp hfailed
    have hsame : (moment b act step state).after.1 = state.1 := by
      cases step with
      | outside i => rfl
      | call c =>
        cases c with
        | start index total =>
          cases hr : (state.1.start b index total state.2).result with
          | error f => exact start_error_state hr
          | ok a => simp [isFailedStart, moment, perform, hr] at hfirst
        | write r => simp [isFailedStart, moment, perform] at hfirst
        | flush => simp [isFailedStart, moment, perform] at hfirst
        | close => simp [isFailedStart, moment, perform] at hfirst
    exact (ih _ hrest).trans hsame

/-- An unopened writer is as new, whatever was called on it. Opening it fails with the error of the
first of resolving, connecting and preparing that fails, whatever comes of closing the connection,
which is closed once if it was made; and the writer stays as it is. So a writer on which any number
of openings have failed goes on as a new one. Opening a writer that is open or closed asks nothing
and changes nothing. -/
theorem start_all_or_nothing [Url.Names] (plan : Plan) (registry : Registry (Driver ω κ))
    (steps : List (Step ι)) (w : ω) (index total : Nat) :
    let new : Writer ω κ τ := .ofPlan plan registry
    let past := history b act steps (new, w)
    let state := run b act steps (new, w)
    let reply := state.1.start b index total state.2
    let made := asks b (.start index total) state
    (state.1.phase = .unopened →
      state.1 = new ∧ Opening b new state.2 made reply.result reply.state.2 ∧
      ∀ f, reply.result = .error f → reply.state.1 = new ∧
        (∃ e, firstError (registry.resolve plan.driver) made = some e ∧
          (Failure.opening f).cause? = some e ∧
          (Failure.opening f).isRetriable = e.isRetriable) ∧
        made.filterMap Exchange.closed? = made.filterMap Exchange.connected?) ∧
    (state.1.phase ≠ .unopened → ∃ f, reply = .fail f state ∧ made = []) ∧
    ((∀ m ∈ past, isFailedStart m = true) → state.1 = new ∧
      ∀ more, history b act (steps ++ more) (new, w) =
        past ++ history b act more (new, state.2)) := by
  intro new past state reply made
  refine ⟨?_, ?_, ?_⟩
  · intro hphase
    have hnew : state.1 = new := eq_of_unopened_run b act steps (new, w) hphase
    have hopening : Opening b new state.2 made reply.result reply.state.2 :=
      hnew ▸ start_opening b hphase index total state.2
    refine ⟨hnew, hopening, ?_⟩
    intro f hf
    have hstate : reply.state.1 = state.1 := start_error_state hf
    rw [hf] at hopening
    obtain ⟨hfirst, hclosed⟩ := hopening.failure
    exact ⟨hstate.trans hnew, hfirst, hclosed⟩
  · intro hphase
    exact start_of_opened b hphase index total state.2
  · intro hfailed
    have hnew : state.1 = new := eq_of_failed_starts b act steps (new, w) hfailed
    refine ⟨hnew, ?_⟩
    intro more
    have hstate : (new, state.2) = state := Prod.ext hnew.symm rfl
    rw [history_append, hstate]

end Runs

/-- Neither can the statement be prepared nor the connection be closed again. -/
def nothingPrepares : List (Step Toggle) :=
  [.outside (.fail .prepare), .outside (.fail .closeConnection), .call (.start 0 1)]

open scoped Url.European

/-- The second attempt fails as the first one, with the error of the statement. -/
theorem start_all_or_nothing_twice :
    let new : MemoryWriter := .ofPlan pairsPlan memoryOnly
    let past := history Memory.backend Toggle.apply nothingPrepares (new, .start)
    let state := run Memory.backend Toggle.apply nothingPrepares (new, .start)
    let reply := state.1.start Memory.backend 0 1 state.2
    let made := asks Memory.backend (.start 0 1) state
    (∀ m ∈ past, isFailedStart m = true) ∧ state.1.phase = .unopened ∧
      made.map Exchange.error? =
        [none, some (Memory.injected .prepare), some (Memory.injected .closeConnection)] ∧
      reply.result = .error (.statement pairsPlan.statement (Memory.injected .prepare)) ∧
      reply.state.1 = new ∧ made.filterMap Exchange.closed? = made.filterMap Exchange.connected? ∧
      ∀ more, history Memory.backend Toggle.apply (nothingPrepares ++ more) (new, .start) =
        past ++ history Memory.backend Toggle.apply more (new, state.2) := by
  dsimp only
  obtain ⟨hstart, _, hnew⟩ :=
    start_all_or_nothing Memory.backend Toggle.apply pairsPlan memoryOnly nothingPrepares .start 0 1
  have hpast : ∀ m ∈ history Memory.backend Toggle.apply nothingPrepares
      (.ofPlan pairsPlan memoryOnly, .start), isFailedStart m = true := by
    decide +kernel
  obtain ⟨hunopened, hmore⟩ := hnew hpast
  have hphase := congrArg Writer.phase hunopened
  obtain ⟨_, _, hfailure⟩ := hstart hphase
  obtain ⟨hstate, _, hclosed⟩ :=
    hfailure (.statement pairsPlan.statement (Memory.injected .prepare)) (by decide +kernel)
  exact ⟨hpast, hphase, by decide +kernel, by decide +kernel, hstate, hclosed, hmore⟩

end BatchInsert.Proofs
