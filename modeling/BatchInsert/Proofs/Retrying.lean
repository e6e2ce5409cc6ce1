import BatchInsert.Proofs.FailedWrites
import BatchInsert.Url.European

/-!
# Flushing again

A flush hands the batch to the driver once, and the count starts over before it is known what has
come of it. When the execution fails its rows are gone, even if the failure is one that may go away.
Flushing again succeeds, since there is nothing left to execute.
-/

namespace BatchInsert.Proofs

open Database (Backend Driver Error Reply)
open Writer (Session)

variable {ω κ τ ι : Type}

/-- What the contract of a statement says of an execution: the batch is empty after it, whether it
has succeeded or not. -/
def Drains (b : Backend ω κ τ) : Prop := ∀ s w, b.batchLength (b.executeBatch s w).state.1 = 0

/-! ### One flush -/

section Flush

variable (b : Backend ω κ τ) {x : Writer ω κ τ} {s : Session κ τ}

lemma flush_of_zero (hx : x.phase = .active s) (hs : s.pending = 0) (w : ω) :
    x.flush b w = .ok () (x, w) := by
  have hsame : x.resume (s, x.stats, w) = (x, w) := by
    unfold Writer.resume
    rw [← hx]
  rw [flush_of_active b hx, execute_of_zero b hs]
  exact congrArg (Reply.ok ()) hsame

lemma flush_asks_of_zero [Url.Names] (hx : x.phase = .active s) (hs : s.pending = 0) (w : ω) :
    asks b .flush (x, w) = [] := by
  have hphase : (Watched.writer x).phase = .active s := hx
  have hreply := flush_of_zero (Watched.backend b) hphase hs ⟨w, []⟩
  simp only [asks, perform, hreply]
  rfl

lemma flush_of_pos [Url.Names] (hx : x.phase = .active s) (hs : s.pending ≠ 0) (w : ω) :
    let call := b.executeBatch s.statement w
    let left := { s with statement := call.state.1, pending := 0 }
    asks b .flush (x, w) = [.executeBatch (b.batchLength s.statement) (errorOf call.result)] ∧
      ((∃ counts, call.result = .ok counts ∧ (x.flush b w).result = .ok ()) ∨
        ∃ e, call.result = .error e ∧ (x.flush b w).result = .error (.execution s.pending e) ∧
          (x.flush b w).state =
            x.resume (left, x.stats.fail (.ofNat s.pending), call.state.2)) := by
  intro call left
  have hphase : (Watched.writer x).phase = .active s := hx
  have hasks : asks b .flush (x, w) =
      [.executeBatch (b.batchLength s.statement) (errorOf call.result)] := by
    simp only [asks, perform, flush_of_active (Watched.backend b) hphase]
    rcases execute_of_pos (Watched.backend b) hs (Watched.writer x).stats ⟨w, []⟩ with
      ⟨_, _, _, h⟩ | ⟨_, _, _, h⟩
    · simp only [Reply.mapState, h]
      rfl
    · simp only [Reply.mapState, h]
      rfl
  refine ⟨hasks, ?_⟩
  rw [flush_of_active b hx]
  rcases execute_of_pos b hs x.stats w with ⟨counts, hc, hr, _⟩ | ⟨e, he, hr, h⟩
  · exact .inl ⟨counts, hc, hr⟩
  · exact .inr ⟨e, he, hr, congrArg x.resume h⟩

end Flush

/-- The writer `left` is `x` without the batch of its session `s`, whose records count as failed. -/
structure Dropped (b : Backend ω κ τ) (s : Session κ τ) (x left : Writer ω κ τ) : Prop where
  emptied : ∃ s', left.phase = .active s' ∧ s'.connection = s.connection ∧ s'.pending = 0 ∧
    b.batchLength s'.statement = 0
  stats : left.stats = x.stats.fail (.ofNat s.pending)

/-! ### Flushing again -/

/-- Whether a step flushes or is no call at all. -/
def isRetry : Step ι → Bool
  | .call .flush | .outside _ => true
  | _ => false

lemma retries_of_zero [Url.Names] (b : Backend ω κ τ) (act : ι → ω → ω) {x : Writer ω κ τ}
    {s : Session κ τ} (hx : x.phase = .active s) (hs : s.pending = 0) (retries : List (Step ι))
    (hretries : ∀ step ∈ retries, isRetry step = true) (w : ω) :
    ∀ m ∈ history b act retries (x, w), m.after.1 = x ∧ ∀ c, m.step = .call c →
      m.answer = some (.flushed (.ok ())) ∧ asks b c m.before = [] ∧ m.after.2 = m.before.2 := by
  induction retries generalizing w with
  | nil => simp [history]
  | cons step retries ih =>
    obtain ⟨hstep, hrest⟩ := List.forall_mem_cons.mp hretries
    have hflush := flush_of_zero b hx hs w
    have hsame : (moment b act step (x, w)).after.1 = x := by
      cases step with
      | outside i => rfl
      | call c =>
        cases c with
        | flush => simp [moment, perform, hflush, Reply.ok]
        | _ => cases hstep
    intro m hm
    rcases List.mem_cons.mp hm with rfl | hm
    · refine ⟨hsame, ?_⟩
      intro c hc
      rw [moment_step] at hc
      subst hc
      cases c with
      | flush =>
        refine ⟨?_, flush_asks_of_zero b hx hs w, ?_⟩
        · simp [moment, perform, hflush, Reply.ok]
        · simp [moment, perform, hflush, Reply.ok]
      | _ => cases hstep
    · have hafter : (moment b act step (x, w)).after = (x, (moment b act step (x, w)).after.2) :=
        Prod.ext hsame rfl
      rw [hafter] at hm
      exact ih hrest _ m hm

/-- After any run of a writer over a driver that keeps the contract, with records waiting: a flush
that succeeds has executed the batch. One that fails has done so too, and in vain, whether the
failure may go away or not: the batch is empty, the count is zero and the records are counted as
failed. However often it is made again, and whatever happens to the world in between, it then
succeeds, and executes nothing. -/
theorem failed_flush_drops_rows [Url.Names] (b : Backend ω κ τ) (hb : Drains b) (act : ι → ω → ω)
    (plan : Plan) (registry : Registry (Driver ω κ)) (steps : List (Step ι)) (w : ω)
    (s : Session κ τ) :
    let state := run b act steps (.ofPlan plan registry, w)
    let reply := state.1.flush b state.2
    let left := reply.state.1
    let made := asks b .flush state
    state.1.phase = .active s → 0 < s.pending →
      (∀ slots, Lawful b slots → b.batchLength s.statement = s.pending) ∧
      (reply.result = .ok () → made = [.executeBatch (b.batchLength s.statement) none]) ∧
      ∀ f, reply.result = .error f →
        ∃ e, f = .execution s.pending e ∧ (Failure.writing f).isRetriable = e.isRetriable ∧
          made = [.executeBatch (b.batchLength s.statement) (some e)] ∧
          Dropped b s state.1 left ∧
          ∀ retries : List (Step ι), (∀ step ∈ retries, isRetry step = true) →
            ∀ m ∈ history b act retries reply.state, m.after.1 = left ∧ ∀ c, m.step = .call c →
              m.answer = some (.flushed (.ok ())) ∧ asks b c m.before = [] ∧
                m.after.2 = m.before.2 := by
  intro state reply left made hs hpos
  obtain ⟨hasks, hcases⟩ := flush_of_pos b hs (Nat.ne_of_gt hpos) state.2
  refine ⟨?_, ?_, ?_⟩
  · intro slots hlawful
    have hconsistent : Consistent b state.1 :=
      consistent_run hlawful act steps _ (consistent_of_session_none rfl)
    exact (hconsistent s hs).1.symm
  · intro hok
    rcases hcases with ⟨counts, hc, _⟩ | ⟨e, _, herror, _⟩
    · rw [hc] at hasks
      exact hasks
    · rw [show reply.result = _ from herror] at hok
      cases hok
  · intro f hf
    rcases hcases with ⟨_, _, hok⟩ | ⟨e, he, herror, hstate⟩
    · rw [show reply.result = _ from hok] at hf
      cases hf
    · have hexecution : f = .execution s.pending e :=
        Except.error.inj (hf.symm.trans herror)
      subst hexecution
      rw [he] at hasks
      let emptied : Session κ τ :=
        { s with statement := (b.executeBatch s.statement state.2).state.1, pending := 0 }
      have hleft : left.phase = .active emptied := congrArg (·.1.phase) hstate
      refine ⟨e, rfl, rfl, hasks, ?_, ?_⟩
      · exact ⟨⟨emptied, hleft, rfl, rfl, hb _ _⟩, congrArg (·.1.stats) hstate⟩
      · intro retries hretries
        exact retries_of_zero b act hleft rfl retries hretries reply.state.2

def connectionLost : Error := .connection "connection lost" []

/-- The in-memory backend with the connection lost where an execution is made to fail. -/
def losing : Backend Memory.World Memory.Connection Memory.Statement :=
  { Memory.backend with
    executeBatch := fun s w =>
      (Memory.backend.executeBatch s w).mapError fun _ => connectionLost }

lemma drains_losing : Drains losing := by
  intro s w
  have hbatch := (executeBatch_ledger s w).1
  exact congrArg Array.size hbatch

/-- A record waits while the connection is lost. -/
def waitingAtLoss : List (Step Toggle) :=
  [.call (.start 0 1), .call (.write ⟨[.int32 1]⟩), .outside (.fail .executeBatch)]

open scoped Url.European

/-- The connection is there again at the second of two more flushes. -/
theorem failed_flush_drops_rows_at_loss :
    let state := run losing Toggle.apply waitingAtLoss (.ofPlan pairsPlan memoryOnly, .start)
    let reply := state.1.flush losing state.2
    let retries : List (Step Toggle) :=
      [.call .flush, .outside (.recover .executeBatch), .call .flush]
    Drains losing ∧ (∃ s, state.1.phase = .active s ∧ 0 < s.pending) ∧
      reply.result = .error (.execution 1 connectionLost) ∧
      (∃ s, Dropped losing s state.1 reply.state.1) ∧ (∀ step ∈ retries, isRetry step = true) ∧
      ∀ m ∈ history losing Toggle.apply retries reply.state, m.after.1 = reply.state.1 := by
  intro state reply retries
  have hsession : state.1.session?.map Session.pending = some 1 := by decide +kernel
  obtain ⟨s, hs, hpending⟩ := Option.map_eq_some_iff.mp hsession
  have hphase := session?_eq_some.mp hs
  have hpos : 0 < s.pending := by omega
  have hf : reply.result = .error (.execution 1 connectionLost) := by decide +kernel
  have hretries : ∀ step ∈ retries, isRetry step = true := by decide
  obtain ⟨_, _, hfailed⟩ := failed_flush_drops_rows losing drains_losing Toggle.apply pairsPlan
    memoryOnly waitingAtLoss .start s hphase hpos
  obtain ⟨_, _, _, _, hdropped, hagain⟩ := hfailed _ hf
  refine ⟨drains_losing, ⟨s, hphase, hpos⟩, hf, ⟨s, hdropped⟩, hretries, ?_⟩
  intro m hm
  exact (hagain retries hretries m hm).1

/-- A failure that may go away, and the same call succeeding afterwards: the record that waited has
not been executed. -/
theorem retried_flush_executes_nothing :
    let state := run losing Toggle.apply waitingAtLoss (.ofPlan pairsPlan memoryOnly, .start)
    let first := state.1.flush losing state.2
    let again := first.state.1.flush losing (first.state.2.recover .executeBatch)
    let f := WriteFailure.execution 1 connectionLost
    Drains losing ∧ state.1.phase.name = "active" ∧ state.1.pending = 1 ∧
      first.result = .error f ∧ (Failure.writing f).isRetriable = true ∧
      again.result = .ok () ∧ again.state.2.journal.rowsExecuted = 0 := by
  intro state first again f
  exact ⟨drains_losing, by decide +kernel, by decide +kernel, by decide +kernel, by decide +kernel,
    by decide +kernel, by decide +kernel⟩

end BatchInsert.Proofs
