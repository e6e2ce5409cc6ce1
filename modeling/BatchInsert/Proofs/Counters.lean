import BatchInsert.Proofs.Journal
import BatchInsert.Proofs.Trace
import BatchInsert.Url.European

/-!
# The counters

Over any backend, whatever it answers: every record that was taken is executed, lost in a failed
execution, or still waits; every write of an active writer is taken or rejected; and every execution
that is called for has succeeded or failed. All this holds of words that wrap around.
-/

namespace BatchInsert.Proofs

open Database (Backend Call Driver Reply)
open Writer (Session)

variable {ω κ τ ι : Type}

/-! ### Sums of counters -/

/-- Records taken whose execution has neither succeeded nor failed. -/
def owed (s : Stats) : UInt64 := s.written - s.flushed - s.failed

/-- Records taken or rejected. -/
def attempts (s : Stats) : UInt64 := s.written + s.rejected

/-- Batches executed, with success or without. -/
def executed (s : Stats) : UInt64 := s.batchesFlushed + s.batchesFailed

lemma sums_write (s : Stats) : owed s.write = owed s + 1 ∧ attempts s.write = attempts s + 1 ∧
    executed s.write = executed s := by
  refine ⟨?_, ?_, rfl⟩
  · simp only [owed, Stats.write]
    grind
  · simp only [attempts, Stats.write]
    grind

lemma sums_reject (s : Stats) : owed s.reject = owed s ∧ attempts s.reject = attempts s + 1 ∧
    executed s.reject = executed s := by
  refine ⟨rfl, ?_, rfl⟩
  simp only [attempts, Stats.reject]
  grind

lemma sums_flush (s : Stats) (n : UInt64) (time : Duration) :
    owed (s.flush n time) = owed s - n ∧ attempts (s.flush n time) = attempts s ∧
      executed (s.flush n time) = executed s + 1 := by
  refine ⟨?_, rfl, ?_⟩
  · simp only [owed, Stats.flush]
    grind
  · simp only [executed, Stats.flush]
    grind

lemma sums_fail (s : Stats) (n : UInt64) :
    owed (s.fail n) = owed s - n ∧ attempts (s.fail n) = attempts s ∧
      executed (s.fail n) = executed s + 1 := by
  refine ⟨?_, rfl, ?_⟩
  · simp only [owed, Stats.fail]
    grind
  · simp only [executed, Stats.fail]
    grind

/-! ### Executions among the calls -/

def executions (w : Traced ω) : Nat := w.calls.count .executeBatch

lemma executions_after (w : Traced ω) {c : Call} (hc : c ≠ .executeBatch) (world : ω) :
    executions (w.after c world) = executions w := by
  simp [executions, Traced.after, List.count_append, hc]

lemma executions_after_executeBatch (w : Traced ω) (world : ω) :
    executions (w.after .executeBatch world) = executions w + 1 := by
  simp [executions, Traced.after, List.count_append]

lemma executions_append (b : Backend ω κ τ) (types : Option (List Sql.Tag)) (r : Record) (s : τ)
    (w : Traced ω) :
    executions (Writer.append (Traced.backend b) types r s w).state.2 = executions w :=
  append_world (Traced.backend b) executions
    (fun _ _ _ w => executions_after w (by decide) _) (fun _ w => executions_after w (by decide) _)
    types r s w

lemma executions_start [Url.Names] (b : Backend ω κ τ) (index total : Nat)
    {x : Writer (Traced ω) κ τ} {registry : Registry (Driver ω κ)}
    (hregistry : x.registry = Traced.registry registry) (w : Traced ω) :
    executions (x.start (Traced.backend b) index total w).state.2 = executions w := by
  refine start_world (Traced.backend b) executions ?_
    (fun _ _ w => executions_after w (by decide) _) (fun _ w => executions_after w (by decide) _)
    index total w
  intro d hd t w
  rw [hregistry, find?_traced, Option.map_eq_some_iff] at hd
  obtain ⟨d, _, rfl⟩ := hd
  exact executions_after w (by decide) _

/-- An execution settles what is owed for the records that wait; without any, there is none. -/
lemma sums_execute (b : Backend ω κ τ) (s : Session κ τ) (stats : Stats) (w : Traced ω) :
    let left := (Writer.execute (Traced.backend b) s stats w).state
    owed left.2.1 = owed stats - .ofNat s.pending ∧ attempts left.2.1 = attempts stats ∧
      ∃ count : Nat, executions left.2.2 = executions w + count ∧
        executed left.2.1 = executed stats + .ofNat count := by
  intro left
  by_cases hs : s.pending = 0
  · simp only [left, execute_of_zero _ hs, Reply.ok, hs]
    exact ⟨by simp, trivial, 0, rfl, by simp⟩
  · rcases execute_of_pos (Traced.backend b) hs stats w with ⟨_, _, _, h⟩ | ⟨_, _, _, h⟩
    · obtain ⟨howed, hattempts, hexecuted⟩ := sums_flush stats (.ofNat s.pending)
        ((Traced.backend b).executionTime s.statement w)
      simp only [left, h]
      exact ⟨howed, hattempts, 1, executions_after_executeBatch w _, hexecuted⟩
    · obtain ⟨howed, hattempts, hexecuted⟩ := sums_fail stats (.ofNat s.pending)
      simp only [left, h]
      exact ⟨howed, hattempts, 1, executions_after_executeBatch w _, hexecuted⟩

/-! ### The invariant -/

/-- The counters agree with the records that wait, with the writes of an active writer and with the
executions called for. -/
structure Balanced (written executions : Nat) (x : Writer ω κ τ) : Prop where
  room : x.pending < x.plan.batchSize
  owed : owed x.stats = .ofNat x.pending
  attempts : attempts x.stats = .ofNat written
  executed : executed x.stats = .ofNat executions

lemma balanced_new (plan : Plan) (registry : Registry (Driver ω κ)) :
    Balanced 0 0 (.ofPlan plan registry : Writer ω κ τ) where
  room := plan.batchSize_pos
  owed := by simp [BatchInsert.Proofs.owed, Writer.ofPlan, Stats.zero, Writer.pending,
    Writer.session?]
  attempts := by simp [BatchInsert.Proofs.attempts, Writer.ofPlan, Stats.zero]
  executed := by simp [BatchInsert.Proofs.executed, Writer.ofPlan, Stats.zero]

lemma pending_of_active {x : Writer ω κ τ} {s : Session κ τ} (hx : x.phase = .active s) :
    x.pending = s.pending := by
  simp [Writer.pending, session?_eq_some.mpr hx]

lemma pending_of_session_none {x : Writer ω κ τ} (hx : x.session? = none) : x.pending = 0 := by
  simp [Writer.pending, hx]

section Calls

variable {b : Backend ω κ τ} {x : Writer (Traced ω) κ τ} {w : Traced ω} {written : Nat}

lemma balanced_start [Url.Names] (hx : Balanced written (executions w) x)
    {registry : Registry (Driver ω κ)} (hregistry : x.registry = Traced.registry registry)
    (index total : Nat) :
    let state := (x.start (Traced.backend b) index total w).state
    Balanced written (executions state.2) state.1 := by
  intro state
  have hcount : executions state.2 = executions w := executions_start b index total hregistry w
  rw [hcount]
  rcases start_cases (Traced.backend b) index total x w with
    ⟨_, _, h⟩ | ⟨s, _, hphase, _, h, hzero, _⟩
  · simp only [state, h]
    exact hx
  · have hpending : x.pending = 0 := pending_of_session_none (by simp [Writer.session?, hphase])
    simp only [state, h]
    constructor
    case room =>
      rw [pending_of_active rfl, hzero]
      exact x.plan.batchSize_pos
    case owed =>
      rw [pending_of_active rfl, hzero, ← hpending]
      exact hx.owed
    case attempts => exact hx.attempts
    case executed => exact hx.executed

lemma balanced_execute (x : Writer (Traced ω) κ τ) {s : Session κ τ} {stats : Stats}
    (howed : owed stats = .ofNat s.pending) (hattempts : attempts stats = .ofNat written)
    (hexecuted : executed stats = .ofNat (executions w)) :
    let state := x.resume (Writer.execute (Traced.backend b) s stats w).state
    Balanced written (executions state.2) state.1 := by
  intro state
  obtain ⟨howed', hattempts', count, hcount, hexecuted'⟩ := sums_execute b s stats w
  have hpending : state.1.pending = 0 := execute_pending (Traced.backend b) s stats w
  constructor
  case room =>
    rw [hpending]
    exact x.plan.batchSize_pos
  case owed =>
    rw [hpending]
    exact howed'.trans (by rw [howed]; simp)
  case attempts => exact hattempts'.trans hattempts
  case executed =>
    rw [show executions state.2 = _ from hcount, UInt64.ofNat_add, ← hexecuted]
    exact hexecuted'

lemma balanced_write (hx : Balanced written (executions w) x) (r : Record) {s : Session κ τ}
    (hphase : x.phase = .active s) :
    let state := (x.write (Traced.backend b) r w).state
    Balanced (written + 1) (executions state.2) state.1 := by
  intro state
  have happend := executions_append b x.plan.columnTypes r s.statement w
  have hpending : x.pending = s.pending := pending_of_active hphase
  have hroom := hx.room
  rw [hpending] at hroom
  rcases write_cases (Traced.backend b) r hphase w with
    ⟨f, _, _, h⟩ | ⟨_, hlt, _, h⟩ | ⟨_, _, _, h⟩
  · obtain ⟨howed, hattempts, hexecuted⟩ := sums_reject x.stats
    simp only [state, h, resume_world, happend]
    constructor
    case room => exact hroom
    case owed => exact howed.trans (hpending ▸ hx.owed)
    case attempts => exact hattempts.trans (by rw [hx.attempts, UInt64.ofNat_add]; rfl)
    case executed => exact hexecuted.trans hx.executed
  · obtain ⟨howed, hattempts, hexecuted⟩ := sums_write x.stats
    simp only [state, h, resume_world, happend]
    constructor
    case room => exact hlt
    case owed =>
      exact howed.trans (by rw [hx.owed, hpending, ← UInt64.ofNat_one, ← UInt64.ofNat_add]; rfl)
    case attempts => exact hattempts.trans (by rw [hx.attempts, UInt64.ofNat_add]; rfl)
    case executed => exact hexecuted.trans hx.executed
  · obtain ⟨howed, hattempts, hexecuted⟩ := sums_write x.stats
    simp only [state, h]
    refine balanced_execute x ?_ ?_ ?_
    · exact howed.trans (by rw [hx.owed, hpending, ← UInt64.ofNat_one, ← UInt64.ofNat_add])
    · exact hattempts.trans (by rw [hx.attempts, UInt64.ofNat_add]; rfl)
    · exact hexecuted.trans (by rw [hx.executed, happend])

lemma balanced_close (hx : Balanced written (executions w) x) :
    let state := (x.close (Traced.backend b) w).state
    Balanced written (executions state.2) state.1 := by
  intro state
  cases hphase : x.phase with
  | closed =>
    simp only [state, Writer.close, hphase]
    exact hx
  | unopened =>
    have hpending : x.pending = 0 := pending_of_session_none (by simp [Writer.session?, hphase])
    have howed := hx.owed
    rw [hpending] at howed
    simp only [state, Writer.close, hphase]
    exact ⟨x.plan.batchSize_pos, howed, hx.attempts, hx.executed⟩
  | active s =>
    have hs := pending_of_active hphase
    have hlast := balanced_execute (b := b) x (hs ▸ hx.owed) hx.attempts hx.executed
    have hpending := execute_pending (Traced.backend b) s x.stats w
    have hworld : executions state.2 =
        executions (Writer.execute (Traced.backend b) s x.stats w).state.2.2 := by
      rw [(close_of_active (Traced.backend b) hphase w).1, closeBatch_state]
      exact (executions_after _ (by decide) _).trans (executions_after _ (by decide) _)
    have hstats : state.1.stats =
        (Writer.execute (Traced.backend b) s x.stats w).state.2.1 := by
      simp only [state, Writer.close, hphase, Writer.closeSession, closeBatch_state]
    have hnone : state.1.pending = 0 :=
      pending_of_session_none (by simp [state, Writer.session?, close_phase])
    rw [hworld]
    constructor
    case room =>
      rw [hnone]
      exact state.1.plan.batchSize_pos
    case owed =>
      rw [hstats, hnone, ← hpending]
      exact hlast.owed
    case attempts =>
      rw [hstats]
      exact hlast.attempts
    case executed =>
      rw [hstats]
      exact hlast.executed

end Calls

/-! ### Runs -/

/-- A write of an active writer, whatever comes of it. -/
def isActiveWrite (m : Moment ω κ τ ι) : Bool :=
  match m.step with
  | .call (.write _) => m.before.1.session?.isSome
  | _ => false

lemma balanced_moment [Url.Names] {b : Backend ω κ τ} (act : ι → ω → ω)
    {x : Writer (Traced ω) κ τ} {w : Traced ω} {written : Nat}
    (hx : Balanced written (executions w) x) {registry : Registry (Driver ω κ)}
    (hregistry : x.registry = Traced.registry registry) (step : Step ι) :
    let m := moment (Traced.backend b) (Traced.outside act) step (x, w)
    Balanced (written + if isActiveWrite m then 1 else 0) (executions m.after.2) m.after.1 := by
  intro m
  cases step with
  | outside i => exact hx
  | call c =>
    cases c with
    | start index total => exact balanced_start hx hregistry index total
    | close => exact balanced_close hx
    | write r =>
      cases hs : x.session? with
      | none =>
        have hactive : isActiveWrite m = false := by simp [m, moment, isActiveWrite, hs]
        have hreply := write_of_session_none (Traced.backend b) r hs w
        rw [hactive]
        simp only [m, moment, perform, hreply, Reply.fail]
        exact hx
      | some s =>
        have hactive : isActiveWrite m = true := by simp [m, moment, isActiveWrite, hs]
        rw [hactive]
        exact balanced_write hx r (session?_eq_some.mp hs)
    | flush =>
      cases hs : x.session? with
      | none =>
        have hreply := flush_of_session_none (Traced.backend b) hs w
        simp only [m, moment, perform, hreply, Reply.fail]
        exact hx
      | some s =>
        have hphase := session?_eq_some.mp hs
        have hpending := pending_of_active hphase
        simp only [m, moment, perform, flush_of_active _ hphase]
        exact balanced_execute x (hpending ▸ hx.owed) hx.attempts hx.executed

lemma balanced_run [Url.Names] (b : Backend ω κ τ) (act : ι → ω → ω) (plan : Plan)
    (registry : Registry (Driver ω κ)) (steps : List (Step ι)) (w : ω) :
    let past := history (Traced.backend b) (Traced.outside act) steps
      (.ofPlan plan (Traced.registry registry), ⟨w, []⟩)
    let state := tracedRun b act plan registry steps w
    Balanced (past.countP isActiveWrite) (executions state.2) state.1 := by
  let Q (past : List (Moment (Traced ω) κ τ ι)) (state : Writer (Traced ω) κ τ × Traced ω) :
      Prop :=
    state.1.registry = Traced.registry registry ∧
      Balanced (past.countP isActiveWrite) (executions state.2) state.1
  have hinitial : Q [] (.ofPlan plan (Traced.registry registry), ⟨w, []⟩) :=
    ⟨rfl, balanced_new plan _⟩
  have hnext : ∀ past s step, Q past s →
      Q (past ++ [moment (Traced.backend b) (Traced.outside act) step s])
        (moment (Traced.backend b) (Traced.outside act) step s).after := by
    rintro past ⟨x, w⟩ step ⟨hregistry, hx⟩
    refine ⟨?_, ?_⟩
    · exact (run_fixed (Traced.backend b) (Traced.outside act) [step] (x, w)).2.trans hregistry
    · rw [List.countP_append, List.countP_singleton]
      exact balanced_moment act hx hregistry step
  exact (run_induction (Traced.backend b) (Traced.outside act) _ Q hinitial hnext steps).2

section Alike

variable {ω' : Type} {f : ω' → ω}

lemma isActiveWrite_eq {m' : Moment ω' κ τ ι} {m : Moment ω κ τ ι} (h : MomentsAgree f m' m) :
    isActiveWrite m' = isActiveWrite m := by
  rw [isActiveWrite, isActiveWrite, h.step, h.before.session?_eq]

lemma countP_eq_of_agrees {past' : List (Moment ω' κ τ ι)} {past : List (Moment ω κ τ ι)}
    (h : List.Forall₂ (MomentsAgree f) past' past) :
    past'.countP isActiveWrite = past.countP isActiveWrite := by
  induction h with
  | nil => rfl
  | cons hm _ ih => rw [List.countP_cons, List.countP_cons, ih, isActiveWrite_eq hm]

lemma Balanced.of_alike {x' : Writer ω' κ τ} {x : Writer ω κ τ} {written executions : Nat}
    (hx : Balanced written executions x') (h : Alike f x' x) : Balanced written executions x where
  room := by
    rw [← h.pending_eq, ← h.batchSize]
    exact hx.room
  owed := by
    rw [← h.pending_eq, ← h.stats]
    exact hx.owed
  attempts := h.stats ▸ hx.attempts
  executed := h.stats ▸ hx.executed

end Alike

/-- Whatever is called and whatever the driver answers, after every call and as words that wrap
around: the records written are those executed, those lost and those that wait; the writes of the
active writer are those taken and those rejected; the batches are as many as the executions that
the writer has called for; and giving the writer up warns of the records written but neither
executed nor lost, if there are any. -/
theorem counters_balanced [Url.Names] (b : Backend ω κ τ) (act : ι → ω → ω) (plan : Plan)
    (hsize : plan.batchSize < UInt64.size) (registry : Registry (Driver ω κ))
    (steps : List (Step ι)) (w : ω) :
    let past := history b act steps (.ofPlan plan registry, w)
    let x := (run b act steps (.ofPlan plan registry, w)).1
    let made := calls b act plan registry steps w
    let lost := x.stats.written - x.stats.flushed - x.stats.failed
    x.stats.written = x.stats.flushed + x.stats.failed + .ofNat x.pending ∧
      x.stats.written + x.stats.rejected = .ofNat (past.countP isActiveWrite) ∧
      x.stats.batchesFlushed + x.stats.batchesFailed = .ofNat (made.count .executeBatch) ∧
      x.dropNotice = if lost = 0 then [] else [Log.plain (.dropped lost.toNat)] := by
  intro past x made lost
  obtain ⟨hpast, halike, _⟩ := tracedRun_agrees b act plan registry steps w
  have hx : Balanced (past.countP isActiveWrite) (made.count .executeBatch) x := by
    rw [← countP_eq_of_agrees hpast]
    exact (balanced_run b act plan registry steps w).of_alike halike
  have hplan : x.plan = plan := (run_fixed b act steps (.ofPlan plan registry, w)).1
  have hroom : x.pending < UInt64.size := Nat.lt_trans (hplan ▸ hx.room) hsize
  have hword : (UInt64.ofNat x.pending).toNat = x.pending := UInt64.toNat_ofNat_of_lt' hroom
  have howed : lost = .ofNat x.pending := hx.owed
  refine ⟨?_, hx.attempts, hx.executed, ?_⟩
  · rw [← howed]
    grind
  · have hzero : UInt64.ofNat x.pending = 0 ↔ x.pending = 0 := by
      rw [← UInt64.toNat_inj, hword]
      rfl
    simp only [Writer.dropNotice, howed, hword, hzero]

/-- Of four records one is rejected, two are lost with their batch and one waits. -/
def mixedFates : List (Step Toggle) :=
  [.call (.start 0 1), .call (.write ⟨[.int32 1]⟩), .outside (.fail .bind),
    .call (.write ⟨[.int32 2]⟩), .outside (.recover .bind), .outside (.fail .executeBatch),
    .call (.write ⟨[.int32 3]⟩), .outside (.recover .executeBatch), .call (.write ⟨[.int32 4]⟩)]

open scoped Url.European

def mixedWriter : MemoryWriter :=
  (run Memory.backend Toggle.apply mixedFates (.ofPlan pairsPlan memoryOnly, .start)).1

theorem counters_balanced_of_mixed_fates :
    pairsPlan.batchSize < UInt64.size ∧
      mixedWriter.stats.written = mixedWriter.stats.flushed + mixedWriter.stats.failed +
        .ofNat mixedWriter.pending ∧
      mixedWriter.stats.written = 3 ∧ mixedWriter.stats.rejected = 1 ∧
      mixedWriter.stats.failed = 2 ∧ mixedWriter.pending = 1 ∧
      mixedWriter.dropNotice = [Log.plain (.dropped 1)] := by
  have hsize : pairsPlan.batchSize < UInt64.size := by decide
  obtain ⟨hwritten, _, _, hdrop⟩ := counters_balanced Memory.backend Toggle.apply pairsPlan hsize
    memoryOnly mixedFates .start
  have hlost : mixedWriter.stats.written - mixedWriter.stats.flushed -
      mixedWriter.stats.failed = 1 := by decide +kernel
  refine ⟨hsize, hwritten, by decide +kernel, by decide +kernel, by decide +kernel,
    by decide +kernel, ?_⟩
  rw [mixedWriter] at hlost ⊢
  rw [hdrop, hlost]
  rfl

end BatchInsert.Proofs
