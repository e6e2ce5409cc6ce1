import BatchInsert.Proofs.Exchanges
import BatchInsert.Proofs.Fields
import BatchInsert.Proofs.Journal
import BatchInsert.Url.European

/-!
# Closing

Closing executes what waits and gives up the statement and the connection, each once and in this
order, whichever of these fail. The report holds the failures as they came. A writer that is closed
asks nothing of its driver any more and stays as it is, whatever is called.
-/

namespace BatchInsert.Proofs

open Database (Backend Driver)
open Writer (CloseReport Session)

variable {ω κ τ ι : Type}

/-- What the report says of an exchange, the rows that waited being `rows`. -/
def Exchange.closeFailure? (rows : Nat) : Exchange κ → Option CloseFailure
  | executeBatch _ (some e) => some (.flush rows e)
  | closeStatement (some e) => some (.statement e)
  | closeConnection _ (some e) => some (.connection e)
  | _ => none

/-- The rows of the executions that succeeded. -/
def rowsDone : List (Exchange κ) → Nat
  | [] => 0
  | .executeBatch rows none :: made => rows + rowsDone made
  | _ :: made => rowsDone made

/-- The rows that a report calls lost. -/
def rowsLost : CloseReport → Nat
  | [] => 0
  | .flush rows _ :: report => rows + rowsLost report
  | _ :: report => rowsLost report

/-! ### The three steps of closing -/

section Steps

variable (b : Backend ω κ τ)

/-- The execution of the last batch, unless it is empty. -/
def lastExecution (s : Session κ τ) (w : ω) : List (Exchange κ) :=
  if s.pending = 0 then []
  else [.executeBatch (b.batchLength s.statement) (errorOf (b.executeBatch s.statement w).result)]

lemma closeBatch_asks (s : Session κ τ) (stats : Stats) (w : Watched ω κ) :
    let closing := Writer.closeBatch (Watched.backend b) s stats w
    closing.state.2.2.exchanges = w.exchanges ++ lastExecution b s w.world ∧
      closing.report = (lastExecution b s w.world).filterMap (Exchange.closeFailure? s.pending) := by
  intro closing
  by_cases hs : s.pending = 0
  · simp [closing, Writer.closeBatch, lastExecution, hs]
  · cases h : (b.executeBatch s.statement w.world).result <;>
      simp [closing, Writer.closeBatch, lastExecution, hs, h, Watched.backend, Watched.noted,
        Watched.after, Database.Reply.mapState, errorOf, Exchange.closeFailure?]

lemma closeStatement_asks (s : τ) (w : Watched ω κ) :
    let closing := Writer.closeStatement (Watched.backend b) s w
    ∃ e, closing.state.exchanges = w.exchanges ++ [.closeStatement e] ∧
      closing.report = (e.map CloseFailure.statement).toList := by
  intro closing
  refine ⟨errorOf (b.closeStatement s w.world).result, ?_⟩
  cases h : (b.closeStatement s w.world).result <;>
    simp [closing, Writer.closeStatement, h, Watched.backend, Watched.noted, Watched.after,
      Database.Reply.mapState, errorOf]

lemma closeConnection_asks (c : κ) (w : Watched ω κ) :
    let closing := Writer.closeConnection (Watched.backend b) c w
    ∃ e, closing.state.exchanges = w.exchanges ++ [.closeConnection c e] ∧
      closing.report = (e.map CloseFailure.connection).toList := by
  intro closing
  refine ⟨errorOf (b.closeConnection c w.world).result, ?_⟩
  cases h : (b.closeConnection c w.world).result <;>
    simp [closing, Writer.closeConnection, h, Watched.backend, Watched.noted, Watched.after,
      Database.Reply.mapState, errorOf]

lemma closeSession_asks (s : Session κ τ) (stats : Stats) (w : Watched ω κ) :
    let closing := Writer.closeSession (Watched.backend b) s stats w
    ∃ e e', let made := lastExecution b s w.world ++
        [.closeStatement e, .closeConnection s.connection e']
      closing.state.2.exchanges = w.exchanges ++ made ∧
        closing.report = made.filterMap (Exchange.closeFailure? s.pending) := by
  intro closing
  let batch := Writer.closeBatch (Watched.backend b) s stats w
  let statement := Writer.closeStatement (Watched.backend b) batch.state.1 batch.state.2.2
  obtain ⟨hbatch, hlast⟩ := closeBatch_asks b s stats w
  obtain ⟨e, hstatement, hreport⟩ := closeStatement_asks b batch.state.1 batch.state.2.2
  obtain ⟨e', hconnection, hreport'⟩ := closeConnection_asks b s.connection statement.state
  refine ⟨e, e', ?_, ?_⟩
  · have hstate : closing.state.2.exchanges = statement.state.exchanges ++ _ := hconnection
    rw [hstate, hstatement, hbatch]
    simp only [List.append_assoc, List.singleton_append]
  · have hparts : closing.report = batch.report ++ statement.report ++ _ :=
      congrArg (batch.report ++ statement.report ++ ·) hreport'
    rw [hparts, hlast, hreport, List.filterMap_append, List.append_assoc]
    cases e <;> cases e' <;> rfl

lemma close_asks [Url.Names] {x : Writer ω κ τ} {s : Session κ τ} (hx : x.phase = .active s)
    (w : ω) :
    ∃ e e', asks b .close (x, w) =
        lastExecution b s w ++ [.closeStatement e, .closeConnection s.connection e'] ∧
      (x.close b w).report =
        (asks b .close (x, w)).filterMap (Exchange.closeFailure? s.pending) := by
  have hphase : (Watched.writer x).phase = .active s := hx
  have hsame : ((Watched.writer x).close (Watched.backend b) ⟨w, []⟩).report =
      (x.close b w).report :=
    Answer.closed.inj (perform_watched b .close x ⟨w, []⟩).answer
  obtain ⟨e, e', hmade, hreport⟩ := closeSession_asks b s x.stats ⟨w, []⟩
  have hasks : asks b .close (x, w) =
      lastExecution b s w ++ [.closeStatement e, .closeConnection s.connection e'] := by
    simp only [asks, perform, Writer.close, hphase]
    exact hmade
  refine ⟨e, e', hasks, ?_⟩
  rw [← hsame, hasks, ← hreport]
  simp only [Writer.close, hphase]
  rfl

lemma lastExecution_calls (s : Session κ τ) (w : ω) :
    (lastExecution b s w).map Exchange.call = if s.pending = 0 then [] else [.executeBatch] := by
  rw [lastExecution]
  split <;> rfl

end Steps

/-! ### After closing -/

/-- The answer of a closed writer. -/
def closedAnswer : Command → Answer
  | .start _ _ => .started (.error .closed)
  | .write _ => .written (.error .notOpen)
  | .flush => .flushed (.error .notOpen)
  | .close => .closed []

lemma perform_closed [Url.Names] (b : Backend ω κ τ) (c : Command) {x : Writer ω κ τ}
    (hx : x.phase = .closed) (w : ω) : perform b c (x, w) = ⟨closedAnswer c, (x, w), []⟩ := by
  cases c with
  | start index total => simp [perform, Writer.start, hx, closedAnswer, Database.Reply.fail]
  | write r => simp [perform, Writer.write, hx, closedAnswer, Database.Reply.fail]
  | flush => simp [perform, Writer.flush, hx, closedAnswer, Database.Reply.fail]
  | close => simp [perform, Writer.close, hx, closedAnswer]

lemma closed_run [Url.Names] (b : Backend ω κ τ) (act : ι → ω → ω) (steps : List (Step ι))
    {x : Writer ω κ τ} (hx : x.phase = .closed) (w : ω) :
    ∀ m ∈ history b act steps (x, w), m.after.1 = x ∧ ∀ c, m.step = .call c →
      m.after.2 = m.before.2 ∧ asks b c m.before = [] ∧ m.answer = some (closedAnswer c) := by
  induction steps generalizing w with
  | nil => simp [history]
  | cons step steps ih =>
    -- The writer is the same after the first step, so the rest is a run of the same writer.
    have hsame : (moment b act step (x, w)).after.1 = x := by
      cases step with
      | outside i => rfl
      | call c => exact congrArg (·.state.1) (perform_closed b c hx w)
    intro m hm
    rcases List.mem_cons.mp hm with rfl | hm
    · refine ⟨hsame, ?_⟩
      intro c hc
      rw [moment_step] at hc
      subst hc
      have hphase : (Watched.writer x).phase = .closed := hx
      have hasks : asks b c (x, w) = [] := by
        rw [asks, perform_closed (Watched.backend b) c hphase]
      have hperform := perform_closed b c hx w
      exact ⟨congrArg (·.state.2) hperform, hasks, congrArg some (congrArg Reaction.answer hperform)⟩
    · have hafter : (moment b act step (x, w)).after = (x, (moment b act step (x, w)).after.2) :=
        Prod.ext hsame rfl
      rw [hafter] at hm
      exact ih _ m hm

/-! ### Closing in any state -/

lemma fieldsOf_close (b : Backend ω κ τ) (x : Writer ω κ τ) (w : ω) :
    let left := (x.close b w).state.1
    fieldsOf left = ⟨none, none, 0, .closed, left.stats⟩ ∧ left.pending = 0 := by
  have hphase := close_phase b x w
  exact ⟨fieldsOf_closed hphase, by simp [Writer.pending, Writer.session?, hphase]⟩

lemma close_calls [Url.Names] (b : Backend ω κ τ) (x : Writer ω κ τ) (w : ω) :
    let held := fieldsOf x
    let made := asks b .close (x, w)
    made.map Exchange.call =
        (if x.pending = 0 then [] else [.executeBatch]) ++
          (if held.statement.isSome then [.closeStatement] else []) ++
          (if held.connection.isSome then [.closeConnection] else []) ∧
      made.filterMap Exchange.closed? = held.connection.toList ∧
      (x.close b w).report = made.filterMap (Exchange.closeFailure? x.pending) := by
  cases hx : x.phase with
  | unopened =>
    simp [asks, perform, Watched.writer, Writer.close, hx, fieldsOf_unopened hx, Writer.pending,
      Writer.session?]
  | closed =>
    simp [asks, perform, Watched.writer, Writer.close, hx, fieldsOf_closed hx, Writer.pending,
      Writer.session?]
  | active s =>
    obtain ⟨e, e', hasks, hreport⟩ := close_asks b hx w
    have hpending : x.pending = s.pending := by simp [Writer.pending, session?_eq_some.mpr hx]
    have hclosed : (lastExecution b s w).filterMap Exchange.closed? = [] := by
      rw [lastExecution]
      split <;> rfl
    rw [fieldsOf_active hx, hpending]
    refine ⟨?_, ?_, hreport⟩
    · rw [hasks, List.map_append, lastExecution_calls, List.append_assoc]
      rfl
    · rw [hasks, List.filterMap_append, hclosed]
      rfl

lemma rowsDone_append (made made' : List (Exchange κ)) :
    rowsDone (made ++ made') = rowsDone made + rowsDone made' := by
  fun_induction rowsDone made with
  | case1 => exact (Nat.zero_add _).symm
  | case2 rows made ih => rw [List.cons_append, rowsDone, ih, Nat.add_assoc]
  | case3 e made hexecuted ih => rw [List.cons_append, rowsDone.eq_3 _ _ hexecuted, ih]

lemma rowsLost_append (report report' : CloseReport) :
    rowsLost (report ++ report') = rowsLost report + rowsLost report' := by
  fun_induction rowsLost report with
  | case1 => exact (Nat.zero_add _).symm
  | case2 rows e report ih => rw [List.cons_append, rowsLost, ih, Nat.add_assoc]
  | case3 f report hflush ih => rw [List.cons_append, rowsLost.eq_3 _ _ hflush, ih]

lemma lastExecution_rows {b : Backend ω κ τ} {s : Session κ τ}
    (hs : s.pending = b.batchLength s.statement) (w : ω) :
    rowsDone (lastExecution b s w) +
      rowsLost ((lastExecution b s w).filterMap (Exchange.closeFailure? s.pending)) =
      s.pending := by
  rw [lastExecution, ← hs]
  split
  · rename_i hzero
    exact hzero.symm
  · cases errorOf (b.executeBatch s.statement w).result with
    | none => rfl
    | some e => exact Nat.zero_add s.pending

/-- Where the count is the length of the batch, every row that waited is executed or reported. -/
lemma close_rows [Url.Names] {b : Backend ω κ τ} {x : Writer ω κ τ} (hx : Consistent b x) (w : ω) :
    rowsDone (asks b .close (x, w)) + rowsLost (x.close b w).report = x.pending := by
  cases hphase : x.phase with
  | unopened =>
    simp [asks, perform, Watched.writer, Writer.close, hphase, Writer.pending, Writer.session?,
      rowsDone, rowsLost]
  | closed =>
    simp [asks, perform, Watched.writer, Writer.close, hphase, Writer.pending, Writer.session?,
      rowsDone, rowsLost]
  | active s =>
    obtain ⟨e, e', hasks, hreport⟩ := close_asks b hphase w
    have hpending : x.pending = s.pending := by simp [Writer.pending, session?_eq_some.mpr hphase]
    have hrest : rowsDone [Exchange.closeStatement e, .closeConnection s.connection e'] = 0 ∧
        rowsLost ([Exchange.closeStatement e, .closeConnection s.connection e'].filterMap
          (Exchange.closeFailure? s.pending)) = 0 := by
      cases e <;> cases e' <;> exact ⟨rfl, rfl⟩
    rw [hreport, hasks, hpending, List.filterMap_append, rowsDone_append, rowsLost_append, hrest.1,
      hrest.2]
    exact lastExecution_rows (hx s hphase).1 w

/-- In whatever state a run has left a writer and whatever of it fails, closing executes the batch
if records wait, closes the statement if there is one and the connection if there is one, each once
and in this order, and reports exactly what has failed. Every record that waited is executed or
reported as lost. The writer that is left holds nothing, and however it is used from then on, it
makes no call, stays as it is and answers that it is closed. -/
theorem close_settles [Url.Names] (b : Backend ω κ τ) (act : ι → ω → ω) (plan : Plan)
    (registry : Registry (Driver ω κ)) (steps : List (Step ι)) (w : ω) :
    let state := run b act steps (.ofPlan plan registry, w)
    let x := state.1
    let held := fieldsOf x
    let made := asks b .close state
    let closing := x.close b state.2
    let left := closing.state.1
    made.map Exchange.call =
        (if x.pending = 0 then [] else [.executeBatch]) ++
          (if held.statement.isSome then [.closeStatement] else []) ++
          (if held.connection.isSome then [.closeConnection] else []) ∧
      made.filterMap Exchange.closed? = held.connection.toList ∧
      closing.report = made.filterMap (Exchange.closeFailure? x.pending) ∧
      (∀ slots, Lawful b slots → rowsDone made + rowsLost closing.report = x.pending) ∧
      fieldsOf left = ⟨none, none, 0, .closed, left.stats⟩ ∧ left.pending = 0 ∧
      ∀ more, ∀ m ∈ history b act more closing.state,
        m.after.1 = left ∧ ∀ c, m.step = .call c →
          m.after.2 = m.before.2 ∧ asks b c m.before = [] ∧ m.answer = some (closedAnswer c) := by
  intro state x held made closing left
  obtain ⟨hcalls, hclosed, hreport⟩ := close_calls b x state.2
  obtain ⟨hfields, hpending⟩ := fieldsOf_close b x state.2
  refine ⟨hcalls, hclosed, hreport, ?_, hfields, hpending, ?_⟩
  · intro slots hb
    exact close_rows (consistent_run hb act steps _ (consistent_of_session_none rfl)) state.2
  · intro more
    exact closed_run b act more (close_phase b x state.2) closing.state.2

/-- A record waits, and everything that closing does fails. -/
def nothingCloses : List (Step Toggle) :=
  [.call (.start 0 1), .call (.write ⟨[.int32 1]⟩), .outside (.fail .executeBatch),
    .outside (.fail .closeStatement), .outside (.fail .closeConnection)]

open scoped Url.European

/-- Each call is made all the same, and each failure is reported. -/
theorem close_settles_of_failures :
    let state := run Memory.backend Toggle.apply nothingCloses (.ofPlan pairsPlan memoryOnly, .start)
    let made := asks Memory.backend .close state
    let closing := state.1.close Memory.backend state.2
    made.map Exchange.call = [.executeBatch, .closeStatement, .closeConnection] ∧
      rowsDone made + rowsLost closing.report = 1 ∧
      closing.report = [.flush 1 (Memory.injected .executeBatch),
        .statement (Memory.injected .closeStatement),
        .connection (Memory.injected .closeConnection)] := by
  intro state made closing
  obtain ⟨_, _, hreport, hrows, _⟩ :=
    close_settles Memory.backend Toggle.apply pairsPlan memoryOnly nothingCloses .start
  have hpending : state.1.pending = 1 := by decide +kernel
  refine ⟨by decide +kernel, ?_, ?_⟩
  · exact (hrows memorySlots lawful_memory).trans hpending
  · rw [hreport]
    decide +kernel

end BatchInsert.Proofs
