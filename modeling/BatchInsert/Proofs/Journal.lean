import BatchInsert.Proofs.Pending
import BatchInsert.Url.European

/-!
# The rows in the journal

Over the in-memory backend every row that a write moves into the batch is accounted for: it waits
in the batch, or it went into exactly one execution. The executions drain the batch completely and
one after the other, whichever call makes them and whatever fails, and the journal keeps the rows
of those that succeed.
-/

namespace BatchInsert.Proofs

open Database (Backend Call Driver Reply)
open Memory (Event Row)
open Writer (Session)

/-- A fault that comes or goes, or another time that executing takes. -/
inductive Toggle
  | fail (c : Call)
  | recover (c : Call)
  | pace (d : Duration)

def Toggle.apply : Toggle → Memory.World → Memory.World
  | .fail c, w => w.fail c
  | .recover c, w => w.recover c
  | .pace d, w => w.keepPace d

abbrev MemoryWriter := Writer Memory.World Memory.Connection Memory.Statement

abbrev MemoryMoment := Moment Memory.World Memory.Connection Memory.Statement Toggle

/-- The rows in the batch of a writer's statement. -/
def waiting (x : MemoryWriter) : List Row :=
  match x.session? with
  | some s => s.statement.batch.toList
  | none => []

/-- The row that a record has become in the batch, if it was taken. -/
def taken? (added : Reply WriteFailure (Memory.Statement × Memory.World) Unit) : Option Row :=
  match added.result with
  | .ok () => added.state.1.batch.back?
  | .error _ => none

/-- The row that a step has moved into the batch. -/
def movedRow (m : MemoryMoment) : Option Row :=
  match m.step, m.before.1.session? with
  | .call (.write r), some s =>
    taken? (Writer.append Memory.backend m.before.1.plan.columnTypes r s.statement m.before.2)
  | _, _ => none

/-- The rows of each execution in the journal, failed ones included. -/
def executedSizes (w : Memory.World) : List Nat :=
  w.journal.events.toList.filterMap fun | .executeBatch rows => some rows | _ => none

def executionFailed : Except WriteFailure Unit → Bool
  | .error (.execution _ _) => true
  | _ => false

/-- Whether a call answers that an execution has failed. -/
def Answer.executionFailed : Answer → Bool
  | .started _ => false
  | .written result | .flushed result => BatchInsert.Proofs.executionFailed result
  | .closed report => report.flushFailed

/-- What is answered of each execution that a step has put into the journal: whether it
succeeded. -/
def outcomes (m : MemoryMoment) : List Bool :=
  ((executedSizes m.after.2).drop (executedSizes m.before.2).length).map fun _ =>
    !m.answer.any Answer.executionFailed

structure Execution where
  rows : List Row
  succeeded : Bool

/-- Every row of a run, in the order in which the writes moved them: those of one execution after
the other, then those that wait. -/
structure Conserved (w₀ : Memory.World) (past : List MemoryMoment) (executions : List Execution)
    (state : MemoryWriter × Memory.World) : Prop where
  rows : past.filterMap movedRow = executions.flatMap Execution.rows ++ waiting state.1
  waiting_length : (waiting state.1).length = state.1.pending
  sizes : executedSizes state.2 = executedSizes w₀ ++ executions.map (·.rows.length)
  bounds : ∀ e ∈ executions, 1 ≤ e.rows.length ∧ e.rows.length ≤ state.1.plan.batchSize
  outcomes : past.flatMap outcomes = executions.map Execution.succeeded
  executed : state.2.journal.batches.toList =
    w₀.journal.batches.toList ++ (executions.filter Execution.succeeded).map Execution.rows

/-! ### What executions alone change -/

/-- The sizes of the executions and the rows of those that succeeded. -/
def ledger (w : Memory.World) : List Nat × List (List Row) :=
  (executedSizes w, w.journal.batches.toList)

lemma ledger_record {e : Event} (he : ∀ rows, e ≠ .executeBatch rows) (w : Memory.World) :
    ledger (w.record e) = ledger w := by
  cases e with
  | executeBatch rows => exact absurd rfl (he rows)
  | _ => simp [ledger, executedSizes, Memory.World.record, Memory.Journal.record]

lemma ledger_apply (t : Toggle) (w : Memory.World) : ledger (t.apply w) = ledger w := by
  cases t <;> rfl

lemma ledger_connect (t : Database.Target) (w : Memory.World) :
    ledger (Memory.connect t w).state = ledger w := by
  simp only [Memory.connect]
  split
  · rfl
  · exact ledger_record (by simp) w

lemma ledger_prepare (sql : String) (c : Memory.Connection) (w : Memory.World) :
    ledger (Memory.backend.prepare sql c w).state = ledger w := by
  simp only [Memory.backend, Memory.prepare]
  repeat' split
  · rfl
  · rfl
  · exact ledger_record (by simp) w

lemma ledger_closeConnection (c : Memory.Connection) (w : Memory.World) :
    ledger (Memory.backend.closeConnection c w).state.2 = ledger w := by
  simp only [Memory.backend, Memory.closeConnection]
  split
  · rfl
  · exact ledger_record (by simp) w

lemma ledger_closeStatement (s : Memory.Statement) (w : Memory.World) :
    ledger (Memory.backend.closeStatement s w).state.2 = ledger w := by
  simp only [Memory.backend, Memory.Statement.close]
  split
  · rfl
  · exact ledger_record (by simp) w

lemma bind_keeps (position : Nat) (p : Sql.Param) (s : Memory.Statement) (w : Memory.World) :
    (Memory.backend.bind position p s w).state.1.batch = s.batch ∧
      ledger (Memory.backend.bind position p s w).state.2 = ledger w := by
  simp only [Memory.backend, Memory.Statement.bind]
  repeat' split
  · exact ⟨rfl, rfl⟩
  · exact ⟨rfl, rfl⟩
  · exact ⟨rfl, ledger_record (by simp) w⟩

lemma addBatch_keeps (s : Memory.Statement) (w : Memory.World) :
    (Memory.backend.addBatch s w).state.1.batch =
        (match (Memory.backend.addBatch s w).result with
        | .ok () => s.batch.push (s.current.map Prod.snd)
        | .error _ => s.batch) ∧
      ledger (Memory.backend.addBatch s w).state.2 = ledger w := by
  simp only [Memory.backend, Memory.Statement.addBatch]
  split
  · exact ⟨rfl, rfl⟩
  · exact ⟨rfl, ledger_record (by simp) w⟩

lemma append_keeps (types : Option (List Sql.Tag)) (r : Record) (s : Memory.Statement)
    (w : Memory.World) :
    let added := Writer.append Memory.backend types r s w
    added.state.1.batch.toList = s.batch.toList ++ (taken? added).toList ∧
      ledger added.state.2 = ledger w := by
  have hbind : (Binding.record Memory.backend types r s w).state.1.batch = s.batch ∧
      ledger (Binding.record Memory.backend types r s w).state.2 = ledger w :=
    ⟨bindFrom_statement Memory.backend Memory.Statement.batch (fun _ _ _ _ => (bind_keeps _ _ _ _).1)
      types s w 0 r.fields,
    bindFrom_world Memory.backend ledger (fun _ _ _ _ => (bind_keeps _ _ _ _).2)
      types s w 0 r.fields⟩
  have hadd := addBatch_keeps (Binding.record Memory.backend types r s w).state.1
    (Binding.record Memory.backend types r s w).state.2
  dsimp only [taken?]
  rcases append_cases Memory.backend types r s w with
    ⟨f, _, h, hs⟩ | ⟨e, _, ha, h, hs⟩ | ⟨_, ha, h, hs⟩
  · rw [h, hs, hbind.1]
    exact ⟨(List.append_nil _).symm, hbind.2⟩
  · rw [ha] at hadd
    rw [h, hs, hadd.1, hbind.1]
    exact ⟨(List.append_nil _).symm, hadd.2.trans hbind.2⟩
  · rw [ha] at hadd
    rw [h, hs, hadd.1, hbind.1]
    exact ⟨by simp, hadd.2.trans hbind.2⟩

lemma executeBatch_ledger (s : Memory.Statement) (w : Memory.World) :
    (Memory.backend.executeBatch s w).state.1.batch = #[] ∧
      ledger (Memory.backend.executeBatch s w).state.2 =
        (executedSizes w ++ [s.batch.toList.length], w.journal.batches.toList ++
          match (Memory.backend.executeBatch s w).result with
          | .ok _ => [s.batch.toList]
          | .error _ => []) := by
  simp only [Memory.backend, Memory.Statement.executeBatch]
  split
  · exact ⟨rfl, by simp [ledger, executedSizes, Memory.World.record, Memory.Journal.record,
      Reply.fail]⟩
  · exact ⟨rfl, by simp [ledger, executedSizes, Memory.Journal.execute, Reply.ok]⟩

/-! ### The rows of one step -/

/-- What becomes of the rows that have arrived: they keep waiting, or all of them go into one
execution. -/
inductive Turn (arrived : List Row) (w : Memory.World) (left : List Row) (w' : Memory.World)
    (failed : Bool) : List Execution → Prop
  | keep (hleft : left = arrived) (hledger : ledger w' = ledger w) :
    Turn arrived w left w' failed []
  | drain (harrived : arrived ≠ []) (hleft : left = [])
    (hledger : ledger w' = (executedSizes w ++ [arrived.length],
      w.journal.batches.toList ++ if failed then [] else [arrived])) :
    Turn arrived w left w' failed [⟨arrived, !failed⟩]

lemma Turn.of_ledger {arrived left : List Row} {w w₁ w' : Memory.World} {failed : Bool}
    {executions : List Execution} (hw : ledger w₁ = ledger w)
    (h : Turn arrived w₁ left w' failed executions) :
    Turn arrived w left w' failed executions := by
  cases h with
  | keep hleft hledger => exact .keep hleft (hledger.trans hw)
  | drain harrived hleft hledger =>
    obtain ⟨hsizes, hbatches⟩ := Prod.ext_iff.mp hw
    simp only [ledger] at hsizes hbatches
    exact .drain harrived hleft (by rw [hledger, hsizes, hbatches])

section Turns

variable {arrived left : List Row} {w w' : Memory.World} {failed : Bool}
  {executions : List Execution}

lemma Turn.rows (h : Turn arrived w left w' failed executions) :
    arrived = executions.flatMap Execution.rows ++ left := by
  cases h with
  | keep hleft _ => simp [hleft]
  | drain _ hleft _ => simp [hleft]

lemma Turn.sizes (h : Turn arrived w left w' failed executions) :
    executedSizes w' = executedSizes w ++ executions.map (·.rows.length) := by
  cases h with
  | keep _ hledger => simpa [ledger] using congrArg Prod.fst hledger
  | drain _ _ hledger => exact congrArg Prod.fst hledger

lemma Turn.executed (h : Turn arrived w left w' failed executions) :
    w'.journal.batches.toList = w.journal.batches.toList ++
      (executions.filter Execution.succeeded).map Execution.rows := by
  cases h with
  | keep _ hledger => simpa [ledger] using congrArg Prod.snd hledger
  | drain _ _ hledger =>
    rw [show w'.journal.batches.toList = _ from congrArg Prod.snd hledger]
    cases failed <;> rfl

lemma Turn.bounds (h : Turn arrived w left w' failed executions) :
    ∀ e ∈ executions, 1 ≤ e.rows.length ∧ e.rows.length ≤ arrived.length := by
  intro e he
  cases h with
  | keep _ _ => simp at he
  | drain harrived _ _ =>
    rw [List.mem_singleton.mp he]
    exact ⟨List.length_pos_iff.mpr harrived, Nat.le_refl _⟩

lemma Turn.succeeded (h : Turn arrived w left w' failed executions) :
    executions.map Execution.succeeded =
      (executions.map (·.rows.length)).map fun _ => !failed := by
  cases h <;> rfl

end Turns

lemma Turn.drain_batch {s : Memory.Statement} (hs : s.batch.toList ≠ []) (w : Memory.World)
    {left : List Row} {failed : Bool} (hleft : left = [])
    (hfailed : failed = match (Memory.backend.executeBatch s w).result with
      | .ok _ => false
      | .error _ => true) :
    Turn s.batch.toList w left (Memory.backend.executeBatch s w).state.2 failed
      [⟨s.batch.toList, !failed⟩] := by
  refine .drain hs hleft ?_
  rw [(executeBatch_ledger s w).2, hfailed]
  cases (Memory.backend.executeBatch s w).result <;> rfl

section Sessions

variable {s : Session Memory.Connection Memory.Statement}

lemma toList_ne_nil (hs : s.pending = s.statement.batch.size) (hpos : s.pending ≠ 0) :
    s.statement.batch.toList ≠ [] := by
  intro h
  rw [hs, ← Array.length_toList, h] at hpos
  exact hpos rfl

lemma execute_turn (hs : s.pending = s.statement.batch.size) (stats : Stats) (w : Memory.World) :
    let call := Writer.execute Memory.backend s stats w
    ∃ executions, Turn s.statement.batch.toList w call.state.1.statement.batch.toList
      call.state.2.2 (executionFailed call.result) executions := by
  intro call
  by_cases hpos : s.pending = 0
  · simp only [call, execute_of_zero Memory.backend hpos]
    exact ⟨[], .keep rfl rfl⟩
  · have hbatch := congrArg Array.toList (executeBatch_ledger s.statement w).1
    rcases execute_of_pos Memory.backend hpos stats w with
      ⟨counts, hc, hr, hst⟩ | ⟨e, hc, hr, hst⟩
    · simp only [call, hr, hst]
      exact ⟨_, .drain_batch (toList_ne_nil hs hpos) w hbatch (by rw [hc]; rfl)⟩
    · simp only [call, hr, hst]
      exact ⟨_, .drain_batch (toList_ne_nil hs hpos) w hbatch (by rw [hc]; rfl)⟩

lemma closeBatch_turn (hs : s.pending = s.statement.batch.size) (stats : Stats)
    (w : Memory.World) :
    let closing := Writer.closeBatch Memory.backend s stats w
    ∃ executions, Turn s.statement.batch.toList w [] closing.state.2.2
      closing.report.flushFailed executions := by
  intro closing
  rcases closeBatch_cases Memory.backend s stats w with
    ⟨hzero, hw, hr⟩ | ⟨counts, hpos, hc, hw, hr⟩ | ⟨e, hpos, hc, hw, hr⟩
  · simp only [closing, hw, hr]
    refine ⟨[], .keep ?_ rfl⟩
    rw [eq_comm, List.eq_nil_iff_length_eq_zero, Array.length_toList, ← hs, hzero]
  · simp only [closing, hw, hr]
    exact ⟨_, .drain_batch (toList_ne_nil hs hpos) w rfl (by rw [hc])⟩
  · simp only [closing, hw, hr]
    exact ⟨_, .drain_batch (toList_ne_nil hs hpos) w rfl (by rw [hc])⟩

end Sessions

lemma waiting_of_active {x : MemoryWriter} {s : Session Memory.Connection Memory.Statement}
    (hx : x.phase = .active s) : waiting x = s.statement.batch.toList := by
  simp [waiting, session?_eq_some.mpr hx]

lemma waiting_of_session_none {x : MemoryWriter} (hx : x.session? = none) : waiting x = [] := by
  simp [waiting, hx]

lemma start_turn [Url.Names] (index total : Nat) {x : MemoryWriter}
    (hmemory : ∀ d, x.registry.find? x.plan.driver = some d → d = Memory.driver)
    (w : Memory.World) (failed : Bool) :
    let reply := x.start Memory.backend index total w
    Turn (waiting x) w (waiting reply.state.1) reply.state.2 failed [] := by
  intro reply
  refine .keep ?_ ?_
  · rcases start_cases Memory.backend index total x w with
      ⟨_, _, h⟩ | ⟨s, w', hx, _, h, _, hprep⟩
    · rw [h]
    · have hempty : s.statement.batch.size = 0 := (lawful_memory.prepare hprep).2
      rw [h, waiting_of_active rfl, waiting_of_session_none (by simp [Writer.session?, hx])]
      exact List.eq_nil_of_length_eq_zero hempty
  · refine start_world Memory.backend ledger ?_ ledger_prepare ledger_closeConnection index total w
    intro d hd
    rw [hmemory d hd]
    exact ledger_connect

lemma write_turn (r : Record) {x : MemoryWriter} {s : Session Memory.Connection Memory.Statement}
    (hx : x.phase = .active s) (hs : s.pending = s.statement.batch.size) (w : Memory.World) :
    let reply := x.write Memory.backend r w
    let row := taken? (Writer.append Memory.backend x.plan.columnTypes r s.statement w)
    ∃ executions, Turn (s.statement.batch.toList ++ row.toList) w (waiting reply.state.1)
      reply.state.2 (executionFailed reply.result) executions := by
  intro reply row
  obtain ⟨hbatch, hledger⟩ := append_keeps x.plan.columnTypes r s.statement w
  have hlength := batchLength_append lawful_memory x.plan.columnTypes r s.statement w
  rcases write_cases Memory.backend r hx w with
    ⟨f, _, _, h⟩ | ⟨_, _, hr, h⟩ | ⟨ha, _, hr, h⟩
  · simp only [reply, h]
    exact ⟨[], .keep hbatch hledger⟩
  · simp only [reply, h]
    exact ⟨[], .keep hbatch hledger⟩
  · rw [ha] at hlength
    obtain ⟨executions, hturn⟩ := execute_turn (s := { s with
      statement := (Writer.append Memory.backend x.plan.columnTypes r s.statement w).state.1
      pending := s.pending + 1 }) ((congrArg (· + 1) hs).trans hlength.symm) x.stats.write
      (Writer.append Memory.backend x.plan.columnTypes r s.statement w).state.2
    simp only [reply, hr, h]
    rw [← hbatch]
    exact ⟨executions, hturn.of_ledger hledger⟩

lemma close_turn {x : MemoryWriter} {s : Session Memory.Connection Memory.Statement}
    (hx : x.phase = .active s) (hs : s.pending = s.statement.batch.size) (w : Memory.World) :
    let closing := x.close Memory.backend w
    ∃ executions, Turn s.statement.batch.toList w (waiting closing.state.1) closing.state.2
      closing.report.flushFailed executions := by
  intro closing
  obtain ⟨hworld, hreport⟩ := close_of_active Memory.backend hx w
  obtain ⟨executions, hturn⟩ := closeBatch_turn hs x.stats w
  have hledger : ledger closing.state.2 =
      ledger (Writer.closeBatch Memory.backend s x.stats w).state.2.2 := by
    rw [hworld]
    exact (ledger_closeConnection _ _).trans (ledger_closeStatement _ _)
  refine ⟨executions, ?_⟩
  rw [waiting_of_session_none (by simp [closing, Writer.session?, close_phase])]
  rw [hreport]
  cases hturn with
  | keep hleft h => exact .keep hleft (hledger.trans h)
  | drain harrived hleft h => exact .drain harrived hleft (hledger.trans h)

/-- A step keeps all the rows that have arrived waiting, or executes all of them at once. -/
theorem moment_turn [Url.Names] {x : MemoryWriter} (hx : Consistent Memory.backend x)
    (hmemory : ∀ d, x.registry.find? x.plan.driver = some d → d = Memory.driver)
    (step : Step Toggle) (w : Memory.World) :
    let m := moment Memory.backend Toggle.apply step (x, w)
    ∃ executions, Turn (waiting x ++ (movedRow m).toList) w (waiting m.after.1) m.after.2
      (m.answer.any Answer.executionFailed) executions := by
  intro m
  cases step with
  | outside t =>
    refine ⟨[], .keep ?_ (ledger_apply t w)⟩
    exact (List.append_nil _).symm
  | call c =>
    cases c with
    | start index total =>
      refine ⟨[], ?_⟩
      have h := start_turn index total hmemory w (m.answer.any Answer.executionFailed)
      rwa [← List.append_nil (waiting x)] at h
    | write r =>
      cases hs : x.session? with
      | none =>
        have hreply := write_of_session_none Memory.backend r hs w
        refine ⟨[], .keep ?_ ?_⟩
        · simp [m, moment, perform, movedRow, hs, hreply, Reply.fail]
        · simp [m, moment, perform, hreply, Reply.fail]
      | some s =>
        have hphase := session?_eq_some.mp hs
        have hmoved : movedRow m =
            taken? (Writer.append Memory.backend x.plan.columnTypes r s.statement w) := by
          simp only [movedRow, m, moment, hs]
        rw [hmoved, waiting_of_active hphase]
        exact write_turn r hphase (hx s hphase).1 w
    | flush =>
      rw [show movedRow m = none from rfl, Option.toList_none, List.append_nil]
      cases hs : x.session? with
      | none =>
        have hreply := flush_of_session_none Memory.backend hs w
        refine ⟨[], .keep ?_ ?_⟩
        · simp [m, moment, perform, hreply, Reply.fail]
        · simp [m, moment, perform, hreply, Reply.fail]
      | some s =>
        have hphase := session?_eq_some.mp hs
        obtain ⟨executions, hturn⟩ := execute_turn (hx s hphase).1 x.stats w
        refine ⟨executions, ?_⟩
        rw [waiting_of_active hphase]
        simp only [m, moment, perform, flush_of_active Memory.backend hphase]
        exact hturn
    | close =>
      rw [show movedRow m = none from rfl, Option.toList_none, List.append_nil]
      cases hphase : x.phase with
      | active s =>
        rw [waiting_of_active hphase]
        exact close_turn hphase (hx s hphase).1 w
      | unopened =>
        refine ⟨[], .keep ?_ ?_⟩ <;>
          simp [m, moment, perform, Writer.close, waiting, Writer.session?, hphase]
      | closed =>
        refine ⟨[], .keep ?_ ?_⟩ <;>
          simp [m, moment, perform, Writer.close, waiting, Writer.session?, hphase]

/-! ### The rows of a run -/

lemma waiting_length {x : MemoryWriter} (hx : Consistent Memory.backend x) :
    (waiting x).length = x.pending := by
  cases hs : x.session? with
  | none => simp [waiting, Writer.pending, hs]
  | some s =>
    have hphase := session?_eq_some.mp hs
    rw [waiting_of_active hphase, Array.length_toList, Writer.pending, hs]
    exact (hx s hphase).1.symm

lemma outcomes_of_turn {m : MemoryMoment} {w : Memory.World} {arrived : List Row}
    {executions : List Execution} (hw : m.before.2 = w)
    (h : Turn arrived w (waiting m.after.1) m.after.2 (m.answer.any Answer.executionFailed)
      executions) : outcomes m = executions.map Execution.succeeded := by
  rw [outcomes, hw, h.sizes, List.drop_left, h.succeeded]

lemma arrived_length_le {x : MemoryWriter} (hx : Consistent Memory.backend x) (row : Option Row) :
    (waiting x ++ row.toList).length ≤ x.plan.batchSize := by
  have hroom : (waiting x).length < x.plan.batchSize :=
    waiting_length hx ▸ pending_lt_batchSize hx
  cases row with
  | none => simpa using Nat.le_of_lt hroom
  | some row => simpa using Nat.succ_le_of_lt hroom

lemma conserved_next [Url.Names] {w₀ w : Memory.World} {past : List MemoryMoment}
    {executions : List Execution} {x : MemoryWriter} (hx : Consistent Memory.backend x)
    (hmemory : ∀ d, x.registry.find? x.plan.driver = some d → d = Memory.driver)
    (h : Conserved w₀ past executions (x, w)) (step : Step Toggle) :
    let m := moment Memory.backend Toggle.apply step (x, w)
    ∃ later, Conserved w₀ (past ++ [m]) (executions ++ later) m.after := by
  intro m
  obtain ⟨later, hturn⟩ := moment_turn hx hmemory step w
  have hplan : m.after.1.plan = x.plan :=
    (run_fixed Memory.backend Toggle.apply [step] (x, w)).1
  have hnext : Consistent Memory.backend m.after.1 :=
    consistent_run lawful_memory Toggle.apply [step] (x, w) hx
  have houtcomes : outcomes m = later.map Execution.succeeded :=
    outcomes_of_turn (by simp [m]) hturn
  have hmoved : (past ++ [m]).filterMap movedRow =
      past.filterMap movedRow ++ (movedRow m).toList := by
    rw [List.filterMap_append]
    cases hrow : movedRow m <;> simp [hrow]
  refine ⟨later, ?_⟩
  constructor
  case waiting_length => exact waiting_length hnext
  case rows =>
    -- The row of this step follows those that waited, and they are kept or executed together.
    calc (past ++ [m]).filterMap movedRow
        = executions.flatMap Execution.rows ++ (waiting x ++ (movedRow m).toList) := by
          rw [hmoved, h.rows, List.append_assoc]
      _ = (executions ++ later).flatMap Execution.rows ++ waiting m.after.1 := by
          rw [hturn.rows, List.flatMap_append, List.append_assoc]
  case sizes => rw [hturn.sizes, h.sizes, List.map_append, List.append_assoc]
  case bounds =>
    intro e he
    rw [hplan]
    rcases List.mem_append.mp he with he | he
    · exact h.bounds e he
    · obtain ⟨hpos, hle⟩ := hturn.bounds e he
      exact ⟨hpos, Nat.le_trans hle (arrived_length_le hx _)⟩
  case outcomes =>
    rw [List.flatMap_append, List.map_append, ← houtcomes, h.outcomes]
    simp
  case executed =>
    rw [hturn.executed, h.executed, List.filter_append, List.map_append, List.append_assoc]

lemma conserved_empty (plan : Plan) (registry : Registry (Driver Memory.World Memory.Connection))
    (w : Memory.World) : Conserved w [] [] (.ofPlan plan registry, w) := by
  constructor <;> simp [waiting, Writer.session?, Writer.pending, Writer.ofPlan]

/-- Going on from rows that are accounted for, all rows stay accounted for, and the executions made
so far stay as they are. -/
lemma conserved_run [Url.Names] {w₀ : Memory.World} {past : List MemoryMoment}
    {executions : List Execution} {state : MemoryWriter × Memory.World}
    (h : Conserved w₀ past executions state) (hstate : Consistent Memory.backend state.1)
    (hmemory : ∀ d, state.1.registry.find? state.1.plan.driver = some d → d = Memory.driver)
    (steps : List (Step Toggle)) :
    ∃ later, Conserved w₀ (past ++ history Memory.backend Toggle.apply steps state)
      (executions ++ later) (run Memory.backend Toggle.apply steps state) := by
  let Q (more : List MemoryMoment) (s : MemoryWriter × Memory.World) : Prop :=
    Consistent Memory.backend s.1 ∧ s.1.plan = state.1.plan ∧
      s.1.registry = state.1.registry ∧
      ∃ later, Conserved w₀ (past ++ more) (executions ++ later) s
  have hinitial : Q [] state := ⟨hstate, rfl, rfl, [], by simpa using h⟩
  have hnext : ∀ more s step, Q more s → Q (more ++ [moment Memory.backend Toggle.apply step s])
      (moment Memory.backend Toggle.apply step s).after := by
    rintro more ⟨x, w⟩ step ⟨hx, hplan, hregistry, later, hlater⟩
    dsimp only at hplan hregistry
    have hdriver : ∀ d, x.registry.find? x.plan.driver = some d → d = Memory.driver := by
      rw [hplan, hregistry]
      exact hmemory
    obtain ⟨hp, hr⟩ := run_fixed Memory.backend Toggle.apply [step] (x, w)
    obtain ⟨new, hnew⟩ := conserved_next hx hdriver hlater step
    refine ⟨consistent_run lawful_memory Toggle.apply [step] (x, w) hx, hp.trans hplan,
      hr.trans hregistry, later ++ new, ?_⟩
    rwa [← List.append_assoc, ← List.append_assoc]
  exact (run_induction Memory.backend Toggle.apply state Q hinitial hnext steps).2.2.2

/-- Over the in-memory backend, whatever is called, in whatever order, and whichever faults come
and go: the rows that the writes have moved are those of the executions in the journal, one after
the other, and then those that still wait. The journal keeps the rows of exactly the executions
that succeeded, and however the run goes on, an execution stays what it was. -/
theorem rows_conserved [Url.Names] (plan : Plan)
    (registry : Registry (Driver Memory.World Memory.Connection))
    (hmemory : ∀ d, registry.find? plan.driver = some d → d = Memory.driver) (w : Memory.World)
    (steps : List (Step Toggle)) :
    let past (steps : List (Step Toggle)) : List MemoryMoment :=
      history Memory.backend Toggle.apply steps (.ofPlan plan registry, w)
    let state (steps : List (Step Toggle)) : MemoryWriter × Memory.World :=
      run Memory.backend Toggle.apply steps (.ofPlan plan registry, w)
    ∃ executions, Conserved w (past steps) executions (state steps) ∧
      ∀ more, ∃ later,
        Conserved w (past (steps ++ more)) (executions ++ later) (state (steps ++ more)) := by
  intro past state
  have hfresh : Consistent Memory.backend (Writer.ofPlan plan registry : MemoryWriter) :=
    consistent_of_session_none rfl
  obtain ⟨executions, hsteps⟩ :=
    conserved_run (conserved_empty plan registry w) hfresh hmemory steps
  refine ⟨executions, hsteps, ?_⟩
  intro more
  obtain ⟨hplan, hregistry⟩ :=
    run_fixed Memory.backend Toggle.apply steps (Writer.ofPlan plan registry, w)
  have hsame : Consistent Memory.backend (state steps).1 :=
    consistent_run lawful_memory Toggle.apply steps _ hfresh
  have hdriver : ∀ d, (state steps).1.registry.find? (state steps).1.plan.driver = some d →
      d = Memory.driver := by
    rw [hplan, hregistry]
    exact hmemory
  obtain ⟨later, hmore⟩ := conserved_run hsteps hsame hdriver more
  refine ⟨later, ?_⟩
  simp only [past, state, history_append, run_append]
  exact hmore

/-- The in-memory driver under its name. -/
def memoryOnly : Registry (Driver Memory.World Memory.Connection) :=
  Registry.empty.register "memory" Memory.driver

lemma memoryOnly_find? : memoryOnly.find? "memory" = some Memory.driver := by
  have hkey : Registry.key "memory" = Text.lower "memory" := by decide +kernel
  rw [Registry.find?, hkey]
  exact Ordered.find?_insert_self _ _ _

/-- Batches of two records. -/
def pairsPlan : Plan :=
  ⟨"memory", "jdbc:test", none, "INSERT INTO t VALUES (?)", 2, none, by decide⟩

/-- The first batch fails, the last one is executed by closing. -/
def failedPair : List (Step Toggle) :=
  [.call (.start 0 1), .call (.write ⟨[.int32 1]⟩), .outside (.fail .executeBatch),
    .call (.write ⟨[.int32 2]⟩), .outside (.recover .executeBatch), .call (.write ⟨[.int32 3]⟩),
    .call .close]

open scoped Url.European

theorem rows_conserved_after_failed_batch :
    (∀ d, memoryOnly.find? pairsPlan.driver = some d → d = Memory.driver) ∧
      ∃ executions, Conserved .start
        (history Memory.backend Toggle.apply failedPair (.ofPlan pairsPlan memoryOnly, .start))
        executions
        (run Memory.backend Toggle.apply failedPair (.ofPlan pairsPlan memoryOnly, .start)) ∧
      executions.map Execution.succeeded = [false, true] := by
  have hmemory : ∀ d, memoryOnly.find? pairsPlan.driver = some d → d = Memory.driver := by
    intro d hd
    exact Option.some.inj (hd.symm.trans memoryOnly_find?)
  obtain ⟨executions, h, _⟩ := rows_conserved pairsPlan memoryOnly hmemory .start failedPair
  refine ⟨hmemory, executions, h, ?_⟩
  rw [← h.outcomes]
  decide +kernel

end BatchInsert.Proofs
