import BatchInsert.Proofs.Journal
import BatchInsert.Url.European

/-!
# How often the batch is executed

Over an in-memory backend in which nothing fails, a batch is executed as soon as it is full and at
no other time before closing. The records that are taken therefore come to as many full batches as
the size of a batch divides them into, and closing executes those that are left over.
-/

namespace BatchInsert.Proofs

open Database (Backend Driver Reply)
open Writer (Session)

/-! ### Calls where nothing fails -/

section Faultless

variable {w : Memory.World}

lemma faults_bind (position : Nat) (p : Sql.Param) (s : Memory.Statement) (w : Memory.World) :
    (Memory.backend.bind position p s w).state.2.faults = w.faults := by
  simp only [Memory.backend, Memory.Statement.bind]
  repeat' split
  all_goals rfl

lemma faults_addBatch (s : Memory.Statement) (w : Memory.World) :
    (Memory.backend.addBatch s w).state.2.faults = w.faults := by
  simp only [Memory.backend, Memory.Statement.addBatch]
  split <;> rfl

lemma faults_append (types : Option (List Sql.Tag)) (r : Record) (s : Memory.Statement)
    (w : Memory.World) :
    (Writer.append Memory.backend types r s w).state.2.faults = w.faults :=
  append_world Memory.backend Memory.World.faults faults_bind faults_addBatch types r s w

lemma bindFrom_faultless (hw : w.faults = []) (types : Option (List Sql.Tag)) (s : Memory.Statement)
    (index : Nat) (vs : List Value) :
    let bound := Binding.bindFrom Memory.backend types s w index vs
    bound.result = .ok () ∨
      ∃ position expected kind cause,
        bound.result = .error (.mismatch position expected kind cause) := by
  induction vs generalizing s w index with
  | nil => exact .inl rfl
  | cons v vs ih =>
    simp only [Binding.bindFrom]
    cases hp : Binding.param (index + 1) v (Binding.declared? types index) with
    | error f =>
      obtain ⟨expected, kind, cause, hf⟩ := param_error_eq hp
      exact .inr ⟨_, expected, kind, cause, congrArg Except.error hf⟩
    | ok p =>
      have hok : (Memory.backend.bind (index + 1) p s w).result = .ok () := by
        simp [Memory.backend, Memory.Statement.bind, hw, Reply.ok]
      have hfaults := (faults_bind (index + 1) p s w).trans hw
      simp only [hok]
      exact ih hfaults _ _

lemma addBatch_faultless (hw : w.faults = []) (s : Memory.Statement) :
    (Memory.backend.addBatch s w).result = .ok () := by
  simp [Memory.backend, Memory.Statement.addBatch, hw, Reply.ok]

lemma append_faultless (hw : w.faults = []) (types : Option (List Sql.Tag)) (r : Record)
    (s : Memory.Statement) :
    let added := Writer.append Memory.backend types r s w
    added.result = .ok () ∨
      ∃ position expected kind cause,
        added.result = .error (.mismatch position expected kind cause) := by
  intro added
  have hbound := bindFrom_faultless hw types s 0 r.fields
  rcases append_cases Memory.backend types r s w with
    ⟨f, hf, h, _⟩ | ⟨e, _, he, _, _⟩ | ⟨_, _, h, _⟩
  · rcases hbound with hok | ⟨position, expected, kind, cause, herror⟩
    · simp [Binding.record, hok] at hf
    · refine .inr ⟨position, expected, kind, cause, ?_⟩
      exact h.trans (hf.symm.trans herror)
  · have hfaults : (Binding.record Memory.backend types r s w).state.2.faults = [] :=
      (bindFrom_world Memory.backend Memory.World.faults faults_bind types s w 0 r.fields).trans hw
    rw [addBatch_faultless hfaults] at he
    cases he
  · exact .inl h

lemma executeBatch_faultless (hw : w.faults = []) (s : Memory.Statement) :
    (Memory.backend.executeBatch s w).result = .ok (List.replicate s.batch.toList.length 1) ∧
      (Memory.backend.executeBatch s w).state.2.faults = [] := by
  simp [Memory.backend, Memory.Statement.executeBatch, hw, Reply.ok]

lemma execute_faultless (hw : w.faults = []) {s : Session Memory.Connection Memory.Statement}
    (hs : s.pending = s.statement.batch.size) (hpos : s.pending ≠ 0) (stats : Stats) :
    let executed := Writer.execute Memory.backend s stats w
    executed.result = .ok () ∧ executed.state.1.pending = 0 ∧
      executed.state.1.statement.batch = #[] ∧ executed.state.2.2.faults = [] ∧
      executedSizes executed.state.2.2 = executedSizes w ++ [s.pending] ∧
      executed.state.2.2.journal.rowsExecuted = w.journal.rowsExecuted + s.pending := by
  intro executed
  obtain ⟨hok, hfaults⟩ := executeBatch_faultless hw s.statement
  obtain ⟨hbatch, hledger⟩ := executeBatch_ledger s.statement w
  rw [hok] at hledger
  obtain ⟨hsizes, hbatches⟩ := Prod.ext_iff.mp hledger
  have hlength : s.statement.batch.toList.length = s.pending := by
    rw [Array.length_toList, hs]
  rcases execute_of_pos Memory.backend hpos stats w with ⟨_, _, hr, h⟩ | ⟨e, he, _, _⟩
  · refine ⟨hr, execute_pending _ _ _ _, ?_⟩
    simp only [executed, h]
    refine ⟨hbatch, hfaults, hlength ▸ hsizes, ?_⟩
    rw [Memory.Journal.rowsExecuted, Memory.Journal.rowsExecuted,
      show (Memory.backend.executeBatch s.statement w).state.2.journal.batches.toList = _
        from hbatches, List.flatten_append, List.length_append, ← hlength]
    simp
  · rw [hok] at he
    cases he

lemma closeBatch_faultless (hw : w.faults = []) (s : Session Memory.Connection Memory.Statement)
    (stats : Stats) : (Writer.closeBatch Memory.backend s stats w).report = [] := by
  simp only [Writer.closeBatch, (executeBatch_faultless hw s.statement).1]
  split <;> rfl

lemma closeStatement_faultless (hw : w.faults = []) (s : Memory.Statement) :
    (Writer.closeStatement Memory.backend s w).report = [] ∧
      (Writer.closeStatement Memory.backend s w).state.faults = [] := by
  simp [Writer.closeStatement, Memory.backend, Memory.Statement.close, Memory.World.record, hw,
    Reply.ok]

lemma closeConnection_faultless (hw : w.faults = []) (c : Memory.Connection) :
    (Writer.closeConnection Memory.backend c w).report = [] := by
  simp [Writer.closeConnection, Memory.backend, Memory.closeConnection, hw, Reply.ok]

lemma closeSession_faultless (s : Session Memory.Connection Memory.Statement) (stats : Stats)
    (hbatch : (Writer.closeBatch Memory.backend s stats w).report = [])
    (hw : (Writer.closeBatch Memory.backend s stats w).state.2.2.faults = []) :
    (Writer.closeSession Memory.backend s stats w).report = [] := by
  obtain ⟨hstatement, hfaults⟩ :=
    closeStatement_faultless hw (Writer.closeBatch Memory.backend s stats w).state.1
  simp only [Writer.closeSession, hbatch, hstatement,
    closeConnection_faultless hfaults s.connection, List.append_nil]

end Faultless

/-! ### A batch that fills -/

/-- A writer that has taken `taken` records since the world was `w₀`, in full batches and a rest
that waits. -/
structure Filling (w₀ : Memory.World) (taken : Nat) (state : MemoryWriter × Memory.World)
    (s : Session Memory.Connection Memory.Statement) (full : Nat) : Prop where
  phase : state.1.phase = .active s
  batch : s.pending = s.statement.batch.size
  room : s.pending < state.1.plan.batchSize
  taken : taken = state.1.plan.batchSize * full + s.pending
  faults : state.2.faults = []
  sizes : executedSizes state.2 =
    executedSizes w₀ ++ List.replicate full state.1.plan.batchSize
  rows : state.2.journal.rowsExecuted =
    w₀.journal.rowsExecuted + state.1.plan.batchSize * full

/-- The answers of calls of which none fails, save for records whose values cannot be converted. -/
def Answer.isFaultless : Answer → Bool
  | .started (.ok ()) | .written (.ok ()) | .flushed (.ok ()) => true
  | .written (.error (.mismatch _ _ _ _)) => true
  | .closed report => report.isClean
  | _ => false

def isTaken : Except WriteFailure Unit → Bool
  | .ok () => true
  | .error _ => false

/-- Whether a step was the write of a record that was taken. -/
def tookRecord (m : MemoryMoment) : Bool :=
  match m.answer with
  | some (.written result) => isTaken result
  | _ => false

lemma rowsExecuted_of_ledger {w w' : Memory.World} (h : ledger w' = ledger w) :
    w'.journal.rowsExecuted = w.journal.rowsExecuted := by
  rw [Memory.Journal.rowsExecuted, Memory.Journal.rowsExecuted,
    show w'.journal.batches.toList = w.journal.batches.toList from congrArg Prod.snd h]

section Steps

variable {w₀ : Memory.World} {taken full : Nat} {state : MemoryWriter × Memory.World}
  {s : Session Memory.Connection Memory.Statement}

/-- A record that is taken waits, or fills the batch, which is then executed. -/
lemma filling_write [Url.Names] (h : Filling w₀ taken state s full) (r : Record) :
    let m := moment Memory.backend Toggle.apply (.call (.write r)) state
    m.answer.any Answer.isFaultless = true ∧
      ∃ s' full', Filling w₀ (taken + if tookRecord m then 1 else 0) m.after s' full' := by
  obtain ⟨x, w⟩ := state
  intro m
  have hledger := (append_keeps x.plan.columnTypes r s.statement w).2
  have hlength := batchLength_append lawful_memory x.plan.columnTypes r s.statement w
  have hfaults := (faults_append x.plan.columnTypes r s.statement w).trans h.faults
  have hsizes := (congrArg Prod.fst hledger).trans h.sizes
  have hrows := (rowsExecuted_of_ledger hledger).trans h.rows
  have hanswer : m.answer = some (.written (x.write Memory.backend r w).result) := rfl
  have hafter : m.after = (x.write Memory.backend r w).state := rfl
  have htook : tookRecord m = isTaken (x.write Memory.backend r w).result := by
    rw [tookRecord, hanswer]
  rw [hanswer, hafter, htook]
  rcases write_cases Memory.backend r h.phase w with
    ⟨f, ha, hr, hst⟩ | ⟨ha, hlt, hr, hst⟩ | ⟨ha, hle, hr, hst⟩
  · rcases append_faultless h.faults x.plan.columnTypes r s.statement with
      hok | ⟨position, expected, kind, cause, hmismatch⟩
    · rw [hok] at ha
      cases ha
    · rw [hmismatch] at ha hlength
      cases ha
      rw [hr, hst]
      exact ⟨rfl, _, full, rfl, h.batch.trans hlength.symm, h.room, h.taken, hfaults, hsizes, hrows⟩
  · rw [ha] at hlength
    rw [hr, hst]
    exact ⟨rfl, _, full, rfl, (congrArg (· + 1) h.batch).trans hlength.symm, hlt,
      congrArg (· + 1) h.taken, hfaults, hsizes, hrows⟩
  · rw [ha] at hlength
    have hfull : s.pending + 1 = x.plan.batchSize := Nat.le_antisymm h.room hle
    let filled : Session Memory.Connection Memory.Statement := { s with
      statement := (Writer.append Memory.backend x.plan.columnTypes r s.statement w).state.1
      pending := s.pending + 1 }
    have hbatch : filled.pending = filled.statement.batch.size :=
      (congrArg (· + 1) h.batch).trans hlength.symm
    obtain ⟨hok, hzero, hempty, hnone, hexecuted, hnew⟩ :=
      execute_faultless hfaults hbatch (Nat.succ_ne_zero _) x.stats.write
    rw [hr.trans hok, hst]
    refine ⟨rfl, (Writer.execute Memory.backend filled x.stats.write
      (Writer.append Memory.backend x.plan.columnTypes r s.statement w).state.2).state.1,
      full + 1, ?_⟩
    constructor
    case phase => rfl
    case batch => exact hzero.trans (by rw [hempty]; rfl)
    case room => exact hzero ▸ x.plan.batchSize_pos
    case taken =>
      rw [h.taken, hzero, resume_plan, Nat.mul_succ, ← hfull]
      rfl
    case faults => exact hnone
    case sizes =>
      rw [resume_plan, List.replicate_succ', ← List.append_assoc, ← hsizes, ← hfull]
      exact hexecuted
    case rows =>
      rw [resume_plan, Nat.mul_succ, ← Nat.add_assoc, ← hrows, ← hfull]
      exact hnew

lemma filling_writes [Url.Names] (h : Filling w₀ taken state s full) (records : List Record) :
    let steps : List (Step Toggle) := records.map fun r => .call (.write r)
    let past := history Memory.backend Toggle.apply steps state
    (∀ m ∈ past, m.answer.any Answer.isFaultless = true) ∧
      ∃ s' full', Filling w₀ (taken + past.countP tookRecord)
        (run Memory.backend Toggle.apply steps state) s' full' := by
  induction records generalizing taken state s full with
  | nil => exact ⟨by simp [history], s, full, h⟩
  | cons r records ih =>
    intro steps past
    obtain ⟨hanswer, s', full', hnext⟩ := filling_write h r
    obtain ⟨hanswers, s'', full'', hrest⟩ := ih hnext
    refine ⟨?_, s'', full'', ?_⟩
    · intro m hm
      rcases List.mem_cons.mp hm with rfl | hm
      · exact hanswer
      · exact hanswers m hm
    · rw [show past = _ :: _ from rfl, List.countP_cons, Nat.add_comm (List.countP _ _),
        ← Nat.add_assoc]
      exact hrest

lemma filling_close (h : Filling w₀ taken state s full) :
    let closing := state.1.close Memory.backend state.2
    closing.report = [] ∧
      executedSizes closing.state.2 =
        executedSizes state.2 ++ (if s.pending = 0 then [] else [s.pending]) ∧
      closing.state.2.journal.rowsExecuted = w₀.journal.rowsExecuted + taken := by
  obtain ⟨x, w⟩ := state
  intro closing
  let batch := Writer.closeBatch Memory.backend s x.stats w
  have hbatch : batch.report = [] := closeBatch_faultless h.faults s x.stats
  have hledger : ledger closing.state.2 = ledger batch.state.2.2 := by
    rw [(close_of_active Memory.backend h.phase w).1]
    exact (ledger_closeConnection _ _).trans (ledger_closeStatement _ _)
  have hreport (hw : batch.state.2.2.faults = []) : closing.report = [] := by
    simp only [closing, Writer.close, show x.phase = .active s from h.phase]
    exact closeSession_faultless s x.stats hbatch hw
  have hworld : batch.state.2.2 = (Writer.execute Memory.backend s x.stats w).state.2.2 :=
    congrArg (·.2.2) (closeBatch_state Memory.backend s x.stats w)
  have hsizes := congrArg Prod.fst hledger
  have hrows := rowsExecuted_of_ledger hledger
  have hold := h.rows
  by_cases hzero : s.pending = 0
  · have hsame : batch.state.2.2 = w := by
      rw [hworld, execute_of_zero Memory.backend hzero]
      rfl
    rw [hsame] at hreport hsizes hrows
    refine ⟨hreport h.faults, ?_, ?_⟩
    · rw [if_pos hzero, List.append_nil]
      exact hsizes
    · rw [hrows, hold, h.taken, hzero, Nat.add_zero]
  · obtain ⟨_, _, _, hfaults, hexecuted, hnew⟩ := execute_faultless h.faults h.batch hzero x.stats
    rw [← hworld] at hfaults hexecuted hnew
    refine ⟨hreport hfaults, ?_, ?_⟩
    · rw [if_neg hzero]
      exact hsizes.trans hexecuted
    · rw [hrows, hnew, hold, h.taken, Nat.add_assoc]

lemma filling_start [Url.Names] {plan : Plan}
    {registry : Registry (Driver Memory.World Memory.Connection)}
    (hdriver : registry.find? plan.driver = some Memory.driver) (hw : w₀.faults = [])
    (index total : Nat) :
    let m := moment Memory.backend Toggle.apply (.call (.start index total))
      (Writer.ofPlan plan registry, w₀)
    m.answer = some (.started (.ok ())) ∧ ∃ s, Filling w₀ 0 m.after s 0 := by
  intro m
  let opened : Session Memory.Connection Memory.Statement :=
    ⟨⟨false⟩, ⟨plan.statement, [], #[]⟩, 0⟩
  let connected : Memory.World :=
    w₀.record (.connect plan.target.url (plan.target.credentials.map (·.username)))
  have hstart : m.answer = some (.started (.ok ())) ∧
      m.after = (⟨plan, registry, .active opened, .zero⟩,
        connected.record (.prepare plan.statement)) := by
    simp [m, moment, perform, Writer.start, Writer.ofPlan, Writer.connect, Registry.resolve,
      hdriver, Memory.driver, Memory.connect, Memory.backend, Memory.prepare,
      Memory.World.record, hw, Reply.ok, opened, connected]
  have hledger : ledger (connected.record (.prepare plan.statement)) = ledger w₀ :=
    (ledger_record (by simp) connected).trans (ledger_record (by simp) w₀)
  refine ⟨hstart.1, opened, ?_⟩
  rw [hstart.2]
  constructor
  case phase => rfl
  case batch => rfl
  case room => exact plan.batchSize_pos
  case taken => rfl
  case faults => exact hw
  case sizes => exact (congrArg Prod.fst hledger).trans (List.append_nil _).symm
  case rows => exact rowsExecuted_of_ledger hledger

end Steps

/-- Where nothing fails, the batch is executed each time it is full and at no other time: `n` taken
records make `n / size` full batches, whatever records are refused between them, and closing
executes the `n % size` that are left over, unless there are none. -/
theorem executions_of_writes [Url.Names] (plan : Plan)
    (registry : Registry (Driver Memory.World Memory.Connection))
    (hdriver : registry.find? plan.driver = some Memory.driver) (journal : Memory.Journal)
    (pace : Duration) (index total : Nat) (records : List Record) :
    let w : Memory.World := ⟨journal, [], pace⟩
    let steps : List (Step Toggle) :=
      .call (.start index total) :: records.map fun r => .call (.write r)
    let past := history Memory.backend Toggle.apply steps (.ofPlan plan registry, w)
    let state := run Memory.backend Toggle.apply steps (.ofPlan plan registry, w)
    let closing := state.1.close Memory.backend state.2
    let n := past.countP tookRecord
    let size := plan.batchSize
    (∀ m ∈ past, m.answer.any Answer.isFaultless = true) ∧
      executedSizes state.2 = executedSizes w ++ List.replicate (n / size) size ∧
      executedSizes closing.state.2 =
        executedSizes state.2 ++ (if n % size = 0 then [] else [n % size]) ∧
      closing.state.2.journal.rowsExecuted = journal.rowsExecuted + n ∧
      closing.report = [] := by
  intro w steps past state closing n size
  obtain ⟨hanswer, s, hstart⟩ := filling_start hdriver (show w.faults = [] from rfl) index total
  obtain ⟨hanswers, s', full, hfilling⟩ := filling_writes hstart records
  obtain ⟨hreport, hsizes, hrows⟩ := filling_close hfilling
  have hplan : state.1.plan = plan :=
    (run_fixed Memory.backend Toggle.apply steps (.ofPlan plan registry, w)).1
  have hfresh : tookRecord (moment Memory.backend Toggle.apply (.call (.start index total))
      (Writer.ofPlan plan registry, w)) = false := by
    rw [tookRecord, hanswer]
  have hn : n = 0 + List.countP tookRecord (history Memory.backend Toggle.apply
      (records.map fun r => .call (.write r)) (moment Memory.backend Toggle.apply
        (.call (.start index total)) (Writer.ofPlan plan registry, w)).after) := by
    rw [Nat.zero_add]
    exact List.countP_cons_of_neg (by simp [hfresh])
  rw [← hn] at hfilling hrows
  have hdivides : n / size = full ∧ n % size = s'.pending := by
    refine (Nat.div_mod_unique plan.batchSize_pos).mpr ⟨?_, ?_⟩
    · rw [Nat.add_comm, hfilling.taken]
      exact congrArg (fun p : Plan => p.batchSize * full + s'.pending) hplan.symm
    · exact hplan ▸ hfilling.room
  rw [hdivides.1, hdivides.2]
  refine ⟨?_, ?_, hsizes, hrows, hreport⟩
  · intro m hm
    rcases List.mem_cons.mp hm with rfl | hm
    · rw [hanswer]
      rfl
    · exact hanswers m hm
  · have hexecuted := hfilling.sizes
    rw [show (run Memory.backend Toggle.apply (records.map fun r => .call (.write r)) _).1.plan =
      plan from hplan] at hexecuted
    exact hexecuted

/-- Batches of two integers. -/
def integersPlan : Plan := { pairsPlan with columnTypes := some [.standard .integer] }

/-- The second record is none that the plan takes. -/
def oneRefused : List Record := [⟨[.int32 1]⟩, ⟨[.bool true]⟩, ⟨[.int32 2]⟩, ⟨[.int32 3]⟩]

def oneRefusedSteps : List (Step Toggle) :=
  .call (.start 0 1) :: oneRefused.map fun r => .call (.write r)

open scoped Url.European

theorem executions_of_writes_one_refused :
    let past := history Memory.backend Toggle.apply oneRefusedSteps
      (.ofPlan integersPlan memoryOnly, .start)
    let state := run Memory.backend Toggle.apply oneRefusedSteps
      (.ofPlan integersPlan memoryOnly, .start)
    let closing := state.1.close Memory.backend state.2
    memoryOnly.find? integersPlan.driver = some Memory.driver ∧
      past.countP tookRecord = 3 ∧ past.length = 5 ∧
      executedSizes state.2 = [2] ∧ executedSizes closing.state.2 = [2, 1] ∧
      closing.report = [] := by
  intro past state closing
  have hdriver : memoryOnly.find? integersPlan.driver = some Memory.driver := memoryOnly_find?
  obtain ⟨_, hfull, hrest, _, hreport⟩ :=
    executions_of_writes integersPlan memoryOnly hdriver .empty ⟨0, 0⟩ 0 1 oneRefused
  have hn : past.countP tookRecord = 3 := by decide +kernel
  change executedSizes state.2 = executedSizes .start ++
    List.replicate (past.countP tookRecord / 2) 2 at hfull
  change executedSizes closing.state.2 = executedSizes state.2 ++
    (if past.countP tookRecord % 2 = 0 then [] else [past.countP tookRecord % 2]) at hrest
  rw [hn] at hfull hrest
  rw [hfull] at hrest
  exact ⟨hdriver, hn, rfl, hfull, hrest, hreport⟩

end BatchInsert.Proofs
