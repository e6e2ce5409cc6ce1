import BatchInsert.Proofs.Pending
import BatchInsert.Url.European

/-!
# A writer as separate fields

Here a writer is five fields that are changed one by one: a connection and a statement that may be
there or not, a count in a machine word, a stage, and the counters. Nothing in the type ties them
together, the count can wrap around, and a statement that is missing is an answer of its own. Every
run of the separate fields is the run of the writer seen through `fieldsOf`; the fields therefore
agree with one another in every state that a run reaches, the count never wraps around, and the
answer to a missing statement is never given.
-/

namespace BatchInsert.Proofs

open Database (Backend Driver Reply)
open Writer (Closing Session)

variable {ω κ τ ι σ σ' : Type}

/-- Where a writer is in its life, whatever it holds. -/
inductive Stage
  | unopened
  | active
  | closed
deriving DecidableEq

/-- The moves of a writer through its life. -/
inductive Stage.Moves : Stage → Stage → Prop
  | stay (s : Stage) : Moves s s
  | opened : Moves .unopened .active
  | closed : Moves .active .closed
  | neverOpened : Moves .unopened .closed

structure Fields (κ τ : Type) where
  connection : Option κ
  statement : Option τ
  /-- Wraps around. -/
  pending : UInt64
  stage : Stage
  stats : Stats

namespace Fields

def fresh : Fields κ τ := ⟨none, none, 0, .unopened, .zero⟩

section Operations

variable (b : Backend ω κ τ) (plan : Plan) (registry : Registry (Driver ω κ))

def start [Url.Names] (index total : Nat) (f : Fields κ τ) (w : ω) :
    Reply OpenFailure (Fields κ τ × ω) Unit :=
  match f.stage with
  | .active => .fail .alreadyOpen (f, w)
  | .closed => .fail .closed (f, w)
  | .unopened =>
    let unopened : Writer ω κ τ := .ofPlan plan registry
    let reply := unopened.connect b w
    let span := unopened.openSpan index total
    match reply.result with
    | .error e => ⟨.error e, (f, reply.state), Log.within span reply.log⟩
    | .ok session =>
      let opened := Log.plain (.opened (redact plan.url) plan.batchSize)
      ⟨.ok (), ({ f with
          connection := some session.connection
          statement := some session.statement
          pending := 0
          stage := .active }, reply.state), Log.within span (reply.log ++ [opened])⟩

def execute (f : Fields κ τ) (w : ω) : Reply WriteFailure (Fields κ τ × ω) Unit :=
  if f.pending = 0 then .ok () (f, w)
  else
    match f.statement with
    | none => .fail .notOpen (f, w)
    | some s =>
      let reply := b.executeBatch s w
      let drained := { f with statement := some reply.state.1, pending := 0 }
      match reply.result with
      | .ok _ =>
        let stats := f.stats.flush f.pending (b.executionTime s w)
        ⟨.ok (), ({ drained with stats }, reply.state.2),
          reply.log ++ [Log.plain (.flushed f.pending.toNat)]⟩
      | .error e =>
        ⟨.error (.execution f.pending.toNat e),
          ({ drained with stats := f.stats.fail f.pending }, reply.state.2), reply.log⟩

def write (r : Record) (f : Fields κ τ) (w : ω) : Reply WriteFailure (Fields κ τ × ω) Unit :=
  if f.stage ≠ .active then .fail .notOpen (f, w)
  else
    match f.statement with
    | none => .fail .notOpen (f, w)
    | some s =>
      let added := Writer.append b plan.columnTypes r s w
      let logged := Writer.arityNotice plan r ++ added.log
      let left := { f with statement := some added.state.1 }
      match added.result with
      | .error e => ⟨.error e, ({ left with stats := f.stats.reject }, added.state.2), logged⟩
      | .ok () =>
        let taken := { left with pending := f.pending + 1, stats := f.stats.write }
        if .ofNat plan.batchSize ≤ taken.pending then
          (taken.execute b added.state.2).after logged
        else ⟨.ok (), (taken, added.state.2), logged⟩

def flush (f : Fields κ τ) (w : ω) : Reply WriteFailure (Fields κ τ × ω) Unit :=
  if f.stage ≠ .active then .fail .notOpen (f, w) else f.execute b w

/-- The last batch of a statement that is being given up. -/
def lastBatch (rows : UInt64) (s : τ) (stats : Stats) (w : ω) : Closing (τ × Stats × ω) :=
  if 0 < rows then
    let reply := b.executeBatch s w
    match reply.result with
    | .ok _ =>
      ⟨(reply.state.1, stats.flush rows (b.executionTime s w), reply.state.2), [],
        reply.log ++ [Log.plain (.finalFlushed rows.toNat)]⟩
    | .error e =>
      ⟨(reply.state.1, stats.fail rows, reply.state.2), [.flush rows.toNat e],
        reply.log ++ [Log.plain (.finalFailed e.text rows.toNat)]⟩
  else ⟨(s, stats, w), [], []⟩

def releaseStatement (f : Fields κ τ) (w : ω) : Closing (Fields κ τ × ω) :=
  match f.statement with
  | none => ⟨(f, w), [], []⟩
  | some s =>
    let batch := lastBatch b f.pending s f.stats w
    let statement := Writer.closeStatement b batch.state.1 batch.state.2.2
    ⟨({ f with statement := none, pending := 0, stats := batch.state.2.1 }, statement.state),
      batch.report ++ statement.report, batch.log ++ statement.log⟩

def releaseConnection (f : Fields κ τ) (w : ω) : Closing (Fields κ τ × ω) :=
  match f.connection with
  | none => ⟨(f, w), [], []⟩
  | some c =>
    let connection := Writer.closeConnection b c w
    ⟨({ f with connection := none }, connection.state), connection.report, connection.log⟩

def close (f : Fields κ τ) (w : ω) : Closing (Fields κ τ × ω) :=
  let statement := f.releaseStatement b w
  let emptied : Fields κ τ := { statement.state.1 with pending := 0 }
  let connection := emptied.releaseConnection b statement.state.2
  let left := connection.state.1
  let told :=
    if left.stage = .closed then [] else [Log.plain (Writer.closedEvent left.stats)]
  let span : Log.Span := ⟨"close", [("driver", plan.driver)]⟩
  ⟨({ left with stage := .closed }, connection.state.2), statement.report ++ connection.report,
    Log.within span (statement.log ++ connection.log ++ told)⟩

def perform [Url.Names] : Command → Fields κ τ → ω → (Answer × List Log.Entry) × Fields κ τ × ω
  | .start index total, f, w =>
    let reply := f.start b plan registry index total w
    ((.started reply.result, reply.log), reply.state)
  | .write r, f, w =>
    let reply := f.write b plan r w
    ((.written reply.result, reply.log), reply.state)
  | .flush, f, w =>
    let reply := f.flush b w
    ((.flushed reply.result, reply.log), reply.state)
  | .close, f, w =>
    let closing := f.close b plan w
    ((.closed closing.report, closing.log), closing.state)

/-- A run, with the answer and the log of every call. -/
def run [Url.Names] (act : ι → ω → ω) :
    List (Step ι) → Fields κ τ × ω → List (Answer × List Log.Entry) × Fields κ τ × ω
  | [], state => ([], state)
  | .outside i :: steps, (f, w) => run act steps (f, act i w)
  | .call c :: steps, (f, w) =>
    let called := f.perform b plan registry c w
    let rest := run act steps called.2
    (called.1 :: rest.1, rest.2)

end Operations

end Fields

/-! ### The writer seen as fields -/

def stageOf : Writer.Phase κ τ → Stage
  | .unopened => .unopened
  | .active _ => .active
  | .closed => .closed

def fieldsOf (x : Writer ω κ τ) : Fields κ τ where
  connection := x.session?.map (·.connection)
  statement := x.session?.map (·.statement)
  pending := .ofNat x.pending
  stage := stageOf x.phase
  stats := x.stats

/-- The answers of a run, each with its log. -/
def answers (past : List (Moment ω κ τ ι)) : List (Answer × List Log.Entry) :=
  past.filterMap fun m => m.answer.map (·, m.log)

lemma fieldsOf_active {x : Writer ω κ τ} {s : Session κ τ} (hx : x.phase = .active s) :
    fieldsOf x = ⟨some s.connection, some s.statement, .ofNat s.pending, .active, x.stats⟩ := by
  simp [fieldsOf, stageOf, Writer.session?, Writer.pending, hx]

lemma fieldsOf_unopened {x : Writer ω κ τ} (hx : x.phase = .unopened) :
    fieldsOf x = ⟨none, none, 0, .unopened, x.stats⟩ := by
  simp [fieldsOf, stageOf, Writer.session?, Writer.pending, hx]

lemma fieldsOf_closed {x : Writer ω κ τ} (hx : x.phase = .closed) :
    fieldsOf x = ⟨none, none, 0, .closed, x.stats⟩ := by
  simp [fieldsOf, stageOf, Writer.session?, Writer.pending, hx]

lemma fieldsOf_resume (x : Writer ω κ τ) (state : Session κ τ × Stats × ω) :
    fieldsOf (x.resume state).1 =
      ⟨some state.1.connection, some state.1.statement, .ofNat state.1.pending, .active,
        state.2.1⟩ := by
  rw [fieldsOf_active (resume_phase x state)]
  rfl

/-! ### Every operation in step -/

/-- A writer and its world, seen as fields and the world. -/
def seen (state : Writer ω κ τ × ω) : Fields κ τ × ω := (fieldsOf state.1, state.2)

section Operations

variable (b : Backend ω κ τ)

lemma start_seen [Url.Names] (index total : Nat) (x : Writer ω κ τ) (w : ω) :
    (fieldsOf x).start b x.plan x.registry index total w =
      (x.start b index total w).mapState seen := by
  have hconnect : (Writer.ofPlan x.plan x.registry : Writer ω κ τ).connect b w = x.connect b w :=
    rfl
  cases hx : x.phase with
  | active s =>
    simp [Fields.start, Writer.start, hx, fieldsOf_active hx, seen, Reply.fail, Reply.mapState]
  | closed =>
    simp [Fields.start, Writer.start, hx, fieldsOf_closed hx, seen, Reply.fail, Reply.mapState]
  | unopened =>
    simp only [Fields.start, Writer.start, hx, fieldsOf_unopened hx, hconnect]
    cases hc : (x.connect b w).result with
    | error e => simp [seen, fieldsOf_unopened hx, Reply.mapState, Writer.openSpan, Writer.ofPlan]
    | ok s =>
      -- A session just opened has taken no records yet.
      have hzero : s.pending = 0 := by
        rcases start_cases b index total x w with ⟨f, h, _⟩ | ⟨t, _, _, _, h, ht, _⟩
        · simp [Writer.start, hx, hc] at h
        · simp only [Writer.start, hx, hc] at h
          have : s = t := by simpa using congrArg Writer.phase h
          rw [this, ht]
      simp [seen, fieldsOf, stageOf, Writer.session?, Writer.pending, Reply.mapState,
        Writer.openSpan, Writer.ofPlan, hzero]

lemma ofNat_eq_zero_iff {n : Nat} (hn : n < UInt64.size) : UInt64.ofNat n = 0 ↔ n = 0 := by
  rw [← UInt64.toNat_inj, UInt64.toNat_ofNat_of_lt' hn]
  rfl

lemma execute_seen (x : Writer ω κ τ) (s : Session κ τ) (stats : Stats) (w : ω)
    (hs : s.pending < UInt64.size) :
    Fields.execute b ⟨some s.connection, some s.statement, .ofNat s.pending, .active, stats⟩ w =
      (Writer.execute b s stats w).mapState fun state => seen (x.resume state) := by
  have hword : (UInt64.ofNat s.pending).toNat = s.pending := UInt64.toNat_ofNat_of_lt' hs
  by_cases hzero : s.pending = 0
  · rw [execute_of_zero b hzero]
    simp [Fields.execute, hzero, seen, fieldsOf_resume, Reply.ok, Reply.mapState]
  · have hpos : UInt64.ofNat s.pending ≠ 0 := (ofNat_eq_zero_iff hs).not.mpr hzero
    simp only [Fields.execute, Writer.execute, if_neg hzero, if_neg hpos, hword]
    cases (b.executeBatch s.statement w).result with
    | ok counts => simp [seen, fieldsOf_resume, Reply.mapState]
    | error e => simp [seen, fieldsOf_resume, Reply.mapState]

/-- With room for one record more, the word holds the count after it, and comparing words is
comparing counts. -/
lemma write_seen (r : Record) {x : Writer ω κ τ} (hx : Consistent b x)
    (hsize : x.plan.batchSize < UInt64.size) (w : ω) :
    (fieldsOf x).write b x.plan r w = (x.write b r w).mapState seen := by
  cases hphase : x.phase with
  | unopened =>
    simp [Fields.write, Writer.write, hphase, fieldsOf_unopened hphase, seen, Reply.fail,
      Reply.mapState]
  | closed =>
    simp [Fields.write, Writer.write, hphase, fieldsOf_closed hphase, seen, Reply.fail,
      Reply.mapState]
  | active s =>
    have hroom : s.pending + 1 ≤ x.plan.batchSize := (hx s hphase).2
    have hnext : s.pending + 1 < UInt64.size := Nat.lt_of_le_of_lt hroom hsize
    have hword : UInt64.ofNat s.pending + 1 = UInt64.ofNat (s.pending + 1) :=
      (UInt64.ofNat_add s.pending 1).symm
    have hfull : UInt64.ofNat x.plan.batchSize ≤ UInt64.ofNat (s.pending + 1) ↔
        ¬ s.pending + 1 < x.plan.batchSize := by
      rw [UInt64.le_iff_toNat_le, UInt64.toNat_ofNat_of_lt' hsize, UInt64.toNat_ofNat_of_lt' hnext,
        Nat.not_lt]
    simp only [Fields.write, Writer.write, hphase, fieldsOf_active hphase, hword, hfull]
    cases (Writer.append b x.plan.columnTypes r s.statement w).result with
    | error f => simp [seen, fieldsOf_resume, Reply.mapState]
    | ok a =>
      by_cases hlt : s.pending + 1 < x.plan.batchSize
      · simp [hlt, seen, fieldsOf_resume, Reply.mapState]
      · let taken : Session κ τ := { s with
          statement := (Writer.append b x.plan.columnTypes r s.statement w).state.1
          pending := s.pending + 1 }
        have h := execute_seen b x taken x.stats.write
          (Writer.append b x.plan.columnTypes r s.statement w).state.2 hnext
        simp only [taken] at h
        simp only [hlt, not_false_eq_true, if_true, if_false, h]
        rfl

lemma flush_seen {x : Writer ω κ τ} (hx : Consistent b x)
    (hsize : x.plan.batchSize < UInt64.size) (w : ω) :
    (fieldsOf x).flush b w = (x.flush b w).mapState seen := by
  cases hphase : x.phase with
  | unopened =>
    simp [Fields.flush, Writer.flush, hphase, fieldsOf_unopened hphase, seen, Reply.fail,
      Reply.mapState]
  | closed =>
    simp [Fields.flush, Writer.flush, hphase, fieldsOf_closed hphase, seen, Reply.fail,
      Reply.mapState]
  | active s =>
    have hs : s.pending < UInt64.size := Nat.lt_trans (hx s hphase).2 hsize
    simp only [Fields.flush, flush_of_active b hphase, fieldsOf_active hphase, ne_eq,
      not_true_eq_false, if_false, execute_seen b x s x.stats w hs]
    rfl

lemma lastBatch_eq (s : Session κ τ) (stats : Stats) (w : ω) (hs : s.pending < UInt64.size) :
    Fields.lastBatch b (.ofNat s.pending) s.statement stats w = Writer.closeBatch b s stats w := by
  have hword : (UInt64.ofNat s.pending).toNat = s.pending := UInt64.toNat_ofNat_of_lt' hs
  have hpos : (0 : UInt64) < UInt64.ofNat s.pending ↔ ¬ s.pending = 0 := by
    rw [UInt64.lt_iff_toNat_lt, hword]
    exact Nat.pos_iff_ne_zero
  by_cases hzero : s.pending = 0
  · rw [Fields.lastBatch, Writer.closeBatch, if_neg (by simpa [hpos] using hzero), if_pos hzero]
  · rw [Fields.lastBatch, Writer.closeBatch, if_pos (hpos.mpr hzero), if_neg hzero]
    cases h : (b.executeBatch s.statement w).result with
    | ok counts => simp only [h, hword]
    | error e => simp only [h, hword]

lemma close_seen {x : Writer ω κ τ} (hx : Consistent b x)
    (hsize : x.plan.batchSize < UInt64.size) (w : ω) :
    (fieldsOf x).close b x.plan w =
      ⟨seen (x.close b w).state, (x.close b w).report, (x.close b w).log⟩ := by
  cases hphase : x.phase with
  | unopened =>
    simp [Fields.close, Fields.releaseStatement, Fields.releaseConnection, Writer.close, hphase,
      seen, fieldsOf, stageOf, Writer.session?, Writer.pending, Writer.closeSpan]
  | closed =>
    simp [Fields.close, Fields.releaseStatement, Fields.releaseConnection, Writer.close, hphase,
      fieldsOf_closed hphase, seen, Log.within]
  | active s =>
    have hs : s.pending < UInt64.size := Nat.lt_trans (hx s hphase).2 hsize
    simp [Fields.close, Fields.releaseStatement, Fields.releaseConnection, Writer.close, hphase,
      lastBatch_eq b s x.stats w hs, Writer.closeSession, seen, fieldsOf,
      stageOf, Writer.session?, Writer.pending, Writer.closeSpan]

lemma perform_seen [Url.Names] (c : Command) {x : Writer ω κ τ} (hx : Consistent b x)
    (hsize : x.plan.batchSize < UInt64.size) (w : ω) :
    (fieldsOf x).perform b x.plan x.registry c w =
      (((perform b c (x, w)).answer, (perform b c (x, w)).log),
        seen (perform b c (x, w)).state) := by
  cases c with
  | start index total => simp [Fields.perform, perform, start_seen, Reply.mapState]
  | write r => simp [Fields.perform, perform, write_seen b r hx hsize, Reply.mapState]
  | flush => simp [Fields.perform, perform, flush_seen b hx hsize, Reply.mapState]
  | close => simp [Fields.perform, perform, close_seen b hx hsize]

/-- A run of the fields gives the answers, the logs, the fields and the world of the run of the
writer. -/
theorem run_seen [Url.Names] {slots : τ → Slots} (hb : Lawful b slots) (act : ι → ω → ω)
    (steps : List (Step ι)) {x : Writer ω κ τ} (hx : Consistent b x)
    (hsize : x.plan.batchSize < UInt64.size) (w : ω) :
    Fields.run b x.plan x.registry act steps (fieldsOf x, w) =
      (answers (history b act steps (x, w)), seen (run b act steps (x, w))) := by
  induction steps generalizing x w with
  | nil => rfl
  | cons step steps ih =>
    cases step with
    | outside i => exact ih hx hsize (act i w)
    | call c =>
      obtain ⟨hplan, hregistry⟩ := run_fixed b act [.call c] (x, w)
      have hnext : Consistent b (perform b c (x, w)).state.1 :=
        consistent_run hb act [.call c] (x, w) hx
      have hrest := ih hnext (by rwa [← hplan] at hsize) (perform b c (x, w)).state.2
      rw [show (perform b c (x, w)).state.1.plan = x.plan from hplan,
        show (perform b c (x, w)).state.1.registry = x.registry from hregistry] at hrest
      simp only [Fields.run, perform_seen b c hx hsize, seen, hrest]
      rfl

/-! ### What the fields say about one another -/

lemma stage_perform [Url.Names] (c : Command) (x : Writer ω κ τ) (w : ω) :
    (stageOf x.phase).Moves (stageOf (perform b c (x, w)).state.1.phase) := by
  cases c with
  | start index total =>
    rcases start_cases b index total x w with ⟨_, _, h⟩ | ⟨s, _, hx, _, h, _⟩
    · simp only [perform, h]
      exact .stay _
    · simp only [perform, h, hx]
      exact .opened
  | write r =>
    cases hs : x.session? with
    | none =>
      simp only [perform, write_of_session_none b r hs]
      exact .stay _
    | some s =>
      have hx := session?_eq_some.mp hs
      rcases write_cases b r hx w with ⟨_, _, _, h⟩ | ⟨_, _, _, h⟩ | ⟨_, _, _, h⟩
      all_goals
        simp only [perform, h, hx, resume_phase]
        exact .stay _
  | flush =>
    cases hs : x.session? with
    | none =>
      simp only [perform, flush_of_session_none b hs]
      exact .stay _
    | some s =>
      have hx := session?_eq_some.mp hs
      simp only [perform, flush_of_active b hx, Reply.mapState, hx, resume_phase]
      exact .stay _
  | close =>
    simp only [perform, close_phase]
    cases x.phase with
    | unopened => exact .neverOpened
    | active s => exact .closed
    | closed => exact .stay _

lemma execute_ne_notOpen (s : Session κ τ) (stats : Stats) (w : ω) :
    (Writer.execute b s stats w).result ≠ .error .notOpen := by
  rcases execute_result b s stats w with h | ⟨_, _, h⟩ <;> simp [h]

lemma write_notOpen_iff (r : Record) (x : Writer ω κ τ) (w : ω) :
    (x.write b r w).result = .error .notOpen ↔ stageOf x.phase ≠ .active := by
  cases hx : x.phase with
  | unopened => simp [Writer.write, hx, Reply.fail, stageOf]
  | closed => simp [Writer.write, hx, Reply.fail, stageOf]
  | active s =>
    simp only [stageOf, ne_eq, not_true_eq_false, iff_false]
    intro hnot
    rcases write_cases b r hx w with ⟨f, ha, h, _⟩ | ⟨_, _, h, _⟩ | ⟨_, _, h, _⟩
    · rw [h, Except.error.injEq] at hnot
      have hrejected := append_error_isRejection b x.plan.columnTypes ha
      rw [hnot] at hrejected
      cases hrejected
    · simp [h] at hnot
    · exact execute_ne_notOpen b _ _ _ (h.symm.trans hnot)

lemma flush_notOpen_iff (x : Writer ω κ τ) (w : ω) :
    (x.flush b w).result = .error .notOpen ↔ stageOf x.phase ≠ .active := by
  cases hx : x.phase with
  | unopened => simp [Writer.flush, hx, Reply.fail, stageOf]
  | closed => simp [Writer.flush, hx, Reply.fail, stageOf]
  | active s =>
    simp only [flush_of_active b hx, Reply.mapState, stageOf, ne_eq, not_true_eq_false, iff_false]
    exact execute_ne_notOpen b s x.stats w

end Operations

/-- The fields agree with one another, and so does everything that the next call can do: the
handles are held exactly while the writer is active, the count is the length of the batch, there is
room to count one record more, the stages follow one another, and only a writer that is not active
answers that it is not open. -/
structure Fields.WellFormed [Url.Names] (b : Backend ω κ τ) (plan : Plan)
    (registry : Registry (Driver ω κ)) (f : Fields κ τ) : Prop where
  connection_iff : f.connection.isSome ↔ f.stage = .active
  statement_iff : f.statement.isSome ↔ f.stage = .active
  pending_eq : ∀ s, f.statement = some s → f.pending.toNat = b.batchLength s
  pending_eq_zero : f.stage ≠ .active → f.pending = 0
  pending_lt : f.pending.toNat < plan.batchSize
  no_overflow : (f.pending + 1).toNat = f.pending.toNat + 1
  moves : ∀ c w, f.stage.Moves (f.perform b plan registry c w).2.1.stage
  write_notOpen : ∀ r w, (f.write b plan r w).result = .error .notOpen ↔ f.stage ≠ .active
  flush_notOpen : ∀ w, (f.flush b w).result = .error .notOpen ↔ f.stage ≠ .active

lemma wellFormed_fieldsOf [Url.Names] {b : Backend ω κ τ} {x : Writer ω κ τ} (hx : Consistent b x)
    (hsize : x.plan.batchSize < UInt64.size) :
    (fieldsOf x).WellFormed b x.plan x.registry := by
  have hpending := pending_lt_batchSize hx
  have hword : (fieldsOf x).pending.toNat = x.pending :=
    UInt64.toNat_ofNat_of_lt' (Nat.lt_trans hpending hsize)
  have hnext : x.pending + 1 < UInt64.size := Nat.lt_of_le_of_lt hpending hsize
  constructor
  case connection_iff => cases h : x.phase <;> simp [fieldsOf, stageOf, Writer.session?, h]
  case statement_iff => cases h : x.phase <;> simp [fieldsOf, stageOf, Writer.session?, h]
  case pending_eq =>
    intro t ht
    cases hs : x.session? with
    | none => simp [fieldsOf, hs] at ht
    | some s =>
      have hst : s.statement = t := by simpa [fieldsOf, hs] using ht
      rw [hword, Writer.pending, hs, ← hst]
      exact (hx s (session?_eq_some.mp hs)).1
  case pending_eq_zero =>
    cases h : x.phase <;> simp [fieldsOf, stageOf, Writer.session?, Writer.pending, h]
  case pending_lt => exact hword ▸ hpending
  case no_overflow =>
    rw [UInt64.toNat_add, hword]
    exact Nat.mod_eq_of_lt hnext
  case moves =>
    intro c w
    rw [perform_seen b c hx hsize]
    exact stage_perform b c x w
  case write_notOpen =>
    intro r w
    rw [write_seen b r hx hsize]
    exact write_notOpen_iff b r x w
  case flush_notOpen =>
    intro w
    rw [flush_seen b hx hsize]
    exact flush_notOpen_iff b x w

/-- Over the built-in backends, whatever the servers and the faults do between the calls and
however the calls end: a writer kept as separate fields, with its count in a word, gives the same
answers and logs as the writer with a session, and after every run its fields are well formed. -/
theorem fields_wellFormed_after_run [Url.Names] (pg : Postgres.Server σ) (my : Mysql.Server σ')
    (plan : Plan) (hsize : plan.batchSize < UInt64.size)
    (registry : Registry (Driver (Builtin.World σ σ') Builtin.Connection))
    (steps : List (Step (Builtin.World σ σ' → Builtin.World σ σ'))) (w : Builtin.World σ σ') :
    let b := Builtin.backend pg my
    let writer := Writer.ofPlan plan registry
    let out := Fields.run b plan registry id steps (.fresh, w)
    out = (answers (history b id steps (writer, w)), seen (run b id steps (writer, w))) ∧
      out.2.1.WellFormed b plan registry := by
  intro b writer out
  have hfresh : Consistent b writer := consistent_of_session_none rfl
  have hseen : out = _ := run_seen b (lawful_builtin pg my) id steps hfresh hsize w
  refine ⟨hseen, ?_⟩
  obtain ⟨hplan, hregistry⟩ := run_fixed b id steps (writer, w)
  have h := wellFormed_fieldsOf
    (consistent_run (lawful_builtin pg my) id steps (writer, w) hfresh)
    (by rw [hplan]; exact hsize)
  rw [hseen]
  rwa [hplan, hregistry] at h

open scoped Url.European

/-- The built-in drivers where no server can be reached. -/
abbrev offline : Registry (Driver (Builtin.World Unit Unit) Builtin.Connection) :=
  Builtin.registry (Builtin.driver Postgres.unreachable Mysql.unreachable)

/-- A plan with the largest batch that a word can count. -/
def largestPlan : Plan :=
  ⟨"Memory", "jdbc:test", none, "INSERT INTO t VALUES (?)", 18446744073709551615, none, by decide⟩

/-- A record is written while binding fails, and another one after that. -/
def retrySteps : List (Step (Builtin.World Unit Unit → Builtin.World Unit Unit)) :=
  [.call (.start 0 1), .outside fun w => { w with memory := w.memory.fail .bind },
    .call (.write ⟨[.int32 1]⟩), .outside fun w => { w with memory := w.memory.recover .bind },
    .call (.write ⟨[.int32 2]⟩)]

def retryRun : List (Answer × List Log.Entry) ×
    Fields Builtin.Connection Builtin.Statement × Builtin.World Unit Unit :=
  Fields.run (Builtin.backend Postgres.unreachable Mysql.unreachable) largestPlan offline id
    retrySteps (.fresh, ⟨.start, (), .start ()⟩)

/-- The record that is rejected is not counted, the next one is. -/
theorem fields_wellFormed_at_largest_batch :
    largestPlan.batchSize < UInt64.size ∧
      retryRun.2.1.WellFormed (Builtin.backend Postgres.unreachable Mysql.unreachable) largestPlan
        offline ∧
      retryRun.2.1.stage = .active ∧ retryRun.2.1.pending = 1 := by
  have hsize : largestPlan.batchSize < UInt64.size := by decide
  have hrun := fields_wellFormed_after_run Postgres.unreachable Mysql.unreachable largestPlan hsize
    offline retrySteps ⟨.start, (), .start ()⟩
  refine ⟨hsize, ?_, by decide +kernel, by decide +kernel⟩
  rw [retryRun]
  exact hrun.2

end BatchInsert.Proofs
