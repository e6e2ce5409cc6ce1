import BatchInsert.Proofs.FullBatches
import BatchInsert.Proofs.Recording
import BatchInsert.Url.European

/-!
# Writers side by side

Writers that share an in-memory driver share its journal, its faults and its pace. A call does not
read the journal, and it does nothing to the world but add to the journal. So each writer goes
through any interleaving of their calls as it would go through its own calls alone, and the journal
that they share is a merge of those that they would have kept alone.
-/

namespace BatchInsert.Proofs

open Database (Backend Call Driver Reply)

/-! ### Journals that are continued -/

instance : Append Memory.Journal :=
  ⟨fun j more => ⟨j.events ++ more.events, j.batches ++ more.batches⟩⟩

lemma journal_append_batches (j more : Memory.Journal) :
    (j ++ more).batches = j.batches ++ more.batches := rfl

lemma journal_ext {j j' : Memory.Journal} (hevents : j.events = j'.events)
    (hbatches : j.batches = j'.batches) : j = j' := by
  cases j
  cases j'
  congr

lemma journal_append_empty (j : Memory.Journal) : j ++ Memory.Journal.empty = j := by
  apply journal_ext
  · exact Array.append_empty
  · exact Array.append_empty

lemma journal_append_assoc (j more last : Memory.Journal) :
    j ++ more ++ last = j ++ (more ++ last) := by
  apply journal_ext
  · exact Array.append_assoc
  · exact Array.append_assoc

/-- The journals of a list, one behind the other. -/
def joined (js : List Memory.Journal) : Memory.Journal := js.foldr (· ++ ·) .empty

lemma mem_batches_joined {js : List Memory.Journal} {batch : List Memory.Row} :
    batch ∈ (joined js).batches ↔ ∃ j ∈ js, batch ∈ j.batches := by
  induction js with
  | nil => simp [joined, Memory.Journal.empty]
  | cons j js ih =>
    have hcons : joined (j :: js) = j ++ joined js := rfl
    rw [hcons, journal_append_batches, Array.mem_append, ih]
    simp

/-- The world with a journal in front of its own. -/
def behind (j : Memory.Journal) (w : Memory.World) : Memory.World :=
  { w with journal := j ++ w.journal }

lemma behind_clear (w : Memory.World) : behind w.journal w.clear = w := by
  unfold behind Memory.World.clear
  rw [journal_append_empty]

lemma behind_of_clear (j : Memory.Journal) {w w' : Memory.World} (hclear : w'.clear = w.clear) :
    behind j w' = { w with journal := j ++ w'.journal } := by
  have hbehind : behind j w' = { w'.clear with journal := j ++ w'.journal } := rfl
  rw [hbehind, hclear]
  rfl

lemma behind_record (j : Memory.Journal) (w : Memory.World) (e : Memory.Event) :
    (behind j w).record e = behind j (w.record e) := by
  have hevents : (j ++ w.journal).record e = j ++ w.journal.record e := by
    apply journal_ext
    · exact (Array.append_push).symm
    · rfl
  unfold behind Memory.World.record
  rw [hevents]

lemma append_execute (j own : Memory.Journal) (rows : List Memory.Row) :
    (j ++ own).execute rows = j ++ own.execute rows := by
  apply journal_ext
  · exact (Array.append_push).symm
  · exact (Array.append_push).symm

/-- No call reads the journal, and every call only adds to it. -/
theorem simulates_behind (j : Memory.Journal) :
    Simulates (behind j) Memory.backend Memory.backend where
  prepare := by
    intro sql c w
    simp only [Memory.backend, Memory.prepare, behind_record]
    unfold behind
    repeat' split
    all_goals rfl
  closeConnection := by
    intro c w
    simp only [Memory.backend, Memory.closeConnection, behind_record]
    unfold behind
    split <;> rfl
  bind := by
    intro position p s w
    simp only [Memory.backend, Memory.Statement.bind, behind_record]
    unfold behind
    repeat' split
    all_goals rfl
  addBatch := by
    intro s w
    simp only [Memory.backend, Memory.Statement.addBatch, behind_record]
    unfold behind
    split <;> rfl
  executeBatch := by
    intro s w
    simp only [Memory.backend, Memory.Statement.executeBatch, behind_record]
    unfold behind
    rw [append_execute]
    split <;> rfl
  closeStatement := by
    intro s w
    simp only [Memory.backend, Memory.Statement.close, behind_record]
    unfold behind
    split <;> rfl
  executionTime _ _ := rfl

/-! ### One call -/

/-- The driver of the writer, if it has one, is that of the memory. -/
def OverMemory (x : MemoryWriter) : Prop :=
  ∀ d, x.registry.find? x.plan.driver = some d → d = Memory.driver

section Call

variable {x : MemoryWriter}

lemma bind_clear (position : Nat) (p : Sql.Param) (s : Memory.Statement) (w : Memory.World) :
    (Memory.backend.bind position p s w).state.2.clear = w.clear := by
  simp only [Memory.backend, Memory.Statement.bind]
  repeat' split
  all_goals rfl

lemma addBatch_clear (s : Memory.Statement) (w : Memory.World) :
    (Memory.backend.addBatch s w).state.2.clear = w.clear := by
  simp only [Memory.backend, Memory.Statement.addBatch]
  split <;> rfl

lemma perform_clear [Url.Names] (hmemory : OverMemory x) (c : Command) (w : Memory.World) :
    (perform Memory.backend c (x, w)).state.2.clear = w.clear := by
  refine perform_world Memory.backend Memory.World.clear ?_ ?_ bind_clear addBatch_clear
    ?_ ?_ ?_ c w
  · intro d hd t w
    rw [hmemory d hd]
    exact (records_connect t w).rest
  · intro sql c w
    exact (records_prepare sql c w).rest
  · intro s w
    exact (records_executeBatch s w).rest
  · intro s w
    exact (records_closeStatement s w).rest
  · intro c w
    exact (records_closeConnection c w).rest

lemma alike_behind (hmemory : OverMemory x) (j : Memory.Journal) : Alike (behind j) x x := by
  refine ⟨rfl, rfl, rfl, ?_⟩
  unfold Registry.resolve
  cases hd : x.registry.find? x.plan.driver with
  | none => rfl
  | some d =>
    rw [hmemory d hd]
    refine congrArg Except.ok (funext fun w => ?_)
    simp only [Memory.driver, Memory.connect, behind_record]
    unfold behind
    split <;> rfl

/-- A call comes to what it comes to over an empty journal, and adds to the journal what it would
put there. -/
theorem perform_eq_behind [Url.Names] (hmemory : OverMemory x) (c : Command) (w : Memory.World) :
    let own := perform Memory.backend c (x, w.clear)
    perform Memory.backend c (x, w) =
      ⟨own.answer, (own.state.1, { w with journal := w.journal ++ own.state.2.journal }),
        own.log⟩ := by
  intro own
  have hagrees := (alike_behind hmemory w.journal).perform_agrees (simulates_behind w.journal) c
    w.clear
  rw [behind_clear] at hagrees
  obtain ⟨hanswer, hlog, halike, hleft⟩ := hagrees
  have hfixed (w : Memory.World) : (perform Memory.backend c (x, w)).state.1.plan = x.plan ∧
      (perform Memory.backend c (x, w)).state.1.registry = x.registry :=
    run_fixed Memory.backend Toggle.apply [.call c] (x, w)
  have hwriter : own.state.1 = (perform Memory.backend c (x, w)).state.1 :=
    halike.eq ((hfixed _).1.trans (hfixed _).1.symm) ((hfixed _).2.trans (hfixed _).2.symm)
  have hclear : own.state.2.clear = w.clear := perform_clear hmemory c w.clear
  rw [hanswer, hlog, hwriter, ← behind_of_clear w.journal hclear, hleft]

end Call

/-! ### Several writers -/

section Shared

variable {α : Type}

/-- A call of one of several writers, or a fault that comes or goes for all of them. -/
inductive SharedStep (α : Type)
  | call (i : α) (c : Command)
  | toggle (t : Toggle)

def SharedStep.caller? : SharedStep α → Option α
  | call i _ => some i
  | toggle _ => none

variable [DecidableEq α]

/-- The step as the writer `i` meets it. The calls of the others pass it by. -/
def SharedStep.seenBy (i : α) : SharedStep α → Option (Step Toggle)
  | call k c => if k = i then some (.call c) else none
  | toggle t => some (.outside t)

def sharedNext [Url.Names] : SharedStep α → (α → MemoryWriter) × Memory.World →
    (α → MemoryWriter) × Memory.World
  | .call i c, (xs, w) =>
    let reaction := perform Memory.backend c (xs i, w)
    (Function.update xs i reaction.state.1, reaction.state.2)
  | .toggle t, (xs, w) => (xs, t.apply w)

def sharedRun [Url.Names] : List (SharedStep α) → (α → MemoryWriter) × Memory.World →
    (α → MemoryWriter) × Memory.World
  | [], state => state
  | step :: steps, state => sharedRun steps (sharedNext step state)

/-- The moments of a run that the writer `i` meets. -/
def sharedHistory [Url.Names] (i : α) : List (SharedStep α) → (α → MemoryWriter) × Memory.World →
    List MemoryMoment
  | [], _ => []
  | step :: steps, state =>
    ((step.seenBy i).map fun own =>
        moment Memory.backend Toggle.apply own (state.1 i, state.2)).toList ++
      sharedHistory i steps (sharedNext step state)

lemma sharedNext_call [Url.Names] {k : α} {xs : α → MemoryWriter} {w : Memory.World}
    (hmemory : OverMemory (xs k)) (c : Command) :
    let own := perform Memory.backend c (xs k, w.clear)
    sharedNext (.call k c) (xs, w) =
      (Function.update xs k own.state.1,
        { w with journal := w.journal ++ own.state.2.journal }) := by
  intro own
  have hcall := perform_eq_behind hmemory c w
  dsimp only at hcall
  simp only [sharedNext]
  rw [hcall]

/-- The same step of the same writer with the same answer, which moves the same row into the batch
and adds the same to the journal that it finds. -/
structure SameMoment (m m' : MemoryMoment) : Prop where
  step : m.step = m'.step
  answer : m.answer = m'.answer
  log : m.log = m'.log
  before : m.before.1 = m'.before.1
  after : m.after.1 = m'.after.1
  moved : movedRow m = movedRow m'
  recorded : ∃ made : Memory.Journal, m.after.2.journal = m.before.2.journal ++ made ∧
    m'.after.2.journal = m'.before.2.journal ++ made

lemma movedRow_call [Url.Names] (c : Command) (x : MemoryWriter) (w : Memory.World) :
    movedRow (moment Memory.backend Toggle.apply (.call c) (x, w)) =
      movedRow (moment Memory.backend Toggle.apply (.call c) (x, w.clear)) := by
  cases c with
  | write r =>
    cases hs : x.session? with
    | none => simp [movedRow, moment, hs]
    | some s =>
      have happend := append_through (simulates_behind w.journal) x.plan.columnTypes r
        s.statement w.clear
      rw [behind_clear] at happend
      simp only [movedRow, moment, hs, happend]
      rfl
  | _ => rfl

lemma sameMoment_call [Url.Names] {x : MemoryWriter} (hmemory : OverMemory x) (c : Command)
    {w w' : Memory.World} (hclear : w'.clear = w.clear) :
    SameMoment (moment Memory.backend Toggle.apply (.call c) (x, w))
      (moment Memory.backend Toggle.apply (.call c) (x, w')) := by
  have h := perform_eq_behind hmemory c w
  have h' := perform_eq_behind hmemory c w'
  have hmoved := movedRow_call c x w
  rw [← hclear, ← movedRow_call c x w'] at hmoved
  rw [hclear] at h'
  dsimp only at h h'
  simp only [moment, h, h'] at hmoved ⊢
  exact ⟨rfl, rfl, rfl, rfl, rfl, hmoved, _, rfl, rfl⟩

lemma sameMoment_outside [Url.Names] (t : Toggle) (x : MemoryWriter) (w w' : Memory.World) :
    SameMoment (moment Memory.backend Toggle.apply (.outside t) (x, w))
      (moment Memory.backend Toggle.apply (.outside t) (x, w')) := by
  refine ⟨rfl, rfl, rfl, rfl, rfl, rfl, .empty, ?_, ?_⟩
  · rw [journal_append_empty]
    cases t <;> rfl
  · rw [journal_append_empty]
    cases t <;> rfl

/-- What the calls of `i` have recorded, of what all calls have. -/
def recordedBy (i : α) (made : List (α × Memory.Journal)) : Memory.Journal :=
  joined ((made.filter (·.1 = i)).map Prod.snd)

/-- The steps that the writer `i` meets. -/
def ownSteps (i : α) (steps : List (SharedStep α)) : List (Step Toggle) :=
  steps.filterMap (·.seenBy i)

/-- In a run of several writers, the writer `i` goes through the moments, comes to the state and
records the events and batches of a run by its own steps, in a world that holds a journal `j` and
is otherwise as the shared one. -/
structure AsAlone [Url.Names] (i : α) (steps : List (SharedStep α)) (xs : α → MemoryWriter)
    (w : Memory.World) (j : Memory.Journal) (made : List (α × Memory.Journal)) : Prop where
  moments : List.Forall₂ SameMoment (sharedHistory i steps (xs, w))
    (history Memory.backend Toggle.apply (ownSteps i steps) (xs i, { w with journal := j }))
  writer : (sharedRun steps (xs, w)).1 i =
    (run Memory.backend Toggle.apply (ownSteps i steps) (xs i, { w with journal := j })).1
  recorded :
    (run Memory.backend Toggle.apply (ownSteps i steps) (xs i, { w with journal := j })).2.journal =
      j ++ recordedBy i made

namespace AsAlone

variable {i : α} {steps : List (SharedStep α)} {xs : α → MemoryWriter} {w : Memory.World}
  {j : Memory.Journal} {made : List (α × Memory.Journal)}

lemma toggle [Url.Names] (t : Toggle) (h : AsAlone i steps xs (t.apply w) j made) :
    AsAlone i (.toggle t :: steps) xs w j made := by
  have htoggle : t.apply { w with journal := j } = { t.apply w with journal := j } := by
    cases t <;> rfl
  obtain ⟨hmoments, hwriter, hrecorded⟩ := h
  rw [← htoggle] at hmoments hwriter hrecorded
  exact ⟨.cons (sameMoment_outside t (xs i) w _) hmoments, hwriter, hrecorded⟩

lemma call_of_eq [Url.Names] (hmemory : OverMemory (xs i)) (c : Command)
    (h : let own := perform Memory.backend c (xs i, w.clear)
      AsAlone i steps (Function.update xs i own.state.1)
        { w with journal := w.journal ++ own.state.2.journal } (j ++ own.state.2.journal) made) :
    AsAlone i (.call i c :: steps) xs w j
      ((i, (perform Memory.backend c (xs i, w.clear)).state.2.journal) :: made) := by
  have hnext := sharedNext_call (w := w) hmemory c
  have hclear : { w with journal := j }.clear = w.clear := rfl
  have hcall := perform_eq_behind hmemory c { w with journal := j }
  have hsame := sameMoment_call hmemory c hclear
  rw [hclear] at hcall
  generalize perform Memory.backend c (xs i, w.clear) = own at *
  dsimp only at h hnext hcall
  obtain ⟨hmoments, hwriter, hrecorded⟩ := h
  rw [Function.update_self] at hmoments hwriter hrecorded
  have hafter :
      (moment Memory.backend Toggle.apply (.call c) (xs i, { w with journal := j })).after =
        (own.state.1, { w with journal := j ++ own.state.2.journal }) :=
    congrArg Reaction.state hcall
  have hown : ownSteps i (.call i c :: steps) = .call c :: ownSteps i steps := by
    simp [ownSteps, SharedStep.seenBy]
  have hhead : recordedBy i ((i, own.state.2.journal) :: made) =
      own.state.2.journal ++ recordedBy i made := by
    simp [recordedBy, joined]
  constructor
  case moments =>
    rw [hown, history, hafter]
    simp only [sharedHistory, SharedStep.seenBy, hnext, ↓reduceIte, Option.map_some,
      Option.toList_some, List.singleton_append]
    exact .cons hsame hmoments
  case writer =>
    rw [hown, run, hafter, sharedRun, hnext]
    exact hwriter
  case recorded =>
    rw [hown, run, hafter, hhead, hrecorded, journal_append_assoc]

lemma call_of_ne [Url.Names] {k : α} (hk : k ≠ i) (hmemory : OverMemory (xs k)) (c : Command)
    (new : Memory.Journal)
    (h : let own := perform Memory.backend c (xs k, w.clear)
      AsAlone i steps (Function.update xs k own.state.1)
        { w with journal := w.journal ++ own.state.2.journal } j made) :
    AsAlone i (.call k c :: steps) xs w j ((k, new) :: made) := by
  have hnext := sharedNext_call (w := w) hmemory c
  generalize perform Memory.backend c (xs k, w.clear) = own at *
  dsimp only at h hnext
  obtain ⟨hmoments, hwriter, hrecorded⟩ := h
  rw [Function.update_of_ne hk.symm] at hmoments hwriter hrecorded
  have hown : ownSteps i (.call k c :: steps) = ownSteps i steps := by
    simp [ownSteps, SharedStep.seenBy, hk]
  have hskip : recordedBy i ((k, new) :: made) = recordedBy i made := by
    simp [recordedBy, hk]
  constructor
  case moments =>
    rw [hown]
    simp only [sharedHistory, SharedStep.seenBy, hnext, if_neg hk, Option.map_none,
      Option.toList_none, List.nil_append]
    exact hmoments
  case writer =>
    rw [hown, sharedRun, hnext]
    exact hwriter
  case recorded => rw [hown, hskip, hrecorded]

end AsAlone

/-- Wherever the writers are, each goes on in the shared world as in a world of its own that fails
in the same way and keeps the same pace. -/
lemma shared_run_asAlone [Url.Names] (steps : List (SharedStep α)) (xs : α → MemoryWriter)
    (hmemory : ∀ i, OverMemory (xs i)) (w : Memory.World) (js : α → Memory.Journal) :
    ∃ made : List (α × Memory.Journal), made.map Prod.fst = steps.filterMap SharedStep.caller? ∧
      (sharedRun steps (xs, w)).2.journal = w.journal ++ joined (made.map Prod.snd) ∧
      ∀ i, AsAlone i steps xs w (js i) made := by
  induction steps generalizing xs w js with
  | nil =>
    refine ⟨[], rfl, (journal_append_empty _).symm, ?_⟩
    intro i
    exact ⟨.nil, rfl, (journal_append_empty _).symm⟩
  | cons step steps ih =>
    cases step with
    | toggle t =>
      have hjournal : (t.apply w).journal = w.journal := by
        cases t <;> rfl
      obtain ⟨made, hcallers, hshared, halone⟩ := ih xs hmemory (t.apply w) js
      rw [hjournal] at hshared
      exact ⟨made, hcallers, hshared, fun i => (halone i).toggle t⟩
    | call k c =>
      let own := perform Memory.backend c (xs k, w.clear)
      let xs' := Function.update xs k own.state.1
      let w' : Memory.World := { w with journal := w.journal ++ own.state.2.journal }
      have hfixed : own.state.1.plan = (xs k).plan ∧ own.state.1.registry = (xs k).registry :=
        run_fixed Memory.backend Toggle.apply [.call c] (xs k, w.clear)
      have hmemory' : ∀ i, OverMemory (xs' i) := by
        intro i
        by_cases hi : i = k
        · subst hi
          simp only [OverMemory, xs', Function.update_self, hfixed]
          exact hmemory i
        · simp only [xs', Function.update_of_ne hi]
          exact hmemory i
      obtain ⟨made, hcallers, hshared, halone⟩ :=
        ih xs' hmemory' w' (Function.update js k (js k ++ own.state.2.journal))
      have hnext : sharedNext (.call k c) (xs, w) = (xs', w') :=
        sharedNext_call (hmemory k) c
      refine ⟨(k, own.state.2.journal) :: made, ?_, ?_, ?_⟩
      · simp [SharedStep.caller?, hcallers]
      · rw [sharedRun, hnext, hshared, journal_append_assoc]
        rfl
      · intro i
        have hi := halone i
        by_cases hk : k = i
        · subst hk
          rw [Function.update_self] at hi
          exact .call_of_eq (hmemory k) c hi
        · rw [Function.update_of_ne (Ne.symm hk)] at hi
          exact .call_of_ne hk (hmemory k) c _ hi

lemma moved_of_mem_batch [Url.Names] (plan : Plan)
    (registry : Registry (Driver Memory.World Memory.Connection))
    (hmemory : ∀ d, registry.find? plan.driver = some d → d = Memory.driver)
    (steps : List (Step Toggle)) (w : Memory.World) {batch : List Memory.Row} :
    let past : List MemoryMoment :=
      history Memory.backend Toggle.apply steps (.ofPlan plan registry, w.clear)
    let state : MemoryWriter × Memory.World :=
      run Memory.backend Toggle.apply steps (.ofPlan plan registry, w.clear)
    batch ∈ state.2.journal.batches → ∀ row ∈ batch, row ∈ past.filterMap movedRow := by
  intro past state hbatch row hrow
  obtain ⟨executions, h⟩ := conserved_run (conserved_empty plan registry w.clear)
    (consistent_of_session_none rfl) hmemory steps
  have hrows : past.filterMap movedRow = executions.flatMap Execution.rows ++ waiting state.1 :=
    h.rows
  have hexecuted : state.2.journal.batches.toList =
      (executions.filter Execution.succeeded).map Execution.rows := h.executed
  have hmem : batch ∈ (executions.filter Execution.succeeded).map Execution.rows := by
    rw [← hexecuted]
    exact Array.mem_toList_iff.mpr hbatch
  obtain ⟨e, he, rfl⟩ := List.mem_map.mp hmem
  rw [hrows]
  apply List.mem_append_left
  exact List.mem_flatMap.mpr ⟨e, (List.mem_filter.mp he).1, hrow⟩

lemma filterMap_movedRow_eq {past past' : List MemoryMoment}
    (h : List.Forall₂ SameMoment past past') :
    past.filterMap movedRow = past'.filterMap movedRow := by
  induction h with
  | nil => rfl
  | cons hm _ ih => rw [List.filterMap_cons, List.filterMap_cons, hm.moved, ih]

/-- Writers over one registry and one in-memory driver, any number of them, keep out of each other's
way. However their calls are interleaved, and whatever faults and paces come and go between them,
every writer answers, logs, counts and moves rows as in a run by its own calls and the same changes,
in a world of its own. The journal that they share is made up of what the calls have recorded, in
the order of the calls, and what those of one writer have recorded is the journal that it would have
alone. So the rows of an executed batch all come from the writer whose call has executed it. -/
theorem writers_isolated [Url.Names] (plans : α → Plan)
    (registry : Registry (Driver Memory.World Memory.Connection))
    (hmemory : ∀ i d, registry.find? (plans i).driver = some d → d = Memory.driver)
    (steps : List (SharedStep α)) (w : Memory.World) :
    let xs (i : α) : MemoryWriter := .ofPlan (plans i) registry
    let journal := (sharedRun steps (xs, w)).2.journal
    ∃ made : List (α × Memory.Journal), made.map Prod.fst = steps.filterMap SharedStep.caller? ∧
      journal = w.journal ++ joined (made.map Prod.snd) ∧
      (∀ i, AsAlone i steps xs w .empty made) ∧
      ∀ batch ∈ journal.batches, batch ∈ w.journal.batches ∨
        ∃ call ∈ made, batch ∈ call.2.batches ∧
          ∀ row ∈ batch, row ∈ (sharedHistory call.1 steps (xs, w)).filterMap movedRow := by
  intro xs journal
  obtain ⟨made, hcallers, hjournal, halone⟩ :=
    shared_run_asAlone steps xs hmemory w fun _ => .empty
  refine ⟨made, hcallers, hjournal, halone, ?_⟩
  intro batch hbatch
  rw [show journal = _ from hjournal, journal_append_batches, Array.mem_append] at hbatch
  rcases hbatch with hold | hnew
  · exact .inl hold
  · obtain ⟨own, hown, hmem⟩ := mem_batches_joined.mp hnew
    obtain ⟨⟨i, _⟩, hcall, rfl⟩ := List.mem_map.mp hown
    refine .inr ⟨(i, _), hcall, hmem, ?_⟩
    have hrecorded := (halone i).recorded
    have hbatches : batch ∈ (recordedBy i made).batches :=
      mem_batches_joined.mpr ⟨_, List.mem_map_of_mem (List.mem_filter.mpr ⟨hcall, by simp⟩), hmem⟩
    have hmine : batch ∈ (Memory.Journal.empty ++ recordedBy i made).batches := by
      rw [journal_append_batches]
      exact Array.mem_append.mpr (.inr hbatches)
    rw [← hrecorded] at hmine
    rw [filterMap_movedRow_eq (halone i).moments]
    exact moved_of_mem_batch (plans i) registry (hmemory i) (ownSteps i steps) w hmine

end Shared

/-- One writer fills pairs, the other executes every record. -/
def pairsAndSingles : Bool → Plan
  | false => pairsPlan
  | true => { pairsPlan with batchSize := 1, batchSize_pos := Nat.one_pos }

/-- A single record is executed between the two of a pair, another one is lost. -/
def interleaved : List (SharedStep Bool) :=
  [.call false (.start 0 2), .call true (.start 1 2), .call false (.write ⟨[.int32 1]⟩),
    .call true (.write ⟨[.int32 2]⟩), .toggle (.fail .executeBatch),
    .call true (.write ⟨[.int32 3]⟩), .toggle (.recover .executeBatch),
    .call false (.write ⟨[.int32 4]⟩)]

open scoped Url.European

/-- The pair is executed as if there had been nothing between its records. -/
theorem writers_isolated_pairs_and_singles :
    let xs (i : Bool) : MemoryWriter := .ofPlan (pairsAndSingles i) memoryOnly
    let journal := (sharedRun interleaved (xs, .start)).2.journal
    (∀ i d, memoryOnly.find? (pairsAndSingles i).driver = some d → d = Memory.driver) ∧
      (∃ made : List (Bool × Memory.Journal),
        made.map Prod.fst = [false, true, false, true, true, false] ∧
          ∀ i, AsAlone i interleaved xs .start .empty made) ∧
      journal.batches.map List.length = #[1, 2] ∧ journal.executions = 3 := by
  intro xs journal
  have hmemory : ∀ i d, memoryOnly.find? (pairsAndSingles i).driver = some d →
      d = Memory.driver := by
    intro i d hd
    have hdriver : (pairsAndSingles i).driver = "memory" := by
      cases i <;> rfl
    rw [hdriver, memoryOnly_find?] at hd
    exact (Option.some.inj hd).symm
  obtain ⟨made, hcallers, _, halone, _⟩ :=
    writers_isolated pairsAndSingles memoryOnly hmemory interleaved .start
  exact ⟨hmemory, ⟨made, hcallers, halone⟩, by decide +kernel, by decide +kernel⟩

end BatchInsert.Proofs
