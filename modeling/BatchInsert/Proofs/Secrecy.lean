import BatchInsert.Proofs.Hosts
import BatchInsert.Proofs.Journal
import BatchInsert.Proofs.Simulation
import BatchInsert.Settings.Basic
import BatchInsert.Url.European

/-!
# The password of the credentials

Over the in-memory backend the password changes nothing that can be seen of a writer: not the texts
of the draft, the plan, the target, the settings and the writer, not an answer, a log entry or an
event of the journal, however long the writer is used.
-/

namespace BatchInsert.Proofs

open Database (Credentials Driver)

variable {ω κ τ ι : Type}

/-! ### What can be seen -/

/-- What can be seen of a step and of the writer after it. -/
structure Sight where
  answer : Option Answer
  log : List Log.Entry
  world : Memory.World
  writer : String
  stats : Stats
  /-- What would be logged if the writer were given up now. -/
  dropNotice : List Log.Entry

def sight [Url.Names] (m : MemoryMoment) : Sight :=
  ⟨m.answer, m.log, m.after.2, m.after.1.inspect, m.after.1.stats, m.after.1.dropNotice⟩

/-- What can be seen of a plan and of a run of its writer. -/
structure RunView where
  plan : String
  target : String
  writer : String
  run : List Sight

section Views

variable (registry : Registry (Driver Memory.World Memory.Connection)) (steps : List (Step Toggle))
  (w : Memory.World)

def runView [Url.Names] (plan : Plan) : RunView where
  plan := plan.inspect
  target := plan.target.inspect
  writer := (Writer.ofPlan plan registry : MemoryWriter).inspect
  run := (history Memory.backend Toggle.apply steps (.ofPlan plan registry, w)).map sight

/-- What can be seen of a draft, of finishing it and of a run of the writer that it gives. -/
structure DraftView where
  draft : String
  notices : List Log.Event
  finished : Except Draft.Problem RunView

def draftView [Url.Names] (d : Draft) : DraftView :=
  ⟨d.inspect, d.notices, d.finish.map (runView registry steps w)⟩

end Views

/-! ### Texts -/

lemma inspect_covered [Url.Names] (p : Plan) :
    (covered p).inspect = p.inspect ∧ (covered p).target.inspect = p.target.inspect := by
  obtain ⟨driver, url, credentials, statement, size, types, hpos⟩ := p
  cases credentials <;> exact ⟨rfl, rfl⟩

lemma Alike.inspect_eq [Url.Names] {x' : Writer ω κ τ} {x : Writer ω κ τ} (h : Alike id x' x) :
    x'.inspect = x.inspect := by
  have hplan : x'.plan.inspect = x.plan.inspect := by
    rw [← (inspect_covered x'.plan).1, ← (inspect_covered x.plan).1, h.plan]
  rw [Writer.inspect, Writer.inspect, hplan, h.phase, h.pending_eq]

lemma sight_eq [Url.Names] {m' m : MemoryMoment} (h : MomentsAgree id m' m) :
    sight m' = sight m := by
  have hdrop : m'.after.1.dropNotice = m.after.1.dropNotice := by
    rw [Writer.dropNotice, Writer.dropNotice, h.after.pending_eq]
  have hworld : m'.after.2 = m.after.2 := h.world
  rw [sight, sight, h.answer, h.log, hworld, h.after.inspect_eq, h.after.stats, hdrop]

lemma map_sight_eq [Url.Names] {past' past : List MemoryMoment}
    (h : List.Forall₂ (MomentsAgree id) past' past) : past'.map sight = past.map sight := by
  induction h with
  | nil => rfl
  | cons hm _ ih => rw [List.map_cons, List.map_cons, sight_eq hm, ih]

/-! ### Plans that differ in the password -/

lemma alike_of_covered {p q : Plan} (h : covered p = covered q)
    {registry : Registry (Driver Memory.World Memory.Connection)}
    (hmemory : ∀ d, registry.find? p.driver = some d → d = Memory.driver) :
    Alike id (.ofPlan p registry : MemoryWriter) (.ofPlan q registry) := by
  have hdriver : p.driver = q.driver := (congrArg Plan.driver h :)
  have hurl : p.url = q.url := (congrArg Plan.url h :)
  have huser : p.credentials.map Credentials.username = q.credentials.map Credentials.username := by
    have husers := congrArg (fun p : Plan => p.credentials.map Credentials.username) h
    simpa [covered, Function.comp_def] using husers
  refine ⟨h, rfl, rfl, ?_⟩
  simp only [Writer.ofPlan, Registry.resolve, ← hdriver]
  cases hd : registry.find? p.driver with
  | none => rfl
  | some d =>
    have hconnect : Memory.connect q.target = Memory.connect p.target := by
      funext w
      simp only [Memory.connect, Plan.target, hurl, huser]
    rw [hmemory d hd]
    exact congrArg _ hconnect

lemma runView_eq [Url.Names] {p q : Plan} (h : covered p = covered q)
    {registry : Registry (Driver Memory.World Memory.Connection)}
    (hmemory : ∀ d, registry.find? p.driver = some d → d = Memory.driver)
    (steps : List (Step Toggle)) (w : Memory.World) :
    runView registry steps w p = runView registry steps w q := by
  have halike := alike_of_covered h hmemory
  have hplan : p.inspect = q.inspect := by
    rw [← (inspect_covered p).1, ← (inspect_covered q).1, h]
  have htarget : p.target.inspect = q.target.inspect := by
    rw [← (inspect_covered p).2, ← (inspect_covered q).2, h]
  have hact : ∀ (t : Toggle) (w : Memory.World), id (t.apply w) = t.apply (id w) :=
    fun _ _ => rfl
  obtain ⟨hpast, _⟩ := run_agrees (simulates_id Memory.backend) hact steps halike w
  rw [runView, runView, hplan, htarget, halike.inspect_eq, map_sight_eq hpast]
  rfl

/-! ### Drafts that differ in the password -/

lemma finish_password (d : Draft) (p : String) :
    { d with password := some p : Draft }.finish = d.finish.map fun plan =>
      { plan with credentials := d.username.map fun username => ⟨username, p⟩ } := by
  simp only [Draft.finish, Draft.credentials]
  cases Draft.required d.url .noUrl with
  | error e => rfl
  | ok url =>
    cases Draft.required d.statement .noStatement with
    | error e => rfl
    | ok statement =>
      cases Draft.required d.driver .noDriver with
      | error e => rfl
      | ok driver =>
        by_cases hsize : 0 < d.batchSize.getD defaultBatchSize
        · simp only [bind, Except.bind, dif_pos hsize]
          rfl
        · simp only [bind, Except.bind, dif_neg hsize]
          rfl

lemma some_of_required {part : Option String} {problem : Draft.Problem} {s : String}
    (h : Draft.required part problem = .ok s) : part = some s := by
  cases part with
  | none => cases h
  | some t =>
    simp only [Draft.required] at h
    split at h
    · cases h
    · exact congrArg some (Except.ok.inj h)

lemma driver_of_finish {d : Draft} {plan : Plan} (h : d.finish = .ok plan) :
    d.driver = some plan.driver := by
  obtain ⟨url, _, h⟩ := exists_of_bind_ok h
  obtain ⟨statement, _, h⟩ := exists_of_bind_ok h
  obtain ⟨driver, hdriver, h⟩ := exists_of_bind_ok h
  have hplan : driver = plan.driver := by
    dsimp only at h
    split at h
    · exact congrArg Plan.driver (Except.ok.inj h)
    · cases h
  exact hplan ▸ some_of_required hdriver

lemma draftView_eq [Url.Names] {d : Draft}
    {registry : Registry (Driver Memory.World Memory.Connection)}
    (hmemory : ∀ driver, d.driver.bind registry.find? = some driver → driver = Memory.driver)
    (steps : List (Step Toggle)) (w : Memory.World) (p q : String) :
    draftView registry steps w { d with password := some p } =
      draftView registry steps w { d with password := some q } := by
  have hinspect : { d with password := some p : Draft }.inspect =
      { d with password := some q : Draft }.inspect := rfl
  have hnotices : { d with password := some p : Draft }.notices =
      { d with password := some q : Draft }.notices := rfl
  have hfinished : ({ d with password := some p : Draft }.finish).map (runView registry steps w) =
      ({ d with password := some q : Draft }.finish).map (runView registry steps w) := by
    rw [finish_password d p, finish_password d q]
    cases h : d.finish with
    | error e => rfl
    | ok plan =>
      rw [driver_of_finish h, Option.bind_some] at hmemory
      let user (password : String) : Plan :=
        { plan with credentials := d.username.map fun username => ⟨username, password⟩ }
      have hcovered : covered (user p) = covered (user q) := by
        simp only [user, covered]
        cases d.username <;> rfl
      have hview : runView registry steps w (user p) = runView registry steps w (user q) :=
        runView_eq hcovered hmemory steps w
      exact congrArg Except.ok hview
  simp only [draftView, hinspect, hnotices, hfinished]

/-- Two drafts, or two settings, that differ in the text of the password alone: whatever is called
on their writers over the in-memory backend, and whichever faults come and go, the texts of the
drafts, the settings, the plans, the targets and the writers, what is logged, what every call
answers and what the journal holds are the same. -/
theorem password_unseen [Url.Names] (registry : Registry (Driver Memory.World Memory.Connection))
    (steps : List (Step Toggle)) (w : Memory.World) (p q : String) :
    (∀ d : Draft, (∀ driver, d.driver.bind registry.find? = some driver → driver = Memory.driver) →
      draftView registry steps w { d with password := some p } =
        draftView registry steps w { d with password := some q }) ∧
    ∀ s : Settings, (∀ driver, registry.find? s.driver = some driver → driver = Memory.driver) →
      let given (password : String) : Settings := { s with password := some ⟨password⟩ }
      (given p).inspect = (given q).inspect ∧ (given p).jsonText = (given q).jsonText ∧
        draftView registry steps w (given p).draft =
          draftView registry steps w (given q).draft := by
  refine ⟨?_, ?_⟩
  · intro d hmemory
    exact draftView_eq hmemory steps w p q
  · intro s hmemory given
    have hdraft (password : String) :
        (given password).draft = { s.draft with password := some password } := rfl
    refine ⟨rfl, rfl, ?_⟩
    rw [hdraft, hdraft]
    exact draftView_eq (d := s.draft) hmemory steps w p q

/-- A user, and no password yet. -/
def userDraft : Draft :=
  ⟨some "memory", some "jdbc:test", some "app", none, some "INSERT INTO t VALUES (?)", some 2, none⟩

open scoped Url.European

/-- The plans of the two drafts differ, and nothing that can be seen of them does. -/
theorem password_unseen_after_failed_batch :
    (∀ driver, userDraft.driver.bind memoryOnly.find? = some driver → driver = Memory.driver) ∧
      draftView memoryOnly failedPair .start { userDraft with password := some "hunter2" } =
        draftView memoryOnly failedPair .start { userDraft with password := some "s3cret" } ∧
      { userDraft with password := some "hunter2" : Draft }.finish.toOption ≠
        { userDraft with password := some "s3cret" : Draft }.finish.toOption := by
  have hmemory : ∀ driver, userDraft.driver.bind memoryOnly.find? = some driver →
      driver = Memory.driver := by
    intro driver hd
    exact Option.some.inj (hd.symm.trans memoryOnly_find?)
  exact ⟨hmemory, (password_unseen memoryOnly failedPair .start _ _).1 userDraft hmemory,
    by decide +kernel⟩

end BatchInsert.Proofs
