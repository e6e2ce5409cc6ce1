import BatchInsert.Proofs.Calls

/-!
# Writers that answer alike

A backend seen through a map `f` of worlds: every call answers and logs the same, and `f` takes the
world that the one leaves to the world that the other leaves. Two writers over such backends whose
plans differ in the password at most, and whose drivers connect alike, answer every run alike.
-/

namespace BatchInsert.Proofs

open Database (Backend Driver Reply)
open Writer (Session Closing)

variable {ω ω' κ τ ι α : Type} {f : ω' → ω} {b' : Backend ω' κ τ} {b : Backend ω κ τ}

/-- A state whose world is seen through `f`. -/
abbrev through (f : ω' → ω) : α × ω' → α × ω := Prod.map id f

/-- Every call on `f w` is the same call on `w`, seen through `f`. -/
structure Simulates (f : ω' → ω) (b' : Backend ω' κ τ) (b : Backend ω κ τ) : Prop where
  prepare : ∀ sql c w, b.prepare sql c (f w) = (b'.prepare sql c w).mapState f
  closeConnection : ∀ c w,
    b.closeConnection c (f w) = (b'.closeConnection c w).mapState (through f)
  bind : ∀ position p s w,
    b.bind position p s (f w) = (b'.bind position p s w).mapState (through f)
  addBatch : ∀ s w, b.addBatch s (f w) = (b'.addBatch s w).mapState (through f)
  executeBatch : ∀ s w, b.executeBatch s (f w) = (b'.executeBatch s w).mapState (through f)
  closeStatement : ∀ s w, b.closeStatement s (f w) = (b'.closeStatement s w).mapState (through f)
  executionTime : ∀ s w, b.executionTime s (f w) = b'.executionTime s w

lemma simulates_id (b : Backend ω κ τ) : Simulates id b b := by
  constructor <;> intros <;> rfl

/-! ### Sessions -/

lemma bindFrom_through (hb : Simulates f b' b) (types : Option (List Sql.Tag)) (s : τ) (w : ω')
    (index : Nat) (vs : List Value) :
    Binding.bindFrom b types s (f w) index vs =
      (Binding.bindFrom b' types s w index vs).mapState (through f) := by
  induction vs generalizing s w index with
  | nil => rfl
  | cons v vs ih =>
    simp only [Binding.bindFrom, hb.bind, Reply.mapState, Prod.map_fst, Prod.map_snd, id_eq, ih]
    split
    · rfl
    · split <;> rfl

lemma append_through (hb : Simulates f b' b) (types : Option (List Sql.Tag)) (r : Record) (s : τ)
    (w : ω') :
    Writer.append b types r s (f w) = (Writer.append b' types r s w).mapState (through f) := by
  simp only [Writer.append, Binding.record, bindFrom_through hb, hb.addBatch, Reply.mapState,
    Prod.map_fst, Prod.map_snd, id_eq]
  split <;> rfl

lemma execute_through (hb : Simulates f b' b) (s : Session κ τ) (stats : Stats) (w : ω') :
    Writer.execute b s stats (f w) =
      (Writer.execute b' s stats w).mapState fun state => (state.1, state.2.1, f state.2.2) := by
  simp only [Writer.execute, hb.executeBatch, hb.executionTime, Reply.mapState, Prod.map_fst,
    Prod.map_snd, id_eq]
  split
  · rfl
  · split <;> rfl

lemma closeSession_through (hb : Simulates f b' b) (s : Session κ τ) (stats : Stats) (w : ω') :
    let closing := Writer.closeSession b' s stats w
    Writer.closeSession b s stats (f w) =
      ⟨(closing.state.1, f closing.state.2), closing.report, closing.log⟩ := by
  have hbatch : Writer.closeBatch b s stats (f w) =
      let batch := Writer.closeBatch b' s stats w
      ⟨(batch.state.1, batch.state.2.1, f batch.state.2.2), batch.report, batch.log⟩ := by
    simp only [Writer.closeBatch, hb.executeBatch, hb.executionTime, Reply.mapState, Prod.map_fst,
      Prod.map_snd, id_eq]
    split
    · rfl
    · split <;> rfl
  have hstatement (t : τ) (w : ω') : Writer.closeStatement b t (f w) =
      let closing := Writer.closeStatement b' t w
      ⟨f closing.state, closing.report, closing.log⟩ := by
    simp only [Writer.closeStatement, hb.closeStatement, Reply.mapState, Prod.map_snd]
    split <;> rfl
  have hconnection (c : κ) (w : ω') : Writer.closeConnection b c (f w) =
      let closing := Writer.closeConnection b' c w
      ⟨f closing.state, closing.report, closing.log⟩ := by
    simp only [Writer.closeConnection, hb.closeConnection, Reply.mapState, Prod.map_snd]
    split <;> rfl
  simp only [Writer.closeSession, hbatch, hstatement, hconnection]

/-! ### Writers -/

/-- The plan with an empty password in place of its own, which only connecting looks at. -/
def covered (p : Plan) : Plan :=
  { p with credentials := p.credentials.map fun c => ⟨c.username, ""⟩ }

/-- Two writers in the same state whose plans differ in the password at most and whose drivers
connect alike. -/
structure Alike (f : ω' → ω) (x' : Writer ω' κ τ) (x : Writer ω κ τ) : Prop where
  plan : covered x'.plan = covered x.plan
  phase : x'.phase = x.phase
  stats : x'.stats = x.stats
  connects : (x.registry.resolve x.plan.driver).map (fun d w => d.connect x.plan.target (f w)) =
    (x'.registry.resolve x'.plan.driver).map fun d w =>
      (d.connect x'.plan.target w).mapState f

/-- What the two come to agrees in everything that can be seen of it. -/
structure Agrees (f : ω' → ω) (r' : Reaction ω' κ τ) (r : Reaction ω κ τ) : Prop where
  answer : r'.answer = r.answer
  log : r'.log = r.log
  writer : Alike f r'.state.1 r.state.1
  world : f r'.state.2 = r.state.2

namespace Alike

variable {x' : Writer ω' κ τ} {x : Writer ω κ τ}

lemma update (h : Alike f x' x) (phase : Writer.Phase κ τ) (stats : Stats) :
    Alike f { x' with phase, stats } { x with phase, stats } :=
  ⟨h.plan, rfl, rfl, h.connects⟩

lemma session?_eq (h : Alike f x' x) : x'.session? = x.session? := by
  rw [Writer.session?, Writer.session?, h.phase]

lemma pending_eq (h : Alike f x' x) : x'.pending = x.pending := by
  rw [Writer.pending, Writer.pending, h.session?_eq]

lemma driver (h : Alike f x' x) : x'.plan.driver = x.plan.driver := (congrArg Plan.driver h.plan :)

lemma url (h : Alike f x' x) : x'.plan.url = x.plan.url := (congrArg Plan.url h.plan :)

lemma statement (h : Alike f x' x) : x'.plan.statement = x.plan.statement :=
  (congrArg Plan.statement h.plan :)

lemma batchSize (h : Alike f x' x) : x'.plan.batchSize = x.plan.batchSize :=
  (congrArg Plan.batchSize h.plan :)

lemma columnTypes (h : Alike f x' x) : x'.plan.columnTypes = x.plan.columnTypes :=
  (congrArg Plan.columnTypes h.plan :)

lemma connect_eq (h : Alike f x' x) (hb : Simulates f b' b) (w : ω') :
    x.connect b (f w) = (x'.connect b' w).mapState f := by
  have hconnects := h.connects
  simp only [Writer.connect, h.driver, h.statement] at hconnects ⊢
  cases hr : x.registry.resolve x.plan.driver with
  | error e =>
    cases hr' : x'.registry.resolve x.plan.driver with
    | error e' =>
      rw [hr, hr'] at hconnects
      cases hconnects
      rfl
    | ok d' =>
      rw [hr, hr'] at hconnects
      cases hconnects
  | ok d =>
    cases hr' : x'.registry.resolve x.plan.driver with
    | error e' =>
      rw [hr, hr'] at hconnects
      cases hconnects
    | ok d' =>
      rw [hr, hr'] at hconnects
      have hconnect : d.connect x.plan.target (f w) =
          (d'.connect x'.plan.target w).mapState f := congrFun (Except.ok.inj hconnects) w
      simp only [hconnect, hb.prepare, hb.closeConnection, Reply.mapState, Prod.map_snd]
      split
      · rfl
      · split <;> rfl

lemma start_agrees [Url.Names] (h : Alike f x' x) (hb : Simulates f b' b) (index total : Nat)
    (w : ω') :
    Agrees f (perform b' (.start index total) (x', w)) (perform b (.start index total) (x, f w)) := by
  have hspan : x'.openSpan index total = x.openSpan index total := by
    rw [Writer.openSpan, Writer.openSpan, h.driver]
  simp only [perform, Writer.start, h.phase]
  cases hx : x.phase with
  | active s => exact ⟨rfl, rfl, h, rfl⟩
  | closed => exact ⟨rfl, rfl, h, rfl⟩
  | unopened =>
    simp only [h.connect_eq hb, Reply.mapState, hspan, h.url, h.batchSize]
    cases (x'.connect b' w).result with
    | error e => exact ⟨rfl, rfl, h, rfl⟩
    | ok s => exact ⟨rfl, rfl, ⟨h.plan, rfl, h.stats, h.connects⟩, rfl⟩

lemma write_agrees [Url.Names] (h : Alike f x' x) (hb : Simulates f b' b) (r : Record) (w : ω') :
    Agrees f (perform b' (.write r) (x', w)) (perform b (.write r) (x, f w)) := by
  have hnotice : Writer.arityNotice x'.plan r = Writer.arityNotice x.plan r := by
    rw [Writer.arityNotice, Writer.arityNotice, h.columnTypes]
  simp only [perform, Writer.write, h.phase]
  cases hx : x.phase with
  | unopened => exact ⟨rfl, rfl, h, rfl⟩
  | closed => exact ⟨rfl, rfl, h, rfl⟩
  | active s =>
    simp only [append_through hb, execute_through hb, Reply.mapState, Prod.map_fst, Prod.map_snd,
      id_eq, hnotice, h.columnTypes, h.batchSize, h.stats]
    cases (Writer.append b' x.plan.columnTypes r s.statement w).result with
    | error e => exact ⟨rfl, rfl, h.update _ _, rfl⟩
    | ok a =>
      dsimp only
      split
      · exact ⟨rfl, rfl, h.update _ _, rfl⟩
      · exact ⟨rfl, rfl, h.update _ _, rfl⟩

lemma flush_agrees [Url.Names] (h : Alike f x' x) (hb : Simulates f b' b) (w : ω') :
    Agrees f (perform b' .flush (x', w)) (perform b .flush (x, f w)) := by
  simp only [perform, Writer.flush, h.phase]
  cases hx : x.phase with
  | unopened => exact ⟨rfl, rfl, h, rfl⟩
  | closed => exact ⟨rfl, rfl, h, rfl⟩
  | active s =>
    simp only [execute_through hb, Reply.mapState, h.stats]
    exact ⟨rfl, rfl, h.update _ _, rfl⟩

lemma close_agrees [Url.Names] (h : Alike f x' x) (hb : Simulates f b' b) (w : ω') :
    Agrees f (perform b' .close (x', w)) (perform b .close (x, f w)) := by
  have hspan : x'.closeSpan = x.closeSpan := by rw [Writer.closeSpan, Writer.closeSpan, h.driver]
  simp only [perform, Writer.close, h.phase, hspan]
  cases hx : x.phase with
  | closed => exact ⟨rfl, rfl, h, rfl⟩
  | unopened => exact ⟨rfl, by rw [h.stats], ⟨h.plan, rfl, h.stats, h.connects⟩, rfl⟩
  | active s =>
    simp only [closeSession_through hb, h.stats]
    exact ⟨rfl, rfl, h.update _ _, rfl⟩

theorem perform_agrees [Url.Names] (h : Alike f x' x) (hb : Simulates f b' b) (c : Command)
    (w : ω') :
    Agrees f (perform b' c (x', w)) (perform b c (x, f w)) := by
  cases c with
  | start index total => exact h.start_agrees hb index total w
  | write r => exact h.write_agrees hb r w
  | flush => exact h.flush_agrees hb w
  | close => exact h.close_agrees hb w

lemma eq {f : ω → ω} {x' x : Writer ω κ τ} (h : Alike f x' x) (hplan : x'.plan = x.plan)
    (hregistry : x'.registry = x.registry) : x' = x := by
  obtain ⟨_, hphase, hstats, _⟩ := h
  cases x'
  cases x
  congr

end Alike

/-! ### Runs -/

/-- Two moments of the same step, the same answer and log, and writers that are alike before and
after it. -/
structure MomentsAgree (f : ω' → ω) (m' : Moment ω' κ τ ι) (m : Moment ω κ τ ι) : Prop where
  step : m'.step = m.step
  answer : m'.answer = m.answer
  log : m'.log = m.log
  before : Alike f m'.before.1 m.before.1
  after : Alike f m'.after.1 m.after.1
  world : f m'.after.2 = m.after.2

/-- Writers that are alike, over worlds that others change alike, go through every run alike. -/
theorem run_agrees [Url.Names] (hb : Simulates f b' b) {act' : ι → ω' → ω'} {act : ι → ω → ω}
    (hact : ∀ i w, f (act' i w) = act i (f w)) (steps : List (Step ι)) {x' : Writer ω' κ τ}
    {x : Writer ω κ τ} (h : Alike f x' x) (w : ω') :
    List.Forall₂ (MomentsAgree f) (history b' act' steps (x', w)) (history b act steps (x, f w)) ∧
      Alike f (run b' act' steps (x', w)).1 (run b act steps (x, f w)).1 ∧
      f (run b' act' steps (x', w)).2 = (run b act steps (x, f w)).2 := by
  induction steps generalizing x' x w with
  | nil => exact ⟨.nil, h, rfl⟩
  | cons step steps ih =>
    cases step with
    | outside i =>
      obtain ⟨hmoments, hrest⟩ := ih h (act' i w)
      rw [hact] at hmoments hrest
      exact ⟨.cons ⟨rfl, rfl, rfl, h, h, hact i w⟩ hmoments, hrest⟩
    | call c =>
      have hc := h.perform_agrees hb c w
      obtain ⟨hmoments, hrest⟩ := ih hc.writer (perform b' c (x', w)).state.2
      rw [hc.world] at hmoments hrest
      exact ⟨.cons ⟨rfl, congrArg some hc.answer, hc.log, h, hc.writer, hc.world⟩ hmoments, hrest⟩

end BatchInsert.Proofs
