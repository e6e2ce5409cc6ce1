import BatchInsert.Proofs.Calls
import BatchInsert.Proofs.Statements

/-!
# What a rejected record leaves bound

A record that is rejected halfway leaves the parameters of its first fields in the statement. They
stay there until a row is taken: the next record overwrites as many of them as it has fields, and
the rest becomes part of its row. What is left after any run is told by the rejections alone that
were answered since the statement last took a record.
-/

namespace BatchInsert.Proofs

open Database (Backend Reply)
open Memory (Row)
open Writer (Session)

variable {ω κ τ ι : Type}

/-! ### Rows as bound parameters -/

section Numbered

variable {α : Type}

/-- The entries of a list under the numbers from `n` on. -/
def numbered (n : Nat) : List α → List (Nat × α)
  | [] => []
  | a :: l => (n, a) :: numbered (n + 1) l

@[simp] lemma map_snd_numbered (n : Nat) (l : List α) : (numbered n l).map Prod.snd = l := by
  induction l generalizing n with
  | nil => rfl
  | cons a l ih => simp [numbered, ih]

@[simp] lemma length_numbered (n : Nat) (l : List α) : (numbered n l).length = l.length := by
  rw [← List.length_map Prod.snd, map_snd_numbered]

lemma insert_numbered (n : Nat) (a : α) (done rest : List α) :
    Ordered.insert (n + done.length) a (numbered n (done ++ rest)) =
      numbered n (done ++ a :: rest.drop 1) := by
  induction done generalizing n with
  | nil => cases rest <;> simp [numbered, Ordered.insert]
  | cons d done ih =>
    have hnext : n + (d :: done).length = n + 1 + done.length := by
      rw [List.length_cons]
      omega
    rw [List.cons_append, numbered, Ordered.insert, if_neg (by omega), if_neg (by omega), hnext,
      ih]
    rfl

/-- A list on top of another, which shows where it is longer. -/
def overlay (new old : List α) : List α := new ++ old.drop new.length

lemma overlay_cons (a : α) (new old : List α) :
    overlay (a :: new) old = a :: overlay new (old.drop 1) := by
  simp [overlay]

lemma length_overlay (new old : List α) :
    (overlay new old).length = max new.length old.length := by
  simp only [overlay, List.length_append, List.length_drop]
  omega

lemma overlay_eq_self_iff {new old : List α} :
    overlay new old = new ↔ old.length ≤ new.length := by
  simp [overlay, List.drop_eq_nil_iff]

end Numbered

/-- The parameters of the fields from `index` on, up to the first that has none. -/
def boundPrefix (types : Option (List Sql.Tag)) (index : Nat) : List Value → Row
  | [] => []
  | v :: vs =>
    match Binding.param (index + 1) v (Binding.declared? types index) with
    | .ok p => p :: boundPrefix types (index + 1) vs
    | .error _ => []

/-- The row of a record: the parameters of all its fields. -/
def rowOf (types : Option (List Sql.Tag)) (r : Record) : Except WriteFailure Row :=
  r.fields.zipIdx.mapM fun (v, index) =>
    Binding.param (index + 1) v (Binding.declared? types index)

lemma mapM_zipIdx_eq_ok_iff (types : Option (List Sql.Tag)) (index : Nat) (vs : List Value)
    (row : Row) :
    ((vs.zipIdx index).mapM fun (v, index) =>
        Binding.param (index + 1) v (Binding.declared? types index)) = .ok row ↔
      boundPrefix types index vs = row ∧ row.length = vs.length := by
  induction vs generalizing index row with
  | nil =>
    simp only [List.zipIdx_nil, List.mapM_nil, pure, Except.pure, Except.ok.injEq, boundPrefix,
      List.length_nil]
    exact ⟨fun h => ⟨h, h ▸ rfl⟩, fun h => h.1⟩
  | cons v vs ih =>
    rw [List.zipIdx_cons, List.mapM_cons]
    cases hp : Binding.param (index + 1) v (Binding.declared? types index) with
    | error f =>
      simp only [hp, bind, Except.bind, boundPrefix, List.length_cons, reduceCtorEq, false_iff]
      rintro ⟨rfl, hlength⟩
      simp at hlength
    | ok p =>
      simp only [hp, bind, Except.bind, boundPrefix]
      constructor
      · intro h
        split at h
        · cases h
        · rename_i ps hps
          cases h
          obtain ⟨hfields, hlength⟩ := (ih (index + 1) ps).mp hps
          exact ⟨congrArg _ hfields, congrArg (· + 1) hlength⟩
      · rintro ⟨rfl, hlength⟩
        rw [(ih (index + 1) _).mpr ⟨rfl, Nat.succ.inj hlength⟩]
        rfl

lemma rowOf_eq_ok_iff (types : Option (List Sql.Tag)) (r : Record) (row : Row) :
    rowOf types r = .ok row ↔
      boundPrefix types 0 r.fields = row ∧ row.length = r.arity :=
  mapM_zipIdx_eq_ok_iff types 0 r.fields row

/-! ### Rejections -/

structure Rejection where
  record : Record
  failure : WriteFailure

/-- The number of fields that are bound before a failure. -/
def boundBefore (arity : Nat) : WriteFailure → Nat
  | .mismatch position _ _ _ | .bind position _ => position - 1
  | .addBatch _ => arity
  | .execution _ _ | .notOpen => 0

namespace Rejection

/-- The number of parameters that are left bound. -/
def count (e : Rejection) : Nat := boundBefore e.record.arity e.failure

def left (types : Option (List Sql.Tag)) (e : Rejection) : Row :=
  (boundPrefix types 0 e.record.fields).take e.count

/-- There are as many parameters as are said to be left, and placeholders for them. -/
structure Fits (types : Option (List Sql.Tag)) (room : Option Nat) (e : Rejection) : Prop where
  length : (e.left types).length = e.count
  room : ∀ n, room = some n → e.count ≤ n

end Rejection

/-- The rejections after a record was written. -/
def noteResult (es : List Rejection) (r : Record) : Except WriteFailure Unit → List Rejection
  | .ok () | .error (.execution _ _) => []
  | .error .notOpen => es
  | .error f => es ++ [⟨r, f⟩]

lemma noteResult_of_isRejection {f : WriteFailure} (hf : isRejection f = true)
    (es : List Rejection) (r : Record) : noteResult es r (.error f) = es ++ [⟨r, f⟩] := by
  cases f <;> first | rfl | simp [isRejection] at hf

def noteMoment (es : List Rejection) (m : Moment ω κ τ ι) : List Rejection :=
  match m.step, m.answer with
  | .call (.start _ _), some (.started (.ok ())) => []
  | .call (.write r), some (.written result) => noteResult es r result
  | _, _ => es

/-- The records rejected since the statement was prepared or last took a record. -/
def rejections (past : List (Moment ω κ τ ι)) : List Rejection := past.foldl noteMoment []

lemma rejections_append_singleton (past : List (Moment ω κ τ ι)) (m : Moment ω κ τ ι) :
    rejections (past ++ [m]) = noteMoment (rejections past) m := by
  simp [rejections]

/-- What is left bound after rejections, the last one on top. -/
def leftover (types : Option (List Sql.Tag)) (es : List Rejection) : Row :=
  es.foldl (fun old e => overlay (e.left types) old) []

lemma leftover_append_singleton (types : Option (List Sql.Tag)) (es : List Rejection)
    (e : Rejection) : leftover types (es ++ [e]) = overlay (e.left types) (leftover types es) := by
  simp [leftover]

lemma length_leftover_le_iff {types : Option (List Sql.Tag)} {room : Option Nat}
    {es : List Rejection} (hes : ∀ e ∈ es, e.Fits types room) (n : Nat) :
    (leftover types es).length ≤ n ↔ ∀ e ∈ es, e.count ≤ n := by
  induction es using List.reverseRecOn with
  | nil => simp [leftover]
  | append_singleton es e ih =>
    have he : e.Fits types room := hes e (by simp)
    have hes : ∀ e ∈ es, e.Fits types room := fun e he => hes e (List.mem_append_left _ he)
    rw [leftover_append_singleton, length_overlay, he.length, Nat.max_le, ih hes]
    simp only [List.mem_append, List.mem_singleton]
    constructor
    · rintro ⟨hlast, hrest⟩ e' (h | rfl)
      · exact hrest e' h
      · exact hlast
    · intro h
      exact ⟨h e (.inr rfl), fun e' he' => h e' (.inl he')⟩

lemma length_leftover_eq_iff {types : Option (List Sql.Tag)} {n : Nat} {es : List Rejection}
    (hes : ∀ e ∈ es, e.Fits types (some n)) (hn : 0 < n) :
    (leftover types es).length = n ↔ ∃ e ∈ es, e.count = n := by
  have hle : (leftover types es).length ≤ n :=
    (length_leftover_le_iff hes n).mpr fun e he => (hes e he).room n rfl
  -- No more than `n` are left, so there are `n` exactly when there are more than `n - 1`.
  have hfull : (leftover types es).length = n ↔ ¬ (leftover types es).length ≤ n - 1 := by omega
  rw [hfull, length_leftover_le_iff hes]
  push Not
  refine exists_congr fun e => and_congr_right fun he => ?_
  have := (hes e he).room n rfl
  omega

/-! ### Binding on top of what is left -/

def Slots.holding (row : Row) (room : Option Nat) : Slots := ⟨numbered 1 row, room⟩

section Invariant

variable {b : Backend ω κ τ} {slots : τ → Slots}

/-- Fields are bound on top of what follows those that are bound already, up to the first that
fails. -/
theorem bindFrom_slots (hb : Lawful b slots) (types : Option (List Sql.Tag)) (vs : List Value)
    {s : τ} {done rest : Row} {room : Option Nat}
    (hs : slots s = .holding (done ++ rest) room) (hroom : ∀ n, room = some n → done.length ≤ n)
    (w : ω) :
    let reply := Binding.bindFrom b types s w done.length vs
    let ps := boundPrefix types done.length vs
    (reply.result = .ok () ∧ ps.length = vs.length ∧
      slots reply.state.1 = .holding (done ++ overlay ps rest) room ∧
      ∀ n, room = some n → done.length + vs.length ≤ n) ∨
    (∃ f k, reply.result = .error f ∧ k ≤ ps.length ∧
      (∀ arity, boundBefore arity f = done.length + k) ∧
      slots reply.state.1 = .holding (done ++ overlay (ps.take k) rest) room ∧
      ∀ n, room = some n → done.length + k ≤ n) := by
  -- A field that is bound moves from what is left to what is done; the positions are those of both.
  induction vs generalizing s w done rest with
  | nil =>
    refine .inl ⟨rfl, rfl, ?_, hroom⟩
    simpa [overlay, Binding.bindFrom, boundPrefix, Reply.ok] using hs
  | cons v vs ih =>
    cases hp : Binding.param (done.length + 1) v (Binding.declared? types done.length) with
    | error f =>
      obtain ⟨expected, kind, cause, rfl⟩ := param_error_eq hp
      refine .inr ⟨.mismatch (done.length + 1) expected kind cause, 0, ?_, Nat.zero_le _,
        fun _ => rfl, ?_, hroom⟩
      · simp [Binding.bindFrom, hp, Reply.fail, Reply.after]
      · simpa [overlay, Binding.bindFrom, hp, Reply.fail, Reply.after] using hs
    | ok p =>
      cases hbind : (b.bind (done.length + 1) p s w).result with
      | error e =>
        refine .inr ⟨.bind (done.length + 1) e, 0, ?_, Nat.zero_le _, fun _ => rfl, ?_, hroom⟩
        · simp [Binding.bindFrom, hp, hbind]
        · simpa [overlay, Binding.bindFrom, hp, hbind, hb.bind_error hbind] using hs
      | ok a =>
        have hslots := (hb.bind_ok hbind).1
        have hposition : ∀ n, room = some n → done.length + 1 ≤ n := by
          intro n hn
          exact ((hb.bind_gate (by rw [hs]; exact hn)).mp hbind).2
        have hbound : slots (b.bind (done.length + 1) p s w).state.1 =
            .holding ((done ++ [p]) ++ rest.drop 1) room := by
          rw [hslots, hs, Slots.holding, Nat.add_comm, insert_numbered, List.append_assoc]
          rfl
        have hnext : ∀ n, room = some n → (done ++ [p]).length ≤ n := by
          intro n hn
          rw [List.length_append]
          exact hposition n hn
        have hrest := ih hbound hnext (b.bind (done.length + 1) p s w).state.2
        simp only [List.length_append, List.length_singleton] at hrest
        simp only [Binding.bindFrom, hp, hbind, boundPrefix, Reply.after]
        rcases hrest with ⟨hr, hlength, hst, hfits⟩ | ⟨f, k, hr, hk, hcount, hst, hfits⟩
        · refine .inl ⟨hr, congrArg (· + 1) hlength, ?_, ?_⟩
          · rw [hst, overlay_cons, List.append_assoc]
            rfl
          · intro n hn
            have := hfits n hn
            simp only [List.length_cons]
            omega
        · refine .inr ⟨f, k + 1, hr, Nat.succ_le_succ hk, ?_, ?_, ?_⟩
          · intro arity
            rw [hcount, Nat.add_assoc, Nat.add_comm 1]
          · rw [hst, List.take_succ_cons, overlay_cons, List.append_assoc]
            rfl
          · intro n hn
            have := hfits n hn
            omega

/-- A record that is taken leaves nothing bound; a rejected one leaves what it has bound on top of
what was left before. -/
theorem append_slots (hb : Lawful b slots) (types : Option (List Sql.Tag)) (r : Record) {s : τ}
    {old : Row} {room : Option Nat} (hs : slots s = .holding old room) (w : ω) :
    let added := Writer.append b types r s w
    (∃ own, added.result = .ok () ∧ rowOf types r = .ok own ∧
      (∀ n, room = some n → r.arity ≤ n) ∧
      slots (Binding.record b types r s w).state.1 = .holding (overlay own old) room ∧
      slots added.state.1 = .holding [] room) ∨
    (∃ f, added.result = .error f ∧ (⟨r, f⟩ : Rejection).Fits types room ∧
      slots added.state.1 = .holding (overlay ((⟨r, f⟩ : Rejection).left types) old) room) := by
  intro added
  have hnothing : slots s = .holding ([] ++ old) room := hs
  have hbound := bindFrom_slots hb types r.fields hnothing (fun _ _ => Nat.zero_le _) w
  simp only [List.length_nil, Nat.zero_add, List.nil_append] at hbound
  rcases append_cases b types r s w with ⟨f, hr, ha, hst⟩ | ⟨e, hr, he, ha, hst⟩ | ⟨hr, he, ha, hst⟩
  · rcases hbound with ⟨h, _⟩ | ⟨g, k, h, hk, hcount, hslots, hfits⟩
    · simp [Binding.record, h] at hr
    · have hg : g = f := by simpa [Binding.record, h] using hr
      subst hg
      have hk' : (⟨r, g⟩ : Rejection).count = k := hcount r.arity
      refine .inr ⟨g, ha, ⟨?_, ?_⟩, ?_⟩
      · rw [Rejection.left, hk', List.length_take]
        exact Nat.min_eq_left hk
      · rw [hk']
        exact hfits
      · rw [hst, Rejection.left, hk']
        exact hslots
  · rcases hbound with ⟨h, hlength, hslots, hfits⟩ | ⟨g, _, h, _⟩
    · have hleft : (⟨r, .addBatch e⟩ : Rejection).left types = boundPrefix types 0 r.fields :=
        List.take_of_length_le (Nat.le_of_eq hlength)
      refine .inr ⟨_, ha, ⟨?_, hfits⟩, ?_⟩
      · rw [hleft]
        exact hlength
      · rw [hst, hleft, hb.add_error he]
        exact hslots
    · simp [Binding.record, h] at hr
  · rcases hbound with ⟨h, hlength, hslots, hfits⟩ | ⟨g, _, h, _⟩
    · refine .inl ⟨_, ha, (rowOf_eq_ok_iff types r _).mpr ⟨rfl, hlength⟩, hfits, hslots, ?_⟩
      rw [hst, (hb.add_ok he).1]
      exact congrArg (fun x : Slots => { x with bound := [] }) hslots
    · simp [Binding.record, h] at hr

lemma execute_slots (hb : Lawful b slots) (s : Session κ τ) (stats : Stats) (w : ω) :
    slots (Writer.execute b s stats w).state.1.statement = slots s.statement := by
  by_cases hs : s.pending = 0
  · rw [execute_of_zero b hs]
    rfl
  · rcases execute_of_pos b hs stats w with ⟨_, _, _, h⟩ | ⟨_, _, _, h⟩
    all_goals
      rw [h]
      exact (hb.execute _ _).1

lemma noteResult_execute (s : Session κ τ) (stats : Stats) (w : ω) (es : List Rejection)
    (r : Record) : noteResult es r (Writer.execute b s stats w).result = [] := by
  rcases execute_result b s stats w with h | ⟨_, _, h⟩
  all_goals
    rw [h]
    rfl

/-- The statement holds what the rejections have left, and nothing else. -/
def Retained (slots : τ → Slots) (es : List Rejection) (x : Writer ω κ τ) : Prop :=
  ∀ s, x.phase = .active s → ∃ room,
    slots s.statement = .holding (leftover x.plan.columnTypes es) room ∧
      ∀ e ∈ es, e.Fits x.plan.columnTypes room

lemma retained_of_session_none {es : List Rejection} {x : Writer ω κ τ}
    (hx : x.session? = none) : Retained slots es x := by
  intro s hs
  simp [session?_eq_some.mpr hs] at hx

lemma retained_start [Url.Names] (hb : Lawful b slots) (act : ι → ω → ω) {es : List Rejection}
    {x : Writer ω κ τ} (hx : Retained slots es x) (index total : Nat) (w : ω) :
    let m := moment b act (.call (.start index total)) (x, w)
    Retained slots (noteMoment es m) m.after.1 := by
  intro m
  rcases start_cases b index total x w with ⟨f, hr, h⟩ | ⟨s, w', _, hr, h, _, hprep⟩
  · have hes : noteMoment es m = es := by simp [m, moment, perform, noteMoment, hr]
    rw [hes]
    simpa only [m, moment, perform, h] using hx
  · have hes : noteMoment es m = [] := by simp [m, moment, perform, noteMoment, hr]
    have hempty : slots s.statement = .holding [] (slots s.statement).room := by
      rw [Slots.holding, numbered, ← (hb.prepare hprep).1]
    rw [hes]
    simp only [m, moment, perform, h]
    intro t ht
    cases ht
    exact ⟨_, hempty, by simp⟩

lemma retained_write (hb : Lawful b slots) {es : List Rejection} {x : Writer ω κ τ}
    (hx : Retained slots es x) (r : Record) (w : ω) :
    Retained slots (noteResult es r (x.write b r w).result) (x.write b r w).state.1 := by
  cases hs : x.session? with
  | none =>
    rw [write_of_session_none b r hs]
    exact hx
  | some s =>
    have hphase := session?_eq_some.mp hs
    obtain ⟨room, hslots, hfits⟩ := hx s hphase
    have hadded := append_slots hb x.plan.columnTypes r hslots w
    rcases write_cases b r hphase w with ⟨f, ha, hr, h⟩ | ⟨ha, _, hr, h⟩ | ⟨ha, _, hr, h⟩
    · rcases hadded with ⟨_, hok, _⟩ | ⟨g, hg, hgfits, hleft⟩
      · simp [hok] at ha
      · have hfg : g = f := Except.error.inj (hg.symm.trans ha)
        subst hfg
        rw [hr, h, noteResult_of_isRejection (append_error_isRejection b _ ha)]
        intro t ht
        cases ht
        refine ⟨room, ?_, ?_⟩
        · rw [leftover_append_singleton]
          exact hleft
        · intro e he
          rcases List.mem_append.mp he with he | he
          · exact hfits e he
          · exact List.mem_singleton.mp he ▸ hgfits
    · rcases hadded with ⟨_, _, _, _, _, hempty⟩ | ⟨g, hg, _⟩
      · rw [hr, h]
        intro t ht
        cases ht
        exact ⟨room, hempty, by simp [noteResult]⟩
      · simp [hg] at ha
    · rcases hadded with ⟨_, _, _, _, _, hempty⟩ | ⟨g, hg, _⟩
      · rw [hr, h, noteResult_execute]
        intro t ht
        cases ht
        exact ⟨room, (execute_slots hb _ _ _).trans hempty, by simp⟩
      · simp [hg] at ha

/-- After every run, what is bound is what the rejections have left. -/
theorem retained_run [Url.Names] (hb : Lawful b slots) (act : ι → ω → ω) (steps : List (Step ι))
    {x : Writer ω κ τ} (hx : x.session? = none) (w : ω) :
    Retained slots (rejections (history b act steps (x, w))) (run b act steps (x, w)).1 := by
  refine run_induction b act (x, w) (fun past state => Retained slots (rejections past) state.1)
    (retained_of_session_none hx) ?_ steps
  rintro past ⟨x, w⟩ step hpast
  dsimp only at hpast ⊢
  rw [rejections_append_singleton]
  cases step with
  | outside i => exact hpast
  | call c =>
    cases c with
    | start index total => exact retained_start hb act hpast index total w
    | write r => exact retained_write hb hpast r w
    | flush =>
      cases hs : x.session? with
      | none =>
        simp only [moment, perform, flush_of_session_none b hs]
        exact hpast
      | some s =>
        have hphase := session?_eq_some.mp hs
        obtain ⟨room, hslots, hfits⟩ := hpast s hphase
        simp only [moment, perform, flush_of_active b hphase]
        intro t ht
        cases ht
        exact ⟨room, (execute_slots hb _ _ _).trans hslots, hfits⟩
    | close =>
      apply retained_of_session_none
      simp [moment, perform, Writer.session?, close_phase]

end Invariant

end BatchInsert.Proofs
