import BatchInsert.Builder
import BatchInsert.Memory
import Mathlib.Tactic.Lemma

/-!
# The last value of each part

However a builder has been made, finishing it depends on nothing but the value that each of its
parts was set to last. These values decide whether there is a writer, what the first thing is that
stands in its way, what the writer is told and what is logged of it.
-/

namespace BatchInsert.Proofs

open Builder (Part Setter)
open Database (Driver Reply)

variable {δ ω κ τ : Type}

/-! ### What setters leave -/

/-- The value of a part that has been set. -/
def valueIn (b : Builder δ) : (p : Part) → Option (p.Value δ)
  | .driver => b.draft.driver
  | .url => b.draft.url
  | .username => b.draft.username
  | .password => b.draft.password
  | .statement => b.draft.statement
  | .batchSize => b.draft.batchSize
  | .columnTypes => b.draft.columnTypes
  | .registry => b.registry

/-- The value that a call gives to a part. -/
def valueFor (p : Part) (call : Setter δ) : Option (p.Value δ) :=
  if h : call.part = p then some (h ▸ call.value) else none

/-- What the calls set a part to last. -/
def lastValue (calls : List (Setter δ)) (p : Part) : Option (p.Value δ) :=
  (calls.filterMap (valueFor p)).getLast?

lemma builder_ext {b b' : Builder δ} (h : ∀ p, valueIn b p = valueIn b' p) : b = b' := by
  obtain ⟨⟨_, _, _, _, _, _, _⟩, _⟩ := b
  obtain ⟨⟨_, _, _, _, _, _, _⟩, _⟩ := b'
  obtain rfl := h .driver
  obtain rfl := h .url
  obtain rfl := h .username
  obtain rfl := h .password
  obtain rfl := h .statement
  obtain rfl := h .batchSize
  obtain rfl := h .columnTypes
  obtain rfl := h .registry
  rfl

lemma valueIn_empty (p : Part) : valueIn (.empty : Builder δ) p = none := by
  cases p <;> rfl

lemma valueIn_set (b : Builder δ) (call : Setter δ) (p : Part) :
    valueIn (b.set call) p = (valueFor p call).or (valueIn b p) := by
  obtain ⟨q, v⟩ := call
  by_cases h : q = p
  · subst h
    rw [valueFor, dif_pos rfl, Option.some_or]
    cases q <;> rfl
  · rw [valueFor, dif_neg h, Option.none_or]
    cases q <;> cases p <;> first | rfl | exact absurd rfl h

lemma lastValue_cons (call : Setter δ) (calls : List (Setter δ)) (p : Part) :
    lastValue (call :: calls) p = (lastValue calls p).or (valueFor p call) := by
  rw [lastValue, lastValue, List.filterMap_cons]
  cases valueFor p call with
  | none => exact Option.or_none.symm
  | some v =>
    rw [List.getLast?_cons]
    cases (calls.filterMap (valueFor p)).getLast? <;> rfl

lemma valueIn_setAll (b : Builder δ) (calls : List (Setter δ)) (p : Part) :
    valueIn (b.setAll calls) p = (lastValue calls p).or (valueIn b p) := by
  induction calls generalizing b with
  | nil => rfl
  | cons call calls ih =>
    have hrest : b.setAll (call :: calls) = (b.set call).setAll calls := rfl
    rw [hrest, ih, valueIn_set, lastValue_cons, Option.or_assoc]

lemma valueIn_setAll_empty (calls : List (Setter δ)) :
    valueIn (Builder.empty.setAll calls) = lastValue calls := by
  funext p
  rw [valueIn_setAll, valueIn_empty, Option.or_none]

/-- The calls in another order, the calls for each part among themselves in the same one. -/
def Reordered (calls calls' : List (Setter δ)) : Prop :=
  ∀ p, calls'.filter (fun c => c.part = p) = calls.filter (fun c => c.part = p)

lemma lastValue_of_reordered {calls calls' : List (Setter δ)} (h : Reordered calls calls') :
    lastValue calls' = lastValue calls := by
  have honly (cs : List (Setter δ)) (p : Part) :
      (cs.filter fun c => c.part = p).filterMap (valueFor p) = cs.filterMap (valueFor p) := by
    rw [List.filterMap_filter]
    congr 1
    funext c
    by_cases hc : c.part = p
    · simp [hc]
    · simp [hc, valueFor]
  funext p
  rw [lastValue, lastValue, ← honly calls' p, h p, honly]

/-! ### What the values decide -/

/-- A text that is there and has a character that is not blank. -/
def Given (part : Option String) : Prop :=
  ∃ s, part = some s ∧ ∃ c ∈ s.toList, Text.isBlank c = false

instance (part : Option String) : Decidable (Given part) :=
  decidable_of_iff (part.any fun s => s.toList.any fun c => !Text.isBlank c) (by
    cases part <;> simp [Given])

/-- The size of a batch, if none was given the usual one. -/
def sizeGiven (part : Option Nat) : Nat := part.getD 5000

variable (last : (p : Part) → Option (p.Value δ))

structure Complete : Prop where
  url : Given (last .url)
  statement : Given (last .statement)
  driver : Given (last .driver)
  batchSize : 1 ≤ sizeGiven (last .batchSize)

/-- What is missing, where all that is asked for before it is there. -/
inductive FirstMissing : Draft.Problem → Prop
  | noUrl (h : ¬ Given (last .url)) : FirstMissing .noUrl
  | noStatement (hurl : Given (last .url)) (h : ¬ Given (last .statement)) :
    FirstMissing .noStatement
  | noDriver (hurl : Given (last .url)) (hstatement : Given (last .statement))
    (h : ¬ Given (last .driver)) : FirstMissing .noDriver
  | emptyBatch (hurl : Given (last .url)) (hstatement : Given (last .statement))
    (hdriver : Given (last .driver)) (h : ¬ 1 ≤ sizeGiven (last .batchSize)) :
    FirstMissing .emptyBatch

lemma exists_firstMissing (h : ¬ Complete last) : ∃ problem, FirstMissing last problem := by
  by_cases hurl : Given (last .url)
  · by_cases hstatement : Given (last .statement)
    · by_cases hdriver : Given (last .driver)
      · exact ⟨_, .emptyBatch hurl hstatement hdriver fun hsize =>
          h ⟨hurl, hstatement, hdriver, hsize⟩⟩
      · exact ⟨_, .noDriver hurl hstatement hdriver⟩
    · exact ⟨_, .noStatement hurl hstatement⟩
  · exact ⟨_, .noUrl hurl⟩

/-- A new writer that has been told the values, each of them as it is. -/
structure Told (last : (p : Part) → Option (p.Value (Driver ω κ)))
    (standard : Registry (Driver ω κ)) (x : Writer ω κ τ) : Prop where
  driver : last .driver = some x.plan.driver
  url : last .url = some x.plan.url
  statement : last .statement = some x.plan.statement
  batchSize : x.plan.batchSize = sizeGiven (last .batchSize)
  columnTypes : x.plan.columnTypes = last .columnTypes
  credentials : x.plan.credentials =
    (last .username).map fun user => ⟨user, (last .password).getD ""⟩
  registry : x.registry = (last .registry).getD standard
  phase : x.phase = .unopened
  stats : x.stats = .zero

/-- Level and text of what is logged: a line for each part of the login that was never set. -/
def loginNotices (username password : Option String) : List (Log.Level × String) :=
  (if username.isSome then [] else [(.info, "Username was not supplied")]) ++
    (if password.isSome then [] else [(.info, "Password was not supplied")])

/-! ### Finishing -/

lemma required_of_given (part : Option String) (h : Given part) (problem : Draft.Problem) :
    ∃ s, part = some s ∧ Draft.required part problem = .ok s := by
  obtain ⟨s, rfl, c, hc, hblank⟩ := h
  have hs : Text.isBlankText s = false := List.all_eq_false.mpr ⟨c, hc, by simp [hblank]⟩
  exact ⟨s, rfl, by simp [Draft.required, hs]⟩

lemma required_of_not_given (part : Option String) (h : ¬ Given part) (problem : Draft.Problem) :
    Draft.required part problem = .error problem := by
  cases part with
  | none => rfl
  | some s =>
    have hs : Text.isBlankText s = true := by
      refine List.all_eq_true.mpr fun c hc => ?_
      cases hblank : Text.isBlank c with
      | true => rfl
      | false => exact absurd ⟨s, rfl, c, hc, hblank⟩ h
    simp [Draft.required, hs]

lemma draft_of_given {d : Draft} (hurl : Given d.url) (hstatement : Given d.statement)
    (hdriver : Given d.driver) :
    ∃ driver url statement, d.driver = some driver ∧ d.url = some url ∧
      d.statement = some statement ∧
      d.finish =
        if h : 1 ≤ sizeGiven d.batchSize then
          .ok ⟨driver, url, d.credentials, statement, sizeGiven d.batchSize, d.columnTypes, h⟩
        else .error .emptyBatch := by
  obtain ⟨url, hsetUrl, hurl⟩ := required_of_given d.url hurl .noUrl
  obtain ⟨statement, hsetStatement, hstatement⟩ :=
    required_of_given d.statement hstatement .noStatement
  obtain ⟨driver, hsetDriver, hdriver⟩ := required_of_given d.driver hdriver .noDriver
  refine ⟨driver, url, statement, hsetDriver, hsetUrl, hsetStatement, ?_⟩
  simp only [Draft.finish, hurl, hstatement, hdriver, bind, Except.bind]
  rfl

lemma draft_of_firstMissing {b : Builder δ} {problem : Draft.Problem}
    (h : FirstMissing (valueIn b) problem) : b.draft.finish = .error problem := by
  cases h with
  | noUrl h =>
    have hurl := required_of_not_given b.draft.url h .noUrl
    simp only [Draft.finish, hurl, bind, Except.bind]
  | noStatement hurl h =>
    obtain ⟨_, _, hurl⟩ := required_of_given b.draft.url hurl .noUrl
    have hstatement := required_of_not_given b.draft.statement h .noStatement
    simp only [Draft.finish, hurl, hstatement, bind, Except.bind]
  | noDriver hurl hstatement h =>
    obtain ⟨_, _, hurl⟩ := required_of_given b.draft.url hurl .noUrl
    obtain ⟨_, _, hstatement⟩ := required_of_given b.draft.statement hstatement .noStatement
    have hdriver := required_of_not_given b.draft.driver h .noDriver
    simp only [Draft.finish, hurl, hstatement, hdriver, bind, Except.bind]
  | emptyBatch hurl hstatement hdriver h =>
    obtain ⟨_, _, _, -, -, -, hfinish⟩ := draft_of_given hurl hstatement hdriver
    exact hfinish.trans (dif_neg h)

section Finish

variable (standard : Registry (Driver ω κ)) {b : Builder (Driver ω κ)}

lemma finish_of_firstMissing {problem : Draft.Problem} (h : FirstMissing (valueIn b) problem) :
    (b.finish standard : Reply _ _ (Writer ω κ τ)) =
      .fail (.configuration problem.message) b := by
  rw [Builder.finish, draft_of_firstMissing h]

lemma finish_of_complete (h : Complete (valueIn b)) :
    ∃ x : Writer ω κ τ, Told (valueIn b) standard x ∧
      b.finish standard = ⟨.ok x, b, b.draft.notices.map Log.plain⟩ := by
  obtain ⟨driver, url, statement, hdriver, hurl, hstatement, hfinish⟩ :=
    draft_of_given h.url h.statement h.driver
  have hplan : b.draft.finish = .ok _ := hfinish.trans (dif_pos h.batchSize)
  refine ⟨.ofPlan _ (b.registry.getD standard), ?_, by rw [Builder.finish, hplan]⟩
  exact {
    driver := hdriver
    url := hurl
    statement := hstatement
    batchSize := rfl
    columnTypes := rfl
    credentials := rfl
    registry := rfl
    phase := rfl
    stats := rfl }

lemma finish_state (b : Builder (Driver ω κ)) :
    (b.finish standard : Reply _ _ (Writer ω κ τ)).state = b := by
  rw [Builder.finish]
  split <;> rfl

end Finish

/-- What a reader of the log sees of an entry. -/
def lineOf (e : Log.Entry) : Log.Level × String := (e.event.level, e.event.message)

lemma lineOf_notices (d : Draft) :
    (d.notices.map Log.plain).map lineOf = loginNotices d.username d.password := by
  simp only [Draft.notices, loginNotices]
  cases d.username <;> cases d.password <;> rfl

/-- After any calls in any order a builder makes a writer exactly when the values set last are
complete, and the writer is told them; otherwise it fails with the first that is missing and logs
nothing. Finishing it again gives the same, and so does any builder with the same last values, in
particular after the same calls in an order that keeps those for each part. -/
theorem finish_of_last_values (standard : Registry (Driver ω κ))
    (calls : List (Setter (Driver ω κ))) :
    let last := lastValue calls
    let finish (cs : List (Setter (Driver ω κ))) :
        Reply Failure (Builder (Driver ω κ)) (Writer ω κ τ) :=
      (Builder.empty.setAll cs).finish standard
    (Complete last → ∃ x, (finish calls).result = .ok x ∧ Told last standard x ∧
        (finish calls).log.map lineOf = loginNotices (last .username) (last .password)) ∧
      (¬ Complete last → ∃ problem, FirstMissing last problem ∧
        (finish calls).result = .error (.configuration problem.message) ∧
        (finish calls).log = []) ∧
      (finish calls).state.finish standard = finish calls ∧
      (∀ calls', lastValue calls' = last → finish calls' = finish calls) ∧
      ∀ calls', Reordered calls calls' → finish calls' = finish calls := by
  intro last finish
  let b := Builder.empty.setAll calls
  have hlast : valueIn b = last := valueIn_setAll_empty calls
  have hsame : ∀ calls', lastValue calls' = last → finish calls' = finish calls := by
    intro calls' h
    have hb : Builder.empty.setAll calls' = b := builder_ext fun p => by
      rw [valueIn_setAll_empty, h, hlast]
    exact congrArg (Builder.finish standard) hb
  refine ⟨fun h => ?_, fun h => ?_, ?_, hsame, ?_⟩
  · rw [← hlast] at h ⊢
    obtain ⟨x, htold, hfinish⟩ := finish_of_complete (τ := τ) standard h
    have hfinish : finish calls = _ := hfinish
    exact ⟨x, by rw [hfinish], htold, by rw [hfinish]; exact lineOf_notices b.draft⟩
  · obtain ⟨problem, hproblem⟩ := exists_firstMissing last h
    have hfinish : finish calls = .fail (.configuration problem.message) b :=
      finish_of_firstMissing standard (hlast ▸ hproblem)
    exact ⟨problem, hproblem, by rw [hfinish, Reply.fail], by rw [hfinish, Reply.fail]⟩
  · exact congrArg (Builder.finish standard) (finish_state standard b)
  · exact fun calls' h => hsame calls' (lastValue_of_reordered h)

abbrev MemoryDriver : Type := Driver Memory.World Memory.Connection

/-- The URL is blank at first and has blanks around it in the end; the batch is empty at first. -/
def hesitantCalls : List (Setter MemoryDriver) :=
  [⟨.url, " "⟩, ⟨.statement, "INSERT INTO t VALUES (?)"⟩, ⟨.batchSize, (0 : Nat)⟩,
    ⟨.driver, "memory"⟩, ⟨.password, "pw"⟩, ⟨.url, " jdbc:test "⟩, ⟨.batchSize, (250 : Nat)⟩]

def shuffledCalls : List (Setter MemoryDriver) :=
  [⟨.batchSize, (0 : Nat)⟩, ⟨.url, " "⟩, ⟨.batchSize, (250 : Nat)⟩, ⟨.password, "pw"⟩,
    ⟨.url, " jdbc:test "⟩, ⟨.driver, "memory"⟩, ⟨.statement, "INSERT INTO t VALUES (?)"⟩]

def finishMemory (calls : List (Setter MemoryDriver)) :
    Reply Failure (Builder MemoryDriver) (Writer Memory.World Memory.Connection Memory.Statement) :=
  (Builder.empty.setAll calls).finish .empty

/-- With two more calls the URL is blank again and the batch empty, and the URL is what counts. -/
theorem finish_of_last_values_hesitant :
    Complete (lastValue hesitantCalls) ∧ Reordered hesitantCalls shuffledCalls ∧
      (∃ x, (finishMemory shuffledCalls).result = .ok x ∧ x.plan.url = " jdbc:test " ∧
        x.plan.batchSize = 250 ∧ x.plan.credentials = none) ∧
      (finishMemory shuffledCalls).log.map lineOf = [(.info, "Username was not supplied")] ∧
      (finishMemory (hesitantCalls ++ [⟨.batchSize, (0 : Nat)⟩, ⟨.url, "\t"⟩])).result =
        .error (.configuration "No database URL supplied") := by
  have hcomplete : Complete (lastValue hesitantCalls) :=
    ⟨by decide, by decide, by decide, by decide⟩
  have hshuffled : Reordered hesitantCalls shuffledCalls := by
    intro p
    cases p <;> rfl
  obtain ⟨hok, -, -, -, hreordered⟩ :=
    finish_of_last_values (τ := Memory.Statement) .empty hesitantCalls
  obtain ⟨x, hx, htold, hlog⟩ := hok hcomplete
  have hsame : finishMemory shuffledCalls = finishMemory hesitantCalls := hreordered _ hshuffled
  refine ⟨hcomplete, hshuffled, ⟨x, ?_, ?_, htold.batchSize, htold.credentials⟩, ?_, ?_⟩
  · exact (congrArg Reply.result hsame).trans hx
  · exact (Option.some.inj htold.url).symm
  · exact (congrArg (fun r => r.log.map lineOf) hsame).trans hlog
  · obtain ⟨-, herror, -⟩ := finish_of_last_values (τ := Memory.Statement) .empty
      (hesitantCalls ++ [⟨.batchSize, (0 : Nat)⟩, ⟨.url, "\t"⟩])
    obtain ⟨problem, hproblem, hresult, -⟩ := herror fun h => absurd h.url (by decide)
    cases hproblem with
    | noUrl => exact hresult
    | noStatement hurl | noDriver hurl | emptyBatch hurl => exact absurd hurl (by decide)

end BatchInsert.Proofs
