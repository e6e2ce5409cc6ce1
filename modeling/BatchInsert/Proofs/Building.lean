import BatchInsert.Settings.Json
import BatchInsert.Settings.Yaml
import Mathlib.Tactic.Lemma

/-!
# Writers from settings

Settings are checked when they are loaded, and the draft made of them again when a writer is built.
Both checks refuse an empty batch. Of texts the first refuses the empty one only, the second any that
is blank, so that settings build a writer exactly when none of the texts a writer must have is blank.
-/

namespace BatchInsert.Proofs

variable {S T : Settings} {env : Environment} {document : String}

lemma check_eq_ok_iff :
    S.check = .ok T ↔
      T = S ∧ S.batchSize ≠ 0 ∧ S.driver ≠ "" ∧ S.statement ≠ "" ∧ S.url ≠ "" := by
  have hviolations : S.violations = [] ↔
      S.batchSize ≠ 0 ∧ S.driver ≠ "" ∧ S.statement ≠ "" ∧ S.url ≠ "" := by
    simp only [Settings.violations, List.append_eq_nil_iff, ite_eq_right_iff, List.cons_ne_self,
      imp_false, String.isEmpty_iff, and_assoc]
  rw [← hviolations, Settings.check]
  split
  · rename_i hnone
    simp [hnone, eq_comm]
  · rename_i v vs hsome
    simp [hsome]

lemma check_of_loaded
    (h : Settings.ofJsonText env document = .ok S ∨ Settings.ofYamlText env document = .ok S) :
    S.check = .ok S := by
  obtain ⟨T, hT⟩ : ∃ T : Settings, T.check = .ok S := by
    rcases h with h | h
    · simp only [Settings.ofJsonText] at h
      split at h
      · exact ⟨_, h⟩
      · cases h
    · simp only [Settings.ofYamlText] at h
      split at h
      · exact ⟨_, h⟩
      · cases h
  obtain ⟨rfl, _⟩ := check_eq_ok_iff.mp hT
  exact hT

/-- The texts that a writer must have, in the order in which a draft is asked for them, and what it
answers where there is none. -/
def demanded (S : Settings) : List (String × Draft.Problem) :=
  [(S.url, .noUrl), (S.statement, .noStatement), (S.driver, .noDriver)]

/-- The answer for the first of the texts that is blank. -/
def blankText? (S : Settings) : Option Draft.Problem :=
  ((demanded S).find? fun part => Text.isBlankText part.1).map Prod.snd

/-- A plan that says what settings say. -/
structure Follows (plan : Plan) (S : Settings) : Prop where
  driver : plan.driver = S.driver
  url : plan.url = S.url
  statement : plan.statement = S.statement
  batchSize : plan.batchSize = S.batchSize
  columnTypes : plan.columnTypes = S.columnTypes
  credentials : plan.credentials =
    S.username.map fun user => ⟨user, (S.password.map Secret.exposed).getD ""⟩

lemma finish_of_size (hsize : 0 < S.batchSize) :
    (∀ problem, blankText? S = some problem → S.draft.finish = .error problem) ∧
      (blankText? S = none → ∃ plan, S.draft.finish = .ok plan ∧ Follows plan S) := by
  have hrequired (text : String) (problem : Draft.Problem) :
      Draft.required (some text) problem =
        if Text.isBlankText text then .error problem else .ok text := rfl
  simp only [blankText?, demanded, List.find?_cons, List.find?_nil]
  cases hurl : Text.isBlankText S.url with
  | true => simp [Draft.finish, Settings.draft, hrequired, hurl, bind, Except.bind]
  | false =>
    cases hstatement : Text.isBlankText S.statement with
    | true => simp [Draft.finish, Settings.draft, hrequired, hurl, hstatement, bind, Except.bind]
    | false =>
      cases hdriver : Text.isBlankText S.driver with
      | true =>
        simp [Draft.finish, Settings.draft, hrequired, hurl, hstatement, hdriver, bind, Except.bind]
      | false =>
        refine ⟨by simp, fun _ => ?_⟩
        refine ⟨⟨S.driver, S.url, S.draft.credentials, S.statement, S.batchSize, S.columnTypes,
          hsize⟩, ?_, ⟨rfl, rfl, rfl, rfl, rfl, rfl⟩⟩
        simp only [Draft.finish, Settings.draft, hrequired, hurl, hstatement, hdriver, bind,
          Except.bind, Bool.false_eq_true, if_false, Option.getD_some]
        exact dif_pos hsize

/-- Settings that have been loaded build a writer if none of the texts it must have is blank, and
its plan is what they say. If one is, that is what the build fails with. -/
theorem loaded_settings_build
    (hS : Settings.ofJsonText env document = .ok S ∨ Settings.ofYamlText env document = .ok S) :
    (∀ problem, blankText? S = some problem → S.draft.finish = .error problem) ∧
      (blankText? S = none → ∃ plan, S.draft.finish = .ok plan ∧ Follows plan S) := by
  obtain ⟨_, hsize, _⟩ := check_eq_ok_iff.mp (check_of_loaded hS)
  exact finish_of_size (Nat.pos_of_ne_zero hsize)

/-- Settings in JSON with the driver, a user and no password. -/
def settingsText (driver : String) : String :=
  "\x7b\"driver\":\"" ++ driver ++ "\",\"url\":\"jdbc:t\",\"username\":\"app\"," ++
    "\"insert_statement\":\"INSERT\"\x7d"

/-- What is read from them. -/
def settingsFor (driver : String) : Settings :=
  ⟨driver, "jdbc:t", some "app", none, "INSERT", 5000, none⟩

lemma eq_ok_of_toOption {ε α : Type} {r : Except ε α} {a : α} (h : r.toOption = some a) :
    r = .ok a := by
  cases r with
  | error e => cases h
  | ok b => exact congrArg Except.ok (Option.some.inj h)

/-- The user has the empty password. -/
theorem loaded_settings_build_memory :
    Settings.ofJsonText (fun _ => none) (settingsText "memory") = .ok (settingsFor "memory") ∧
      ∃ plan, (settingsFor "memory").draft.finish = .ok plan ∧
        Follows plan (settingsFor "memory") ∧ plan.credentials = some ⟨"app", ""⟩ := by
  have hS : Settings.ofJsonText (fun _ => none) (settingsText "memory") =
      .ok (settingsFor "memory") := eq_ok_of_toOption (by decide +kernel)
  have hnone : blankText? (settingsFor "memory") = none := by decide +kernel
  obtain ⟨plan, hplan, hfollows⟩ := (loaded_settings_build (.inl hS)).2 hnone
  exact ⟨hS, plan, hplan, hfollows, hfollows.credentials⟩

/-- A driver with a blank for its name is taken by the one check and refused by the other. -/
theorem blank_driver_loaded :
    Settings.ofJsonText (fun _ => none) (settingsText " ") = .ok (settingsFor " ") ∧
      (settingsFor " ").draft.finish = .error .noDriver := by
  have hS : Settings.ofJsonText (fun _ => none) (settingsText " ") = .ok (settingsFor " ") :=
    eq_ok_of_toOption (by decide +kernel)
  exact ⟨hS, by rfl⟩

end BatchInsert.Proofs
