import BatchInsert.Proofs.Building
import BatchInsert.Proofs.Expansion
import BatchInsert.Proofs.Members
import Mathlib.Logic.Function.Basic

/-!
# Passwords from the environment

References are replaced in the text of a document before it is read. So the value of a variable is
a piece of JSON, and not the text that it stands for: between the quotes of a string it is read as
itself exactly when it has no character that a string may not hold or that begins an escape.
-/

namespace BatchInsert.Proofs

open Json (Cursor Depth Lexeme ReadError)
open Settings (Field Item Partial)
open Outline

/-! ### Whole settings -/

/-- The settings that the members make, if none is missing. -/
def completed (p : Partial) : Reader Settings := accept p.complete

lemma steady_completed (p : Partial) : Steady (completed p) := .accept p.complete

lemma completed_eq_ok {p : Partial} {cur mid : Cursor} {S : Settings} :
    completed p cur = .ok (S, mid) ↔ p.complete = .ok S ∧ mid = cur := by
  rw [completed]
  cases p.complete with
  | error m => simp [accept, refuse]
  | ok T => simp [accept, give, eq_comm]

lemma finishRead_like (read : Reader Partial) :
    ReadsLike (fun cur => Settings.finishRead (read cur)) (chain read completed) := by
  intro cur
  simp only [Settings.finishRead, chain, completed]
  cases read cur with
  | error e => rfl
  | ok x =>
    obtain ⟨p, mid⟩ := x
    cases hp : p.complete <;> simp [hp, accept, give, refuse, bind, Except.bind]

/-- The members inside the braces of an object. -/
def allMembers (depth : Depth) : Reader Partial := fun cur =>
  Settings.readMembers depth (cur.rest.length + 2) true .empty cur

lemma outcome_read_object {depth : Depth} {cur mid : Cursor}
    (h : cur.lexeme = .ok (.object, mid)) :
    outcome (Settings.read depth cur) = outcome (bracketed depth '\x7d'
      (fun depth => chain (allMembers depth) completed) mid) := by
  have hinside (depth : Depth) : outcome (Settings.finishRead
      (Settings.readMembers depth (mid.rest.length + 1) true .empty mid.skip)) =
        outcome (step (chain (allMembers depth) completed) mid) := by
    rw [finishRead_like (Settings.readMembers depth (mid.rest.length + 1) true .empty) mid.skip]
    cases hrest : mid.rest with
    | nil =>
      have hnil : mid.skip.rest = [] := by simp [Cursor.skip, hrest]
      rw [outcome_chain_of_none (outcome_readMembers_nil depth hnil), step, hrest]
      rfl
    | cons c cs => simp [step, chain, allMembers, Cursor.skip, hrest]
  rw [← closes_object.outcome_descend hinside]
  simp only [Settings.read, h]
  rfl

/-! ### Up to the password -/

/-- The members of an object up to its password. -/
def membersToPassword : Reader (Partial × Bool) := fun cur =>
  upToField (Depth.limit - 1) .password (cur.rest.length + 2) true .empty cur

lemma steady_membersToPassword : Steady membersToPassword :=
  .of_limit (fun k => upToField (Depth.limit - 1) .password (k + 1) true .empty)
    (fun cur => cur.rest.length + 1) 1
    (fun _ _ _ hm => copies_upToField _ _ (by omega)) fun cur => by omega

def upToPassword : Reader Partial :=
  chain Cursor.lexeme fun
    | .object => step (chain membersToPassword fun x => if x.2 then give x.1 else refuse)
    | _ => refuse

/-- The text of a document from the value of its member for the password on. -/
def passwordMember? (document : String) : Option (List Char) :=
  (outcome (upToPassword (Cursor.start document))).map fun x => x.2.dropWhile Cursor.isBlank

lemma steady_upToPassword : Steady upToPassword := by
  refine .chain steady_lexeme fun lexeme => ?_
  cases lexeme with
  | scalar s => exact .refuse
  | array => exact .refuse
  | object =>
    refine .step (.chain steady_membersToPassword fun x => ?_)
    split
    · exact .give _
    · exact .refuse

/-- The settings from the value of the password on. -/
def fromPassword (p : Partial) : Reader Settings :=
  chain (chain (fromField (Depth.limit - 1) .password p) completed) (closing '\x7d')

lemma outcome_read_of_upToPassword {cur mid : Cursor} {p : Partial}
    (h : outcome (upToPassword cur) = some (p, mid.rest)) :
    outcome (Settings.read Depth.limit cur) = outcome (fromPassword p mid) := by
  obtain ⟨lexeme, here, hlexeme, hobject⟩ := outcome_chain.mp h
  cases lexeme with
  | scalar s => cases hobject
  | array => cases hobject
  | object =>
    rw [outcome_read_object hlexeme]
    cases hrest : here.rest with
    | nil => simp [step, hrest, refuse] at hobject
    | cons c cs =>
      simp only [step, hrest] at hobject
      obtain ⟨⟨q, found⟩, place, hplace, hfound⟩ := outcome_chain.mp hobject
      cases found with
      | false => cases hfound
      | true =>
        obtain ⟨rfl, hmid⟩ : q = p ∧ place.rest = mid.rest := by simpa [give] using hfound
        have hmembers : outcome (allMembers (Depth.limit - 1) (here.after c cs)) =
            outcome (fromField (Depth.limit - 1) .password q mid) :=
          outcome_of_upToField _ _ (Nat.lt_add_of_pos_right Nat.two_pos)
            (outcome_eq_some.mpr ⟨place, hplace, hmid⟩)
        have hinside := Steady.outcome_chain_eq steady_completed hmembers
        refine Steady.outcome_chain_eq (fun S => steady_closing _ S) (.trans ?_ hinside)
        rw [step, hrest]

/-! ### Behind the password -/

/-- What stands behind the members `p` of a document completes them to the settings `S`. -/
def Completes (p : Partial) (tail : List Char) (S : Settings) : Prop :=
  ∃ q mid last, outcome (otherMembers (Depth.limit - 1) p ⟨tail, 1, 0⟩) = some (q, mid) ∧
    q.complete = .ok S ∧ mid.dropWhile Cursor.isBlank = '\x7d' :: last ∧
    (∀ c ∈ last, Cursor.isBlank c = true) ∧ S.check = .ok S

lemma complete_put {p : Partial} {S : Settings} (s : Option String) (h : p.complete = .ok S) :
    (p.put (.password s)).complete = .ok { S with password := s.map Secret.mk } := by
  have hmap : (p.put (.password s)).complete =
      p.complete.map fun S => { S with password := s.map Secret.mk } := by
    simp only [Partial.complete, Partial.put]
    cases Partial.require .driver p.driver with
    | error m => rfl
    | ok driver =>
      cases Partial.require .url p.url with
      | error m => rfl
      | ok url => cases Partial.require .statement p.statement <;> rfl
  rw [hmap, h]
  rfl

lemma Completes.put {p : Partial} {tail : List Char} {S : Settings} (h : Completes p tail S)
    (hp : p.has .password = true) (s : Option String) :
    Completes (p.put (.password s)) tail { S with password := s.map Secret.mk } := by
  obtain ⟨q, mid, last, hmembers, hcomplete, hmid, hlast, hcheck⟩ := h
  refine ⟨q.put (.password s), mid, last, ?_, complete_put s hcomplete, hmid, hlast, ?_⟩
  · rw [otherMembers, outcome_readMembers_put _ s hp]
    exact congrArg (Option.map _) hmembers
  · obtain ⟨-, hfields⟩ := check_eq_ok_iff.mp hcheck
    exact check_eq_ok_iff.mpr ⟨rfl, hfields⟩

lemma Completes.unique {p : Partial} {tail : List Char} {S T : Settings} (hS : Completes p tail S)
    (hT : Completes p tail T) : S = T := by
  obtain ⟨q, mid, last, hmembers, hcomplete, -⟩ := hS
  obtain ⟨q', mid', last', hmembers', hcomplete', -⟩ := hT
  obtain ⟨rfl, -⟩ : q = q' ∧ mid = mid' := by simpa using hmembers.symm.trans hmembers'
  exact Except.ok.inj (hcomplete.symm.trans hcomplete')

lemma Completes.password {p : Partial} {tail : List Char} {S : Settings} {s : Option String}
    (h : Completes (p.put (.password s)) tail S) : S.password = s.map Secret.mk := by
  have hput := h.put (by rw [has_put]; simp [itemField]) s
  exact congrArg Settings.password (h.unique hput)

lemma outcome_fromPassword {p : Partial} {cur : Cursor} {cs last : List Char} {S : Settings}
    (hquote : cur.rest.dropWhile Cursor.isBlank = '"' :: cs) :
    outcome (fromPassword p cur) = some (S, last) ↔ p.has .password = false ∧
      ∃ s w tail, Spells w s.toList ∧ cs = w ++ '"' :: tail ∧
        ∃ q mid, outcome (otherMembers (Depth.limit - 1) (p.put (.password (some s)))
          ⟨tail, 1, 0⟩) = some (q, mid) ∧ q.complete = .ok S ∧
            mid.dropWhile Cursor.isBlank = '\x7d' :: last := by
  cases hhas : p.has .password with
  | true => simp [fromPassword, fromField, hhas, chain, refuse, bind, Except.bind]
  | false =>
    simp only [fromPassword, fromField, hhas, Bool.false_eq_true, if_false, chain_chain, true_and]
    constructor
    · intro h
      obtain ⟨item, place, hitem, hrest⟩ := outcome_chain.mp h
      obtain ⟨q, mid, hq, hend⟩ := outcome_chain.mp hrest
      obtain ⟨T, _, hT, hclosing⟩ := outcome_chain.mp hend
      obtain ⟨s, w, rfl, hw, hcs⟩ :=
        (outcome_password hquote).mp (outcome_eq_some.mpr ⟨place, hitem, rfl⟩)
      obtain ⟨hcomplete, rfl⟩ := completed_eq_ok.mp hT
      obtain ⟨rfl, hmid⟩ := outcome_closing.mp hclosing
      refine ⟨s, w, place.rest, hw, hcs, q, _, ?_, hcomplete, hmid⟩
      rw [(steady_otherMembers _ _).outcome_at]
      exact outcome_eq_some.mpr ⟨_, hq, rfl⟩
    · rintro ⟨s, w, tail, hw, hcs, q, _, hq, hcomplete, hmid⟩
      obtain ⟨place, hitem, hplace⟩ :=
        outcome_eq_some.mp ((outcome_password hquote).mpr ⟨s, w, rfl, hw, hcs⟩)
      rw [← hplace, (steady_otherMembers _ _).outcome_at] at hq
      obtain ⟨mid, hmidok, rfl⟩ := outcome_eq_some.mp hq
      refine outcome_chain.mpr ⟨_, place, hitem, outcome_chain.mpr ⟨q, mid, hmidok, ?_⟩⟩
      exact outcome_chain.mpr ⟨S, mid, completed_eq_ok.mpr ⟨hcomplete, rfl⟩,
        outcome_closing.mpr ⟨rfl, hmid⟩⟩

/-! ### Documents -/

lemma atEnd_eq_ok {cur : Cursor} :
    cur.atEnd = .ok () ↔ ∀ c ∈ cur.rest, Cursor.isBlank c = true := by
  rw [← List.dropWhile_eq_nil_iff, ← rest_skipWhile, ← List.isEmpty_iff, Cursor.atEnd]
  split
  · rename_i hblank
    exact iff_of_true rfl hblank
  · rename_i hblank
    exact iff_of_false (fun h => by cases h) hblank

lemma readWith_eq_ok {α : Type} {r : Depth → Reader α} {s : String} {a : α} :
    Json.readWith r s = .ok a ↔ ∃ last, outcome (r Depth.limit (Cursor.start s)) =
      some (a, last) ∧ ∀ c ∈ last, Cursor.isBlank c = true := by
  simp only [outcome_eq_some]
  constructor
  · intro h
    cases hread : r Depth.limit (Cursor.start s) with
    | error e => simp [Json.readWith, hread, bind, Except.bind] at h
    | ok x =>
      obtain ⟨b, cur⟩ := x
      cases hat : cur.atEnd with
      | error e => simp [Json.readWith, hread, hat, bind, Except.bind] at h
      | ok u =>
        simp only [Json.readWith, hread, hat, bind, Except.bind, pure, Except.pure,
          Except.ok.injEq] at h
        exact ⟨cur.rest, ⟨cur, by rw [h], rfl⟩, atEnd_eq_ok.mp hat⟩
  · rintro ⟨_, ⟨cur, hread, rfl⟩, hlast⟩
    simp only [Json.readWith, hread, atEnd_eq_ok.mpr hlast, bind, Except.bind]
    rfl

lemma ofJsonText_eq_ok {env : Environment} {document : String} {S : Settings} :
    Settings.ofJsonText env document = .ok S ↔ ∃ last,
      outcome (Settings.read Depth.limit (Cursor.start (env.expand document))) = some (S, last) ∧
        (∀ c ∈ last, Cursor.isBlank c = true) ∧ S.check = .ok S := by
  have hread : (∃ last, outcome (Settings.read Depth.limit (Cursor.start (env.expand document))) =
      some (S, last) ∧ (∀ c ∈ last, Cursor.isBlank c = true) ∧ S.check = .ok S) ↔
        Json.readWith Settings.read (env.expand document) = .ok S ∧ S.check = .ok S := by
    rw [readWith_eq_ok]
    simp only [← and_assoc, exists_and_right]
  rw [hread, Settings.ofJsonText]
  cases Json.readWith Settings.read (env.expand document) with
  | error e => simp
  | ok T =>
    constructor
    · intro hcheck
      obtain ⟨rfl, -⟩ := check_eq_ok_iff.mp hcheck
      exact ⟨rfl, hcheck⟩
    · rintro ⟨⟨⟩, hcheck⟩
      exact hcheck

lemma spells_of_ofText {value text : String}
    (h : Json.ofText ("\"" ++ value ++ "\"") = .ok (.string text)) :
    Spells value.toList text.toList := by
  obtain ⟨last, hread, hlast⟩ := readWith_eq_ok.mp h
  have hrest : (Cursor.start ("\"" ++ value ++ "\"")).rest = '"' :: (value.toList ++ ['"']) := by
    simp [Cursor.start]
  rw [Cursor.value, valueFrom_like] at hread
  obtain ⟨lexeme, mid, hlexeme, hvalue⟩ := outcome_chain.mp hread
  rw [lexeme_of_quote hrest] at hlexeme
  cases hstring : Cursor.string
      ((Cursor.start ("\"" ++ value ++ "\"")).after '"' (value.toList ++ ['"'])) with
  | error e => rw [hstring] at hlexeme; cases hlexeme
  | ok x =>
    rw [hstring] at hlexeme
    cases hlexeme
    cases hvalue
    obtain ⟨w, hw, hend⟩ := outcome_string.mp (outcome_eq_some.mpr ⟨_, hstring, rfl⟩)
    rw [Cursor.rest_after] at hend
    obtain hnil | ⟨blanks, c, hc⟩ := List.eq_nil_or_concat x.2.rest
    · rw [hnil] at hend
      rwa [List.append_cancel_right hend]
    · have hquote : value.toList ++ ['"'] = (w ++ '"' :: blanks) ++ [c] := by
        rw [hend, hc, List.concat_eq_append, List.append_assoc, List.cons_append]
      obtain ⟨-, hsame⟩ := List.append_inj' hquote rfl
      cases hsame
      have hblank := hlast '"' (by rw [hc]; simp)
      exact absurd hblank (by decide)

variable {document name : String} {rest : List Char}

lemma loaded_iff
    (hpassword : passwordMember? document = some ('"' :: (plainReference name ++ '"' :: rest)))
    (honly : references document.toList = [⟨name, none⟩]) :
    ∃ p : Partial, ∀ (env : Environment) (S : Settings),
      Settings.ofJsonText env document = .ok S ↔ p.has .password = false ∧ ∃ s w tail,
        Spells w s.toList ∧ ((env name).getD "").toList ++ '"' :: rest = w ++ '"' :: tail ∧
          Completes (p.put (.password (some s))) tail S := by
  obtain ⟨⟨p, before⟩, hup, hquote⟩ := Option.map_eq_some_iff.mp hpassword
  obtain ⟨taken, htaken⟩ := steady_upToPassword.shrinks hup
  refine ⟨p, fun env S => ?_⟩
  let value := ((env name).getD "").toList
  let blanks := before.takeWhile Cursor.isBlank
  have hbefore : before = blanks ++ '"' :: (plainReference name ++ '"' :: rest) := by
    rw [← hquote, List.takeWhile_append_dropWhile]
  have hexpanded : (Cursor.start (env.expand document)).rest =
      taken ++ (blanks ++ '"' :: (value ++ '"' :: rest)) := by
    have hdocument : document.toList =
        (taken ++ blanks ++ ['"']) ++ (plainReference name ++ '"' :: rest) := by
      have hstart : document.toList = taken ++ before := htaken
      rw [hstart, hbefore]
      simp
    rw [hdocument] at honly
    have hplain := expandChars_plain env honly
    rw [← hdocument] at hplain
    simp only [Cursor.start, Environment.expand, String.toList_ofList, hplain]
    simp [value]
  have hup' := steady_upToPassword.takes hup htaken _ _ hexpanded
    (by rw [hbefore]; exact head?_append_congr rfl)
  let place : Cursor := ⟨blanks ++ '"' :: (value ++ '"' :: rest), 1, 0⟩
  have hquote' : place.rest.dropWhile Cursor.isBlank = '"' :: (value ++ '"' :: rest) := by
    refine (span_append (fun c hc => List.mem_takeWhile_imp hc) ?_).2
    rintro c ⟨⟩
    decide
  have hread : outcome (Settings.read Depth.limit (Cursor.start (env.expand document))) =
      outcome (fromPassword p place) := outcome_read_of_upToPassword hup'
  simp only [ofJsonText_eq_ok, hread, outcome_fromPassword hquote', Completes]
  constructor
  · rintro ⟨last, ⟨hp, s, w, tail, hw, hplace, q, mid, hq, hcomplete, hmid⟩, hlast, hcheck⟩
    exact ⟨hp, s, w, tail, hw, hplace, q, mid, last, hq, hcomplete, hmid, hlast, hcheck⟩
  · rintro ⟨hp, s, w, tail, hw, hplace, q, mid, last, hq, hcomplete, hmid, hlast, hcheck⟩
    exact ⟨last, ⟨hp, s, w, tail, hw, hplace, q, mid, hq, hcomplete, hmid⟩, hlast, hcheck⟩

/-- A variable that is the password of a document, and occurs nowhere else in it, is the password
that is loaded exactly when no character of its value is a quote, a backslash or a control
character. More generally the password is the text that the value stands for between quotes, if it
stands for one. All other fields are the same for each of these values. -/
theorem password_from_environment {env : Environment} {S : Settings}
    (hpassword : passwordMember? document = some ('"' :: (plainReference name ++ '"' :: rest)))
    (honly : references document.toList = [⟨name, none⟩])
    (hvalid : Settings.ofJsonText (Function.update env name (some "x")) document = .ok S)
    (value : String) :
    (Settings.ofJsonText (Function.update env name (some value)) document =
        .ok { S with password := some ⟨value⟩ } ↔ ∀ c ∈ value.toList, isLiteral c = true) ∧
      ∀ text, Json.ofText ("\"" ++ value ++ "\"") = .ok (.string text) →
        Settings.ofJsonText (Function.update env name (some value)) document =
          .ok { S with password := some ⟨text⟩ } := by
  obtain ⟨p, hload⟩ := loaded_iff hpassword honly
  obtain ⟨hp, s, w, tail, hw, hplace, hS⟩ := (hload _ S).mp hvalid
  have hx : Spells ['x'] "x".toList := .literal (by decide) .nil
  rw [Function.update_self] at hplace
  obtain ⟨rfl, rfl⟩ := hw.unique hx hplace.symm
  have hspelled (text : String) (h : Spells value.toList text.toList) :
      Settings.ofJsonText (Function.update env name (some value)) document =
        .ok { S with password := some ⟨text⟩ } := by
    refine (hload _ _).mpr ⟨hp, text, value.toList, _, h, ?_, hS.put ?_ (some text)⟩
    · rw [Function.update_self]
      rfl
    · rw [has_put]
      simp [itemField]
  refine ⟨⟨fun hloaded => ?_, fun hall => hspelled value (.of_literal hall)⟩,
    fun text htext => hspelled text (spells_of_ofText htext)⟩
  obtain ⟨-, t, w, tail, hw, hplace, hT⟩ := (hload _ _).mp hloaded
  rw [Function.update_self] at hplace
  obtain rfl : value = t := by simpa using hT.password
  exact hw.literal_of_quoted hplace

/-- Settings in JSON whose password is a variable. -/
def variableText : String :=
  "\x7b\"driver\":\"memory\",\"password\":\"$\x7bPW\x7d\",\"url\":\"jdbc:t\"," ++
    "\"insert_statement\":\"INSERT\"\x7d"

/-- Their text behind the password. -/
def behindVariable : List Char :=
  ",\"url\":\"jdbc:t\",\"insert_statement\":\"INSERT\"\x7d".toList

/-- What is read from them. -/
def variableSettings (password : String) : Settings :=
  ⟨"memory", "jdbc:t", none, some ⟨password⟩, "INSERT", 5000, none⟩

def oneVariable (value : String) : Environment :=
  Function.update (fun _ => none) "PW" (some value)

lemma password_variableText : passwordMember? variableText =
    some ('"' :: (plainReference "PW" ++ '"' :: behindVariable)) := by
  decide +kernel

lemma references_variableText : references variableText.toList = [⟨"PW", none⟩] := by
  decide +kernel

lemma load_variableText :
    Settings.ofJsonText (oneVariable "x") variableText = .ok (variableSettings "x") :=
  eq_ok_of_toOption (by decide +kernel)

lemma eq_string_of_found {j : Json} {s : String} (h : j.found = .scalar (.string s)) :
    j = .string s := by
  cases j with
  | string t => cases h; rfl
  | number n => cases n <;> cases h
  | _ => cases h

lemma ofText_quote : Json.ofText "\"a\\\"b\"" = .ok (.string "a\"b") := by
  have hfound : (Json.ofText "\"a\\\"b\"").toOption.map Json.found =
      some (.scalar (.string "a\"b")) := by
    decide +kernel
  obtain ⟨j, hj, htext⟩ := Option.map_eq_some_iff.mp hfound
  rw [← eq_string_of_found htext]
  exact eq_ok_of_toOption hj

/-- A value without special characters, and one with an escaped quote. -/
theorem password_from_environment_quoted :
    passwordMember? variableText =
        some ('"' :: (plainReference "PW" ++ '"' :: behindVariable)) ∧
      references variableText.toList = [⟨"PW", none⟩] ∧
      Settings.ofJsonText (oneVariable "x") variableText = .ok (variableSettings "x") ∧
      Settings.ofJsonText (oneVariable "s3:cr$t") variableText = .ok (variableSettings "s3:cr$t") ∧
      Settings.ofJsonText (oneVariable "a\\\"b") variableText =
        .ok (variableSettings "a\"b") := by
  have hload := password_from_environment password_variableText references_variableText
    load_variableText
  have hplain := (hload "s3:cr$t").1.mpr (List.all_eq_true.mp (by decide +kernel))
  have hquoted := (hload "a\\\"b").2 "a\"b" ofText_quote
  exact ⟨password_variableText, references_variableText, load_variableText, hplain, hquoted⟩

/-- A quote in the value ends the password. What follows it may be no text in JSON, or may be
another member. -/
theorem quote_from_environment :
    passwordMember? variableText =
        some ('"' :: (plainReference "PW" ++ '"' :: behindVariable)) ∧
      references variableText.toList = [⟨"PW", none⟩] ∧
      Settings.ofJsonText (oneVariable "x") variableText = .ok (variableSettings "x") ∧
      (∀ S, Settings.ofJsonText (oneVariable "a\"b") variableText ≠ .ok S) ∧
      Settings.ofJsonText (oneVariable "x\",\"username\":\"root") variableText =
        .ok { variableSettings "x" with username := some "root" } := by
  have hnone : (Settings.ofJsonText (oneVariable "a\"b") variableText).toOption = none := by
    decide +kernel
  have hadded : (Settings.ofJsonText (oneVariable "x\",\"username\":\"root")
      variableText).toOption = some { variableSettings "x" with username := some "root" } := by
    decide +kernel
  refine ⟨password_variableText, references_variableText, load_variableText, fun S hS => ?_,
    eq_ok_of_toOption hadded⟩
  rw [hS] at hnone
  cases hnone

end BatchInsert.Proofs
