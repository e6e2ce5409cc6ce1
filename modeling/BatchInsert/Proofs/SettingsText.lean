import BatchInsert.Proofs.Loading
import BatchInsert.Proofs.Printed
import BatchInsert.Proofs.Substitution
import BatchInsert.Proofs.TagText

/-!
# Reading settings that have been written

Settings are written in full, with a fixed text for the password. Text that holds no reference to
the environment holds none when it is written either: escapes put no brace behind a dollar sign, and
every string ends with its quote. So what is read is what was written, in every environment.
-/

namespace BatchInsert.Proofs

open Environment
open Json (Cursor Depth)
open Settings (Field Item Partial)
open Sql (Tag)
open Outline

variable {α β : Type}

/-! ### References in what is written -/

/-- No reference begins in these characters, whatever stands behind them. -/
def RefersNowhere (cs : List Char) : Prop := ∀ tail, references (cs ++ tail) = references tail

namespace RefersNowhere

lemma nil : RefersNowhere [] := fun _ => rfl

lemma append {cs ds : List Char} (h : RefersNowhere cs) (h' : RefersNowhere ds) :
    RefersNowhere (cs ++ ds) := fun tail => by rw [List.append_assoc, h, h']

lemma of_not_mem {cs : List Char} (h : '$' ∉ cs) : RefersNowhere cs := by
  induction cs with
  | nil => exact nil
  | cons c cs ih =>
    obtain ⟨hc, hcs⟩ := List.ne_and_not_mem_of_not_mem_cons h
    intro tail
    rw [List.cons_append, references_of_none (reference?_of_ne hc.symm)]
    exact ih hcs tail

lemma cons {c : Char} {cs : List Char} (hc : c ≠ '$') (h : RefersNowhere cs) :
    RefersNowhere (c :: cs) :=
  append (of_not_mem (List.mem_singleton.not.mpr hc.symm)) h

lemma listed {ps : List (List Char)} (h : ∀ p ∈ ps, RefersNowhere p) (first : Bool) :
    RefersNowhere (listed first ps) := by
  induction ps generalizing first with
  | nil => exact nil
  | cons p ps ih =>
    obtain ⟨hp, hps⟩ := List.forall_mem_cons.mp h
    refine append (of_not_mem ?_) (append hp (ih hps false))
    cases first <;> decide

lemma references_eq_nil {cs : List Char} (h : RefersNowhere cs) : references cs = [] := by
  rw [← List.append_nil cs, h, references_nil]

end RefersNowhere

lemma escape_cases (c : Char) :
    Json.escape c = [c] ∨ ∃ e, Json.escape c = '\\' :: e ∧ '$' ∉ e := by
  have hescape {cs : List Char} (hcs : Json.escape c = cs) :
      cs = [c] ∨ ∃ e, cs = '\\' :: e ∧ '$' ∉ e := by
    have hdigit : ∀ d < 16, Text.digitChar d ≠ '$' := by decide
    rw [Json.escape] at hcs
    split_ifs at hcs <;> subst hcs
    · exact .inr ⟨_, rfl, by decide⟩
    · exact .inr ⟨_, rfl, by decide⟩
    · exact .inl rfl
    · exact .inr ⟨_, rfl, by decide⟩
    · exact .inr ⟨_, rfl, by decide⟩
    · exact .inr ⟨_, rfl, by decide⟩
    · exact .inr ⟨_, rfl, by decide⟩
    · exact .inr ⟨_, rfl, by decide⟩
    · have hdigits : ∀ d ∈ Text.padZeros 4 (Text.hexChars c.toNat), d ≠ '$' :=
        forall_mem_padZeros (by decide) (positional_hex.forall_mem_write hdigit _)
      exact .inr ⟨_, rfl,
        List.not_mem_cons_of_ne_of_not_mem (by decide) fun hmem => hdigits '$' hmem rfl⟩
  exact hescape rfl

lemma head?_escape {cs tail : List Char} (hcs : cs.head? ≠ some '\x7b')
    (htail : tail.head? ≠ some '\x7b') :
    (cs.flatMap Json.escape ++ tail).head? ≠ some '\x7b' := by
  cases cs with
  | nil => exact htail
  | cons c cs =>
    rw [List.flatMap_cons, List.append_assoc]
    rcases escape_cases c with hc | ⟨e, hc, -⟩ <;> rw [hc]
    · exact hcs
    · simp

lemma references_escape {cs : List Char} (h : ¬ mark <:+: cs) {tail : List Char}
    (htail : tail.head? ≠ some '\x7b') :
    references (cs.flatMap Json.escape ++ tail) = references tail := by
  induction cs with
  | nil => rfl
  | cons c cs ih =>
    have hcs : ¬ mark <:+: cs := fun hmark => h (hmark.trans (List.suffix_cons c cs).isInfix)
    rw [List.flatMap_cons, List.append_assoc]
    rcases escape_cases c with hc | ⟨e, hc, he⟩
    · rw [hc, List.singleton_append, references_of_none ?_, ih hcs]
      by_cases hdollar : c = '$'
      · subst hdollar
        refine reference?_of_head? (head?_escape ?_ htail)
        intro hbrace
        obtain ⟨ds, rfl⟩ := List.head?_eq_some_iff.mp hbrace
        exact h (List.prefix_append mark ds).isInfix
      · exact reference?_of_ne hdollar
    · rw [hc, (RefersNowhere.cons (by decide) (.of_not_mem he)) _, ih hcs]

lemma RefersNowhere.stringChars {s : String} (h : ¬ mark <:+: s.toList) :
    RefersNowhere (Json.stringChars s) := by
  intro tail
  rw [stringChars_append, references_of_none (reference?_of_ne (by decide)),
    references_escape h (by simp), references_of_none (reference?_of_ne (by decide))]

lemma not_mark_of_not_mem {cs : List Char} (h : '$' ∉ cs) : ¬ mark <:+: cs :=
  fun hmark => h (hmark.subset List.mem_cons_self)

lemma RefersNowhere.arrayChars {ps : List (List Char)} (h : ∀ p ∈ ps, RefersNowhere p) :
    RefersNowhere (Json.arrayChars ps) := by
  rw [Json.arrayChars, ← listed_true]
  exact append (cons (by decide) (listed h true)) (of_not_mem (by decide))

lemma RefersNowhere.objectChars {members : List (String × List Char)}
    (h : ∀ m ∈ members, ¬ mark <:+: m.1.toList ∧ RefersNowhere m.2) :
    RefersNowhere (Json.objectChars members) := by
  rw [objectChars_eq]
  refine append (cons (by decide) (listed (fun p hp => ?_) true)) (of_not_mem (by decide))
  obtain ⟨m, hm, rfl⟩ := List.mem_map.mp hp
  exact append (stringChars (h m hm).1) (cons (by decide) (h m hm).2)

lemma RefersNowhere.decimalChars (n : Nat) : RefersNowhere (Text.decimalChars n) := by
  refine of_not_mem fun hmem => ?_
  cases (isNumeral_decimalChars n).forall_isDigit '$' hmem

lemma RefersNowhere.jsonChars (t : Tag) : RefersNowhere t.jsonChars := by
  have hname : ∀ name, t.name? = some name → '$' ∉ name.toList := by
    intro name hname
    cases t with
    | standard t =>
      cases hname
      cases t <;> decide
    | other c =>
      obtain ⟨n, hn, rfl⟩ := Option.map_eq_some_iff.mp hname
      have hall : ∀ n ∈ Sql.furtherNames, '$' ∉ n.1.toList := by decide
      exact hall n (List.mem_of_find?_eq_some hn)
  rw [Tag.jsonChars]
  split
  · rename_i name hsome
    exact stringChars (not_mark_of_not_mem (hname name hsome))
  · rw [toList_integer]
    split
    · exact cons (by decide) (decimalChars _)
    · exact decimalChars _

lemma RefersNowhere.optionChars {chars : α → List Char} {o : Option α}
    (h : ∀ a, o = some a → RefersNowhere (chars a)) :
    RefersNowhere (Settings.optionChars chars o) := by
  cases o with
  | none => exact of_not_mem (show '$' ∉ "null".toList by decide)
  | some a => exact h a rfl

/-- No text in the settings holds the mark of a reference. The password is not written. -/
structure Unmarked (S : Settings) : Prop where
  driver : ¬ mark <:+: S.driver.toList
  url : ¬ mark <:+: S.url.toList
  username : ∀ user, S.username = some user → ¬ mark <:+: user.toList
  statement : ¬ mark <:+: S.statement.toList

/-- What is written for a field. -/
def fieldChars (S : Settings) : Field → List Char
  | .driver => Json.stringChars S.driver
  | .url => Json.stringChars S.url
  | .username => Settings.optionChars Json.stringChars S.username
  | .password => Settings.optionChars (fun p => Json.stringChars p.cover) S.password
  | .statement => Json.stringChars S.statement
  | .batchSize => Text.decimalChars S.batchSize
  | .columnTypes =>
    Settings.optionChars (fun types => Json.arrayChars (types.map Tag.jsonChars)) S.columnTypes

def fieldMember (S : Settings) (f : Field) : String × List Char := (f.name, fieldChars S f)

lemma jsonChars_eq (S : Settings) :
    S.jsonChars = Json.objectChars (Field.all.map (fieldMember S)) := rfl

lemma RefersNowhere.fieldChars {S : Settings} (h : Unmarked S) (f : Field) :
    RefersNowhere (fieldChars S f) := by
  cases f with
  | driver => exact .stringChars h.driver
  | url => exact .stringChars h.url
  | username => exact .optionChars fun user huser => .stringChars (h.username user huser)
  | password =>
    have hcover : '$' ∉ "***REDACTED***".toList := by decide
    exact .optionChars fun _ _ => .stringChars (not_mark_of_not_mem hcover)
  | statement => exact .stringChars h.statement
  | batchSize => exact .decimalChars _
  | columnTypes =>
    refine .optionChars fun types _ => .arrayChars fun p hp => ?_
    obtain ⟨t, -, rfl⟩ := List.mem_map.mp hp
    exact .jsonChars t

lemma references_jsonChars {S : Settings} (h : Unmarked S) : references S.jsonChars = [] := by
  rw [jsonChars_eq]
  refine (RefersNowhere.objectChars fun m hm => ?_).references_eq_nil
  obtain ⟨f, -, rfl⟩ := List.mem_map.mp hm
  have hname : '$' ∉ f.name.toList := by cases f <;> decide
  exact ⟨not_mark_of_not_mem hname, .fieldChars h f⟩

/-! ### Tags -/

lemma ofText_of_name {t : Tag} {name : String} (hname : t.name? = some name) :
    Tag.ofText name = .ok t := by
  refine ofText_eq_ok_iff.mpr ?_
  cases t with
  | standard t =>
    cases hname
    exact ofText?_name t
  | other c =>
    obtain ⟨n, hn, rfl⟩ := Option.map_eq_some_iff.mp hname
    have hc : n.2 = c := by simpa using List.find?_some hn
    rw [← hc]
    exact ofText?_further n (List.mem_of_find?_eq_some hn)

lemma ofScalar_code (t : Tag) : Tag.ofScalar (.integer t.code.toInt) = .ok t.normalize := by
  have hlow := t.code.le_toInt
  have hhigh := t.code.toInt_lt
  rw [Tag.ofScalar, if_pos (by omega), Int32.ofInt_toInt, Tag.ofCode_code]

lemma readsBack_tag (t : Tag) (depth : Depth) :
    ReadsBack (Tag.read depth) t.jsonChars t.normalize := by
  have hscalar {printed : List Char} {j : Json} {s : Document.Scalar}
      (hj : j.found = .scalar s) (h : ReadsBack Cursor.lexeme printed (.scalar s))
      (hs : Tag.ofScalar s = .ok t.normalize) :
      ReadsBack (Tag.read depth) printed t.normalize := by
    refine .congr (.chain (b := j) ⟨h.begins, fun {cur _} hrest hends => ?_⟩ fun mid => ?_)
      (tag_like depth)
    · exact (readsBack_scalar h hj (2 * cur.rest.length + 1) depth).reads hrest hends
    · rw [Tag.ofJson, hj]
      simp only [hs]
      rfl
  rw [Tag.jsonChars]
  split
  · rename_i name hname
    refine hscalar (j := .string name) rfl (readsBack_string name) ?_
    rw [Tag.ofScalar, ofText_of_name hname, isNormal_ofText (ofText_of_name hname)]
    rfl
  · have hlow := t.code.le_toInt
    have hhigh := t.code.toInt_lt
    exact hscalar (j := .number (.integer t.code.toInt)) rfl (readsBack_integer (by omega))
      (ofScalar_code t)

/-! ### Fields -/

lemma readsBack_readScalar {take : Document.Found → Except Document.Mismatch α}
    {printed : List Char} {s : Document.Scalar} {a : α}
    (h : ReadsBack Cursor.lexeme printed (.scalar s)) (hs : take (.scalar s) = .ok a) :
    ReadsBack (Settings.readScalar take) printed a := by
  refine .congr (h.chain fun mid => ?_) (readScalar_like take)
  simp only [Json.Lexeme.found, hs]
  rfl

lemma readsBack_none (read : Reader α) :
    ReadsBack (Settings.readOption read) "null".toList none := by
  refine .congr ⟨rfl, fun {cur tail} hrest _ => ?_⟩ (readOption_like read)
  obtain ⟨mid, hmid, rfl⟩ := (reads_literal "null".toList).ok_of (a := ()) rfl hrest
  have hcons : cur.rest = 'n' :: ("ull".toList ++ mid.rest) := hrest
  have hstay : cur.skipWhile Cursor.isBlank = cur := skipWhile_of_neg hcons rfl
  simp only [optional, past, hstay, branch, hcons, List.head?_cons, Option.any_some,
    beq_self_eq_true, if_true]
  rw [chain_of_ok hmid]
  rfl

lemma ReadsBack.option {read : Reader α} {printed : List Char} {a : α}
    (h : ReadsBack read printed a) (hn : printed.head? ≠ some 'n') :
    ReadsBack (Settings.readOption read) printed (some a) := by
  refine .congr ⟨h.begins, fun {cur tail} hrest hends => ?_⟩ (readOption_like read)
  obtain ⟨c, cs, rfl, hc⟩ := h.exists_cons
  have hcons : cur.rest = c :: (cs ++ tail) := hrest
  have hstay : cur.skipWhile Cursor.isBlank = cur :=
    skipWhile_of_neg hcons (isBlank_of_beginsValue hc)
  have hnot : (c == 'n') = false := by simpa using hn
  obtain ⟨mid, hmid, rfl⟩ := outcome_eq_some.mp (h.reads hrest hends)
  simp only [optional, past, hstay, branch, hcons, List.head?_cons, Option.any_some, hnot,
    Bool.false_eq_true, if_false]
  rw [chain_of_ok hmid]
  rfl

lemma ReadsBack.mapResult {read : Reader α} {printed : List Char} {a : α}
    (h : ReadsBack read printed a) (f : α → β) :
    ReadsBack (fun cur => Settings.mapResult f (read cur)) printed (f a) where
  begins := h.begins
  reads hrest hends := by
    rw [outcome_mapResult, h.reads hrest hends]
    rfl

lemma readsBack_text (s : String) :
    ReadsBack (Settings.readScalar Settings.textOf) (Json.stringChars s) s :=
  readsBack_readScalar (readsBack_string s) rfl

lemma readsBack_optionChars {read : Reader β} {chars : α → List Char} {f : α → β} {o : Option α}
    (h : ∀ a, o = some a → ReadsBack read (chars a) (f a) ∧ (chars a).head? ≠ some 'n') :
    ReadsBack (Settings.readOption read) (Settings.optionChars chars o) (o.map f) := by
  cases o with
  | none => exact readsBack_none read
  | some a => exact (h a rfl).1.option (h a rfl).2

lemma readsBack_size {n : Nat} (hn : n < 2 ^ 64) :
    ReadsBack (Settings.readScalar Settings.sizeOf) (Text.decimalChars n) n := by
  refine readsBack_readScalar (readsBack_natural hn) ?_
  rw [Settings.sizeOf, Settings.sizeOfInteger, if_pos (by omega)]
  rfl

/-- What is read back: the password, if there is one, is the text that covers it. -/
def masked (S : Settings) : Settings :=
  { S with password := S.password.map fun _ => ⟨"***REDACTED***"⟩ }

/-- What is read for a field. -/
def fieldItem (S : Settings) : Field → Item
  | .driver => .driver S.driver
  | .url => .url S.url
  | .username => .username S.username
  | .password => .password (S.password.map Secret.cover)
  | .statement => .statement S.statement
  | .batchSize => .batchSize S.batchSize
  | .columnTypes => .columnTypes S.columnTypes

/-- The fields put in their places. -/
def putFields (S : Settings) (fs : List Field) (p : Partial) : Partial :=
  fs.foldl (fun p f => p.put (fieldItem S f)) p

lemma itemField_fieldItem (S : Settings) (f : Field) : itemField (fieldItem S f) = f := by
  cases f <;> rfl

lemma readsBack_field {S : Settings} (hS : Fits S) {depth : Depth} (hdepth : 1 < depth)
    (f : Field) : ReadsBack (Settings.readItem f depth) (fieldChars S f) (fieldItem S f) := by
  have hquote (s : String) : (Json.stringChars s).head? ≠ some 'n' := by simp [Json.stringChars]
  cases f with
  | driver => exact (readsBack_text S.driver).mapResult _
  | url => exact (readsBack_text S.url).mapResult _
  | username =>
    have huser := readsBack_optionChars (o := S.username) (f := id)
      fun user _ => ⟨readsBack_text user, hquote user⟩
    rw [Option.map_id] at huser
    exact huser.mapResult Item.username
  | password =>
    have hpassword := readsBack_optionChars (o := S.password) (f := Secret.cover)
      fun p _ => ⟨readsBack_text p.cover, hquote p.cover⟩
    exact hpassword.mapResult Item.password
  | statement => exact (readsBack_text S.statement).mapResult _
  | batchSize => exact (readsBack_size hS.batchSize).mapResult _
  | columnTypes =>
    have htypes : ReadsBack (Settings.readOption fun cur => cur.sequence depth Tag.read)
        (fieldChars S .columnTypes) (S.columnTypes.map id) := by
      refine readsBack_optionChars fun types htypes =>
        ⟨readsBack_sequence hdepth ?_, by simp [Json.arrayChars]⟩
      exact List.forall₂_map_left_iff.mpr
        (List.forall₂_same.mpr fun t ht => by
          have htag := readsBack_tag t (depth - 1)
          rwa [hS.columnTypes types htypes t ht] at htag)
    rw [Option.map_id] at htypes
    exact htypes.mapResult Item.columnTypes

lemma advancesAll_fields {S : Settings} (hS : Fits S) {depth : Depth} (hdepth : 1 < depth)
    {fs : List Field} (hfs : fs.Nodup) {p : Partial} (hp : ∀ f ∈ fs, p.has f = false) :
    AdvancesAll 1 (fun fuel => fieldOf depth (Settings.readMembers depth fuel false))
      (Settings.readMembers depth) p (fs.map (fieldMember S))
      (putFields S fs p) := by
  induction fs generalizing p with
  | nil => exact .nil p
  | cons f fs ih =>
    obtain ⟨hf, hnodup⟩ := List.nodup_cons.mp hfs
    obtain ⟨hhere, hothers⟩ := List.forall_mem_cons.mp hp
    refine .cons (fun {fuel cur tail} _ hrest hends => ?_) (ih hnodup fun g hg => ?_)
    · have hname : Field.ofName? f.name = some f := by cases f <;> decide
      obtain ⟨mid, hmid, hchain⟩ := (readsBack_field hS hdepth f).advances
        (f := fun item => Settings.readMembers depth fuel false (p.put item)) hrest hends
      refine ⟨mid, hmid, ?_⟩
      rw [← hchain]
      simp only [fieldOf, hname, hhere, Bool.false_eq_true, if_false]
    · have hne : f ≠ g := fun heq => hf (heq ▸ hg)
      rw [has_put, hothers g hg, itemField_fieldItem, Bool.false_or, decide_eq_false hne]

lemma complete_fields (S : Settings) :
    (putFields S Field.all .empty).complete = .ok (masked S) := by
  obtain ⟨driver, url, username, password, statement, batchSize, columnTypes⟩ := S
  cases password <;> rfl

/-! ### Settings -/

lemma outcome_allMembers_written {S : Settings} (hS : Fits S) {depth : Depth} (hdepth : 1 < depth)
    {cur : Cursor} {tail : List Char}
    (hrest : cur.rest = listed true ((Field.all.map (fieldMember S)).map memberChars) ++
      '\x7d' :: tail) :
    outcome (chain (allMembers depth) completed cur) = some (masked S, '\x7d' :: tail) := by
  have hmembers : outcome (allMembers depth cur) =
      some (putFields S Field.all .empty, '\x7d' :: tail) := by
    refine outcome_members_listed (show 0 < 1 by decide) (readMembers_like depth)
      (advancesAll_fields hS hdepth (by decide) (by decide)) ?_ hrest
    rw [hrest, List.length_append]
    omega
  obtain ⟨mid, hmid, hrest⟩ := outcome_eq_some.mp hmembers
  exact outcome_chain.mpr ⟨_, mid, hmid,
    outcome_eq_some.mpr ⟨mid, completed_eq_ok.mpr ⟨complete_fields S, rfl⟩, hrest⟩⟩

lemma outcome_read_written {S : Settings} (hS : Fits S) {cur : Cursor}
    (hrest : cur.rest = S.jsonChars) :
    outcome (Settings.read Depth.limit cur) = some (masked S, []) := by
  have hobject := hrest
  rw [jsonChars_eq, objectChars_eq] at hobject
  rw [outcome_read_object (lexeme_of_brace hobject)]
  refine (readsBack_bracketed (by decide) rfl rfl fun hrest => ?_).reads
    (hobject.trans (List.append_nil _).symm) (by rintro c ⟨⟩)
  exact outcome_allMembers_written hS (by decide) hrest

/-- Settings that have been loaded are written so that the same settings are read from the text in
every environment, but for the password, which is the text that covers it. -/
theorem settings_round_trip {env : Environment} {document : String} {S : Settings}
    (hS : Settings.ofJsonText env document = .ok S ∨ Settings.ofYamlText env document = .ok S)
    (hunmarked : Unmarked S) (env' : Environment) :
    Settings.ofJsonText env' S.jsonText = .ok (masked S) ∧
      (S.password = none → Settings.ofJsonText env' S.jsonText = .ok S) := by
  have hexpand : (Cursor.start (env'.expand S.jsonText)).rest = S.jsonChars := by
    simp only [Cursor.start, Environment.expand, Settings.jsonText, String.toList_ofList,
      expandChars_of_references env' (references_jsonChars hunmarked)]
  have hcheck : (masked S).check = .ok (masked S) := by
    obtain ⟨-, hfields⟩ := check_eq_ok_iff.mp (check_of_loaded hS)
    exact check_eq_ok_iff.mpr ⟨rfl, hfields⟩
  have hread : Settings.ofJsonText env' S.jsonText = .ok (masked S) :=
    ofJsonText_eq_ok.mpr
      ⟨[], outcome_read_written (fits_of_loaded hS) hexpand, by rintro c ⟨⟩, hcheck⟩
  refine ⟨hread, fun hnone => ?_⟩
  have hsame : masked S = S := by
    cases S
    cases hnone
    rfl
  rw [hread, hsame]

/-- A list of the fields in order, with escapes, the largest batch, and tags of all kinds. -/
def specialText : String :=
  "[\"m\",\"u\",\"a\\\"\\u0001é$\",\"$\x7bPW\x7d\",\"\x7b$\x7d\",18446744073709551615," ++
    "[\"bit\",12,70,-2147483648]]"

/-- What is read from it. -/
def specialSettings : Settings :=
  ⟨"m", "u", some "a\"\x01é$", some ⟨"s"⟩, "\x7b$\x7d", 18446744073709551615,
    some [.standard .bit, .standard .varchar, .other 70, .other (-2147483648)]⟩

/-- Read again where every variable is set. -/
theorem settings_round_trip_special :
    Settings.ofJsonText (oneVariable "s") specialText = .ok specialSettings ∧
      Unmarked specialSettings ∧
      Settings.ofJsonText (fun _ => some "x") specialSettings.jsonText =
        .ok { specialSettings with password := some ⟨"***REDACTED***"⟩ } := by
  have hS : Settings.ofJsonText (oneVariable "s") specialText = .ok specialSettings :=
    eq_ok_of_toOption (by decide +kernel)
  have hunmarked : Unmarked specialSettings := by
    refine ⟨by decide, by decide, ?_, by decide⟩
    rintro _ ⟨⟩
    decide
  exact ⟨hS, hunmarked, (settings_round_trip (.inl hS) hunmarked fun _ => some "x").1⟩

end BatchInsert.Proofs
