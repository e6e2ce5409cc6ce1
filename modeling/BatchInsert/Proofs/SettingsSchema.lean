import BatchInsert.Proofs.Conformance
import BatchInsert.Proofs.JsonText
import BatchInsert.Proofs.SettingsText

/-!
# Written settings and their schema

Settings are written as an object with all fields, whose values are of the types, lengths and sizes
that the schema asks for, the password being covered. The one exception are codes of types that have
no name: they are written as numbers, and the schema asks for texts.
-/

namespace BatchInsert.Proofs

open Settings (Field objectOf fieldSchema)
open Sql (Tag)

variable {α : Type} {S : Settings}

/-! ### Settings as a JSON value -/

def tagJson (t : Tag) : Json :=
  match t.name? with
  | some name => .string name
  | none => .number (.integer t.code.toInt)

def optionJson (json : α → Json) : Option α → Json
  | none => .null
  | some a => json a

def fieldJson (S : Settings) : Field → Json
  | .driver => .string S.driver
  | .url => .string S.url
  | .username => optionJson .string S.username
  | .password => optionJson (fun p => .string p.cover) S.password
  | .statement => .string S.statement
  | .batchSize => .number (.integer S.batchSize)
  | .columnTypes => optionJson (fun types => .array (types.map tagJson)) S.columnTypes

/-- The settings as they are written, the fields by name. -/
def settingsJson (S : Settings) : Json :=
  objectOf (Field.all.map fun f => (f.name, fieldJson S f))

lemma chars_tagJson (t : Tag) : (tagJson t).chars = t.jsonChars := by
  rw [tagJson, Tag.jsonChars]
  cases t.name? <;> rfl

lemma itemChars_eq (items : List Json) : Json.itemChars items = items.map Json.chars := by
  induction items with
  | nil => rfl
  | cons x xs ih => rw [Json.itemChars, ih, List.map_cons]

lemma memberChars_eq (members : List (String × Json)) :
    Json.memberChars members = members.map fun m => (m.1, m.2.chars) := by
  induction members with
  | nil => rfl
  | cons m ms ih => rw [Json.memberChars, ih, List.map_cons]

lemma chars_optionJson {json : α → Json} {chars : α → List Char} (o : Option α)
    (h : ∀ a, (json a).chars = chars a) :
    (optionJson json o).chars = Settings.optionChars chars o := by
  cases o with
  | none => rfl
  | some a => exact h a

lemma chars_fieldJson (S : Settings) (f : Field) : (fieldJson S f).chars = fieldChars S f := by
  cases f with
  | username => exact chars_optionJson S.username fun _ => rfl
  | password => exact chars_optionJson S.password fun _ => rfl
  | batchSize => exact String.toList_ofList
  | columnTypes =>
    refine chars_optionJson S.columnTypes fun types => ?_
    rw [Json.chars, itemChars_eq, List.map_map]
    exact congrArg Json.arrayChars (List.map_congr_left fun t _ => chars_tagJson t)
  | _ => rfl

/-! ### What the text of settings holds -/

lemma allExact_of_forall {items : List Json} (h : ∀ x ∈ items, IsExact x) : AllExact items := by
  induction items with
  | nil => trivial
  | cons x xs ih =>
    obtain ⟨hx, hxs⟩ := List.forall_mem_cons.mp h
    exact ⟨hx, ih hxs⟩

lemma membersExact_of_forall {members : List (String × Json)} (h : ∀ m ∈ members, IsExact m.2) :
    MembersExact members := by
  induction members with
  | nil => trivial
  | cons m ms ih =>
    obtain ⟨hm, hms⟩ := List.forall_mem_cons.mp h
    exact ⟨hm, ih hms⟩

lemma itemLevels_le {items : List Json} {n : Nat} (h : ∀ x ∈ items, jsonLevels x ≤ n) :
    itemLevels items ≤ n := by
  induction items with
  | nil => exact Nat.zero_le n
  | cons x xs ih =>
    obtain ⟨hx, hxs⟩ := List.forall_mem_cons.mp h
    exact Nat.max_le.mpr ⟨hx, ih hxs⟩

lemma memberLevels_le {members : List (String × Json)} {n : Nat}
    (h : ∀ m ∈ members, jsonLevels m.2 ≤ n) : memberLevels members ≤ n := by
  induction members with
  | nil => exact Nat.zero_le n
  | cons m ms ih =>
    obtain ⟨hm, hms⟩ := List.forall_mem_cons.mp h
    exact Nat.max_le.mpr ⟨hm, ih hms⟩

lemma isExact_tagJson (t : Tag) : IsExact (tagJson t) := by
  have hlow := t.code.le_toInt
  have hhigh := t.code.toInt_lt
  rw [tagJson]
  split
  · trivial
  · exact ⟨by omega, by omega⟩

lemma jsonLevels_tagJson (t : Tag) : jsonLevels (tagJson t) = 0 := by
  rw [tagJson]
  cases t.name? <;> rfl

lemma isExact_fieldJson (hS : Fits S) (f : Field) : IsExact (fieldJson S f) := by
  cases f with
  | username => cases hname : S.username <;> simp [fieldJson, optionJson, hname, IsExact]
  | password => cases hpassword : S.password <;> simp [fieldJson, optionJson, hpassword, IsExact]
  | batchSize =>
    have hsize := hS.batchSize
    exact ⟨by omega, by omega⟩
  | columnTypes =>
    cases htypes : S.columnTypes with
    | none => simp [fieldJson, optionJson, htypes, IsExact]
    | some types =>
      rw [fieldJson, htypes]
      exact allExact_of_forall (List.forall_mem_map.mpr fun t _ => isExact_tagJson t)
  | _ => trivial

lemma jsonLevels_fieldJson (S : Settings) (f : Field) : jsonLevels (fieldJson S f) ≤ 1 := by
  cases f with
  | username => cases hname : S.username <;> simp [fieldJson, optionJson, hname, jsonLevels]
  | password =>
    cases hpassword : S.password <;> simp [fieldJson, optionJson, hpassword, jsonLevels]
  | columnTypes =>
    cases htypes : S.columnTypes with
    | none => simp [fieldJson, optionJson, htypes, jsonLevels]
    | some types =>
      rw [fieldJson, htypes]
      refine Nat.succ_le_succ (itemLevels_le (List.forall_mem_map.mpr fun t _ => ?_))
      rw [jsonLevels_tagJson]
  | _ => simp [fieldJson, jsonLevels]

lemma settings_ofText (hS : Fits S) : Json.ofText S.jsonText = .ok (settingsJson S) := by
  have hmembers : Json.memberChars (Field.all.map fun f => (f.name, fieldJson S f)) =
      Field.all.map (fieldMember S) := by
    rw [memberChars_eq, List.map_map]
    exact List.map_congr_left fun f _ => Prod.ext rfl (chars_fieldJson S f)
  rw [Settings.jsonText, jsonChars_eq, ← hmembers]
  refine object_ofText (membersExact_of_forall ?_) (Nat.lt_of_le_of_lt (memberLevels_le ?_)
    (show 1 < 127 by decide))
  · exact List.forall_mem_map.mpr fun f _ => isExact_fieldJson hS f
  · exact List.forall_mem_map.mpr fun f _ => jsonLevels_fieldJson S f

/-! ### The schema of each field -/

section Fields

variable {root : Json} {description : String}

lemma conforms_text {s : String} (hs : s ≠ "") :
    Conforms root (Settings.textSchema description) (.string s) := by
  refine (conforms_plain rfl rfl rfl rfl).mpr ⟨?_, ?_, ?_, ?_⟩
  · rintro _ ⟨⟩
    rfl
  · rintro _ _ ⟨⟩ ⟨⟩
    have hlength : s.length ≠ 0 := by simpa using hs
    have hpos : 1 ≤ s.length := Nat.one_le_iff_ne_zero.mpr hlength
    simpa [numberValue] using hpos
  · rintro _ _ ⟨⟩
  · rintro _ _ ⟨⟩

lemma meets_of_type {schema types j : Json} (htype : schema.member? "type" = some types)
    (hlength : schema.member? "minLength" = none) (hminimum : schema.member? "minimum" = none)
    (hrequired : schema.member? "required" = none) :
    Meets schema j ↔ isOfTypes types j = true := by
  constructor
  · intro h
    exact h.type types htype
  · intro h
    refine ⟨?_, ?_, ?_, ?_⟩
    · intro types' htypes'
      rw [htype] at htypes'
      cases htypes'
      exact h
    · intro n s hn
      rw [hlength] at hn
      cases hn
    · intro n m hn
      rw [hminimum] at hn
      cases hn
    · intro names members hnames
      rw [hrequired] at hnames
      cases hnames

lemma conforms_username (o : Option String) :
    Conforms root (fieldSchema .username) (optionJson .string o) := by
  refine (conforms_plain rfl rfl rfl rfl).mpr ((meets_of_type rfl rfl rfl rfl).mpr ?_)
  cases o <;> rfl

lemma conforms_password (o : Option Secret) :
    Conforms Settings.schema (fieldSchema .password) (optionJson (fun p => .string p.cover) o) := by
  have hsecret (s : String) : Conforms Settings.schema Settings.secretSchema (.string s) :=
    (conforms_plain rfl rfl rfl rfl).mpr ((meets_of_type rfl rfl rfl rfl).mpr rfl)
  have htarget :
      target? Settings.schema "#/definitions/SensitiveString" = some Settings.secretSchema := rfl
  refine (conforms_keywords rfl).mpr ⟨?_, ?_, ?_, ?_⟩
  · exact ⟨by rintro _ ⟨⟩, by rintro _ _ ⟨⟩, by rintro _ _ ⟨⟩, by rintro _ _ ⟨⟩⟩
  · rintro _ _ _ _ ⟨⟩
  · rintro _ _ ⟨⟩
  · rintro _ ⟨⟩
    cases o with
    | none =>
      refine ⟨objectOf [("type", .string "null")], by simp, ?_⟩
      exact (conforms_plain rfl rfl rfl rfl).mpr ((meets_of_type rfl rfl rfl rfl).mpr rfl)
    | some p =>
      refine ⟨objectOf [("$ref", .string "#/definitions/SensitiveString")], by simp, ?_⟩
      exact (conforms_reference rfl htarget).mpr (hsecret p.cover)

lemma conforms_batchSize {n : Nat} (hn : n ≠ 0) :
    Conforms root (fieldSchema .batchSize) (.number (.integer n)) := by
  have hone : numberValue (.real (Binary.Number.ofInt .double 1)) = 1 := by decide +kernel
  refine (conforms_plain rfl rfl rfl rfl).mpr ⟨?_, ?_, ?_, ?_⟩
  · rintro _ ⟨⟩
    rfl
  · rintro _ _ ⟨⟩
  · rintro _ _ ⟨⟩ ⟨⟩
    have hpos : 1 ≤ n := Nat.one_le_iff_ne_zero.mpr hn
    rw [hone]
    simpa [numberValue] using hpos
  · rintro _ _ ⟨⟩

lemma conforms_typeName (t : Tag) :
    Conforms root (objectOf [("type", .string "string")]) (tagJson t) ↔ t.name? ≠ none := by
  rw [conforms_plain rfl rfl rfl rfl, meets_of_type rfl rfl rfl rfl, tagJson]
  cases t.name? <;> simp [isOfTypes, isOfType]

lemma conforms_columnTypes (o : Option (List Tag)) :
    Conforms root (fieldSchema .columnTypes)
        (optionJson (fun types => .array (types.map tagJson)) o) ↔
      AllOf (fun t => t.name? ≠ none) o := by
  have htypes : Meets (fieldSchema .columnTypes)
      (optionJson (fun types => .array (types.map tagJson)) o) := by
    refine (meets_of_type rfl rfl rfl rfl).mpr ?_
    cases o <;> rfl
  have hitems : (fieldSchema .columnTypes).member? "items" =
      some (objectOf [("type", .string "string")]) := rfl
  rw [conforms_keywords rfl]
  constructor
  · rintro ⟨-, -, h, -⟩ types rfl t ht
    exact (conforms_typeName t).mp (h _ _ hitems rfl (tagJson t) (List.mem_map_of_mem ht))
  · intro h
    refine ⟨htypes, by rintro _ _ _ _ ⟨⟩, ?_, by rintro _ ⟨⟩⟩
    intro part items hpart hj v hv
    rw [hitems] at hpart
    cases hpart
    cases o with
    | none => cases hj
    | some types =>
      cases hj
      obtain ⟨t, ht, rfl⟩ := List.mem_map.mp hv
      exact (conforms_typeName t).mpr (h types rfl t ht)

end Fields

/-! ### Settings -/

lemma member?_fields (g : Field → Json) (name : String) :
    (objectOf (Field.all.map fun f => (f.name, g f))).member? name =
      (Field.ofName? name).map g := by
  have hnames : ((Field.all.map fun f => (f.name, g f)).map Prod.fst).Nodup := by
    rw [List.map_map]
    exact (show (Field.all.map Field.name).Nodup by decide)
  rw [member?_objectOf hnames, List.find?_map, Option.map_map]
  rfl

lemma conforms_field (hS : S.check = .ok S) {f : Field} (hf : f ≠ .columnTypes) :
    Conforms Settings.schema (fieldSchema f) (fieldJson S f) := by
  obtain ⟨-, hsize, hdriver, hstatement, hurl⟩ := check_eq_ok_iff.mp hS
  cases f with
  | driver => exact conforms_text hdriver
  | url => exact conforms_text hurl
  | username => exact conforms_username S.username
  | password => exact conforms_password S.password
  | statement => exact conforms_text hstatement
  | batchSize => exact conforms_batchSize hsize
  | columnTypes => exact absurd rfl hf

lemma conforms_settings (hS : S.check = .ok S) :
    Conforms Settings.schema Settings.schema (settingsJson S) ↔
      AllOf (fun t => t.name? ≠ none) S.columnTypes := by
  have hproperties : Settings.schema.member? "properties" =
      some (objectOf (Field.all.map fun f => (f.name, fieldSchema f))) := rfl
  have hcolumns : Conforms Settings.schema (fieldSchema .columnTypes) (fieldJson S .columnTypes) ↔
      AllOf (fun t => t.name? ≠ none) S.columnTypes := conforms_columnTypes S.columnTypes
  rw [conforms_keywords rfl]
  constructor
  · rintro ⟨-, h, -, -⟩
    refine hcolumns.mp (h _ "column_types" _ _ hproperties ?_ ?_)
    · rw [member?_fields]
      rfl
    · rw [settingsJson, member?_fields]
      rfl
  · intro hnames
    refine ⟨⟨?_, by rintro _ _ ⟨⟩, by rintro _ _ ⟨⟩, ?_⟩, ?_, by rintro _ _ ⟨⟩, by rintro _ ⟨⟩⟩
    · rintro _ ⟨⟩
      rfl
    · rintro _ _ ⟨⟩ - name hname
      rw [settingsJson, member?_fields, Option.isSome_map]
      have hrequired : name = Field.driver.name ∨ name = Field.statement.name ∨
          name = Field.url.name := by simpa using hname
      rcases hrequired with rfl | rfl | rfl <;> rfl
    · intro properties name part v hpart hschema hvalue
      rw [hproperties] at hpart
      cases hpart
      rw [member?_fields, Option.map_eq_some_iff] at hschema
      rw [settingsJson, member?_fields, Option.map_eq_some_iff] at hvalue
      obtain ⟨f, hf, rfl⟩ := hschema
      obtain ⟨g, hg, rfl⟩ := hvalue
      cases hf.symm.trans hg
      by_cases hcolumn : f = .columnTypes
      · subst hcolumn
        exact hcolumns.mpr hnames
      · exact conforms_field hS hcolumn

/-- The text of settings that have been loaded is JSON that conforms to the schema exactly when
every tag among the column types has a name. All else is as the schema asks: the fields that must be
there are, texts that must not be empty are not, the size of a batch is one at least, and null
stands only where it may. -/
theorem written_settings_conform {env : Environment} {document : String}
    (hS : Settings.ofJsonText env document = .ok S ∨ Settings.ofYamlText env document = .ok S) :
    ∃ j, Json.ofText S.jsonText = .ok j ∧
      (Conforms Settings.schema Settings.schema j ↔
        ∀ types, S.columnTypes = some types → ∀ t ∈ types, t.name? ≠ none) :=
  ⟨settingsJson S, settings_ofText (fits_of_loaded hS), conforms_settings (check_of_loaded hS)⟩

/-- A list of the fields in order, with a password and no user. -/
def typedText (types : String) : String :=
  "[\"m\",\"u\",null,\"p\",\"i\",1," ++ types ++ "]"

/-- What is read from it. -/
def typedSettings (types : List Tag) : Settings :=
  ⟨"m", "u", none, some ⟨"p"⟩, "i", 1, some types⟩

/-- The code of a standard type, and one that has a name without being that of a standard type. -/
theorem written_settings_conform_to_names :
    Settings.ofJsonText (fun _ => none) (typedText "[\"bit\",12,2003]") =
        .ok (typedSettings [.standard .bit, .standard .varchar, .other 2003]) ∧
      ∃ j, Json.ofText (typedSettings [.standard .bit, .standard .varchar, .other 2003]).jsonText =
        .ok j ∧ Conforms Settings.schema Settings.schema j := by
  have hS : Settings.ofJsonText (fun _ => none) (typedText "[\"bit\",12,2003]") =
      .ok (typedSettings [.standard .bit, .standard .varchar, .other 2003]) :=
    eq_ok_of_toOption (by decide +kernel)
  obtain ⟨j, hj, hconforms⟩ := written_settings_conform (.inl hS)
  refine ⟨hS, j, hj, hconforms.mpr ?_⟩
  rintro _ ⟨⟩
  decide

/-- A code that nobody has named is loaded, and is written as a number where the schema asks for a
text. -/
theorem nameless_code_breaks_schema :
    Settings.ofJsonText (fun _ => none) (typedText "[12345]") =
        .ok (typedSettings [.other 12345]) ∧
      ∃ j, Json.ofText (typedSettings [.other 12345]).jsonText = .ok j ∧
        ¬ Conforms Settings.schema Settings.schema j := by
  have hS : Settings.ofJsonText (fun _ => none) (typedText "[12345]") =
      .ok (typedSettings [.other 12345]) := eq_ok_of_toOption (by decide +kernel)
  refine ⟨hS, _, settings_ofText (fits_of_loaded (.inl hS)), fun h => ?_⟩
  have hnames := (conforms_settings (check_of_loaded (.inl hS))).mp h
  exact hnames _ rfl (.other 12345) List.mem_cons_self (by decide)

end BatchInsert.Proofs
