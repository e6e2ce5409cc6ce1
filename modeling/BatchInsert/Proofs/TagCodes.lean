import BatchInsert.Proofs.JsonText
import BatchInsert.Proofs.Registrations
import BatchInsert.Proofs.SettingsText

/-!
# Codes of tags

A tag stands for the type that its code is assigned to. Normalizing it, reading what is written for
it, and reading its name all give the tag that is made of its code, so that tags of one code cannot
be told apart by what becomes of them.
-/

namespace BatchInsert.Proofs

open Sql (Standard Tag furtherNames)
open Text (isBlank isBlankText lower trim)

/-! ### Codes -/

lemma code_ofCode (c : Int32) : (Tag.ofCode c).code = c := by
  cases hc : Standard.ofCode? c with
  | some s =>
    rw [Tag.ofCode, hc]
    exact Standard.ofCode?_eq_some_iff.mp hc
  | none =>
    rw [Tag.ofCode, hc]
    rfl

lemma code_normalize (t : Tag) : t.normalize.code = t.code := by
  rw [← Tag.ofCode_code, code_ofCode]

lemma code_eq_iff (t u : Tag) : t.code = u.code ↔ t.normalize = u.normalize := by
  constructor
  · intro h
    rw [← Tag.ofCode_code, h, Tag.ofCode_code]
  · intro h
    rw [← code_normalize, h, code_normalize]

lemma isNormal_iff {t : Tag} : IsNormal t ↔ ∀ s : Standard, t ≠ .other s.code := by
  cases t with
  | standard s => exact ⟨fun _ s' => Tag.noConfusion, fun _ => rfl⟩
  | other c =>
    constructor
    · rintro h s ⟨⟩
      rw [IsNormal, normalize_code] at h
      cases h
    · intro h
      cases hc : Standard.ofCode? c with
      | some s => exact absurd (congrArg Tag.other (Standard.ofCode?_eq_some_iff.mp hc).symm) (h s)
      | none => rw [IsNormal, Tag.normalize, Tag.ofCode, hc]

/-! ### What is written for a tag -/

lemma tag_ofJsonText (t : Tag) :
    Json.readWith Tag.read (String.ofList t.jsonChars) = .ok t.normalize :=
  (readsBack_tag t _).readWith

/-! ### Names among blanks -/

lemma dropWhile_padded {pad cs : List Char} (hpad : pad.all isBlank = true)
    (hcs : cs.head?.any isBlank = false) : (pad ++ cs).dropWhile isBlank = cs := by
  rw [List.dropWhile_append_of_pos (List.all_eq_true.mp hpad)]
  cases cs with
  | nil => rfl
  | cons c cs => exact List.dropWhile_cons_of_neg (by simpa using hcs)

lemma trim_padded {before w after : String} (hbefore : isBlankText before = true)
    (hafter : isBlankText after = true) (hne : w.toList ≠ [])
    (hw : ∀ c ∈ w.toList, isBlank c = false) : trim (before ++ w ++ after) = w := by
  have hhead {cs : List Char} (hcs : cs ≠ []) (h : ∀ c ∈ cs, isBlank c = false)
      (ds : List Char) : (cs ++ ds).head?.any isBlank = false := by
    obtain ⟨c, cs, rfl⟩ := List.exists_cons_of_ne_nil hcs
    exact h c List.mem_cons_self
  have hfront : Text.trimStart (before ++ w ++ after).toList = w.toList ++ after.toList := by
    rw [Text.trimStart, String.toList_append, String.toList_append, List.append_assoc]
    exact dropWhile_padded hbefore (hhead hne hw _)
  have hback : Text.trimEnd (w.toList ++ after.toList) = w.toList := by
    have hreverse : w.toList.reverse ≠ [] := List.reverse_ne_nil_iff.mpr hne
    have hclear := hhead hreverse (fun c hc => hw c (List.mem_reverse.mp hc)) []
    rw [List.append_nil] at hclear
    rw [Text.trimEnd, List.reverse_append, dropWhile_padded ?_ hclear, List.reverse_reverse]
    rw [List.all_reverse]
    exact hafter
  rw [trim, hfront, hback, String.ofList_toList]

lemma lower_append (s t : String) : lower (s ++ t) = lower s ++ lower t := by
  refine String.toList_injective ?_
  simp [toList_lower]

lemma lower_trim_padded {before w after name : String} (hbefore : isBlankText before = true)
    (hafter : isBlankText after = true) (hw : lower w = lower name) (hne : name.toList ≠ [])
    (hname : ∀ c ∈ name.toList, isBlank c = false) :
    lower (trim (before ++ w ++ after)) = lower name := by
  rw [← trim_lower, lower_append, lower_append, hw, ← lower_append, ← lower_append, trim_lower,
    trim_padded hbefore hafter hne hname]

/-- There is something in the text, and no blank. -/
def isUnbroken (w : String) : Bool := w.toList != [] && w.toList.all (!isBlank ·)

lemma isUnbroken_name {t : Tag} {name : String} (h : t.name? = some name) :
    isUnbroken name = true := by
  cases t with
  | standard s =>
    cases h
    have hall : ∀ s ∈ Standard.all, isUnbroken s.name = true := by decide
    exact hall s s.mem_all
  | other c =>
    obtain ⟨n, hn, rfl⟩ := Option.map_eq_some_iff.mp h
    have hall : ∀ n ∈ furtherNames, isUnbroken n.1 = true := by decide
    exact hall n (List.mem_of_find?_eq_some hn)

lemma of_isUnbroken {w : String} (h : isUnbroken w = true) :
    w.toList ≠ [] ∧ ∀ c ∈ w.toList, isBlank c = false := by
  obtain ⟨hne, hall⟩ := (Bool.and_eq_true _ _).mp h
  exact ⟨by simpa using hne, fun c hc => by simpa using List.all_eq_true.mp hall c hc⟩

lemma ofText_padded {t : Tag} {name before w after : String} (hname : t.name? = some name)
    (hbefore : isBlankText before = true) (hafter : isBlankText after = true)
    (hw : lower w = lower name) : Tag.ofText (before ++ w ++ after) = .ok t.normalize := by
  obtain ⟨hne, hclear⟩ := of_isUnbroken (isUnbroken_name hname)
  have hpadded := lower_trim_padded hbefore hafter hw hne hclear
  have hself : trim name = name := by
    have hnone : trim ("" ++ name ++ "") = name := trim_padded rfl rfl hne hclear
    rwa [String.empty_append, String.append_empty] at hnone
  rw [← hself] at hpadded
  have htag := ofText_of_name hname
  rw [isNormal_ofText htag, ofText_eq_ok_iff, ofText?_congr hpadded]
  exact ofText_eq_ok_iff.mp htag

/-! ### One system -/

/-- Every code is that of the tag that is made of it, which is normal. A tag normalizes to the tag
that is made of its code, and once is enough; tags have the same code when they normalize to the
same tag. That tag is also what is read from the text that is written for a tag, and from its name
in any letters with blanks around it. -/
theorem tags_by_code :
    (∀ c, (Tag.ofCode c).code = c ∧ IsNormal (Tag.ofCode c)) ∧
    (∀ t, IsNormal t ↔ ∀ s : Standard, t ≠ .other s.code) ∧
    ∀ t : Tag,
      t.normalize = Tag.ofCode t.code ∧ t.normalize.normalize = t.normalize ∧
      t.normalize.code = t.code ∧ (∀ u : Tag, t.code = u.code ↔ t.normalize = u.normalize) ∧
      Json.readWith Tag.read (String.ofList t.jsonChars) = .ok t.normalize ∧
      ∀ name before w after, t.name? = some name → isBlankText before = true →
        isBlankText after = true → lower w = lower name →
        Tag.ofText (before ++ w ++ after) = .ok t.normalize := by
  refine ⟨fun c => ⟨code_ofCode c, isNormal_ofCode c⟩, fun t => isNormal_iff, fun t => ?_⟩
  exact ⟨(Tag.ofCode_code t).symm, normalize_normalize t, code_normalize t, code_eq_iff t,
    tag_ofJsonText t, fun name before w after => ofText_padded⟩

/-- A code that is that of a type, and one that has a name without being that of a standard type. -/
theorem tags_by_code_of_others :
    Json.readWith Tag.read "4" = .ok (.standard .integer) ∧
      (Tag.other (-9)).name? = some "NVARCHAR" ∧ isBlankText "\u2003" = true ∧
      isBlankText "\r\n" = true ∧ lower "nVarChar" = lower "NVARCHAR" ∧
      Tag.ofText ("\u2003" ++ "nVarChar" ++ "\r\n") = .ok (.other (-9)) := by
  have hwritten : String.ofList (Tag.other 4).jsonChars = "4" := by decide +kernel
  have hnormal : (Tag.other 4).normalize = .standard .integer := by decide
  obtain ⟨-, -, hall⟩ := tags_by_code
  obtain ⟨-, -, -, -, hread, -⟩ := hall (.other 4)
  rw [hwritten, hnormal] at hread
  have hletters : lower "nVarChar" = lower "NVARCHAR" := by decide +kernel
  have hname : (Tag.other (-9)).name? = some "NVARCHAR" := by decide
  have hblanks : isBlankText "\u2003" = true ∧ isBlankText "\r\n" = true := by decide
  obtain ⟨-, -, -, -, -, hnames⟩ := hall (.other (-9))
  exact ⟨hread, hname, hblanks.1, hblanks.2, hletters,
    hnames "NVARCHAR" "\u2003" "nVarChar" "\r\n" hname hblanks.1 hblanks.2 hletters⟩

end BatchInsert.Proofs
