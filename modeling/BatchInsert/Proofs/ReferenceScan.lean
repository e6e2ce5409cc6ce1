import BatchInsert.Proofs.Expansion

/-!
# One scan for references

References are replaced in one scan from left to right: what is put in is not scanned, and where no
reference begins one character is passed over. A reference ends at the first closing brace behind
its mark. So a text in which each mark has its brace is expanded alike whatever follows it.
-/

namespace BatchInsert.Proofs

open Environment

/-! ### Texts that can be cut off -/

/-- Behind each mark there is a closing brace, and no mark is cut at the end. -/
structure SelfContained (cs : List Char) : Prop where
  braces : ∀ pre post, cs = pre ++ (mark ++ post) → '\x7d' ∈ post
  last : cs.getLast? ≠ some '$'

lemma SelfContained.of_append {pre cs : List Char} (h : SelfContained (pre ++ cs)) :
    SelfContained cs where
  braces pre' post hcs := h.braces (pre ++ pre') post (by rw [hcs, List.append_assoc])
  last hlast := h.last (by rw [List.getLast?_append, hlast, Option.some_or])

lemma SelfContained.of_brace (cs : List Char) : SelfContained (cs ++ ['\x7d']) where
  braces pre post hcs := by
    have hlast := congrArg List.getLast? hcs
    rw [List.getLast?_concat, List.getLast?_append, List.getLast?_append] at hlast
    cases hpost : post.getLast? with
    | none => simp [hpost, mark] at hlast
    | some c =>
      rw [hpost, Option.some_or, Option.some_or, Option.some.injEq] at hlast
      exact hlast ▸ List.mem_of_getLast? hpost
  last := by simp

section Scan

variable {cs rest : List Char} {r : Reference}

lemma not_mem_insideBraces (h : WellFormed r) : '\x7d' ∉ insideBraces r := by
  obtain ⟨-, hall⟩ := Bool.and_eq_true_iff.mp h.name
  rw [insideBraces, List.mem_append]
  rintro (hname | hdefault)
  · exact absurd (List.all_eq_true.mp hall _ hname) (by decide)
  · cases hd : r.default with
    | none =>
      rw [hd] at hdefault
      cases hdefault
    | some d =>
      rw [hd] at hdefault
      have hmem : '\x7d' ∈ d.toList := by simpa [writtenDefault] using hdefault
      exact h.default d hd hmem

lemma eq_of_append_first {c : Char} {before before' post post' : List Char} (hbefore : c ∉ before)
    (hbefore' : c ∉ before') (h : before ++ c :: post = before' ++ c :: post') :
    before = before' ∧ post = post' := by
  have hc : ∀ post e, (c :: post).head? = some e → (e != c) = false := by
    rintro post e ⟨⟩
    exact bne_self_eq_false c
  obtain ⟨htake, hdrop⟩ := span_append (forall_mem_ne hbefore) (hc post)
  obtain ⟨htake', hdrop'⟩ := span_append (forall_mem_ne hbefore') (hc post')
  rw [h] at htake hdrop
  exact ⟨htake.symm.trans htake', (List.cons.inj (hdrop.symm.trans hdrop')).2⟩

/-- A reference that begins in a text that can be cut off ends there. -/
lemma eq_written_of_append {tail : List Char} (hcs : SelfContained cs) (hne : cs ≠ [])
    (hr : WellFormed r) (h : cs ++ tail = written r ++ rest) :
    ∃ post, cs = written r ++ post ∧ rest = post ++ tail := by
  cases cs with
  | nil => exact absurd rfl hne
  | cons c cs =>
    obtain ⟨rfl, hbehind⟩ := List.cons.inj h
    cases cs with
    | nil => exact absurd rfl hcs.last
    | cons c cs =>
      obtain ⟨rfl, hinside⟩ := List.cons.inj hbehind
      -- the first closing brace behind the mark is in the text, and is that of the reference
      obtain ⟨before, post, rfl, hbefore⟩ := List.eq_append_cons_of_mem (hcs.braces [] cs rfl)
      have hsplit : before ++ '\x7d' :: (post ++ tail) = insideBraces r ++ '\x7d' :: rest := by
        simpa using hinside
      obtain ⟨rfl, rfl⟩ := eq_of_append_first hbefore (not_mem_insideBraces hr) hsplit
      exact ⟨post, by simp [written, mark], rfl⟩

lemma reference?_append_none {c : Char} (hcs : SelfContained (c :: cs))
    (h : reference? (c :: cs) = none) (tail : List Char) :
    reference? (c :: (cs ++ tail)) = none := by
  by_contra hsome
  obtain ⟨⟨r, rest⟩, hr⟩ := Option.ne_none_iff_exists'.mp hsome
  obtain ⟨hwhole, htext⟩ := of_reference? hr
  obtain ⟨post, hpost, -⟩ := eq_written_of_append hcs (List.cons_ne_nil c cs) hwhole htext
  rw [hpost, reference?_written hwhole] at h
  cases h

lemma expandChars_append (env : Environment) (hcs : SelfContained cs) (tail : List Char) :
    expandChars env (cs ++ tail) = expandChars env cs ++ expandChars env tail := by
  -- a reference is replaced, the text is at its end, or a character is copied
  fun_induction expandChars env cs with
  | case1 cs r rest h ih =>
    obtain ⟨hwhole, rfl⟩ := of_reference? h
    rw [List.append_assoc, expandChars_of_some env (reference?_written hwhole _),
      ih hcs.of_append, List.append_assoc]
  | case2 h => rfl
  | case3 c cs h ih =>
    have hsplit : SelfContained ([c] ++ cs) := hcs
    rw [List.cons_append, expandChars_of_none env (reference?_append_none hcs h tail),
      ih hsplit.of_append, List.cons_append]

lemma references_eq_nil_of_not_mark (h : ¬ mark <:+: cs) : references cs = [] := by
  induction cs with
  | nil => exact references_nil
  | cons c cs ih =>
    cases hc : reference? (c :: cs) with
    | some x =>
      obtain ⟨-, htext⟩ := of_reference? hc
      rw [htext, written, List.append_assoc] at h
      exact absurd (List.prefix_append mark _).isInfix h
    | none =>
      rw [references_of_none hc]
      exact ih fun hmark => h (hmark.trans (List.suffix_cons c cs).isInfix)

lemma reference?_of_not_written (h : ∀ r rest, WellFormed r → cs ≠ written r ++ rest) :
    reference? cs = none := by
  by_contra hsome
  obtain ⟨⟨r, rest⟩, hr⟩ := Option.ne_none_iff_exists'.mp hsome
  obtain ⟨hwhole, htext⟩ := of_reference? hr
  exact h r rest hwhole htext

lemma expandChars_congr {env env' : Environment}
    (h : ∀ r ∈ references cs, env r.name = env' r.name) :
    expandChars env cs = expandChars env' cs := by
  fun_induction expandChars env cs with
  | case1 cs r rest hr ih =>
    rw [references_of_some hr, List.forall_mem_cons] at h
    rw [expandChars_of_some env' hr, ih h.2, value, value, h.1]
  | case2 hnone => exact (expandChars_nil env').symm
  | case3 c cs hnone ih =>
    rw [references_of_none hnone] at h
    rw [expandChars_of_none env' hnone, ih h]

lemma written_of_mem_references (h : r ∈ references cs) : WellFormed r ∧ written r <:+: cs := by
  fun_induction references cs with
  | case1 cs r' rest hr ih =>
    obtain ⟨hwhole, rfl⟩ := of_reference? hr
    rcases List.mem_cons.mp h with rfl | h
    · exact ⟨hwhole, (List.prefix_append _ _).isInfix⟩
    · exact ⟨(ih h).1, (ih h).2.trans (List.suffix_append _ _).isInfix⟩
  | case2 hnone => cases h
  | case3 c cs hnone ih => exact ⟨(ih h).1, (ih h).2.trans (List.suffix_cons _ _).isInfix⟩

end Scan

/-! ### Variables that hold bytes -/

/-- The texts of variables, each of which may be set to any bytes. -/
def textsOf (vars : String → Option ByteArray) : Environment := fun name =>
  (vars name).bind String.fromUTF8?

section Variables

variable {vars : String → Option ByteArray} {name s : String}

lemma fromUTF8?_toUTF8 (s : String) : String.fromUTF8? s.toUTF8 = some s := by
  have hvalid : s.toUTF8.IsValidUTF8 := s.isValidUTF8
  rw [String.fromUTF8?, dif_pos hvalid]
  rfl

lemma toUTF8_of_fromUTF8? {bytes : ByteArray} (h : String.fromUTF8? bytes = some s) :
    bytes = s.toUTF8 := by
  rw [String.fromUTF8?] at h
  split at h
  · cases h
    rfl
  · cases h

lemma textsOf_eq_some_iff : textsOf vars name = some s ↔ vars name = some s.toUTF8 := by
  rw [textsOf, Option.bind_eq_some_iff]
  constructor
  · rintro ⟨bytes, hbytes, hs⟩
    rw [hbytes, toUTF8_of_fromUTF8? hs]
  · intro h
    exact ⟨s.toUTF8, h, fromUTF8?_toUTF8 s⟩

end Variables

/-! ### Expansion of texts -/

section Texts

variable (env : Environment) {a b rest : String} {r : Reference}

lemma expand_append (ha : SelfContained a.toList) :
    expand env (a ++ b) = expand env a ++ expand env b := by
  rw [expand, String.toList_append, expandChars_append env ha, String.ofList_append]
  rfl

lemma expand_of_not_mark (ha : ¬ mark <:+: a.toList) : expand env a = a := by
  rw [expand, expandChars_of_references env (references_eq_nil_of_not_mark ha),
    String.ofList_toList]

lemma expand_written (hr : WellFormed r) :
    expand env (String.ofList (written r) ++ rest) = value env r ++ expand env rest := by
  rw [expand, String.toList_append, String.toList_ofList,
    expandChars_of_some env (reference?_written hr _), String.ofList_append, String.ofList_toList]
  rfl

lemma expand_copied {c : Char} {cs : List Char}
    (h : ∀ r rest, WellFormed r → c :: cs ≠ written r ++ rest) :
    expand env (String.ofList (c :: cs)) =
      String.singleton c ++ expand env (String.ofList cs) := by
  rw [expand, String.toList_ofList, expandChars_of_none env (reference?_of_not_written h), expand,
    String.toList_ofList, ← List.singleton_append, String.ofList_append]
  rfl

end Texts

lemma value_of_set {vars : String → Option ByteArray} {r : Reference} {s : String}
    (hs : vars r.name = some s.toUTF8) : value (textsOf vars) r = s := by
  rw [value, textsOf_eq_some_iff.mpr hs, Option.getD_some]

lemma value_of_unset {vars : String → Option ByteArray} {r : Reference}
    (h : ∀ s : String, vars r.name ≠ some s.toUTF8) :
    value (textsOf vars) r = r.default.getD "" := by
  have hnone : textsOf vars r.name = none :=
    Option.eq_none_iff_forall_ne_some.mpr fun s hs => h s (textsOf_eq_some_iff.mp hs)
  rw [value, hnone, Option.getD_none]

/-- Expansion replaces references in one scan from left to right. A text in which each mark has its
brace is expanded alike whatever follows it, and one without marks is left as it is. A reference
stands for the text of its variable, if it is set to one, and else for its default, and the scan
goes on behind it. A character at which no reference begins is copied, and the scan goes on at the
next one. Only the variables that references name make a difference, and these references are
written in the text. -/
theorem expansion_in_one_scan :
    (∀ (env : Environment) (a b : String), SelfContained a.toList →
      expand env (a ++ b) = expand env a ++ expand env b) ∧
    (∀ (env : Environment) (a : String), ¬ mark <:+: a.toList → expand env a = a) ∧
    (∀ (vars : String → Option ByteArray) (r : Reference) (rest : String), WellFormed r →
      let expanded := expand (textsOf vars) (String.ofList (written r) ++ rest)
      (∀ s : String, vars r.name = some s.toUTF8 →
        expanded = s ++ expand (textsOf vars) rest) ∧
      ((∀ s : String, vars r.name ≠ some s.toUTF8) →
        expanded = r.default.getD "" ++ expand (textsOf vars) rest)) ∧
    (∀ (env : Environment) (c : Char) (rest : List Char),
      (∀ r rest', WellFormed r → c :: rest ≠ written r ++ rest') →
      expand env (String.ofList (c :: rest)) =
        String.singleton c ++ expand env (String.ofList rest)) ∧
    (∀ (env env' : Environment) (a : String),
      (∀ r ∈ references a.toList, env r.name = env' r.name) → expand env a = expand env' a) ∧
    ∀ (a : String) (r : Reference), r ∈ references a.toList →
      WellFormed r ∧ written r <:+: a.toList := by
  refine ⟨fun env a b ha => expand_append env ha, fun env a ha => expand_of_not_mark env ha, ?_,
    fun env c rest hnot => expand_copied env hnot, ?_, fun a r hr => written_of_mem_references hr⟩
  · intro vars r rest hr expanded
    have hexpanded : expanded = value (textsOf vars) r ++ expand (textsOf vars) rest :=
      expand_written _ hr
    constructor
    · intro s hs
      rw [hexpanded, value_of_set hs]
    · intro hunset
      rw [hexpanded, value_of_unset hunset]
  · intro env env' a hsame
    rw [expand, expandChars_congr hsame, expand]

/-- The value of a variable is a reference, and is left as it is. The mark in the default of another
one is no second reference. -/
theorem expansion_in_one_scan_of_two :
    let vars : String → Option ByteArray := fun name =>
      if name = "A" then some "$\x7bB\x7d".toUTF8 else if name = "B" then some "x".toUTF8 else none
    let a := String.ofList (written ⟨"A", none⟩)
    let b := String.ofList (written ⟨"C", some "$\x7bB"⟩)
    SelfContained a.toList ∧ WellFormed ⟨"A", none⟩ ∧ WellFormed ⟨"C", some "$\x7bB"⟩ ∧
      expand (textsOf vars) (a ++ b) = "$\x7bB\x7d" ++ "$\x7bB" := by
  intro vars a b
  have ha : SelfContained a.toList := by
    rw [String.toList_ofList, written, ← List.append_assoc]
    exact .of_brace _
  have hplain : WellFormed ⟨"A", none⟩ := ⟨by decide, by simp⟩
  have hdefault : WellFormed ⟨"C", some "$\x7bB"⟩ := by
    refine ⟨by decide, ?_⟩
    rintro d ⟨⟩
    decide
  obtain ⟨happend, hmarkless, hreference, -⟩ := expansion_in_one_scan
  have hempty : expand (textsOf vars) "" = "" := hmarkless _ _ (by decide)
  have hvalue := (hreference vars ⟨"A", none⟩ "" hplain).1 "$\x7bB\x7d" rfl
  have hunset := (hreference vars ⟨"C", some "$\x7bB"⟩ "" hdefault).2 (by simp [vars])
  rw [String.append_empty, hempty, String.append_empty] at hvalue hunset
  refine ⟨ha, hplain, hdefault, ?_⟩
  rw [happend _ a b ha, hvalue, hunset]
  rfl

end BatchInsert.Proofs
