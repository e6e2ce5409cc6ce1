import BatchInsert.Environment
import BatchInsert.Proofs.Reading

/-!
# References to the environment

The references of a text are found from left to right, and the scan goes on behind each one. Where
there is a single one, and it has no default, all other text stays as it is.
-/

namespace BatchInsert.Proofs

open Environment

/-- The references of a text, in the order in which they are replaced. -/
def references (cs : List Char) : List Reference :=
  match _h : reference? cs with
  | some (r, rest) => r :: references rest
  | none =>
    match cs with
    | [] => []
    | _ :: cs => references cs
termination_by cs.length
decreasing_by
  · exact length_of_reference? _h
  · simp

section Scan

variable {cs rest : List Char} {r : Reference}

lemma references_of_some (h : reference? cs = some (r, rest)) :
    references cs = r :: references rest := by
  rw [references]
  split
  · rename_i r' rest' h'
    rw [h] at h'
    cases h'
    rfl
  · rename_i h'
    rw [h] at h'
    cases h'

lemma references_of_none {c : Char} (h : reference? (c :: cs) = none) :
    references (c :: cs) = references cs := by
  rw [references]
  split
  · rename_i h'
    rw [h] at h'
    cases h'
  · rfl

lemma references_nil : references [] = [] := by
  rw [references]
  rfl

variable (env : Environment)

lemma expandChars_of_some (h : reference? cs = some (r, rest)) :
    expandChars env cs = (value env r).toList ++ expandChars env rest := by
  rw [expandChars]
  split
  · rename_i r' rest' h'
    rw [h] at h'
    cases h'
    rfl
  · rename_i h'
    rw [h] at h'
    cases h'

lemma expandChars_of_none {c : Char} (h : reference? (c :: cs) = none) :
    expandChars env (c :: cs) = c :: expandChars env cs := by
  rw [expandChars]
  split
  · rename_i h'
    rw [h] at h'
    cases h'
  · rfl

lemma expandChars_nil : expandChars env [] = [] := by
  rw [expandChars]
  rfl

lemma expandChars_of_references (h : references cs = []) : expandChars env cs = cs := by
  induction cs with
  | nil => exact expandChars_nil env
  | cons c cs ih =>
    cases hc : reference? (c :: cs) with
    | some x => rw [references_of_some hc] at h; cases h
    | none =>
      rw [references_of_none hc] at h
      rw [expandChars_of_none env hc, ih h]

end Scan

/-! ### References in full -/

/-- The mark of a reference. -/
def mark : List Char := ['$', '\x7b']

def isName (name : List Char) : Bool :=
  (name.head?.map startsName).getD false && name.all continuesName

/-- A default as it stands behind a name. -/
def writtenDefault : Option String → List Char
  | none => []
  | some d => ':' :: '-' :: d.toList

/-- What is between the braces. -/
def insideBraces (r : Reference) : List Char := r.name.toList ++ writtenDefault r.default

def written (r : Reference) : List Char := mark ++ (insideBraces r ++ ['\x7d'])

/-- The name can be one, and the default does not end before the reference does. -/
structure WellFormed (r : Reference) : Prop where
  name : isName r.name.toList = true
  default : ∀ d, r.default = some d → '\x7d' ∉ d.toList

section Written

variable {cs rest : List Char} {r : Reference} {d : Option String}

lemma reference?_of_ne {c : Char} (hc : c ≠ '$') : reference? (c :: cs) = none := by
  unfold reference?
  split
  · rename_i heq
    exact absurd (List.cons.inj heq).1 hc
  · rfl

lemma reference?_of_head? {c : Char} (hcs : cs.head? ≠ some '\x7b') :
    reference? (c :: cs) = none := by
  unfold reference?
  split
  · rename_i heq
    rw [(List.cons.inj heq).2] at hcs
    exact absurd rfl hcs
  · rfl

lemma forall_mem_ne {c : Char} (h : c ∉ cs) : ∀ e ∈ cs, (e != c) = true := by
  intro e he
  exact bne_iff_ne.mpr fun heq => h (heq ▸ he)

lemma referenceEnd?_written (hd : ∀ s, d = some s → '\x7d' ∉ s.toList) (rest : List Char) :
    referenceEnd? (writtenDefault d ++ '\x7d' :: rest) = some (d, rest) := by
  cases d with
  | none => rfl
  | some s =>
    have hbrace : ∀ c, ('\x7d' :: rest).head? = some c → (c != '\x7d') = false := by
      rintro c ⟨⟩
      rfl
    obtain ⟨htake, hdrop⟩ := span_append (forall_mem_ne (hd s rfl)) hbrace
    simp only [writtenDefault, List.cons_append, referenceEnd?, htake, hdrop, String.ofList_toList]

lemma of_referenceEnd? (h : referenceEnd? cs = some (d, rest)) :
    (∀ s, d = some s → '\x7d' ∉ s.toList) ∧ cs = writtenDefault d ++ '\x7d' :: rest := by
  unfold referenceEnd? at h
  split at h
  · cases h
    exact ⟨by simp, rfl⟩
  · rename_i tail
    split at h
    · cases h
    · rename_i c rest' hdrop
      cases h
      have hc : c = '\x7d' := by
        have hfirst := head?_dropWhile (· != '\x7d') tail c (by rw [hdrop]; rfl)
        simpa using hfirst
      constructor
      · rintro _ ⟨⟩ hmem
        rw [String.toList_ofList] at hmem
        simpa using List.mem_takeWhile_imp hmem
      · have htail : tail.takeWhile (· != '\x7d') ++ '\x7d' :: rest = tail := by
          rw [hc] at hdrop
          rw [← hdrop, List.takeWhile_append_dropWhile]
        simp only [writtenDefault, List.cons_append, String.toList_ofList, htail]
  · cases h

lemma head?_writtenDefault {c : Char}
    (hc : (writtenDefault d ++ '\x7d' :: rest).head? = some c) : continuesName c = false := by
  cases d with
  | none =>
    cases hc
    decide
  | some s =>
    cases hc
    decide

lemma reference?_written (h : WellFormed r) (rest : List Char) :
    reference? (written r ++ rest) = some (r, rest) := by
  obtain ⟨hstart, hall⟩ := Bool.and_eq_true_iff.mp h.name
  have hends : ∀ c, (writtenDefault r.default ++ '\x7d' :: rest).head? = some c →
      continuesName c = false := fun _ => head?_writtenDefault
  obtain ⟨htake, hdrop⟩ := span_append (List.all_eq_true.mp hall) hends
  have hhead : ((r.name.toList ++ (writtenDefault r.default ++ '\x7d' :: rest)).head?.map
      startsName).getD false = true := by
    cases hcs : r.name.toList with
    | nil => rw [hcs] at hstart; cases hstart
    | cons c cs => rw [hcs] at hstart; exact hstart
  simp only [written, insideBraces, mark, List.cons_append, List.append_assoc, List.nil_append,
    reference?, hhead, if_true, htake, hdrop, referenceEnd?_written h.default,
    String.ofList_toList, Option.map_some]

lemma of_reference? (h : reference? cs = some (r, rest)) :
    WellFormed r ∧ cs = written r ++ rest := by
  unfold reference? at h
  split at h
  · rename_i tail
    split at h
    · rename_i hstart
      obtain ⟨⟨d, rest'⟩, hend, heq⟩ := Option.map_eq_some_iff.mp h
      cases heq
      obtain ⟨hdefault, hdrop⟩ := of_referenceEnd? hend
      have htail : tail = tail.takeWhile continuesName ++ (writtenDefault d ++ '\x7d' :: rest) := by
        rw [← hdrop, List.takeWhile_append_dropWhile]
      refine ⟨⟨?_, hdefault⟩, ?_⟩
      · rw [String.toList_ofList, isName, Bool.and_eq_true_iff]
        refine ⟨?_, List.all_eq_true.mpr fun c hc => List.mem_takeWhile_imp hc⟩
        cases hname : tail.takeWhile continuesName with
        | nil =>
          -- neither a colon nor a brace starts a name
          rw [htail, hname] at hstart
          cases d with
          | none => cases hstart
          | some s => cases hstart
        | cons c cs =>
          rw [htail, hname] at hstart
          exact hstart
      · simp only [written, insideBraces, mark, String.toList_ofList, List.cons_append,
          List.append_assoc, List.nil_append]
        exact congrArg (fun cs => '$' :: '\x7b' :: cs) htail
    · cases h
  · cases h

end Written

/-! ### Plain references -/

/-- A reference without a default. -/
def plainReference (name : String) : List Char :=
  '$' :: '\x7b' :: name.toList ++ ['\x7d']

section Plain

variable {name : String} {rest : List Char}

lemma written_plain (name : String) : written ⟨name, none⟩ = plainReference name := by
  simp only [written, insideBraces, writtenDefault, List.append_nil]
  rfl

lemma reference?_plain (hname : isName name.toList = true) (rest : List Char) :
    reference? (plainReference name ++ rest) = some (⟨name, none⟩, rest) := by
  have hwhole : WellFormed ⟨name, none⟩ := ⟨hname, by simp⟩
  rw [← written_plain]
  exact reference?_written hwhole rest

lemma of_reference?_plain {cs : List Char} (h : reference? cs = some (⟨name, none⟩, rest)) :
    isName name.toList = true ∧ cs = plainReference name ++ rest := by
  obtain ⟨hwhole, hcs⟩ := of_reference? h
  exact ⟨hwhole.name, written_plain name ▸ hcs⟩

lemma references_ne_nil (hname : isName name.toList = true) (pre : List Char) :
    references (pre ++ (plainReference name ++ rest)) ≠ [] := by
  induction pre with
  | nil =>
    rw [List.nil_append, references_of_some (reference?_plain hname rest)]
    exact List.cons_ne_nil _ _
  | cons c pre ih =>
    rw [List.cons_append]
    cases hc : reference? (c :: (pre ++ (plainReference name ++ rest))) with
    | some x =>
      rw [references_of_some hc]
      exact List.cons_ne_nil _ _
    | none => rwa [references_of_none hc]

lemma not_mem_tail_plain (hname : isName name.toList = true) :
    '$' ∉ (plainReference name).tail := by
  obtain ⟨-, hall⟩ := Bool.and_eq_true_iff.mp hname
  intro hmem
  have hin : '$' ∈ name.toList := by simpa [plainReference] using hmem
  exact absurd (List.all_eq_true.mp hall _ hin) (by decide)

lemma rest_of_reference?_plain {c : Char} {pre post : List Char}
    (h : reference? (c :: pre ++ (plainReference name ++ post)) = some (⟨name, none⟩, rest)) :
    ∃ pre', rest = pre' ++ (plainReference name ++ post) := by
  obtain ⟨hname, htext⟩ := of_reference?_plain h
  obtain ⟨mid, hreference, hrest⟩ | ⟨mid, -, hrest⟩ := List.append_eq_append_iff.mp htext
  · cases mid with
    | nil => exact ⟨[], hrest.symm⟩
    | cons d mid =>
      have hd : d = '$' := (List.cons.inj hrest).1.symm
      refine absurd ?_ (not_mem_tail_plain hname)
      rw [hreference, List.cons_append, List.tail_cons, hd]
      exact List.mem_append_right _ List.mem_cons_self
  · exact ⟨mid, hrest⟩

lemma isName_of_references {cs : List Char} (h : references cs = [⟨name, none⟩]) :
    isName name.toList = true := by
  induction cs with
  | nil => rw [references_nil] at h; cases h
  | cons c cs ih =>
    cases hc : reference? (c :: cs) with
    | none =>
      rw [references_of_none hc] at h
      exact ih h
    | some x =>
      obtain ⟨r, rest⟩ := x
      rw [references_of_some hc, List.cons.injEq] at h
      obtain ⟨rfl, -⟩ := h
      exact (of_reference?_plain hc).1

/-- The one reference of a text is replaced, and nothing else is. -/
theorem expandChars_plain (env : Environment) {pre post : List Char}
    (h : references (pre ++ (plainReference name ++ post)) = [⟨name, none⟩]) :
    expandChars env (pre ++ (plainReference name ++ post)) =
      pre ++ (((env name).getD "").toList ++ post) := by
  have hname := isName_of_references h
  induction pre with
  | nil =>
    have hhere := reference?_plain hname post
    rw [List.nil_append, references_of_some hhere, List.cons.injEq] at h
    rw [List.nil_append, expandChars_of_some env hhere, expandChars_of_references env h.2]
    rfl
  | cons c pre ih =>
    rw [List.cons_append] at h ⊢
    cases hc : reference? (c :: (pre ++ (plainReference name ++ post))) with
    | none =>
      rw [references_of_none hc] at h
      rw [expandChars_of_none env hc, ih h, List.cons_append]
    | some x =>
      obtain ⟨r, rest⟩ := x
      rw [references_of_some hc, List.cons.injEq] at h
      obtain ⟨rfl, hrest⟩ := h
      obtain ⟨pre', rfl⟩ := rest_of_reference?_plain hc
      exact absurd hrest (references_ne_nil hname pre')

end Plain

end BatchInsert.Proofs
