import BatchInsert.Settings.Schema
import Mathlib.Data.Rat.Defs
import Mathlib.Tactic.Lemma

/-!
# Conformance to a schema

What a JSON Schema asks of a value, for the keywords that restrict anything in the schemas here. A
schema with a reference asks what the schema asks that it refers to. Any other asks something of the
value itself, something of its members and items, and that it conform to one of several schemas.
-/

namespace BatchInsert.Proofs

open Settings (objectOf)

/-! ### Members of an object -/

lemma find?_foldl_insert {ms : List (String × Json)} (hnames : (ms.map Prod.fst).Nodup)
    (acc : List (String × Json)) (name : String) :
    Ordered.find? name (ms.foldl (fun acc (k, j) => Ordered.insert k j acc) acc) =
      ((ms.find? fun m => m.1 == name).map Prod.snd).or (Ordered.find? name acc) := by
  induction ms generalizing acc with
  | nil => rfl
  | cons m ms ih =>
    obtain ⟨k, j⟩ := m
    obtain ⟨hk, hms⟩ := List.nodup_cons.mp hnames
    rw [List.foldl_cons, ih hms, List.find?_cons]
    by_cases hname : k = name
    · subst hname
      have hnone : ms.find? (fun m => m.1 == k) = none := List.find?_eq_none.mpr fun m hm heq =>
        hk (List.mem_map.mpr ⟨m, hm, beq_iff_eq.mp heq⟩)
      simp [hnone, Ordered.find?_insert_self]
    · have hskip : (k == name) = false := beq_eq_false_iff_ne.mpr hname
      simp only [hskip, Ordered.find?_insert_of_ne (Ne.symm hname)]

lemma member?_objectOf {ms : List (String × Json)} (hnames : (ms.map Prod.fst).Nodup)
    (name : String) :
    (objectOf ms).member? name = (ms.find? fun m => m.1 == name).map Prod.snd := by
  rw [objectOf, Json.member?, find?_foldl_insert hnames, Ordered.find?, Option.or_none]

/-! ### What is asked of a value -/

/-- The value of a number that is finite. -/
def numberValue : Json.Number → ℚ
  | .integer i => i
  | .real x => (if x.isNegative then -1 else 1) * ((x.ratio.1 : ℚ) / x.ratio.2)

/-- Whether a value is of the type called `name`. A number without a fraction is an integer, too. -/
def isOfType (name : String) : Json → Bool
  | .null => name == "null"
  | .bool _ => name == "boolean"
  | .number n => name == "number" || name == "integer" && (numberValue n).den == 1
  | .string _ => name == "string"
  | .array _ => name == "array"
  | .object _ => name == "object"

/-- Whether a value is of the type, or of one of the types. -/
def isOfTypes (types j : Json) : Bool :=
  match types with
  | .string name => isOfType name j
  | .array names => names.any fun t =>
      match t with
      | .string name => isOfType name j
      | _ => false
  | _ => false

/-- What a schema asks of a value itself. -/
structure Meets (schema j : Json) : Prop where
  type : ∀ types, schema.member? "type" = some types → isOfTypes types j = true
  minLength : ∀ n s, schema.member? "minLength" = some (.number n) → j = .string s →
    numberValue n ≤ s.length
  minimum : ∀ n m, schema.member? "minimum" = some (.number n) → j = .number m →
    numberValue n ≤ numberValue m
  required : ∀ names members, schema.member? "required" = some (.array names) →
    j = .object members → ∀ name, .string name ∈ names → (j.member? name).isSome = true

/-- The part of a document that a reference within it points to, when no name on the way is
escaped. -/
def target? (root : Json) (reference : String) : Option Json :=
  match reference.toList.splitOn '/' with
  | ['#'] :: names => names.foldlM (fun j name => j.member? (String.ofList name)) root
  | _ => none

mutual

/-- The value conforms to the schema, which is a part of the document `root`. -/
inductive Conforms (root : Json) : Json → Json → Prop
  | reference {schema j part : Json} {r : String} (href : schema.member? "$ref" = some (.string r))
      (hpart : target? root r = some part) (h : Conforms root part j) : Conforms root schema j
  | keywords {schema j : Json} (href : schema.member? "$ref" = none) (hself : Meets schema j)
      (hproperties : ∀ properties name part v, schema.member? "properties" = some properties →
        properties.member? name = some part → j.member? name = some v → Conforms root part v)
      (hitems : ∀ part items, schema.member? "items" = some part → j = .array items →
        ∀ v ∈ items, Conforms root part v)
      (hanyOf : ∀ parts, schema.member? "anyOf" = some (.array parts) →
        ConformsToAny root parts j) : Conforms root schema j

/-- The value conforms to one of the schemas. -/
inductive ConformsToAny (root : Json) : List Json → Json → Prop
  | of_mem {parts : List Json} {j part : Json} (hmem : part ∈ parts) (h : Conforms root part j) :
      ConformsToAny root parts j

end

section Inversion

variable {root schema j : Json}

lemma conforms_reference {part : Json} {r : String}
    (href : schema.member? "$ref" = some (.string r)) (hpart : target? root r = some part) :
    Conforms root schema j ↔ Conforms root part j := by
  constructor
  · rintro (⟨href', hpart', h⟩ | ⟨href', -, -, -, -⟩)
    · rw [href] at href'
      cases href'
      rw [hpart] at hpart'
      cases hpart'
      exact h
    · rw [href] at href'
      cases href'
  · exact .reference href hpart

lemma conforms_keywords (href : schema.member? "$ref" = none) :
    Conforms root schema j ↔ Meets schema j ∧
      (∀ properties name part v, schema.member? "properties" = some properties →
        properties.member? name = some part → j.member? name = some v → Conforms root part v) ∧
      (∀ part items, schema.member? "items" = some part → j = .array items →
        ∀ v ∈ items, Conforms root part v) ∧
      ∀ parts, schema.member? "anyOf" = some (.array parts) →
        ∃ part ∈ parts, Conforms root part j := by
  constructor
  · rintro (⟨href', -, -⟩ | ⟨-, hself, hproperties, hitems, hanyOf⟩)
    · rw [href] at href'
      cases href'
    · refine ⟨hself, hproperties, hitems, fun parts hparts => ?_⟩
      obtain ⟨hmem, h⟩ := hanyOf parts hparts
      exact ⟨_, hmem, h⟩
  · rintro ⟨hself, hproperties, hitems, hanyOf⟩
    refine .keywords href hself hproperties hitems fun parts hparts => ?_
    obtain ⟨part, hmem, h⟩ := hanyOf parts hparts
    exact .of_mem hmem h

lemma conforms_plain (href : schema.member? "$ref" = none)
    (hproperties : schema.member? "properties" = none) (hitems : schema.member? "items" = none)
    (hanyOf : schema.member? "anyOf" = none) : Conforms root schema j ↔ Meets schema j := by
  rw [conforms_keywords href, hproperties, hitems, hanyOf]
  simp

end Inversion

end BatchInsert.Proofs
