import BatchInsert.Builtin
import Mathlib.Data.List.Induction
import Mathlib.Data.String.Basic

/-!
# Registrations

A registry answers by the last registration under each name, names taken in lower case; which call
made it, and what was registered under other names, counts for nothing. A query leaves out the
blanks at its ends and a registration keeps those of its name, so a name with such blanks is listed
and never found.
-/

namespace BatchInsert.Proofs

open Registry (key)
open Text (lower trim)

variable {δ : Type}

/-- A call that adds to a registry. -/
inductive Registration (δ : Type)
  | register (name : String) (driver : δ)
  | registerAll (names : List String) (driver : δ)
  | withDriver (name : String) (driver : δ)

namespace Registration

def apply (r : Registry δ) : Registration δ → Registry δ
  | register name driver => r.register name driver
  | registerAll names driver => r.registerAll names driver
  | withDriver name driver => r.withDriver name driver

def names : Registration δ → List String
  | register name _ | withDriver name _ => [name]
  | registerAll names _ => names

def driver : Registration δ → δ
  | register _ driver | registerAll _ driver | withDriver _ driver => driver

/-- Whether one of the names is `k` in lower case. -/
def names? (c : Registration δ) (k : String) : Bool := c.names.any (lower · == k)

end Registration

def registryAfter (calls : List (Registration δ)) : Registry δ :=
  calls.foldl Registration.apply .empty

/-- The driver of the last call with a name that is `k` in lower case. -/
def lastDriver? (calls : List (Registration δ)) (k : String) : Option δ :=
  (calls.reverse.find? (·.names? k)).map Registration.driver

/-! ### The last registration -/

lemma lastDriver?_append (calls later : List (Registration δ)) (k : String) :
    lastDriver? (calls ++ later) k = (lastDriver? later k).or (lastDriver? calls k) := by
  simp only [lastDriver?, List.reverse_append, List.find?_append]
  cases later.reverse.find? (·.names? k) <;> rfl

lemma lastDriver?_cons (c : Registration δ) (later : List (Registration δ)) (k : String) :
    lastDriver? (c :: later) k =
      (lastDriver? later k).or (if c.names? k then some c.driver else none) := by
  rw [← List.singleton_append, lastDriver?_append]
  simp only [lastDriver?, List.reverse_singleton, List.find?_singleton]
  cases c.names? k <;> rfl

lemma find?_registerAll (r : Registry δ) (names : List String) (driver : δ) (k : String) :
    Ordered.find? k (r.registerAll names driver).entries =
      if names.any (lower · == k) then some driver else Ordered.find? k r.entries := by
  induction names generalizing r with
  | nil => rfl
  | cons name names ih =>
    rw [Registry.registerAll, List.foldl_cons]
    refine (ih (r.register name driver)).trans ?_
    rw [List.any_cons]
    by_cases hname : lower name = k
    · subst hname
      simp [Registry.register, Ordered.find?_insert_self]
    · simp [Registry.register, Ordered.find?_insert_of_ne (Ne.symm hname), hname]

lemma find?_apply (r : Registry δ) (c : Registration δ) (k : String) :
    Ordered.find? k (c.apply r).entries =
      if c.names? k then some c.driver else Ordered.find? k r.entries := by
  cases c with
  | register name driver => exact find?_registerAll r [name] driver k
  | registerAll names driver => exact find?_registerAll r names driver k
  | withDriver name driver => exact find?_registerAll r [name] driver k

/-- The abstraction that every call keeps: under each name the driver registered last. -/
lemma find?_registryAfter (calls : List (Registration δ)) (k : String) :
    Ordered.find? k (registryAfter calls).entries = lastDriver? calls k := by
  induction calls using List.reverseRecOn with
  | nil => rfl
  | append_singleton calls c ih =>
    rw [registryAfter, List.foldl_append, List.foldl_cons, List.foldl_nil, find?_apply,
      lastDriver?_append, lastDriver?_cons]
    split
    · rfl
    · exact ih

lemma ascending_apply {r : Registry δ} (h : r.names.Pairwise (· < ·)) (c : Registration δ) :
    (c.apply r).names.Pairwise (· < ·) := by
  have hall (names : List String) (driver : δ) {r : Registry δ} (h : r.names.Pairwise (· < ·)) :
      (r.registerAll names driver).names.Pairwise (· < ·) := by
    induction names generalizing r with
    | nil => exact h
    | cons name names ih => exact ih (Ordered.ascending_insert h)
  cases c with
  | register name driver => exact hall [name] driver h
  | registerAll names driver => exact hall names driver h
  | withDriver name driver => exact hall [name] driver h

lemma ascending_registryAfter (calls : List (Registration δ)) :
    (registryAfter calls).names.Pairwise (· < ·) := by
  induction calls using List.reverseRecOn with
  | nil => exact List.Pairwise.nil
  | append_singleton calls c ih =>
    rw [registryAfter, List.foldl_append]
    exact ascending_apply ih c

/-- What the calls make of a query for the name that is `k` in lower case. -/
def answerAfter (calls : List (Registration δ)) (k query : String) : Except Database.Error δ :=
  match lastDriver? calls k with
  | some driver => .ok driver
  | none => .error (.driverNotFound query)

lemma resolve_registryAfter (calls : List (Registration δ)) (query : String) :
    (registryAfter calls).resolve query = answerAfter calls (key query) query := by
  rw [Registry.resolve, Registry.find?, find?_registryAfter]
  rfl

lemma contains_registryAfter (calls : List (Registration δ)) (query : String) :
    (registryAfter calls).contains query = (lastDriver? calls (key query)).isSome := by
  rw [Registry.contains, Registry.find?, find?_registryAfter]

lemma mem_names_registryAfter (calls : List (Registration δ)) (k : String) :
    k ∈ (registryAfter calls).names ↔ (lastDriver? calls k).isSome = true := by
  rw [← find?_registryAfter]
  exact Ordered.isSome_find?_iff.symm

/-! ### Blanks around a name -/

lemma isBlank_toLower (c : Char) : Text.isBlank c.toLower = Text.isBlank c := by
  by_cases hupper : 65 ≤ c.toNat ∧ c.toNat ≤ 90
  · have all : ∀ n, 65 ≤ n → n ≤ 90 →
        Text.isBlank (Char.ofNat n).toLower = Text.isBlank (Char.ofNat n) := by decide
    simpa using all c.toNat hupper.1 hupper.2
  · rw [Text.toLower_of_not_upper hupper]

lemma trim_lower (s : String) : trim (lower s) = lower (trim s) := by
  have hblank : Text.isBlank ∘ Char.toLower = Text.isBlank := funext isBlank_toLower
  simp [trim, lower, Text.trimStart, Text.trimEnd, List.dropWhile_map, hblank, ← List.map_reverse]

lemma key_eq_of_lower {s t : String} (h : lower s = lower t) : key s = key t := by
  rw [key, key, ← trim_lower, ← trim_lower, h]

lemma length_lower (s : String) : (lower s).toList.length = s.toList.length := by
  simp [lower]

lemma lower_trim_ne {name : String} (h : trim name ≠ name) : lower (trim name) ≠ lower name := by
  intro heq
  have hfront : Text.trimStart name.toList <:+: name.toList := (List.dropWhile_suffix _).isInfix
  have hback : Text.trimEnd (Text.trimStart name.toList) <+: Text.trimStart name.toList := by
    rw [← List.reverse_suffix, Text.trimEnd, List.reverse_reverse]
    exact List.dropWhile_suffix _
  have hpart : (trim name).toList <:+: name.toList := by
    rw [trim, String.toList_ofList]
    exact hback.isInfix.trans hfront
  have hlength : (trim name).toList.length = name.toList.length := by
    rw [← length_lower, heq, length_lower]
  exact h (String.toList_injective (hpart.eq_of_length hlength))

/-! ### Queries for a registered name -/

/-- After a call has registered a driver under a name, the name is listed for good, and queries for
it in any case of letters get that driver, until a later call registers another one under the name.
This takes a name without blanks at its ends: queries for one that has them get what is registered
under the name without them, which is another name. -/
theorem registered_name_found (calls later : List (Registration δ)) {c : Registration δ}
    {name query : String} (hname : name ∈ c.names) (hquery : lower query = lower name) :
    let r := registryAfter (calls ++ c :: later)
    lower name ∈ r.names ∧
    (trim name = name →
      r.resolve query = .ok ((lastDriver? later (lower name)).getD c.driver) ∧
      r.contains query = true) ∧
    (trim name ≠ name →
      r.resolve query = answerAfter (calls ++ c :: later) (lower (trim name)) query ∧
      lower (trim name) ≠ lower name) := by
  intro r
  have hc : c.names? (lower name) = true := List.any_eq_true.mpr ⟨name, hname, beq_self_eq_true _⟩
  have hlast : lastDriver? (calls ++ c :: later) (lower name) =
      some ((lastDriver? later (lower name)).getD c.driver) := by
    rw [lastDriver?_append, lastDriver?_cons, if_pos hc]
    cases lastDriver? later (lower name) <;> rfl
  have hkey : key query = lower (trim name) := key_eq_of_lower hquery
  refine ⟨?_, ?_, ?_⟩
  · rw [mem_names_registryAfter, hlast]
    rfl
  · intro htrim
    rw [htrim] at hkey
    rw [resolve_registryAfter, contains_registryAfter, hkey, answerAfter, hlast]
    exact ⟨rfl, rfl⟩
  · intro htrim
    rw [resolve_registryAfter, hkey]
    exact ⟨rfl, lower_trim_ne htrim⟩

/-- The last of three calls that register the name in other letters counts, and not the one that
registers it with blanks. -/
theorem registered_name_found_in_other_letters :
    let calls : List (Registration Nat) := [.registerAll ["mem", "org.example.Mem"] 1]
    let later : List (Registration Nat) := [.register "MEM" 3, .register " mem " 4]
    let r := registryAfter (calls ++ .withDriver "Mem" 2 :: later)
    "Mem" ∈ (Registration.withDriver "Mem" 2).names ∧ lower "mEm" = lower "Mem" ∧
      trim "Mem" = "Mem" ∧ r.resolve "mEm" = .ok 3 ∧ r.contains "mEm" = true ∧
      r.names = [" mem ", "mem", "org.example.mem"] := by
  intro calls later r
  have hname : "Mem" ∈ (Registration.withDriver "Mem" 2).names := List.mem_singleton.mpr rfl
  have hquery : lower "mEm" = lower "Mem" := by decide +kernel
  have htrim : trim "Mem" = "Mem" := by decide +kernel
  obtain ⟨-, hfound, -⟩ := registered_name_found calls later hname hquery
  obtain ⟨hresolve, hcontains⟩ := hfound htrim
  have hlast : lastDriver? later (lower "Mem") = some 3 := by decide +kernel
  rw [hlast] at hresolve
  exact ⟨hname, hquery, htrim, hresolve, hcontains, by decide +kernel⟩

/-- A name with blanks around it is listed and not found, even by a query that has them too. -/
theorem padded_name_not_found :
    let r := registryAfter [.register " mem " 0]
    r.names = [" mem "] ∧ r.resolve " mem " = .error (.driverNotFound " mem ") ∧
      r.contains " mem " = false := by
  decide +kernel

/-! ### Registrations beside each other -/

/-- What callers see of a registry. -/
structure SameAnswers (r r' : Registry δ) : Prop where
  resolve : ∀ query, r.resolve query = r'.resolve query
  contains : ∀ query, r.contains query = r'.contains query
  names : r.names = r'.names

lemma sameAnswers_of_lastDriver? {calls calls' : List (Registration δ)}
    (h : ∀ k, lastDriver? calls k = lastDriver? calls' k) :
    SameAnswers (registryAfter calls) (registryAfter calls') where
  resolve query := by simp only [resolve_registryAfter, answerAfter, h]
  contains query := by simp only [contains_registryAfter, h]
  names := by
    have hentries : (registryAfter calls).entries = (registryAfter calls').entries :=
      Ordered.eq_of_find?_eq (ascending_registryAfter calls) (ascending_registryAfter calls')
        fun k => by rw [find?_registryAfter, find?_registryAfter, h]
    rw [Registry.names, Registry.names, hentries]

lemma names?_eq_false {c : Registration δ} {k : String} (h : ∀ name ∈ c.names, lower name ≠ k) :
    c.names? k = false := by
  simpa [Registration.names?] using h

lemma lastDriver?_comm (calls later : List (Registration δ)) {c c' : Registration δ}
    (h : ∀ name ∈ c.names, ∀ name' ∈ c'.names, lower name ≠ lower name') (k : String) :
    lastDriver? (calls ++ c :: c' :: later) k = lastDriver? (calls ++ c' :: c :: later) k := by
  simp only [lastDriver?_append, lastDriver?_cons]
  by_cases hk : c.names? k = true
  · obtain ⟨name, hname, heq⟩ := List.any_eq_true.mp hk
    have hother : c'.names? k = false :=
      names?_eq_false fun name' hname' => (beq_iff_eq.mp heq) ▸ (h name hname name' hname').symm
    simp [hk, hother]
  · simp [hk]

lemma lastDriver?_of_other (calls later : List (Registration δ)) {c : Registration δ} {k : String}
    (h : ∀ name ∈ c.names, lower name ≠ k) :
    lastDriver? (calls ++ c :: later) k = lastDriver? (calls ++ later) k := by
  simp [lastDriver?_append, lastDriver?_cons, names?_eq_false h]

/-- A registry is known by the last driver under each name: registries that agree in it cannot be
told apart, calls under different names commute, and a call under other names than the one that a
query asks for changes nothing of the answer, which is that driver, or an error with the query as
it was put. The names are listed once each, in ascending order. -/
theorem registrations_independent :
    (∀ calls calls' : List (Registration δ), (∀ k, lastDriver? calls k = lastDriver? calls' k) →
      SameAnswers (registryAfter calls) (registryAfter calls')) ∧
    (∀ (calls later : List (Registration δ)) (c c' : Registration δ),
      (∀ name ∈ c.names, ∀ name' ∈ c'.names, lower name ≠ lower name') →
      SameAnswers (registryAfter (calls ++ c :: c' :: later))
        (registryAfter (calls ++ c' :: c :: later))) ∧
    (∀ (calls later : List (Registration δ)) (c : Registration δ) (query : String),
      (∀ name ∈ c.names, lower name ≠ key query) →
      let r := registryAfter (calls ++ c :: later)
      let r' := registryAfter (calls ++ later)
      r.resolve query = r'.resolve query ∧ r.contains query = r'.contains query) ∧
    ∀ calls : List (Registration δ),
      let r := registryAfter calls
      r.names.Pairwise (· < ·) ∧ (∀ k, k ∈ r.names ↔ (lastDriver? calls k).isSome = true) ∧
      ∀ query, r.resolve query = answerAfter calls (key query) query ∧
        (r.contains query = true ↔ ∃ driver, r.resolve query = .ok driver) := by
  refine ⟨fun calls calls' h => sameAnswers_of_lastDriver? h, ?_, ?_, ?_⟩
  · intro calls later c c' h
    exact sameAnswers_of_lastDriver? (lastDriver?_comm calls later h)
  · intro calls later c query h
    simp only [resolve_registryAfter, contains_registryAfter, answerAfter,
      lastDriver?_of_other calls later h, and_self]
  · intro calls r
    refine ⟨ascending_registryAfter calls, mem_names_registryAfter calls, ?_⟩
    intro query
    rw [resolve_registryAfter, contains_registryAfter, answerAfter]
    refine ⟨rfl, ?_⟩
    cases lastDriver? calls (key query) <;> simp

/-- Two histories that come to the same, two calls that change places, and a query that a call under
another name leaves alone. -/
theorem registrations_independent_of_aliases :
    let calls : List (Registration Nat) := [.register "A" 1, .registerAll ["b", "a"] 2]
    let calls' : List (Registration Nat) := [.withDriver "B" 2, .register "a" 2]
    let one : Registration Nat := .register "x" 3
    let two : Registration Nat := .registerAll ["Y", "z"] 4
    SameAnswers (registryAfter calls) (registryAfter calls') ∧
      (registryAfter calls).names = ["a", "b"] ∧
      SameAnswers (registryAfter (calls ++ [one, two])) (registryAfter (calls ++ [two, one])) ∧
      key " X " = "x" ∧ (registryAfter (one :: [two])).resolve " X " = .ok 3 ∧
      (registryAfter ([one] ++ [two])).resolve " X " = (registryAfter [one]).resolve " X " := by
  intro calls calls' one two
  have hlast : ∀ k, lastDriver? calls k = lastDriver? calls' k := by
    intro k
    have hupper : lower "A" = lower "a" ∧ lower "B" = lower "b" := by decide +kernel
    simp only [calls, calls', lastDriver?_cons, Registration.names?, Registration.names,
      Registration.driver, List.any_cons, List.any_nil, hupper]
    by_cases ha : lower "a" = k <;> by_cases hb : lower "b" = k <;> simp [ha, hb]
  have hapart : ∀ name ∈ one.names, ∀ name' ∈ two.names, lower name ≠ lower name' := by
    decide +kernel
  have hkey : key " X " = "x" := by decide +kernel
  have hother : ∀ name ∈ two.names, lower name ≠ key " X " := by decide +kernel
  obtain ⟨hsame, hcomm, hframe, -⟩ := registrations_independent (δ := Nat)
  exact ⟨hsame calls calls' hlast, by decide +kernel, hcomm calls [] one two hapart, hkey,
    by decide +kernel, (hframe [one] [] two " X " hother).1⟩

end BatchInsert.Proofs
