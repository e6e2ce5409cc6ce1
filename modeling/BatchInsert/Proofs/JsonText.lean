import BatchInsert.Proofs.Printed
import BatchInsert.Proofs.Substitution

/-!
# JSON values as texts

A JSON value without real numbers is read back from its compact form, as long as its arrays and
objects may all be opened. A reader puts the members of an object in the order of their names, which
is where they stand already in a value.
-/

namespace BatchInsert.Proofs

open Json (Cursor Depth Lexeme)
open Outline

variable {α : Type}

mutual

/-- No number is real, and what `Json` says of integers and of the names in an object holds. -/
def IsExact : Json → Prop
  | .null => True
  | .bool _ => True
  | .number (.integer i) => -2 ^ 63 ≤ i ∧ i < 2 ^ 64
  | .number (.real _) => False
  | .string _ => True
  | .array items => AllExact items
  | .object members => (members.map Prod.fst).Pairwise (· < ·) ∧ MembersExact members

def AllExact : List Json → Prop
  | [] => True
  | x :: xs => IsExact x ∧ AllExact xs

def MembersExact : List (String × Json) → Prop
  | [] => True
  | (_, x) :: xs => IsExact x ∧ MembersExact xs

end

mutual

/-- How deep arrays and objects are nested. -/
def jsonLevels : Json → Nat
  | .array items => itemLevels items + 1
  | .object members => memberLevels members + 1
  | _ => 0

def itemLevels : List Json → Nat
  | [] => 0
  | x :: xs => max (jsonLevels x) (itemLevels xs)

def memberLevels : List (String × Json) → Nat
  | [] => 0
  | (_, x) :: xs => max (jsonLevels x) (memberLevels xs)

end

lemma ReadsBack.of_opening {opening : Char} {lexeme : Lexeme} {f : Lexeme → Reader α}
    {cs : List Char} {a : α}
    (hlexeme : ∀ {cur : Cursor} {cs}, cur.rest = opening :: cs → cur.lexeme = .ok (lexeme, cur))
    (h : ReadsBack (f lexeme) (opening :: cs) a) :
    ReadsBack (Outline.chain Cursor.lexeme f) (opening :: cs) a where
  begins := h.begins
  reads hrest hends := by
    rw [chain_of_ok (hlexeme hrest)]
    exact h.reads hrest hends

section Value

variable {fuel : Nat} {depth : Depth}

lemma valueFrom_scalar {printed : List Char} {s : Document.Scalar} {j : Json}
    (h : ReadsBack Cursor.lexeme printed (.scalar s)) (hj : j.found = .scalar s)
    (hfuel : 2 * printed.length ≤ fuel) : ReadsBack (Cursor.valueFrom fuel depth) printed j := by
  have hpos := h.length_pos
  obtain ⟨fuel, rfl⟩ : ∃ n, fuel = n + 1 := ⟨fuel - 1, by omega⟩
  exact readsBack_scalar h hj fuel depth

lemma valueFrom_array {ps : List (List Char)} {items : List Json} (hdepth : 1 < depth)
    (h : List.Forall₂ (fun p a => ∀ fuel, 2 * p.length ≤ fuel →
      ReadsBack (Cursor.valueFrom fuel (depth - 1)) p a) ps items)
    (hfuel : 2 * (Json.arrayChars ps).length ≤ fuel) :
    ReadsBack (Cursor.valueFrom fuel depth) (Json.arrayChars ps) (.array items) := by
  simp only [Json.arrayChars, ← listed_true, List.length_append, List.length_cons] at hfuel
  obtain ⟨fuel, rfl⟩ : ∃ n, fuel = n + 1 := ⟨fuel - 1, by omega⟩
  refine .congr (.of_opening lexeme_of_bracket ?_) (valueFrom_like depth fuel)
  rw [valueOf]
  refine .chain (b := items) ?_ fun mid => rfl
  refine readsBack_bracketed hdepth rfl rfl fun {cur tail} hrest => ?_
  rw [← listed_true] at hrest
  refine outcome_items_listed (fun fuel first cur => Cursor.itemsFrom fuel (depth - 1) first cur)
    (by decide) (fun fuel first => itemsFrom_like first _ fuel) h ?_ hrest
  omega

/-- The members that are read behind `acc`. -/
def ReadsMembers (depth : Depth) (acc : List (String × Json))
    (printed : List (String × List Char)) (all : List (String × Json)) : Prop :=
  AdvancesAll 2
    (fun fuel acc name => chain (Cursor.valueFrom fuel depth) fun v =>
      Cursor.membersFrom fuel depth false (Ordered.insert name v acc))
    (fun fuel first acc => Cursor.membersFrom fuel depth first acc) acc printed all

lemma valueFrom_object {printed : List (String × List Char)} {members : List (String × Json)}
    (hdepth : 1 < depth) (h : ReadsMembers (depth - 1) [] printed members)
    (hfuel : 2 * (Json.objectChars printed).length ≤ fuel) :
    ReadsBack (Cursor.valueFrom fuel depth) (Json.objectChars printed) (.object members) := by
  rw [objectChars_eq] at hfuel ⊢
  simp only [List.length_append, List.length_cons] at hfuel
  obtain ⟨fuel, rfl⟩ : ∃ n, fuel = n + 1 := ⟨fuel - 1, by omega⟩
  refine .congr (.of_opening lexeme_of_brace ?_) (valueFrom_like depth fuel)
  rw [valueOf]
  refine .chain (b := members) ?_ fun mid => rfl
  refine readsBack_bracketed hdepth rfl rfl fun {cur tail} hrest => ?_
  exact outcome_members_listed (by decide) (fun fuel first acc => membersFrom_like first _ fuel acc)
    h (by omega) hrest

end Value

/-- The members put in their places among those before them. -/
def insertAll (acc members : List (String × Json)) : List (String × Json) :=
  members.foldl (fun acc (name, x) => Ordered.insert name x acc) acc

lemma insert_last {name : String} {acc : List (String × Json)} (x : Json)
    (h : ∀ k ∈ acc.map Prod.fst, k < name) :
    Ordered.insert name x acc = acc ++ [(name, x)] := by
  induction acc with
  | nil => rfl
  | cons entry acc ih =>
    obtain ⟨j, y⟩ := entry
    obtain ⟨hj, hacc⟩ := List.forall_mem_cons.mp h
    have hne : name ≠ j := by
      rintro rfl
      exact String.lt_irrefl _ hj
    rw [Ordered.insert, if_neg (String.lt_asymm hj), if_neg hne, ih hacc, List.cons_append]

lemma insertAll_of_order {acc members : List (String × Json)}
    (horder : ((acc ++ members).map Prod.fst).Pairwise (· < ·)) :
    insertAll acc members = acc ++ members := by
  induction members generalizing acc with
  | nil => exact (List.append_nil acc).symm
  | cons member members ih =>
    obtain ⟨name, x⟩ := member
    have hlast : ∀ k ∈ acc.map Prod.fst, k < name := by
      rw [List.map_append] at horder
      exact fun k hk => (List.pairwise_append.mp horder).2.2 k hk name List.mem_cons_self
    rw [← List.singleton_append, ← List.append_assoc] at horder ⊢
    rw [← ih horder, ← insert_last x hlast]
    rfl

mutual

lemma readsBack_json (j : Json) (hexact : IsExact j) {fuel : Nat} {depth : Depth}
    (hfuel : 2 * j.chars.length ≤ fuel) (hdepth : jsonLevels j < depth) :
    ReadsBack (Cursor.valueFrom fuel depth) j.chars j := by
  match j with
  | .null => exact valueFrom_scalar readsBack_null rfl hfuel
  | .bool b => exact valueFrom_scalar (readsBack_bool b) rfl hfuel
  | .number (.integer i) => exact valueFrom_scalar (readsBack_integer hexact) rfl hfuel
  | .string s => exact valueFrom_scalar (readsBack_string s) rfl hfuel
  | .array items =>
    rw [jsonLevels] at hdepth
    have hopen : 1 < depth := Nat.lt_of_le_of_lt (Nat.le_add_left 1 _) hdepth
    have hinside : itemLevels items < depth - 1 := by omega
    exact valueFrom_array hopen (readsBack_items items hexact hinside) hfuel
  | .object members =>
    rw [jsonLevels] at hdepth
    have hopen : 1 < depth := Nat.lt_of_le_of_lt (Nat.le_add_left 1 _) hdepth
    have hinside : memberLevels members < depth - 1 := by omega
    have hall : insertAll [] members = members := insertAll_of_order hexact.1
    have hmembers := readsMembers_json members hexact.2 [] hinside
    rw [hall] at hmembers
    exact valueFrom_object hopen hmembers hfuel

lemma readsBack_items (items : List Json) (hexact : AllExact items) {depth : Depth}
    (hdepth : itemLevels items < depth) :
    List.Forall₂ (fun p a => ∀ fuel, 2 * p.length ≤ fuel →
      ReadsBack (Cursor.valueFrom fuel depth) p a) (Json.itemChars items) items := by
  match items with
  | [] => exact .nil
  | x :: xs =>
    rw [itemLevels, Nat.max_lt] at hdepth
    exact .cons (fun fuel hfuel => readsBack_json x hexact.1 hfuel hdepth.1)
      (readsBack_items xs hexact.2 hdepth.2)

lemma readsMembers_json (members : List (String × Json)) (hexact : MembersExact members)
    (acc : List (String × Json)) {depth : Depth} (hdepth : memberLevels members < depth) :
    ReadsMembers depth acc (Json.memberChars members) (insertAll acc members) := by
  match members with
  | [] => exact .nil acc
  | (name, x) :: xs =>
    rw [memberLevels, Nat.max_lt] at hdepth
    refine .cons (t := Ordered.insert name x acc) ?_
      (readsMembers_json xs hexact.2 _ hdepth.2)
    intro fuel cur tail hfuel hrest hends
    obtain ⟨mid, hmid, hchain⟩ := (readsBack_json x hexact.1 hfuel hdepth.1).advances
      (f := fun v => Cursor.membersFrom fuel depth false (Ordered.insert name v acc)) hrest hends
    exact ⟨mid, hmid, congrArg outcome hchain⟩

end

lemma ReadsBack.readWith {read : Depth → Reader α} {printed : List Char} {a : α}
    (h : ReadsBack (read Depth.limit) printed a) :
    Json.readWith read (String.ofList printed) = .ok a := by
  refine readWith_eq_ok.mpr ⟨[], h.reads ?_ (by simp [Ends]), by simp⟩
  rw [List.append_nil]
  exact String.toList_ofList

lemma ReadsBack.value {depth : Depth} {printed : List Char} {j : Json}
    (h : ∀ fuel, 2 * printed.length ≤ fuel → ReadsBack (Cursor.valueFrom fuel depth) printed j) :
    ReadsBack (Cursor.value depth) printed j where
  begins := (h _ (Nat.le_refl _)).begins
  reads {cur tail} hrest hends := by
    refine (h (2 * cur.rest.length + 2) ?_).reads hrest hends
    rw [hrest, List.length_append]
    omega

/-- A JSON value is read back from its text. -/
theorem json_ofText {j : Json} (hexact : IsExact j) (hlevels : jsonLevels j < 128) :
    Json.ofText j.text = .ok j :=
  ReadsBack.readWith (.value fun _ hfuel => readsBack_json j hexact hfuel hlevels)

lemma object_ofText {members : List (String × Json)} (hexact : MembersExact members)
    (hlevels : memberLevels members < 127) :
    Json.ofText (String.ofList (Json.objectChars (Json.memberChars members))) =
      .ok (.object (insertAll [] members)) :=
  ReadsBack.readWith (.value fun _ hfuel =>
    valueFrom_object (by decide) (readsMembers_json members hexact [] hlevels) hfuel)

end BatchInsert.Proofs
