import BatchInsert.Proofs.Skipping
import BatchInsert.Settings.Json

/-!
# The members of settings

The members of an object are read one after the other, each into its field, and what is read of one
depends neither on where it stands nor on what the others hold. So reading can be cut at a field:
what stands behind its name is read as if the text began there.
-/

namespace BatchInsert.Proofs

open Json (Cursor Depth Lexeme ReadError)
open Settings (Field Item Partial)
open Outline

variable {α β : Type}

/-! ### Items -/

lemma readScalar_like (take : Document.Found → Except Document.Mismatch α) :
    ReadsLike (Settings.readScalar take)
      (chain Cursor.lexeme fun lexeme => accept (take lexeme.found)) := by
  intro cur
  simp only [Settings.readScalar, chain]
  cases cur.lexeme with
  | error e => rfl
  | ok x =>
    obtain ⟨lexeme, mid⟩ := x
    cases htake : take lexeme.found <;> simp [htake, accept, give, refuse, bind, Except.bind]

lemma steady_readScalar (take : Document.Found → Except Document.Mismatch α) :
    Steady (Settings.readScalar take) :=
  .congr (.chain steady_lexeme fun lexeme => .accept (take lexeme.found)) (readScalar_like take)

/-- `null`, or what `read` reads. -/
def optional (read : Reader α) : Reader (Option α) :=
  past Cursor.isBlank (branch (· == 'n')
    (chain (skipping (Cursor.literal "null".toList)) fun _ => give none)
    (chain read fun a => give (some a)))

lemma readOption_like (read : Reader α) : ReadsLike (Settings.readOption read) (optional read) := by
  intro cur
  have hnull (cs : List Char) : (cs.head? == some 'n') = cs.head?.any (· == 'n') := by
    cases cs <;> rfl
  simp only [Settings.readOption, Cursor.skipBlanks, optional, past, branch, chain_skipping, hnull]
  split <;> rfl

lemma steady_readOption {read : Reader α} (hread : Steady read) :
    Steady (Settings.readOption read) :=
  .congr (.past _ (.branch _ (.chain (reads_literal _).steady fun _ => .give _)
    (.chain hread fun _ => .give _))) (readOption_like read)

lemma outcome_mapResult (f : α → β) (r : Except ReadError (α × Cursor)) :
    outcome (Settings.mapResult f r) = (outcome r).map (Prod.map f id) := by
  cases r <;> rfl

lemma steady_mapResult {read : Reader α} (hread : Steady read) (f : α → β) :
    Steady fun cur => Settings.mapResult f (read cur) :=
  .congr (.chain hread fun _ => .give _) fun cur => by
    rw [outcome_mapResult, chain, outcome_give]

lemma steady_readItem (f : Field) (depth : Depth) : Steady (Settings.readItem f depth) := by
  have htext := steady_readScalar Settings.textOf
  cases f with
  | driver => exact steady_mapResult htext _
  | url => exact steady_mapResult htext _
  | username => exact steady_mapResult (steady_readOption htext) _
  | password => exact steady_mapResult (steady_readOption htext) _
  | statement => exact steady_mapResult htext _
  | batchSize => exact steady_mapResult (steady_readScalar _) _
  | columnTypes => exact steady_mapResult (steady_readOption (steady_sequence depth steady_tag)) _

lemma outcome_text {cur : Cursor} {cs : List Char} (hrest : cur.rest = '"' :: cs) :
    outcome (Settings.readScalar Settings.textOf cur) =
      outcome (Cursor.string (cur.after '"' cs)) := by
  simp only [Settings.readScalar, lexeme_of_quote hrest]
  cases Cursor.string (cur.after '"' cs) <;> rfl

lemma outcome_password {depth : Depth} {cur : Cursor} {cs tail : List Char} {item : Item}
    (hquote : cur.rest.dropWhile Cursor.isBlank = '"' :: cs) :
    outcome (Settings.readItem .password depth cur) = some (item, tail) ↔
      ∃ s w, item = .password (some s) ∧ Spells w s.toList ∧ cs = w ++ '"' :: tail := by
  have hrest : (cur.skipWhile Cursor.isBlank).rest = '"' :: cs := by rw [rest_skipWhile, hquote]
  have hstring : outcome (Settings.readOption (Settings.readScalar Settings.textOf) cur) =
      (outcome (Cursor.string ((cur.skipWhile Cursor.isBlank).after '"' cs))).map
        (Prod.map some id) := by
    have hn : ('"' == 'n') = false := by decide
    rw [readOption_like]
    simp only [optional, past, branch, hrest, List.head?_cons, Option.any_some, hn,
      Bool.false_eq_true, if_false, chain, outcome_give, outcome_text hrest]
  have hitem : outcome (Settings.readItem .password depth cur) =
      (outcome (Cursor.string ((cur.skipWhile Cursor.isBlank).after '"' cs))).map
        (Prod.map (fun s => .password (some s)) id) := by
    rw [Settings.readItem, outcome_mapResult, hstring, Option.map_map]
    rfl
  rw [hitem, Option.map_eq_some_iff]
  constructor
  · rintro ⟨⟨s, rest⟩, hs, heq⟩
    cases heq
    obtain ⟨w, hw, hcs⟩ := outcome_string.mp hs
    rw [Cursor.rest_after] at hcs
    exact ⟨s, w, rfl, hw, hcs⟩
  · rintro ⟨s, w, rfl, hw, hcs⟩
    exact ⟨(s, tail), outcome_string.mpr ⟨w, hw, by rw [Cursor.rest_after, hcs]⟩, rfl⟩

/-! ### Members -/

section Members

variable (depth : Depth)

/-- A member behind its colon, and the other members. -/
def fieldOf (others : Partial → Reader α) (p : Partial) (name : String) : Reader α :=
  match Field.ofName? name with
  | none => chain (skipping Cursor.skipValue) fun _ => others p
  | some f =>
    if p.has f then refuse
    else chain (Settings.readItem f depth) fun item => others (p.put item)

lemma readMembers_like (fuel : Nat) (first : Bool) (p : Partial) :
    ReadsLike (Settings.readMembers depth (fuel + 1) first p) (round (Cursor.nextMember first)
      (memberOf (fieldOf depth (Settings.readMembers depth fuel false) p)) p) := by
  intro cur
  simp only [Settings.readMembers, round, chain]
  cases hgo : cur.nextMember first with
  | error e => rfl
  | ok x =>
    obtain ⟨go, mid⟩ := x
    cases go with
    | false => rfl
    | true =>
      change _ = outcome (memberOf _ mid)
      rw [outcome_memberOf]
      cases hname : mid.skip.string with
      | error e => simp [hname, Except.toOption]
      | ok y =>
        obtain ⟨name, next⟩ := y
        simp only [bind, Except.bind, if_true, hname, fieldOf, chain_skipping]
        cases hfield : Field.ofName? name with
        | none => cases next.colon <;> rfl
        | some f =>
          cases hhas : p.has f with
          | true =>
            simp only [hhas, if_true]
            cases next.colon <;> rfl
          | false =>
            simp only [hhas, Bool.false_eq_true, if_false]
            cases next.colon <;> rfl

lemma Copies.fieldOf {n : Nat} {others others' : Partial → Reader α}
    (h : ∀ p, Copies n (others p) (others' p)) (p : Partial) (name : String) :
    Copies n (fieldOf depth others p name) (fieldOf depth others' p name) := by
  unfold Proofs.fieldOf
  split
  · exact .chain (steady_skipValue n) fun _ => h p
  · split
    · exact .refuse
    · exact .chain (steady_readItem _ depth n) fun item => h _

lemma copies_readMembers {n fuel again : Nat} {first : Bool} {p : Partial} (hagain : n < again) :
    Copies n (Settings.readMembers depth fuel first p)
      (Settings.readMembers depth again first p) := by
  induction fuel generalizing n again first p with
  | zero => exact .congr .refuse (fun cur => rfl) fun cur => rfl
  | succ fuel ih =>
    obtain ⟨again, rfl⟩ : ∃ m, again = m + 1 := ⟨again - 1, by omega⟩
    have hmember (k m : Nat) (hk : k < m + 1) : Copies k
        (memberOf (fieldOf depth (Settings.readMembers depth fuel false) p))
        (memberOf (fieldOf depth (Settings.readMembers depth m false) p)) :=
      .memberOf (fun name => (Copies.fieldOf depth (fun p => ih Nat.zero_lt_one) p name).shrinks)
        fun name j hj => .fieldOf depth (fun p => ih (by omega)) p name
    have hfirst := Bool.toNat_le first
    exact .congr (.round (goesOn_nextMember first) (hmember 0 0 (by omega)).shrinks
      (fun k hk => hmember k again (by omega)) p) (readMembers_like depth fuel first p)
      (readMembers_like depth again first p)

lemma outcome_readMembers_nil {fuel : Nat} {first : Bool} {p : Partial} {cur : Cursor}
    (hcur : cur.rest = []) : outcome (Settings.readMembers depth fuel first p cur) = none := by
  cases fuel with
  | zero => rfl
  | succ fuel => rw [readMembers_like, (goesOn_nextMember first).round_nil hcur]

lemma outcome_readMembers {fuel again : Nat} {first : Bool} {p : Partial} {cur : Cursor}
    (hfuel : cur.rest.length < fuel) (hagain : cur.rest.length < again) :
    outcome (Settings.readMembers depth fuel first p cur) =
      outcome (Settings.readMembers depth again first p cur) :=
  (copies_readMembers depth hagain).outcome_eq (copies_readMembers depth hfuel) (Nat.le_refl _)

/-- The members that are left, all behind a comma. -/
def otherMembers (p : Partial) : Reader Partial := fun cur =>
  Settings.readMembers depth (cur.rest.length + 1) false p cur

lemma steady_otherMembers (p : Partial) : Steady (otherMembers depth p) :=
  .of_limit (fun k => Settings.readMembers depth k false p) (fun cur => cur.rest.length + 1) 1
    (fun _ _ _ hm => copies_readMembers depth (by omega)) fun cur => by omega

/-! ### Up to a field -/

variable (f : Field)

/-- The members before the field, and whether it was found; then the reader stands behind its
colon. -/
def upToField : Nat → Bool → Partial → Reader (Partial × Bool)
  | 0, _, _ => refuse
  | fuel + 1, first, p => round (Cursor.nextMember first) (memberOf fun name =>
      if Field.ofName? name = some f then give (p, true)
      else fieldOf depth (upToField fuel false) p name) (p, false)

lemma copies_upToField {n fuel again : Nat} {first : Bool} {p : Partial} (hagain : n < again) :
    Copies n (upToField depth f fuel first p) (upToField depth f again first p) := by
  induction fuel generalizing n again first p with
  | zero => exact .refuse
  | succ fuel ih =>
    obtain ⟨again, rfl⟩ : ∃ m, again = m + 1 := ⟨again - 1, by omega⟩
    have hnext (k m : Nat) (hk : k < m) (name : String) : Copies k
        (if Field.ofName? name = some f then give (p, true)
          else fieldOf depth (upToField depth f fuel false) p name)
        (if Field.ofName? name = some f then give (p, true)
          else fieldOf depth (upToField depth f m false) p name) := by
      split
      · exact .give _
      · exact .fieldOf depth (fun p => ih hk) p name
    have hshrinks (name : String) := (hnext 0 1 Nat.zero_lt_one name).shrinks
    have hfirst := Bool.toNat_le first
    exact .round (goesOn_nextMember first)
      (Copies.memberOf (n := 0) hshrinks fun name j hj => hnext j 1 (by omega) name).shrinks
      (fun k hk => .memberOf hshrinks fun name j hj => hnext j again (by omega) name) (p, false)

/-- The field behind its colon, and the members after it. -/
def fromField (p : Partial) : Reader Partial :=
  if p.has f then refuse
  else chain (Settings.readItem f depth) fun item => otherMembers depth (p.put item)

lemma steady_fromField (p : Partial) : Steady (fromField depth f p) := by
  unfold fromField
  split
  · exact .refuse
  · exact .chain (steady_readItem f depth) fun item => steady_otherMembers depth _

lemma of_fieldOf {others : Partial → Reader α} {p : Partial} {name : String} {cur : Cursor}
    {x : α × List Char} (h : outcome (fieldOf depth others p name cur) = some x) :
    ∃ q mid, mid.rest.length ≤ cur.rest.length ∧ outcome (others q mid) = some x ∧
      ∀ {γ : Type} (others' : Partial → Reader γ),
        fieldOf depth others' p name cur = others' q mid := by
  cases hname : Field.ofName? name with
  | none =>
    simp only [fieldOf, hname] at h ⊢
    obtain ⟨⟨⟩, mid, hmid, hx⟩ := outcome_chain.mp h
    exact ⟨p, mid, steady_skipValue.shrinks.length_le hmid, hx, fun others' => chain_of_ok hmid⟩
  | some g =>
    cases hhas : p.has g with
    | true => simp [fieldOf, hname, hhas, refuse] at h
    | false =>
      simp only [fieldOf, hname, hhas, Bool.false_eq_true, if_false] at h ⊢
      obtain ⟨item, mid, hmid, hx⟩ := outcome_chain.mp h
      exact ⟨p.put item, mid, (steady_readItem g depth).shrinks.length_le hmid, hx,
        fun others' => chain_of_ok hmid⟩

lemma outcome_of_upToField {fuel : Nat} {first : Bool} {p q : Partial} {cur mid : Cursor}
    (hfuel : cur.rest.length < fuel)
    (h : outcome (upToField depth f fuel first p cur) = some ((q, true), mid.rest)) :
    outcome (Settings.readMembers depth fuel first p cur) = outcome (fromField depth f q mid) := by
  induction fuel generalizing first p cur with
  | zero => cases h
  | succ fuel ih =>
    rw [readMembers_like]
    rw [upToField] at h
    obtain ⟨go, next, hgo, hnext⟩ := outcome_chain.mp h
    have hlength := (goesOn_nextMember first).steady.shrinks.length_le hgo
    cases go with
    | false => cases hnext
    | true =>
      rw [round_of_true hgo]
      obtain ⟨name, place, hplace, hfield, hsame⟩ := of_memberOf hnext
      rw [hsame]
      split at hfield
      · rename_i hname
        obtain ⟨rfl, hrest⟩ : p = q ∧ place.rest = mid.rest := by simpa [give] using hfield
        rw [← (steady_fromField depth f p).outcome_congr hrest]
        simp only [fieldOf, hname, fromField]
        split
        · rfl
        · refine outcome_chain_congr fun item last hitem => ?_
          have hlast := (steady_readItem f depth).shrinks.length_le hitem
          exact outcome_readMembers depth (by omega) (Nat.lt_succ_self _)
      · obtain ⟨p', next', hlength', hothers, hsame'⟩ := of_fieldOf depth hfield
        rw [hsame']
        exact ih (by omega) hothers

/-! ### Changing what was read -/

/-- The field that an item belongs to. -/
def itemField : Item → Field
  | .driver _ => .driver
  | .url _ => .url
  | .username _ => .username
  | .password _ => .password
  | .statement _ => .statement
  | .batchSize _ => .batchSize
  | .columnTypes _ => .columnTypes

lemma mapResult_eq_ok {g : β → α} {r : Except ReadError (β × Cursor)} {a : α} {mid : Cursor} :
    Settings.mapResult g r = .ok (a, mid) ↔ ∃ b, r = .ok (b, mid) ∧ g b = a := by
  cases r with
  | error e => simp [Settings.mapResult, Except.map]
  | ok x =>
    obtain ⟨b, next⟩ := x
    constructor
    · rintro ⟨⟩
      exact ⟨b, rfl, rfl⟩
    · rintro ⟨_, ⟨⟩, rfl⟩
      rfl

lemma itemField_of_readItem {cur mid : Cursor} {item : Item}
    (h : Settings.readItem f depth cur = .ok (item, mid)) : itemField item = f := by
  cases f <;> obtain ⟨x, -, rfl⟩ := mapResult_eq_ok.mp h <;> rfl

lemma put_put {p : Partial} {s : Option String} {item : Item} (h : itemField item ≠ .password) :
    (p.put (.password s)).put item = (p.put item).put (.password s) := by
  cases item with
  | password _ => exact absurd rfl h
  | _ => rfl

lemma has_put {p : Partial} {item : Item} :
    (p.put item).has f = (p.has f || decide (itemField item = f)) := by
  cases item <;> cases f <;> simp [Partial.put, Partial.has, itemField]

lemma outcome_readMembers_put {fuel : Nat} {first : Bool} {p : Partial} (s : Option String)
    (hp : p.has .password = true) {cur : Cursor} :
    outcome (Settings.readMembers depth fuel first (p.put (.password s)) cur) =
      (outcome (Settings.readMembers depth fuel first p cur)).map
        (Prod.map (fun p => p.put (.password s)) id) := by
  induction fuel generalizing first p cur with
  | zero => rfl
  | succ fuel ih =>
    have hhas (f : Field) : (p.put (.password s)).has f = p.has f := by
      rw [has_put]
      cases f <;> simp [itemField, hp]
    have hfield (name : String) (mid : Cursor) :
        outcome (fieldOf depth (Settings.readMembers depth fuel false) (p.put (.password s)) name
          mid) =
        (outcome (fieldOf depth (Settings.readMembers depth fuel false) p name mid)).map
          (Prod.map (fun p => p.put (.password s)) id) := by
      cases hname : Field.ofName? name with
      | none =>
        simp only [fieldOf, hname]
        exact outcome_chain_map fun _ _ _ => ih hp
      | some f =>
        cases hf : p.has f with
        | true => simp [fieldOf, hname, hhas, hf, refuse]
        | false =>
          simp only [fieldOf, hname, hhas, hf, Bool.false_eq_true, if_false]
          refine outcome_chain_map fun item mid hitem => ?_
          have hother : itemField item ≠ .password := by
            rw [itemField_of_readItem depth f hitem]
            rintro rfl
            rw [hp] at hf
            cases hf
          rw [put_put hother]
          exact ih (by rw [has_put, hp, Bool.true_or])
    rw [readMembers_like, readMembers_like]
    refine outcome_chain_map fun go mid hgo => ?_
    cases go with
    | false => rfl
    | true => exact outcome_memberOf_map hfield

end Members

end BatchInsert.Proofs
