import BatchInsert.Proofs.Lexemes
import BatchInsert.Sql.Document

/-!
# Arrays, objects and whole values

A round through the items of an array takes a comma, the first one apart, and a value inside
another takes its bracket. So twice the length of what is read bounds the steps, and the steps that
are allowed beyond make no difference.
-/

namespace BatchInsert.Proofs

open Json (Cursor Depth Lexeme ReadError)
open Outline

variable {α β : Type}

/-! ### Brackets -/

/-- Past the bracket that ends an array or an object, with what has been read. -/
def closing (bracket : Char) (a : α) : Reader α :=
  past Cursor.isBlank (branch (· == bracket) (step (give a)) refuse)

lemma steady_closing (bracket : Char) (a : α) : Steady (closing bracket a) :=
  .past _ (.branch _ (.step (.give a)) .refuse)

lemma outcome_closing {bracket : Char} {a b : α} {cur : Cursor} {tail : List Char} :
    outcome (closing bracket a cur) = some (b, tail) ↔
      b = a ∧ cur.rest.dropWhile Cursor.isBlank = bracket :: tail := by
  rw [← rest_skipWhile]
  cases hrest : (cur.skipWhile Cursor.isBlank).rest with
  | nil => simp [closing, past, branch, hrest, refuse]
  | cons c cs =>
    by_cases hc : c = bracket
    · simp [closing, past, branch, step, hrest, hc, give, eq_comm]
    · simp [closing, past, branch, hrest, hc, refuse]

/-- `close` goes past the bracket. -/
def ClosesBy (close : Cursor → Cursor × Option Json.Cause) (bracket : Char) : Prop :=
  ∀ {α : Type} (a : α) (cur : Cursor),
    outcome (Cursor.finish close (.ok (a, cur))) = outcome (closing bracket a cur)

lemma closes_array : ClosesBy Cursor.closeArray ']' := by
  intro α a cur
  simp only [Cursor.finish, Cursor.closeArray, Cursor.skipBlanks, closing, past, branch, step]
  cases hrest : (cur.skipWhile Cursor.isBlank).rest with
  | nil => simp [refuse]
  | cons c cs =>
    by_cases hbracket : c = ']'
    · subst hbracket
      simp [give]
    · by_cases hcomma : c = ','
      · subst hcomma
        simp [refuse]
      · simp [hbracket, hcomma, refuse]

lemma closes_object : ClosesBy Cursor.closeObject '\x7d' := by
  intro α a cur
  simp only [Cursor.finish, Cursor.closeObject, Cursor.skipBlanks, closing, past, branch, step]
  cases hrest : (cur.skipWhile Cursor.isBlank).rest with
  | nil => simp [refuse]
  | cons c cs =>
    by_cases hbracket : c = '\x7d'
    · subst hbracket
      simp [give]
    · by_cases hcomma : c = ','
      · subst hcomma
        simp [refuse]
      · simp [hbracket, hcomma, refuse]

lemma ClosesBy.outcome_finish {close : Cursor → Cursor × Option Json.Cause} {bracket : Char}
    (hclose : ClosesBy close bracket) {r : Except ReadError (α × Cursor)} {read : Reader α}
    {cur : Cursor} (hread : outcome r = outcome (read cur)) :
    outcome (Cursor.finish close r) = outcome (chain read (closing bracket) cur) := by
  have hchain : outcome (chain (fun _ => r) (closing bracket) cur) =
      outcome (chain read (closing bracket) cur) :=
    Steady.outcome_chain_eq (steady_closing bracket) hread
  rw [← hchain]
  cases r with
  | error e => cases e <;> rfl
  | ok x => exact hclose x.1 x.2

/-- What stands in brackets that may still be opened, `inside` being one level deeper. -/
def bracketed (depth : Depth) (bracket : Char) (inside : Depth → Reader α) : Reader α :=
  if depth ≤ 1 then refuse else chain (step (inside (depth - 1))) (closing bracket)

lemma ClosesBy.outcome_descend {close : Cursor → Cursor × Option Json.Cause} {bracket : Char}
    (hclose : ClosesBy close bracket) {depth : Depth} {inside : Depth → Reader α}
    {opened : Depth → Except ReadError (α × Cursor)} {cur : Cursor}
    (hopened : ∀ depth, outcome (opened depth) = outcome (step (inside depth) cur)) :
    outcome (cur.descend depth >>= fun depth => Cursor.finish close (opened depth)) =
      outcome (bracketed depth bracket inside cur) := by
  by_cases hdepth : depth ≤ 1
  · simp [Cursor.descend, bracketed, hdepth, refuse, Except.toOption]
  · rw [bracketed, if_neg hdepth, ← hclose.outcome_finish (hopened (depth - 1)), Cursor.descend,
      if_neg hdepth]
    rfl

lemma ClosesBy.outcome_descend_give {close : Cursor → Cursor × Option Json.Cause} {bracket : Char}
    (hclose : ClosesBy close bracket) {depth : Depth} {inside : Depth → Reader β}
    {opened : Depth → Except ReadError (β × Cursor)} {cur : Cursor} (f : β → α)
    (hopened : ∀ depth, outcome (opened depth) = outcome (step (inside depth) cur)) :
    outcome (cur.descend depth >>= fun depth =>
        Cursor.finish close (opened depth) >>= fun x => give (f x.1) x.2) =
      outcome (chain (bracketed depth bracket inside) (fun b => give (f b)) cur) := by
  rw [chain, outcome_give, ← hclose.outcome_descend hopened, ← outcome_give, bind_assoc]

lemma Copies.bracketed {n : Nat} {inside again : Depth → Reader α} {depth : Depth}
    (bracket : Char) (hshrinks : ∀ depth, Shrinks (inside depth))
    (h : ∀ depth, ∀ k < n, Copies k (inside depth) (again depth)) :
    Copies n (bracketed depth bracket inside) (bracketed depth bracket again) := by
  unfold Proofs.bracketed
  split
  · exact .refuse
  · exact .chain (.step (hshrinks _) (h _)) fun a => steady_closing bracket a n

lemma skip_like {read : Reader α} (hnil : ∀ {cur}, cur.rest = [] → outcome (read cur) = none) :
    ReadsLike (fun cur => read cur.skip) (step read) := by
  intro cur
  cases hrest : cur.rest with
  | nil => simp [Cursor.skip, step, hrest, hnil hrest, refuse]
  | cons c cs => simp [Cursor.skip, step, hrest]

/-! ### Going on -/

/-- Whether there is another item, past the comma before it. -/
def goOn (bracket : Char) (starts : Char → Bool) (first : Bool) : Reader Bool :=
  let item := branch starts (give true) refuse
  past Cursor.isBlank (branch (· == bracket) (give false)
    (if first then item else branch (· == ',') (step (past Cursor.isBlank item)) refuse))

variable (bracket : Char) (starts : Char → Bool) (first : Bool)

lemma steady_goOn : Steady (goOn bracket starts first) := by
  have hitem : Steady (branch starts (give true) refuse) := .branch _ (.give _) .refuse
  refine .past _ (.branch _ (.give _) ?_)
  split
  · exact hitem
  · exact .branch _ (.step (.past _ hitem)) .refuse

lemma outcome_goOn_nil {cur : Cursor} (hcur : cur.rest = []) :
    outcome (goOn bracket starts first cur) = none := by
  have hnil : (cur.skipWhile Cursor.isBlank).rest = [] := by
    rw [rest_skipWhile, hcur, List.dropWhile_nil]
  cases first <;> simp [goOn, past, branch, hnil, refuse]

lemma length_goOn {bracket : Char} {starts : Char → Bool} {cur : Cursor} {tail : List Char}
    (h : outcome (goOn bracket starts false cur) = some (true, tail)) :
    tail.length < cur.rest.length := by
  let item := branch starts (give true) refuse
  have hitem : Shrinks (past Cursor.isBlank item) :=
    Steady.shrinks (.past _ (.branch _ (.give _) .refuse))
  have hgains : Gains (past Cursor.isBlank (branch (· == ',')
      (step (past Cursor.isBlank item)) refuse)) :=
    .past _ (.branch _ (.step hitem) .refuse)
  refine hgains (a := true) ?_
  simp only [goOn, past, Bool.false_eq_true, if_false] at h ⊢
  rw [branch] at h
  split at h
  · cases h
  · exact h

lemma nextItem_like : ReadsLike (Cursor.nextItem first) (goOn ']' (· != ']') first) := by
  intro cur
  simp only [Cursor.nextItem, Cursor.skipBlanks, goOn, past]
  cases hrest : (cur.skipWhile Cursor.isBlank).rest with
  | nil => cases first <;> simp [branch, hrest, refuse]
  | cons c cs =>
    by_cases hbracket : c = ']'
    · simp [branch, hrest, hbracket, give]
    · cases first with
      | true => simp [branch, hrest, hbracket, give]
      | false =>
        by_cases hcomma : c = ','
        · subst hcomma
          cases hnext : (((cur.skipWhile Cursor.isBlank).after ',' cs).skipWhile
            Cursor.isBlank).rest with
          | nil => simp [branch, step, past, hrest, hnext, refuse]
          | cons d ds =>
            by_cases hd : d = ']' <;> simp [branch, step, past, hrest, hnext, hd, give, refuse]
        · simp [branch, hrest, hbracket, hcomma, refuse]

lemma nextMember_like : ReadsLike (Cursor.nextMember first) (goOn '\x7d' (· == '"') first) := by
  intro cur
  simp only [Cursor.nextMember, Cursor.skipBlanks, goOn, past]
  cases hrest : (cur.skipWhile Cursor.isBlank).rest with
  | nil => cases first <;> simp [branch, hrest, refuse]
  | cons c cs =>
    by_cases hbracket : c = '\x7d'
    · simp [branch, hrest, hbracket, give]
    · cases first with
      | true => by_cases hc : c = '"' <;> simp [branch, hrest, hbracket, hc, give, refuse]
      | false =>
        by_cases hcomma : c = ','
        · subst hcomma
          cases hnext : (((cur.skipWhile Cursor.isBlank).after ',' cs).skipWhile
            Cursor.isBlank).rest with
          | nil => simp [branch, step, past, hrest, hnext, refuse]
          | cons d ds =>
            by_cases hd : d = '"'
            · simp [branch, step, past, hrest, hnext, hd, give]
            · by_cases hd' : d = '\x7d' <;>
                simp [branch, step, past, hrest, hnext, hd, hd', refuse]
        · simp [branch, hrest, hbracket, hcomma, refuse]

/-- `next` says whether there is another item, and takes a comma before all but the first. -/
structure GoesOn (next : Reader Bool) (first : Bool) : Prop where
  steady : Steady next
  gains : first = false → ∀ {cur tail}, outcome (next cur) = some (true, tail) →
    tail.length < cur.rest.length
  ends : ∀ {cur}, cur.rest = [] → outcome (next cur) = none

lemma goesOn_of_like {bracket : Char} {starts : Char → Bool} {first : Bool} {next : Reader Bool}
    (hlike : ReadsLike next (goOn bracket starts first)) : GoesOn next first where
  steady := (steady_goOn bracket starts first).congr hlike
  gains := by
    rintro rfl cur tail h
    rw [hlike] at h
    exact length_goOn h
  ends hcur := by rw [hlike, outcome_goOn_nil _ _ _ hcur]

lemma goesOn_nextItem : GoesOn (Cursor.nextItem first) first :=
  goesOn_of_like (nextItem_like first)

lemma goesOn_nextMember : GoesOn (Cursor.nextMember first) first :=
  goesOn_of_like (nextMember_like first)

lemma steady_colon : Steady (skipping Cursor.colon) := by
  refine .congr (.past Cursor.isBlank (.branch (· == ':') (.step (.give ())) .refuse)) fun cur => ?_
  simp only [skipping, Cursor.colon, Cursor.skipBlanks, past]
  cases hrest : (cur.skipWhile Cursor.isBlank).rest with
  | nil => simp [branch, hrest, refuse, Except.map]
  | cons c cs => by_cases hc : c = ':' <;> simp [branch, step, hrest, hc, give, refuse, Except.map]

/-- One round of a loop that `next` ends, with what has been read so far. -/
def round (next : Reader Bool) (more : Reader α) (a : α) : Reader α :=
  chain next fun go => if go then more else give a

lemma Copies.round {n : Nat} {next : Reader Bool} {first : Bool} {more again : Reader α}
    (hnext : GoesOn next first) (hshrinks : Shrinks more)
    (h : ∀ k < n + first.toNat, Copies k more again) (a : α) :
    Copies n (round next more a) (round next again a) := by
  refine .chain_of_rest (hnext.steady n) (fun go => ?_)
    fun {cur go mid taken} hgo htaken hlength => ?_
  · split
    · exact hshrinks
    · exact Steady.shrinks (.give a)
  · cases go with
    | false => exact .give a
    | true =>
      refine h _ ?_
      cases first with
      | true => exact Nat.lt_succ_of_le (Nat.sub_le ..)
      | false =>
        have hgain := hnext.gains rfl (outcome_eq_some.mpr ⟨mid, hgo, rfl⟩)
        rw [htaken, List.length_append] at hgain
        rw [Bool.toNat_false]
        omega

lemma round_of_true {next : Reader Bool} {more : Reader α} {a : α} {cur mid : Cursor}
    (h : next cur = .ok (true, mid)) : round next more a cur = more mid := chain_of_ok h

lemma GoesOn.round_nil {next : Reader Bool} {first : Bool} (hnext : GoesOn next first)
    {more : Reader α} {a : α} {cur : Cursor} (hcur : cur.rest = []) :
    outcome (round next more a cur) = none := outcome_chain_of_none (hnext.ends hcur)

/-! ### Arrays of any items -/

lemma items_like (item : Reader α) (fuel : Nat) (first : Bool) :
    ReadsLike (Cursor.items item (fuel + 1) first) (round (Cursor.nextItem first)
      (chain item fun a => chain (Cursor.items item fuel false) fun as => give (a :: as)) []) := by
  intro cur
  simp only [Cursor.items, round, chain]
  cases hgo : cur.nextItem first with
  | error e => rfl
  | ok x =>
    obtain ⟨go, mid⟩ := x
    cases go <;> rfl

lemma copies_items {item : Reader α} (hitem : Steady item) {n fuel again : Nat} {first : Bool}
    (hagain : n + first.toNat < again) :
    Copies n (Cursor.items item fuel first) (Cursor.items item again first) := by
  induction fuel generalizing n again first with
  | zero => exact .congr .refuse (fun cur => rfl) fun cur => rfl
  | succ fuel ih =>
    obtain ⟨again, rfl⟩ : ∃ m, again = m + 1 := ⟨again - 1, by omega⟩
    have hrest (k m : Nat) (hk : k < m) : Copies k
        (chain item fun a => chain (Cursor.items item fuel false) fun as => give (a :: as))
        (chain item fun a => chain (Cursor.items item m false) fun as => give (a :: as)) :=
      .chain (hitem k) fun a => .chain (ih hk) fun as => .give _
    refine .congr (.round (goesOn_nextItem first) (hrest 0 1 (by omega)).shrinks ?_ [])
      (items_like item fuel first) (items_like item again first)
    exact fun k hk => hrest k again (by omega)

lemma outcome_items_nil (item : Reader α) (fuel : Nat) (first : Bool) {cur : Cursor}
    (hcur : cur.rest = []) : outcome (Cursor.items item fuel first cur) = none := by
  cases fuel with
  | zero => rfl
  | succ fuel => rw [items_like, (goesOn_nextItem first).round_nil hcur]

lemma array_like (depth : Depth) (item : Depth → Reader α) :
    ReadsLike (fun cur => Cursor.array depth item cur) (bracketed depth ']' fun depth cur =>
      Cursor.items (item depth) (cur.rest.length + 2) true cur) := by
  intro cur
  refine closes_array.outcome_descend fun depth => ?_
  cases hrest : cur.rest with
  | nil => simp [Cursor.skip, step, hrest, outcome_items_nil _ _ _ hrest, refuse]
  | cons c cs => simp [Cursor.skip, step, hrest]

/-- An array, and nothing else. -/
def arrayOf (depth : Depth) (item : Depth → Reader α) : Lexeme → Reader (List α)
  | .array => fun cur => Cursor.array depth item cur
  | _ => refuse

lemma steady_array (depth : Depth) {item : Depth → Reader α}
    (hitem : ∀ depth, Steady (item depth)) :
    Steady fun cur => Cursor.array depth item cur := by
  have hitems (depth : Depth) : Steady fun cur =>
      Cursor.items (item depth) (cur.rest.length + 2) true cur :=
    Steady.of_limit (fun k => Cursor.items (item depth) (k + 1) true)
      (fun cur => cur.rest.length + 1) 1
      (fun n k m hm => copies_items (hitem depth) (by simpa using hm)) fun cur => by omega
  exact fun n => .congr
    (.bracketed ']' (fun depth => (hitems depth).shrinks) fun depth k _ => hitems depth k)
    (array_like depth item) (array_like depth item)

lemma steady_sequence (depth : Depth) {item : Depth → Reader α}
    (hitem : ∀ depth, Steady (item depth)) :
    Steady fun cur => Cursor.sequence depth item cur := by
  have harray (lexeme : Lexeme) : Steady (arrayOf depth item lexeme) := by
    cases lexeme with
    | array => exact steady_array depth hitem
    | object => exact .refuse
    | scalar s => exact .refuse
  refine .congr (.chain steady_lexeme harray) fun cur => ?_
  simp only [Cursor.sequence, chain]
  cases cur.lexeme with
  | error e => rfl
  | ok x =>
    obtain ⟨lexeme, mid⟩ := x
    cases lexeme <;> rfl

/-! ### Whole values -/

section Value

variable (depth : Depth) (fuel : Nat)

/-- A value from what it begins with. -/
def valueOf (items : Depth → Reader (List Json)) (members : Depth → Reader (List (String × Json))) :
    Lexeme → Reader Json
  | .scalar .null => give .null
  | .scalar (.bool b) => give (.bool b)
  | .scalar (.integer i) => give (.number (.integer i))
  | .scalar (.real x) => give (.number (.real x))
  | .scalar (.string s) => give (.string s)
  | .array => chain (bracketed depth ']' items) fun xs => give (.array xs)
  | .object => chain (bracketed depth '\x7d' members) fun ms => give (.object ms)

lemma itemsFrom_like : ReadsLike (Cursor.itemsFrom (fuel + 1) depth first)
    (round (Cursor.nextItem first) (chain (Cursor.valueFrom fuel depth) fun x =>
      chain (Cursor.itemsFrom fuel depth false) fun xs => give (x :: xs)) []) := by
  intro cur
  simp only [Cursor.itemsFrom, round, chain]
  cases hgo : cur.nextItem first with
  | error e => rfl
  | ok x =>
    obtain ⟨go, mid⟩ := x
    cases go <;> rfl

/-- A name at its quote, which the colon after it and `next` follow. -/
def memberOf (next : String → Reader α) : Reader α :=
  step (chain Cursor.string fun name => chain (skipping Cursor.colon) fun _ => next name)

lemma outcome_memberOf {next : String → Reader α} {cur : Cursor} :
    outcome (memberOf next cur) =
      outcome (cur.skip.string >>= fun x => x.2.colon >>= fun cur => next x.1 cur) := by
  have hnil {cur : Cursor} (hcur : cur.rest = []) : outcome
      (chain Cursor.string (fun name => chain (skipping Cursor.colon) fun _ => next name) cur) =
        none := by
    simp [chain, Cursor.string, Cursor.stringFrom, hcur, Except.toOption]
  rw [memberOf, ← skip_like hnil]
  simp only [chain_skipping]
  rfl

lemma of_memberOf {next : String → Reader α} {cur : Cursor} {x : α × List Char}
    (h : outcome (memberOf next cur) = some x) :
    ∃ name mid, mid.rest.length < cur.rest.length ∧ outcome (next name mid) = some x ∧
      ∀ {γ : Type} (next' : String → Reader γ), memberOf next' cur = next' name mid := by
  cases hrest : cur.rest with
  | nil => simp [memberOf, step, hrest, refuse] at h
  | cons c cs =>
    simp only [memberOf, step, hrest] at h
    obtain ⟨name, next₁, hname, hcolon⟩ := outcome_chain.mp h
    obtain ⟨⟨⟩, mid, hmid, hx⟩ := outcome_chain.mp hcolon
    refine ⟨name, mid, ?_, hx, fun next' => ?_⟩
    · have hfirst := reads_string.steady.shrinks.length_le hname
      have hsecond := steady_colon.shrinks.length_le hmid
      rw [Cursor.rest_after] at hfirst
      rw [List.length_cons]
      omega
    · simp only [memberOf, step, hrest]
      rw [chain_of_ok hname, chain_of_ok hmid]

lemma outcome_memberOf_map {next : String → Reader α} {next' : String → Reader β}
    {g : β × List Char → α × List Char} {cur : Cursor}
    (h : ∀ name mid, outcome (next name mid) = (outcome (next' name mid)).map g) :
    outcome (memberOf next cur) = (outcome (memberOf next' cur)).map g := by
  cases hrest : cur.rest with
  | nil => simp [memberOf, step, hrest, refuse]
  | cons c cs =>
    simp only [memberOf, step, hrest]
    exact outcome_chain_map fun name mid _ => outcome_chain_map fun _ last _ => h name last

lemma membersFrom_like (acc : List (String × Json)) :
    ReadsLike (Cursor.membersFrom (fuel + 1) depth first acc) (round (Cursor.nextMember first)
      (memberOf fun name => chain (Cursor.valueFrom fuel depth) fun v =>
        Cursor.membersFrom fuel depth false (Ordered.insert name v acc)) acc) := by
  intro cur
  simp only [Cursor.membersFrom, round, chain]
  cases hgo : cur.nextMember first with
  | error e => rfl
  | ok x =>
    obtain ⟨go, mid⟩ := x
    cases go with
    | false => rfl
    | true =>
      change _ = outcome (memberOf _ mid)
      rw [outcome_memberOf]
      rfl

lemma outcome_itemsFrom_nil {cur : Cursor} (hcur : cur.rest = []) :
    outcome (Cursor.itemsFrom fuel depth first cur) = none := by
  cases fuel with
  | zero => rfl
  | succ fuel => rw [itemsFrom_like, (goesOn_nextItem first).round_nil hcur]

lemma outcome_membersFrom_nil (acc : List (String × Json)) {cur : Cursor} (hcur : cur.rest = []) :
    outcome (Cursor.membersFrom fuel depth first acc cur) = none := by
  cases fuel with
  | zero => rfl
  | succ fuel => rw [membersFrom_like, (goesOn_nextMember first).round_nil hcur]

lemma valueFrom_like : ReadsLike (Cursor.valueFrom (fuel + 1) depth) (chain Cursor.lexeme
    (valueOf depth (fun depth => Cursor.itemsFrom fuel depth true)
      fun depth => Cursor.membersFrom fuel depth true [])) := by
  intro cur
  simp only [Cursor.valueFrom, chain]
  cases hlexeme : cur.lexeme with
  | error e => rfl
  | ok x =>
    obtain ⟨lexeme, mid⟩ := x
    cases lexeme with
    | scalar s => cases s <;> rfl
    | array =>
      exact closes_array.outcome_descend_give Json.array fun depth =>
        skip_like (fun hcur => outcome_itemsFrom_nil true depth fuel hcur) mid
    | object =>
      exact closes_object.outcome_descend_give Json.object fun depth =>
        skip_like (fun hcur => outcome_membersFrom_nil true depth fuel [] hcur) mid

end Value

lemma Copies.valueOf {n : Nat} {items items' : Depth → Reader (List Json)}
    {members members' : Depth → Reader (List (String × Json))} (depth : Depth)
    (hitems : ∀ depth, Shrinks (items depth) ∧ ∀ k < n, Copies k (items depth) (items' depth))
    (hmembers : ∀ depth, Shrinks (members depth) ∧
      ∀ k < n, Copies k (members depth) (members' depth)) (lexeme : Lexeme) :
    Copies n (valueOf depth items members lexeme) (valueOf depth items' members' lexeme) := by
  cases lexeme with
  | scalar s => cases s <;> exact .give _
  | array =>
    exact .chain (.bracketed _ (fun depth => (hitems depth).1) fun depth => (hitems depth).2)
      fun xs => .give _
  | object =>
    exact .chain (.bracketed _ (fun depth => (hmembers depth).1) fun depth => (hmembers depth).2)
      fun ms => .give _

lemma Copies.memberOf {n : Nat} {next next' : String → Reader α}
    (hshrinks : ∀ name, Shrinks (next name))
    (h : ∀ name, ∀ k < n, Copies k (next name) (next' name)) :
    Copies n (memberOf next) (memberOf next') :=
  .step (.chain reads_string.steady.shrinks fun name =>
      .chain steady_colon.shrinks fun _ => hshrinks name)
    fun k hk => .chain (reads_string.steady k) fun name =>
      .chain (steady_colon k) fun _ => h name k hk

/-- What `fuel` steps read of values, items and members needs no more steps than twice its
length. -/
structure CopiesAll (fuel : Nat) : Prop where
  value : ∀ {n again depth}, 2 * n + 1 < again →
    Copies n (Cursor.valueFrom fuel depth) (Cursor.valueFrom again depth)
  items : ∀ {n again depth first}, 2 * n + 1 + first.toNat < again →
    Copies n (Cursor.itemsFrom fuel depth first) (Cursor.itemsFrom again depth first)
  members : ∀ {n again depth first acc}, 2 * n + 1 + first.toNat < again →
    Copies n (Cursor.membersFrom fuel depth first acc) (Cursor.membersFrom again depth first acc)

namespace CopiesAll

variable {fuel n again : Nat} {depth : Depth}

lemma value_succ (h : CopiesAll fuel) (hagain : 2 * n < again) :
    Copies n (Cursor.valueFrom (fuel + 1) depth) (Cursor.valueFrom (again + 1) depth) := by
  refine .congr (.chain (steady_lexeme n) fun lexeme => .valueOf depth (fun depth => ⟨?_, ?_⟩)
    (fun depth => ⟨?_, ?_⟩) lexeme) (valueFrom_like depth fuel) (valueFrom_like depth again)
  · exact (h.items (show 2 * 0 + 1 + true.toNat < 3 by decide)).shrinks
  · exact fun k hk => h.items (by rw [Bool.toNat_true]; omega)
  · exact (h.members (show 2 * 0 + 1 + true.toNat < 3 by decide)).shrinks
  · exact fun k hk => h.members (by rw [Bool.toNat_true]; omega)

lemma items_succ (h : CopiesAll fuel) {first : Bool} (hagain : 2 * n + first.toNat < again) :
    Copies n (Cursor.itemsFrom (fuel + 1) depth first)
      (Cursor.itemsFrom (again + 1) depth first) := by
  have hrest (k m : Nat) (hk : 2 * k + 1 < m) : Copies k
      (chain (Cursor.valueFrom fuel depth) fun x =>
        chain (Cursor.itemsFrom fuel depth false) fun xs => give (x :: xs))
      (chain (Cursor.valueFrom m depth) fun x =>
        chain (Cursor.itemsFrom m depth false) fun xs => give (x :: xs)) :=
    .chain (h.value hk) fun x => .chain (h.items hk) fun xs => .give _
  have hfirst := Bool.toNat_le first
  refine .congr (.round (goesOn_nextItem first) (hrest 0 2 (by omega)).shrinks ?_ [])
    (itemsFrom_like first depth fuel) (itemsFrom_like first depth again)
  exact fun k hk => hrest k again (by omega)

lemma members_succ (h : CopiesAll fuel) {first : Bool} {acc : List (String × Json)}
    (hagain : 2 * n + first.toNat < again) :
    Copies n (Cursor.membersFrom (fuel + 1) depth first acc)
      (Cursor.membersFrom (again + 1) depth first acc) := by
  have hrest (k m : Nat) (hk : 2 * k + 1 < m) (name : String) : Copies k
      (chain (Cursor.valueFrom fuel depth) fun v =>
        Cursor.membersFrom fuel depth false (Ordered.insert name v acc))
      (chain (Cursor.valueFrom m depth) fun v =>
        Cursor.membersFrom m depth false (Ordered.insert name v acc)) :=
    .chain (h.value hk) fun v => h.members hk
  have hshrinks (name : String) := (hrest 0 2 (by omega) name).shrinks
  have hfirst := Bool.toNat_le first
  have hmember (k m : Nat) (hk : 2 * k < m + 1) := Copies.memberOf (n := k) hshrinks
    fun name j hj => hrest j m (by omega) name
  refine .congr (.round (goesOn_nextMember first) (hmember 0 0 (by omega)).shrinks ?_ acc)
    (membersFrom_like first depth fuel acc) (membersFrom_like first depth again acc)
  exact fun k hk => hmember k again (by omega)

end CopiesAll

lemma copiesAll (fuel : Nat) : CopiesAll fuel := by
  induction fuel with
  | zero =>
    exact ⟨fun _ => .congr .refuse (fun cur => rfl) fun cur => rfl,
      fun _ => .congr .refuse (fun cur => rfl) fun cur => rfl,
      fun _ => .congr .refuse (fun cur => rfl) fun cur => rfl⟩
  | succ fuel ih =>
    constructor
    · intro n again depth hagain
      obtain ⟨m, rfl⟩ : ∃ m, again = m + 1 := ⟨again - 1, by omega⟩
      exact ih.value_succ (by omega)
    · intro n again depth first hagain
      obtain ⟨m, rfl⟩ : ∃ m, again = m + 1 := ⟨again - 1, by omega⟩
      exact ih.items_succ (by omega)
    · intro n again depth first acc hagain
      obtain ⟨m, rfl⟩ : ∃ m, again = m + 1 := ⟨again - 1, by omega⟩
      exact ih.members_succ (by omega)

lemma steady_value (depth : Depth) : Steady fun cur => Cursor.value depth cur :=
  .of_limit (fun k => Cursor.valueFrom (k + 1) depth) (fun cur => 2 * cur.rest.length + 1) 2
    (fun _ _ _ hm => (copiesAll _).value (by omega)) fun cur => by omega

lemma tag_like (depth : Depth) : ReadsLike (Sql.Tag.read depth)
    (chain (fun cur => Cursor.value depth cur) fun j => accept (Sql.Tag.ofJson j)) := by
  intro cur
  simp only [Sql.Tag.read, chain]
  cases cur.value depth with
  | error e => rfl
  | ok x =>
    obtain ⟨j, mid⟩ := x
    cases htag : Sql.Tag.ofJson j <;> simp [htag, accept, give, refuse, bind, Except.bind]

lemma steady_tag (depth : Depth) : Steady (Sql.Tag.read depth) :=
  .congr (.chain (steady_value depth) fun j => .accept (Sql.Tag.ofJson j)) (tag_like depth)

end BatchInsert.Proofs
