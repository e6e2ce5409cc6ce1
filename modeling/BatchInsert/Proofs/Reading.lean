import BatchInsert.Json.Reader
import Mathlib.Data.List.TakeWhile

/-!
# What a reader takes

A reader of a text in JSON looks at no more than the character behind those that it takes. So it
reads the same from another cursor with the same characters before it, whatever follows them, and
whatever number of steps it is allowed beyond those that they need. That is plain of a few kinds of
steps; a reader is shown to succeed as an outline does that is made of such steps.
-/

namespace BatchInsert.Proofs

open Json (Cursor ReadError)

variable {α β : Type}

abbrev Reader (α : Type) := Cursor → Except ReadError (α × Cursor)

/-- What has been read and the text that is left, nothing if there is none to read. -/
def outcome (r : Except ReadError (α × Cursor)) : Option (α × List Char) :=
  r.toOption.map fun x => (x.1, x.2.rest)

@[simp] lemma outcome_ok (x : α × Cursor) : outcome (.ok x) = some (x.1, x.2.rest) := rfl

@[simp] lemma outcome_pure (x : α × Cursor) : outcome (pure x) = some (x.1, x.2.rest) := rfl

@[simp] lemma outcome_error (e : ReadError) : outcome (.error e : Except _ (α × Cursor)) = none :=
  rfl

@[simp] lemma outcome_throw (e : ReadError) : outcome (throw e : Except _ (α × Cursor)) = none :=
  rfl

@[simp] lemma outcome_bind {γ : Type} (r : Except ReadError γ)
    (f : γ → Except ReadError (α × Cursor)) :
    outcome (r >>= f) = r.toOption.bind fun x => outcome (f x) := by
  cases r <;> rfl

lemma outcome_bind_eq_some {γ : Type} {r : Except ReadError γ}
    {f : γ → Except ReadError (α × Cursor)} {x : α × List Char} :
    outcome (r >>= f) = some x ↔ ∃ b, r = .ok b ∧ outcome (f b) = some x := by
  cases r with
  | error e => simp [Except.toOption]
  | ok b => simp [Except.toOption]

lemma outcome_eq_some {r : Except ReadError (α × Cursor)} {a : α} {tail : List Char} :
    outcome r = some (a, tail) ↔ ∃ cur, r = .ok (a, cur) ∧ cur.rest = tail := by
  constructor
  · intro h
    cases r with
    | error e => cases h
    | ok x =>
      obtain ⟨b, cur⟩ := x
      cases h
      exact ⟨cur, rfl, rfl⟩
  · rintro ⟨cur, rfl, rfl⟩
    rfl

/-- A reader of nothing but a stretch of text. -/
def skipping (skip : Cursor → Except ReadError Cursor) : Reader Unit := fun cur =>
  (skip cur).map fun next => ((), next)

lemma skipping_eq_ok {skip : Cursor → Except ReadError Cursor} {cur next : Cursor} :
    skipping skip cur = .ok ((), next) ↔ skip cur = .ok next := by
  cases hskip : skip cur <;> simp [skipping, hskip, Except.map]

/-- Readers that succeed on the same texts, and with the same outcome. -/
def ReadsLike (read again : Reader α) : Prop := ∀ cur, outcome (read cur) = outcome (again cur)

/-- `taken` is read as `a` wherever it stands before the character `ahead`, or at the end. -/
def Takes (read : Reader α) (taken : List Char) (ahead : Option Char) (a : α) : Prop :=
  ∀ cur tail, cur.rest = taken ++ tail → tail.head? = ahead →
    outcome (read cur) = some (a, tail)

/-- What is read is a stretch of the text, from the cursor on. -/
def Shrinks (read : Reader α) : Prop :=
  ∀ ⦃cur a tail⦄, outcome (read cur) = some (a, tail) → ∃ taken, cur.rest = taken ++ tail

/-- The stretch that the one reader takes is taken by the other, too, if it has no more than `n`
characters. -/
structure Copies (n : Nat) (read again : Reader α) : Prop where
  shrinks : Shrinks read
  takes : ∀ {cur a tail taken}, outcome (read cur) = some (a, tail) → cur.rest = taken ++ tail →
    taken.length ≤ n → Takes again taken tail.head? a

/-- What a reader reads depends on the characters that it takes and the one behind them alone. -/
def Steady (read : Reader α) : Prop := ∀ n, Copies n read read

/-! ### Outlines -/

namespace Outline

def give (a : α) : Reader α := fun cur => .ok (a, cur)

def refuse : Reader α := fun cur => .error (cur.fail .expectedValue)

/-- What has been accepted of something read before. -/
def accept {ε : Type} (r : Except ε α) : Reader α :=
  match r with
  | .ok a => give a
  | .error _ => refuse

/-- Past one character. -/
def step (read : Reader α) : Reader α := fun cur =>
  match cur.rest with
  | [] => refuse cur
  | c :: cs => read (cur.after c cs)

/-- By the next character, which is not taken. -/
def look (f : Option Char → Reader α) : Reader α := fun cur => f cur.rest.head? cur

/-- `yes` where the next character satisfies `p`, and `no` elsewhere. -/
def branch (p : Char → Bool) (yes no : Reader α) : Reader α := fun cur =>
  if cur.rest.head?.any p then yes cur else no cur

/-- Past all characters that satisfy `p`. -/
def past (p : Char → Bool) (read : Reader α) : Reader α := fun cur => read (cur.skipWhile p)

def chain (read : Reader β) (f : β → Reader α) : Reader α := fun cur =>
  read cur >>= fun x => f x.1 x.2

end Outline

open Outline

lemma rest_skipWhile (p : Char → Bool) (cur : Cursor) :
    (cur.skipWhile p).rest = cur.rest.dropWhile p := by
  fun_induction Cursor.skipWhile p cur with
  | case1 cur h => simp [h]
  | case2 cur c cs h hc ih => rw [ih, h, Cursor.rest_after, List.dropWhile_cons_of_pos hc]
  | case3 cur c cs h hc => rw [h, List.dropWhile_cons_of_neg hc]

lemma head?_append_congr {taken tail tail' : List Char} (h : tail'.head? = tail.head?) :
    (taken ++ tail').head? = (taken ++ tail).head? := by
  rw [List.head?_append, List.head?_append, h]

lemma head?_dropWhile (p : Char → Bool) (cs : List Char) :
    ∀ c, (cs.dropWhile p).head? = some c → p c = false := by
  intro c hc
  have hnot := List.head?_dropWhile_not p cs
  rw [hc] at hnot
  exact hnot

lemma span_append {p : Char → Bool} {taken tail : List Char} (htaken : ∀ c ∈ taken, p c = true)
    (htail : ∀ c, tail.head? = some c → p c = false) :
    (taken ++ tail).takeWhile p = taken ∧ (taken ++ tail).dropWhile p = tail := by
  have hnone : tail.takeWhile p = [] ∧ tail.dropWhile p = tail := by
    cases tail with
    | nil => exact ⟨rfl, rfl⟩
    | cons c cs =>
      have hc : ¬ p c = true := by simp [htail c rfl]
      exact ⟨List.takeWhile_cons_of_neg hc, List.dropWhile_cons_of_neg hc⟩
  rw [List.takeWhile_append_of_pos htaken, List.dropWhile_append_of_pos htaken, hnone.1, hnone.2,
    List.append_nil]
  exact ⟨rfl, rfl⟩

lemma outcome_chain {read : Reader β} {f : β → Reader α} {cur : Cursor} {a : α}
    {tail : List Char} :
    outcome (chain read f cur) = some (a, tail) ↔
      ∃ b mid, read cur = .ok (b, mid) ∧ outcome (f b mid) = some (a, tail) := by
  rw [chain, outcome_bind_eq_some]
  exact Prod.exists

lemma outcome_give {f : β → α} {r : Except ReadError (β × Cursor)} :
    outcome (r >>= fun x => give (f x.1) x.2) = (outcome r).map (Prod.map f id) := by
  cases r <;> rfl

lemma chain_skipping {skip : Cursor → Except ReadError Cursor} {f : Unit → Reader α} :
    chain (skipping skip) f = fun cur => skip cur >>= f () := by
  funext cur
  cases hskip : skip cur <;> simp [chain, skipping, hskip, Except.map, bind, Except.bind]

lemma Shrinks.chain {read : Reader β} {f : β → Reader α} (h : Shrinks read)
    (hf : ∀ b, Shrinks (f b)) : Shrinks (chain read f) := by
  intro cur a tail hcur
  obtain ⟨b, mid, hmid, hlast⟩ := outcome_chain.mp hcur
  obtain ⟨first, hfirst⟩ := h (outcome_eq_some.mpr ⟨mid, hmid, rfl⟩)
  obtain ⟨second, hsecond⟩ := hf b hlast
  exact ⟨first ++ second, by rw [hfirst, hsecond, List.append_assoc]⟩

lemma chain_of_ok {read : Reader β} {f : β → Reader α} {cur mid : Cursor} {b : β}
    (h : read cur = .ok (b, mid)) : chain read f cur = f b mid := by
  rw [chain, h]
  rfl

lemma chain_chain {γ : Type} {read : Reader γ} {f : γ → Reader β} {g : β → Reader α} :
    chain (chain read f) g = chain read fun c => chain (f c) g := by
  funext cur
  simp only [chain, bind_assoc]

lemma Shrinks.length_le {read : Reader α} (h : Shrinks read) {cur mid : Cursor} {a : α}
    (hok : read cur = .ok (a, mid)) : mid.rest.length ≤ cur.rest.length := by
  obtain ⟨taken, htaken⟩ := h (outcome_eq_some.mpr ⟨mid, hok, rfl⟩)
  rw [htaken, List.length_append]
  exact Nat.le_add_left ..

lemma outcome_chain_map {γ : Type} {read : Reader β} {f : β → Reader α} {f' : β → Reader γ}
    {g : γ × List Char → α × List Char} {cur : Cursor}
    (h : ∀ b mid, read cur = .ok (b, mid) → outcome (f b mid) = (outcome (f' b mid)).map g) :
    outcome (chain read f cur) = (outcome (chain read f' cur)).map g := by
  cases hread : read cur with
  | error e =>
    simp only [chain, hread, outcome_bind, Except.toOption, Option.bind_none, Option.map_none]
  | ok x => rw [chain_of_ok hread, chain_of_ok hread, h x.1 x.2 hread]

lemma outcome_chain_congr {read : Reader β} {f g : β → Reader α} {cur : Cursor}
    (h : ∀ b mid, read cur = .ok (b, mid) → outcome (f b mid) = outcome (g b mid)) :
    outcome (chain read f cur) = outcome (chain read g cur) := by
  rw [outcome_chain_map (g := id) fun b mid hb => (h b mid hb).trans Option.map_id_apply.symm,
    Option.map_id_apply]

namespace Copies

variable {n : Nat} {read again read' again' : Reader α}

lemma outcome_eq (h : Copies n read again) (h' : Copies n again read) {cur : Cursor}
    (hcur : cur.rest.length ≤ n) : outcome (read cur) = outcome (again cur) := by
  have himp {read again : Reader α} (h : Copies n read again) {x : α × List Char}
      (hx : outcome (read cur) = some x) : outcome (again cur) = some x := by
    obtain ⟨a, tail⟩ := x
    obtain ⟨taken, htaken⟩ := h.shrinks hx
    refine h.takes hx htaken ?_ cur tail htaken rfl
    rw [htaken, List.length_append] at hcur
    omega
  cases hread : outcome (read cur) with
  | some x => exact (himp h hread).symm
  | none =>
    cases hagain : outcome (again cur) with
    | none => rfl
    | some x => rw [himp h' hagain] at hread; cases hread

lemma congr (h : Copies n read again) (hread : ReadsLike read' read)
    (hagain : ReadsLike again' again) : Copies n read' again' where
  shrinks := by
    intro cur a tail hcur
    rw [hread] at hcur
    exact h.shrinks hcur
  takes := by
    intro cur a tail taken hcur hrest hlength cur' tail' hrest' hahead
    rw [hread] at hcur
    rw [hagain]
    exact h.takes hcur hrest hlength cur' tail' hrest' hahead

lemma mono (h : Copies n read again) {m : Nat} (hm : m ≤ n) : Copies m read again :=
  ⟨h.shrinks, fun hcur hrest hlength => h.takes hcur hrest (Nat.le_trans hlength hm)⟩

lemma give (a : α) : Copies n (give a) (give a) where
  shrinks := by
    intro cur b tail hcur
    cases hcur
    exact ⟨[], rfl⟩
  takes := by
    intro cur b tail taken hcur hrest _ cur' tail' hrest' _
    cases hcur
    have htaken : taken = [] := List.self_eq_append_left.mp hrest
    rw [htaken] at hrest'
    exact congrArg (fun rest => some (a, rest)) hrest'

lemma refuse : Copies n refuse again where
  shrinks _ _ _ hcur := by cases hcur
  takes hcur := by cases hcur

lemma step (hshrinks : Shrinks read) (h : ∀ k < n, Copies k read again) :
    Copies n (step read) (step again) where
  shrinks := by
    intro cur a tail hcur
    cases hrest : cur.rest with
    | nil => simp [Outline.step, hrest, Outline.refuse] at hcur
    | cons c cs =>
      simp only [Outline.step, hrest] at hcur
      obtain ⟨taken, htaken⟩ := hshrinks hcur
      rw [Cursor.rest_after] at htaken
      exact ⟨c :: taken, congrArg (c :: ·) htaken⟩
  takes := by
    intro cur a tail taken hcur hrest hlength cur' tail' hrest' hahead
    cases hcs : cur.rest with
    | nil => simp [Outline.step, hcs, Outline.refuse] at hcur
    | cons c cs =>
      simp only [Outline.step, hcs] at hcur
      obtain ⟨kept, hkept⟩ := hshrinks hcur
      rw [Cursor.rest_after] at hkept
      have htaken : taken = c :: kept := by
        refine (List.append_left_inj tail).mp ?_
        rw [← hrest, hcs, hkept, List.cons_append]
      subst htaken
      rw [List.cons_append] at hrest'
      simp only [Outline.step, hrest']
      have hkeptAt : (cur.after c cs).rest = kept ++ tail := by rw [Cursor.rest_after, hkept]
      rw [List.length_cons] at hlength
      exact (h kept.length (by omega)).takes hcur hkeptAt (Nat.le_refl _) _ tail'
        (Cursor.rest_after ..) hahead

lemma look {f g : Option Char → Reader α} (h : ∀ o, Copies n (f o) (g o)) :
    Copies n (look f) (look g) where
  shrinks _ _ _ hcur := (h _).shrinks hcur
  takes := by
    intro cur a tail taken hcur hrest hlength cur' tail' hrest' hahead
    have hhead : cur'.rest.head? = cur.rest.head? := by
      rw [hrest, hrest', head?_append_congr hahead]
    rw [Outline.look, hhead]
    exact (h _).takes hcur hrest hlength cur' tail' hrest' hahead

lemma branch {yes no yes' no' : Reader α} (p : Char → Bool) (hyes : Copies n yes yes')
    (hno : Copies n no no') : Copies n (branch p yes no) (branch p yes' no') := by
  have hlike (yes no : Reader α) : ReadsLike (Outline.branch p yes no)
      (Outline.look fun o => if o.any p then yes else no) := by
    intro cur
    simp only [Outline.branch, Outline.look]
    split <;> rfl
  refine .congr (.look fun o => ?_) (hlike yes no) (hlike yes' no')
  split
  · exact hyes
  · exact hno

lemma past (p : Char → Bool) (h : Copies n read again) : Copies n (past p read) (past p again) where
  shrinks := by
    intro cur a tail hcur
    obtain ⟨taken, htaken⟩ := h.shrinks hcur
    refine ⟨cur.rest.takeWhile p ++ taken, ?_⟩
    rw [List.append_assoc, ← htaken, rest_skipWhile, List.takeWhile_append_dropWhile]
  takes := by
    intro cur a tail taken hcur hrest hlength cur' tail' hrest' hahead
    obtain ⟨kept, hkept⟩ := h.shrinks hcur
    have htaken : taken = cur.rest.takeWhile p ++ kept := by
      refine (List.append_left_inj tail).mp ?_
      rw [List.append_assoc, ← hkept, rest_skipWhile, List.takeWhile_append_dropWhile, hrest]
    -- Behind the characters that are passed stands one that does not satisfy `p`, or none.
    have hnext : (cur'.skipWhile p).rest = kept ++ tail' := by
      rw [rest_skipWhile, hrest', htaken, List.append_assoc]
      refine (span_append (fun c hc => List.mem_takeWhile_imp hc) ?_).2
      rw [head?_append_congr hahead, ← hkept, rest_skipWhile]
      exact head?_dropWhile p cur.rest
    refine h.takes hcur hkept ?_ _ tail' hnext hahead
    rw [htaken, List.length_append] at hlength
    omega

lemma chain_of_rest {read again : Reader β} {f g : β → Reader α} (h : Copies n read again)
    (hshrinks : ∀ b, Shrinks (f b))
    (hf : ∀ {cur b mid first}, read cur = .ok (b, mid) → cur.rest = first ++ mid.rest →
      first.length ≤ n → Copies (n - first.length) (f b) (g b)) :
    Copies n (chain read f) (chain again g) where
  shrinks := Shrinks.chain h.shrinks hshrinks
  takes := by
    intro cur a tail taken hcur hrest hlength cur' tail' hrest' hahead
    obtain ⟨b, mid, hmid, hlast⟩ := outcome_chain.mp hcur
    have hread : outcome (read cur) = some (b, mid.rest) := outcome_eq_some.mpr ⟨mid, hmid, rfl⟩
    obtain ⟨first, hfirst⟩ := h.shrinks hread
    obtain ⟨second, hsecond⟩ := hshrinks b hlast
    have htaken : taken = first ++ second := by
      refine (List.append_left_inj tail).mp ?_
      rw [← hrest, hfirst, hsecond, List.append_assoc]
    rw [htaken, List.append_assoc] at hrest'
    rw [htaken, List.length_append] at hlength
    have hmidahead : (second ++ tail').head? = mid.rest.head? := by
      rw [hsecond, head?_append_congr hahead]
    obtain ⟨mid', hmid', hmidrest⟩ := outcome_eq_some.mp
      (h.takes hread hfirst (by omega) cur' (second ++ tail') hrest' hmidahead)
    refine outcome_chain.mpr ⟨b, mid', hmid', ?_⟩
    exact (hf hmid hfirst (by omega)).takes hlast hsecond (by omega) mid' tail' hmidrest hahead

lemma chain {read again : Reader β} {f g : β → Reader α} (h : Copies n read again)
    (hf : ∀ b, Copies n (f b) (g b)) : Copies n (chain read f) (chain again g) :=
  h.chain_of_rest (fun b => (hf b).shrinks) fun _ _ _ => (hf _).mono (Nat.sub_le ..)

end Copies

/-- A reader that takes at least one character. -/
def Gains (read : Reader α) : Prop :=
  ∀ ⦃cur a tail⦄, outcome (read cur) = some (a, tail) → tail.length < cur.rest.length

namespace Gains

variable {read read' : Reader α}

lemma congr (h : Gains read) (hlike : ReadsLike read' read) : Gains read' := by
  intro cur a tail hcur
  rw [hlike] at hcur
  exact h hcur

lemma refuse : Gains (refuse : Reader α) := fun _ _ _ hcur => by cases hcur

lemma step (h : Shrinks read) : Gains (step read) := by
  intro cur a tail hcur
  cases hrest : cur.rest with
  | nil => simp [Outline.step, hrest, Outline.refuse] at hcur
  | cons c cs =>
    simp only [Outline.step, hrest] at hcur
    obtain ⟨taken, htaken⟩ := h hcur
    rw [Cursor.rest_after] at htaken
    rw [htaken, List.length_cons, List.length_append]
    omega

lemma branch {yes no : Reader α} (p : Char → Bool) (hyes : Gains yes) (hno : Gains no) :
    Gains (branch p yes no) := by
  intro cur a tail hcur
  simp only [Outline.branch] at hcur
  split at hcur
  · exact hyes hcur
  · exact hno hcur

lemma past (p : Char → Bool) (h : Gains read) : Gains (past p read) := by
  intro cur a tail hcur
  have hlength := h hcur
  rw [rest_skipWhile] at hlength
  exact Nat.lt_of_lt_of_le hlength (List.length_dropWhile_le p cur.rest)

lemma chain {read : Reader β} {f : β → Reader α} (h : Gains read) (hf : ∀ b, Shrinks (f b)) :
    Gains (chain read f) := by
  intro cur a tail hcur
  obtain ⟨b, mid, hmid, hlast⟩ := outcome_chain.mp hcur
  obtain ⟨taken, htaken⟩ := hf b hlast
  have hlength := h (outcome_eq_some.mpr ⟨mid, hmid, rfl⟩)
  rw [htaken, List.length_append] at hlength
  omega

end Gains

namespace Copies

variable {n : Nat}

lemma chain_of_gains {read again : Reader β} {f g : β → Reader α} (h : Copies n read again)
    (hgains : Gains read) (hshrinks : ∀ b, Shrinks (f b))
    (hf : ∀ b, ∀ k < n, Copies k (f b) (g b)) :
    Copies n (Outline.chain read f) (Outline.chain again g) := by
  refine h.chain_of_rest hshrinks fun {cur b mid first} hmid hfirst hlength => hf b _ ?_
  have hgain := hgains (outcome_eq_some.mpr ⟨mid, hmid, rfl⟩)
  rw [hfirst, List.length_append] at hgain
  omega

end Copies

lemma outcome_chain_of_none {read : Reader β} {f : β → Reader α} {cur : Cursor}
    (h : outcome (read cur) = none) : outcome (chain read f cur) = none := by
  cases hread : read cur with
  | error e => simp only [chain, hread, outcome_bind, Except.toOption, Option.bind_none]
  | ok x => rw [hread] at h; cases h

namespace Steady

variable {read read' : Reader α}

lemma takes (h : Steady read) {cur : Cursor} {a : α} {taken tail : List Char}
    (hcur : outcome (read cur) = some (a, tail)) (hrest : cur.rest = taken ++ tail) :
    Takes read taken tail.head? a :=
  (h taken.length).takes hcur hrest (Nat.le_refl _)

lemma shrinks (h : Steady read) : Shrinks read := (h 0).shrinks

lemma outcome_congr (h : Steady read) {cur cur' : Cursor} (hrest : cur.rest = cur'.rest) :
    outcome (read cur) = outcome (read cur') := by
  have htakes {cur cur' : Cursor} {x : α × List Char} (hrest : cur.rest = cur'.rest)
      (hcur : outcome (read cur) = some x) : outcome (read cur') = some x := by
    obtain ⟨a, tail⟩ := x
    obtain ⟨taken, htaken⟩ := h.shrinks hcur
    exact h.takes hcur htaken cur' tail (hrest ▸ htaken) rfl
  cases hcur : outcome (read cur) with
  | some x => exact (htakes hrest hcur).symm
  | none =>
    cases hcur' : outcome (read cur') with
    | none => rfl
    | some x => rw [htakes hrest.symm hcur'] at hcur; cases hcur

lemma outcome_at (h : Steady read) (cur : Cursor) :
    outcome (read ⟨cur.rest, 1, 0⟩) = outcome (read cur) := h.outcome_congr rfl

lemma outcome_chain_eq {read again : Reader β} {f : β → Reader α} (hf : ∀ b, Steady (f b))
    {cur cur' : Cursor} (h : outcome (read cur) = outcome (again cur')) :
    outcome (Outline.chain read f cur) = outcome (Outline.chain again f cur') := by
  cases hread : read cur with
  | error e =>
    rw [hread, outcome_error] at h
    rw [outcome_chain_of_none (by rw [hread]; rfl), outcome_chain_of_none h.symm]
  | ok x =>
    obtain ⟨b, mid⟩ := x
    rw [hread] at h
    obtain ⟨mid', hagain, hrest⟩ := outcome_eq_some.mp h.symm
    rw [chain_of_ok hread, chain_of_ok hagain, (hf b).outcome_congr hrest.symm]

lemma congr (h : Steady read) (hlike : ReadsLike read' read) : Steady read' := fun n =>
  (h n).congr hlike hlike

lemma give (a : α) : Steady (give a) := fun _ => .give a

lemma refuse : Steady (refuse : Reader α) := fun _ => .refuse

lemma accept {ε : Type} (r : Except ε α) : Steady (accept r) := by
  cases r with
  | error e => exact refuse
  | ok a => exact give a

lemma step (h : Steady read) : Steady (step read) := fun _ => .step h.shrinks fun k _ => h k

lemma branch {yes no : Reader α} (p : Char → Bool) (hyes : Steady yes) (hno : Steady no) :
    Steady (branch p yes no) := fun n => .branch p (hyes n) (hno n)

lemma past (p : Char → Bool) (h : Steady read) : Steady (past p read) := fun n => (h n).past p

lemma chain {read : Reader β} {f : β → Reader α} (h : Steady read) (hf : ∀ b, Steady (f b)) :
    Steady (chain read f) := fun n => (h n).chain fun b => hf b n

/-- A reader whose steps are bounded by the length of the text, each character being good for
`width` of them. -/
lemma of_limit (reads : Nat → Reader α) (limit : Cursor → Nat) (width : Nat)
    (h : ∀ n k m, width * n < m → Copies n (reads k) (reads m))
    (hlimit : ∀ cur, width * cur.rest.length < limit cur) :
    Steady fun cur => reads (limit cur) cur := fun n =>
  { shrinks := fun _ _ _ hcur => (h 0 _ 1 (by omega)).shrinks hcur
    takes := by
      intro cur a tail taken hcur hrest hlength cur' tail' hrest' hahead
      have hwidth : width * taken.length < limit cur' := by
        refine Nat.lt_of_le_of_lt (Nat.mul_le_mul_left width ?_) (hlimit cur')
        rw [hrest', List.length_append]
        exact Nat.le_add_right _ _
      exact (h taken.length _ _ hwidth).takes hcur hrest (Nat.le_refl _) cur' tail' hrest'
        hahead }

end Steady

/-- The texts that a reader takes, and what it reads from each, whatever stands behind it. -/
def Reads (read : Reader α) (taken : List Char → α → Prop) : Prop :=
  ∀ cur a tail, outcome (read cur) = some (a, tail) ↔ ∃ cs, taken cs a ∧ cur.rest = cs ++ tail

lemma Reads.of_ok {read : Reader α} {taken : List Char → α → Prop} (h : Reads read taken)
    {cur next : Cursor} {a : α} (hok : read cur = .ok (a, next)) :
    ∃ cs, taken cs a ∧ cur.rest = cs ++ next.rest :=
  (h cur a next.rest).mp (outcome_eq_some.mpr ⟨next, hok, rfl⟩)

lemma Reads.ok_of {read : Reader α} {taken : List Char → α → Prop} (h : Reads read taken)
    {cur : Cursor} {cs tail : List Char} {a : α} (htaken : taken cs a)
    (hrest : cur.rest = cs ++ tail) : ∃ next, read cur = .ok (a, next) ∧ next.rest = tail :=
  outcome_eq_some.mp ((h cur a tail).mpr ⟨cs, htaken, hrest⟩)

lemma Reads.steady {read : Reader α} {taken : List Char → α → Prop} (h : Reads read taken) :
    Steady read := fun n =>
  { shrinks := by
      intro cur a tail hcur
      obtain ⟨cs, _, hcs⟩ := (h cur a tail).mp hcur
      exact ⟨cs, hcs⟩
    takes := by
      intro cur a tail kept hcur hrest _ cur' tail' hrest' _
      obtain ⟨cs, htaken, hcs⟩ := (h cur a tail).mp hcur
      have hkept : kept = cs := List.append_cancel_right (hrest.symm.trans hcs)
      exact (h cur' a tail').mpr ⟨kept, hkept ▸ htaken, hrest'⟩ }

end BatchInsert.Proofs
