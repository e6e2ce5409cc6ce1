import BatchInsert.Proofs.Strings

/-!
# Numbers and the other lexemes

A number ends before the first character that cannot belong to it, which is looked at and not
taken. All other scalars end with a character of their own.
-/

namespace BatchInsert.Proofs

open Json (Cursor Lexeme Number ReadError)
open Outline

/-! ### Literals and digits -/

lemma reads_literal (word : List Char) :
    Reads (skipping (Cursor.literal word)) fun cs _ => cs = word := by
  intro cur _ tail
  simp only [exists_eq_left]
  induction word generalizing cur with
  | nil => simp [skipping, Cursor.literal, Except.map]
  | cons c word ih =>
    cases hrest : cur.rest with
    | nil => simp [skipping, Cursor.literal, hrest, Except.map]
    | cons d ds =>
      by_cases hd : c = d
      · subst hd
        have hnext := ih (cur.after c ds)
        rw [Cursor.rest_after] at hnext
        simp only [skipping, Cursor.literal, hrest, BEq.rfl, if_true, List.cons_append,
          List.cons.injEq, true_and]
        exact hnext
      · simp [skipping, Cursor.literal, hrest, hd, Ne.symm hd, Except.map]

def digitRun : Reader (List Nat) := fun cur => .ok cur.digits

lemma steady_digitRun : Steady digitRun := fun _ =>
  { shrinks := by
      intro cur ds tail hcur
      simp only [digitRun, Cursor.digits, outcome_ok, rest_skipWhile, Option.some.injEq,
        Prod.mk.injEq] at hcur
      exact ⟨cur.rest.takeWhile Text.isDigit, hcur.2 ▸ List.takeWhile_append_dropWhile.symm⟩
    takes := by
      intro cur ds tail taken hcur hrest _ cur' tail' hrest' hahead
      simp only [digitRun, Cursor.digits, outcome_ok, rest_skipWhile, Option.some.injEq,
        Prod.mk.injEq] at hcur ⊢
      obtain ⟨rfl, rfl⟩ := hcur
      have htaken : taken = cur.rest.takeWhile Text.isDigit := by
        refine (List.append_left_inj (cur.rest.dropWhile Text.isDigit)).mp ?_
        rw [← hrest, List.takeWhile_append_dropWhile]
      have hstop : ∀ c, tail'.head? = some c → Text.isDigit c = false := by
        rw [hahead]
        exact head?_dropWhile Text.isDigit cur.rest
      obtain ⟨htake, hdrop⟩ := span_append (fun c hc => List.mem_takeWhile_imp hc) hstop
      rw [hrest', htaken, htake, hdrop]
      exact ⟨rfl, rfl⟩ }

/-! ### Numbers -/

section Number

variable (negative : Bool) (significand : Nat) (base exponent : Int) (down : Bool) (acc : Nat)

lemma steady_real : Steady fun cur => Cursor.real cur negative significand exponent := by
  cases hscale : Cursor.scale? 4 (Binary.Number.ofRatio .double false significand 1) exponent with
  | none => exact .congr .refuse fun cur => by simp [Cursor.real, hscale, refuse]
  | some x =>
    exact .congr (.give (.real (if negative then x.neg else x))) fun cur => by
      simp [Cursor.real, hscale, give]

/-- The digits of a power of ten, all that are at the cursor. -/
def powerRun : Reader Number := fun cur =>
  Cursor.powerDigits negative significand base down acc cur.rest cur

lemma powerRun_like : ReadsLike (powerRun negative significand base down acc) (look fun
    | none => fun cur =>
      Cursor.real cur negative significand (if down then base - acc else base + acc)
    | some c =>
      if Text.isDigit c then
        if acc * 10 + (c.toNat - 48) < 2 ^ 31 then
          step (powerRun negative significand base down (acc * 10 + (c.toNat - 48)))
        else if significand ≠ 0 && !down then refuse
        else step (past Text.isDigit (give (.real (Binary.Number.ofFields .double negative 0))))
      else fun cur =>
        Cursor.real cur negative significand (if down then base - acc else base + acc)) := by
  intro cur
  cases hrest : cur.rest with
  | nil => simp [powerRun, Cursor.powerDigits, look, hrest]
  | cons c cs =>
    simp only [powerRun, Cursor.powerDigits, look, hrest, List.head?_cons]
    split
    · split
      · simp [step, hrest, powerRun]
      · split
        · simp [refuse]
        · simp [step, hrest, past, give]
    · rfl

lemma shrinks_powerRun : Shrinks (powerRun negative significand base down acc) := by
  intro cur a tail h
  obtain ⟨cs, hcs⟩ : ∃ cs, cur.rest = cs := ⟨_, rfl⟩
  induction cs generalizing acc cur with
  | nil =>
    rw [powerRun_like] at h
    simp only [look, hcs] at h
    exact Steady.shrinks (steady_real _ _ _) h
  | cons c cs ih =>
    rw [powerRun_like] at h
    simp only [look, hcs, List.head?_cons] at h
    split at h
    · split at h
      · simp only [step, hcs] at h
        obtain ⟨taken, htaken⟩ := ih _ h (Cursor.rest_after ..)
        rw [Cursor.rest_after] at htaken
        exact ⟨c :: taken, by rw [hcs, htaken, List.cons_append]⟩
      · split at h
        · cases h
        · exact Steady.shrinks (.step (.past _ (.give _))) h
    · exact Steady.shrinks (steady_real _ _ _) h

lemma steady_powerRun : Steady (powerRun negative significand base down acc) := by
  intro n
  induction n using Nat.strong_induction_on generalizing acc with
  | _ n ih =>
    refine .congr (.look fun o => ?_) (powerRun_like _ _ _ _ _) (powerRun_like _ _ _ _ _)
    cases o with
    | none => exact steady_real _ _ _ n
    | some c =>
      dsimp only
      split
      · split
        · exact .step (shrinks_powerRun _ _ _ _ _) fun k hk => ih k hk _
        · split
          · exact .refuse
          · exact Steady.step (.past _ (.give _)) n
      · exact steady_real _ _ _ n

/-- A power of ten from its digits on. -/
def powerDigitsOf : Reader Number :=
  branch Text.isDigit (powerRun negative significand base down 0) refuse

lemma steady_powerDigitsOf : Steady (powerDigitsOf negative significand base down) :=
  .branch _ (steady_powerRun _ _ _ _ _) .refuse

lemma steady_power : Steady fun cur => Cursor.power cur negative significand base := by
  have hdigits (down : Bool) := steady_powerDigitsOf negative significand base down
  refine .congr (.branch (· == '+') (.step (hdigits false))
    (.branch (· == '-') (.step (hdigits true)) (hdigits false))) fun cur => ?_
  cases hrest : cur.rest with
  | nil => simp [Cursor.power, powerDigitsOf, branch, hrest, refuse]
  | cons c cs =>
    by_cases hplus : c = '+'
    · subst hplus
      cases cs with
      | nil => simp [Cursor.power, powerDigitsOf, branch, step, hrest, refuse]
      | cons d ds =>
        by_cases hd : Text.isDigit d = true <;>
          simp [Cursor.power, powerDigitsOf, powerRun, branch, step, hrest, hd, refuse]
    · by_cases hminus : c = '-'
      · subst hminus
        cases cs with
        | nil => simp [Cursor.power, powerDigitsOf, branch, step, hrest, refuse]
        | cons d ds =>
          by_cases hd : Text.isDigit d = true <;>
            simp [Cursor.power, powerDigitsOf, powerRun, branch, step, hrest, hd, refuse]
      · by_cases hc : Text.isDigit c = true <;>
          simp [Cursor.power, powerDigitsOf, powerRun, branch, hrest, hplus, hminus, hc, refuse]

def marksPower (c : Char) : Bool := c == 'e' || c == 'E'

lemma steady_realTail :
    Steady fun cur => Cursor.realTail cur negative significand exponent := by
  refine .congr (.branch marksPower (.step (steady_power negative significand exponent))
    (steady_real negative significand exponent)) fun cur => ?_
  cases hrest : cur.rest with
  | nil => simp [Cursor.realTail, branch, hrest]
  | cons c cs =>
    simp only [Cursor.realTail, branch, marksPower, hrest, step, List.head?_cons, Option.any_some]

/-- A number that has ended before any point or power of ten, with all its digits kept. -/
def wholeNumber : Reader Number := fun cur =>
  if !negative then .ok (.integer significand, cur)
  else if significand = 0 || 2 ^ 63 < significand then Cursor.real cur true significand 0
  else .ok (.integer (-(significand : Int)), cur)

lemma steady_wholeNumber : Steady (wholeNumber negative significand) := by
  unfold wholeNumber
  split
  · exact .give _
  · split
    · exact steady_real _ _ _
    · exact .give _

lemma steady_numberTail (whole : List Nat) :
    Steady fun cur => Cursor.numberTail cur negative whole := by
  let kept := Cursor.absorb 0 whole
  let dropped := whole.length - kept.2
  let fraction (places : List Nat) : Reader Number :=
    if places.isEmpty then refuse
    else fun cur => cur.realTail negative (Cursor.absorb kept.1 places).1
      ((dropped : Int) - (Cursor.absorb kept.1 places).2)
  let ending : Reader Number :=
    if dropped = 0 then
      branch marksPower (fun cur => cur.realTail negative kept.1 dropped)
        (wholeNumber negative kept.1)
    else fun cur => cur.realTail negative kept.1 dropped
  have hfraction (places : List Nat) : Steady (fraction places) := by
    simp only [fraction]
    split
    · exact .refuse
    · exact steady_realTail _ _ _
  have hending : Steady ending := by
    simp only [ending]
    split
    · exact .branch _ (steady_realTail _ _ _) (steady_wholeNumber _ _)
    · exact steady_realTail _ _ _
  refine .congr (.branch (· == '.') (.step (.chain steady_digitRun hfraction)) hending)
    fun cur => ?_
  have hend (cur : Cursor) : outcome (ending cur) = outcome
      (if (cur.rest.head?.any marksPower) || dropped ≠ 0 then
        cur.realTail negative kept.1 dropped
      else wholeNumber negative kept.1 cur) := by
    by_cases hdropped : dropped = 0
    · simp [ending, hdropped, branch]
    · simp [ending, hdropped]
  cases hrest : cur.rest with
  | nil =>
    simp only [branch, hrest, List.head?_nil, Option.any_none, Bool.false_eq_true, if_false, hend]
    simp [Cursor.numberTail, wholeNumber, hrest, kept, dropped]
  | cons c cs =>
    by_cases hpoint : c = '.'
    · subst hpoint
      simp only [Cursor.numberTail, branch, hrest, List.head?_cons, Option.any_some, BEq.rfl,
        if_true, step, chain, digitRun, fraction, kept, dropped, bind, Except.bind]
      cases hplaces : (cur.after '.' cs).digits.1.isEmpty with
      | true => simp [refuse]
      | false => rfl
    · simp only [branch, hrest, hend, List.head?_cons, Option.any_some, beq_iff_eq, hpoint,
        if_false]
      simp [Cursor.numberTail, wholeNumber, hrest, kept, dropped, hpoint, marksPower]

end Number

/-- A number behind its sign. -/
def unsignedNumber (negative : Bool) : Reader Number := fun cur =>
  match cur.rest with
  | [] => .error (cur.fail .eofInValue)
  | '0' :: cs =>
    let next := cur.after '0' cs
    match cs with
    | c :: _ =>
      if Text.isDigit c then .error (next.failNext .invalidNumber)
      else next.numberTail negative [0]
    | [] => next.numberTail negative [0]
  | c :: _ =>
    if Text.isDigit c then
      let (whole, next) := cur.digits
      next.numberTail negative whole
    else .error ((cur.skipBytes 1 cur.rest).fail .invalidNumber)

lemma steady_unsignedNumber (negative : Bool) : Steady (unsignedNumber negative) := by
  refine .congr (.branch (· == '0')
    (.step (.branch Text.isDigit .refuse (steady_numberTail negative [0])))
    (.branch Text.isDigit (.chain steady_digitRun fun whole => steady_numberTail negative whole)
      .refuse)) fun cur => ?_
  cases hrest : cur.rest with
  | nil => simp [unsignedNumber, branch, hrest, refuse]
  | cons c cs =>
    by_cases hzero : c = '0'
    · subst hzero
      cases cs with
      | nil => simp [unsignedNumber, branch, step, hrest]
      | cons d ds =>
        by_cases hd : Text.isDigit d = true
        · simp [unsignedNumber, branch, step, hrest, hd, refuse]
        · simp [unsignedNumber, branch, step, hrest, hd]
    · by_cases hc : Text.isDigit c = true
      · simp [unsignedNumber, branch, hrest, hzero, hc, chain, digitRun, bind, Except.bind]
      · simp [unsignedNumber, branch, hrest, hzero, hc, refuse]

lemma number_of_minus {cur : Cursor} {cs : List Char} (hrest : cur.rest = '-' :: cs) :
    cur.number = unsignedNumber true (cur.after '-' cs) := by
  simp only [Cursor.number, hrest]
  rfl

lemma number_of_ne_minus {cur : Cursor} (hrest : cur.rest.head? ≠ some '-') :
    cur.number = unsignedNumber false cur := by
  rw [Cursor.number]
  split
  rename_i negative next hsign
  obtain ⟨rfl, rfl⟩ : false = negative ∧ cur = next := by
    cases hcur : cur.rest with
    | nil => simpa [hcur] using hsign
    | cons c cs =>
      have hc : c ≠ '-' := by simpa [hcur] using hrest
      simpa [hcur, hc] using hsign
  rfl

lemma steady_number : Steady Cursor.number := by
  refine .congr (.branch (· == '-') (.step (steady_unsignedNumber true))
    (steady_unsignedNumber false)) fun cur => ?_
  cases hrest : cur.rest with
  | nil => rw [number_of_ne_minus (by simp [hrest])]; simp [branch, hrest]
  | cons c cs =>
    by_cases hminus : c = '-'
    · subst hminus
      rw [number_of_minus hrest]
      simp [branch, step, hrest]
    · rw [number_of_ne_minus (by simp [hrest, hminus])]
      simp [branch, hrest, hminus]

lemma steady_lexeme : Steady Cursor.lexeme := by
  have hliteral (word : String) (s : Document.Scalar) : Steady (chain
      (skipping (Cursor.literal word.toList)) fun _ => give (Lexeme.scalar s)) :=
    .chain (reads_literal _).steady fun _ => .give _
  refine .congr (.past Cursor.isBlank
    (.branch (· == 'n') (hliteral "null" .null)
      (.branch (· == 't') (hliteral "true" (.bool true))
        (.branch (· == 'f') (hliteral "false" (.bool false))
          (.branch (· == '"')
            (.step (.chain reads_string.steady fun s => .give (.scalar (.string s))))
            (.branch (fun c => c == '-' || Text.isDigit c)
              (.chain steady_number fun n => .give (.scalar n.scalar))
              (.branch (· == '[') (.give .array)
                (.branch (· == '\x7b') (.give .object) .refuse)))))))) fun cur => ?_
  simp only [Cursor.lexeme, past, Cursor.skipBlanks]
  cases hrest : (cur.skipWhile Cursor.isBlank).rest with
  | nil => simp [branch, hrest, refuse]
  | cons c cs =>
    simp only [branch, hrest, List.head?_cons, Option.any_some, step, chain_skipping, give, refuse]
    repeat' split
    all_goals rfl

lemma skipWhile_of_neg {p : Char → Bool} {cur : Cursor} {c : Char} {cs : List Char}
    (hrest : cur.rest = c :: cs) (hc : p c = false) : cur.skipWhile p = cur := by
  rw [Cursor.skipWhile]
  split
  · rfl
  · rename_i d ds hcons
    obtain ⟨rfl, -⟩ := List.cons.inj (hrest.symm.trans hcons)
    rw [if_neg (by simp [hc])]

lemma lexeme_of_quote {cur : Cursor} {cs : List Char} (hrest : cur.rest = '"' :: cs) :
    cur.lexeme = (cur.after '"' cs).string >>= fun x =>
      pure (.scalar (.string x.1), x.2) := by
  have hstay : cur.skipWhile Cursor.isBlank = cur := skipWhile_of_neg hrest (by decide)
  simp only [Cursor.lexeme, Cursor.skipBlanks, hstay, hrest]
  rfl

end BatchInsert.Proofs
