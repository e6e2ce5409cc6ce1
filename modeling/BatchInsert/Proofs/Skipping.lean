import BatchInsert.Json.Skip
import BatchInsert.Proofs.Values

/-!
# Values that nobody wants

What is skipped ends where the outermost bracket closes. Each round takes a scalar or a bracket, so
the length of what is skipped bounds the steps.
-/

namespace BatchInsert.Proofs

open Json (Cursor ReadError)
open Json.Cursor (Frame)
open Outline

/-! ### Numbers and strings -/

/-- A power of ten behind its sign. -/
def powerEnd : Reader Unit := branch Text.isDigit (step (past Text.isDigit (give ()))) refuse

lemma steady_powerEnd : Steady powerEnd := .branch _ (.step (.past _ (.give _))) .refuse

lemma steady_skipPower : Steady (skipping Cursor.skipPower) := by
  refine .congr (.branch (fun c => c == '+' || c == '-') (.step steady_powerEnd) steady_powerEnd)
    fun cur => ?_
  cases hrest : cur.rest with
  | nil => simp [skipping, Cursor.skipPower, branch, powerEnd, hrest, refuse, Except.map]
  | cons c cs =>
    cases hsign : c == '+' || c == '-' with
    | true =>
      cases cs with
      | nil =>
        simp [skipping, Cursor.skipPower, powerEnd, branch, step, hrest, hsign, refuse, Except.map]
      | cons d ds =>
        by_cases hd : Text.isDigit d = true <;>
          simp [skipping, Cursor.skipPower, Cursor.skipDigits, powerEnd, branch, step, past, hrest,
            hsign, hd, give, refuse, Except.map]
    | false =>
      by_cases hc : Text.isDigit c = true <;>
        simp [skipping, Cursor.skipPower, Cursor.skipDigits, powerEnd, branch, step, past, hrest,
          hsign, hc, give, refuse, Except.map]

lemma steady_skipPowerMark : Steady (skipping fun cur => Cursor.skipPowerMark cur) := by
  refine .congr (.branch marksPower (.step steady_skipPower) (.give ())) fun cur => ?_
  cases hrest : cur.rest with
  | nil => simp [skipping, Cursor.skipPowerMark, branch, hrest, give, Except.map]
  | cons c cs =>
    simp only [skipping, Cursor.skipPowerMark, branch, step, marksPower, hrest, List.head?_cons,
      Option.any_some]
    split <;> rfl

/-- A number from its point or power of ten on. -/
def numberEnd : Reader Unit :=
  branch (· == '.')
    (step (branch Text.isDigit (past Text.isDigit (skipping Cursor.skipPowerMark)) refuse))
    (skipping Cursor.skipPowerMark)

lemma steady_numberEnd : Steady numberEnd :=
  .branch _ (.step (.branch _ (.past _ steady_skipPowerMark) .refuse)) steady_skipPowerMark

lemma outcome_numberEnd (cur : Cursor) : outcome (numberEnd cur) = outcome (skipping (fun cur =>
    match cur.rest with
    | '.' :: cs =>
      let point := cur.after '.' cs
      if (cs.head?.map Text.isDigit).getD false then point.skipDigits.skipPowerMark
      else .error (point.failNext .invalidNumber)
    | _ => cur.skipPowerMark) cur) := by
  cases hrest : cur.rest with
  | nil => simp [numberEnd, skipping, branch, hrest]
  | cons c cs =>
    by_cases hpoint : c = '.'
    · subst hpoint
      cases cs with
      | nil => simp [numberEnd, skipping, branch, step, hrest, refuse, Except.map]
      | cons d ds =>
        by_cases hd : Text.isDigit d = true
        · simp [numberEnd, skipping, branch, step, past, hrest, hd, Cursor.skipDigits]
        · simp [numberEnd, skipping, branch, step, hrest, hd, refuse, Except.map]
    · simp [numberEnd, skipping, branch, hrest, hpoint]

def numberOutline : Reader Unit :=
  branch (· == '0') (step (branch Text.isDigit refuse numberEnd))
    (branch Text.isDigit (step (past Text.isDigit numberEnd)) refuse)

lemma skipNumber_like : ReadsLike (skipping Cursor.skipNumber) numberOutline := by
  intro cur
  cases hrest : cur.rest with
  | nil =>
    simp [numberOutline, skipping, Cursor.skipNumber, branch, hrest, refuse, Except.map, bind,
      Except.bind]
  | cons c cs =>
    by_cases hzero : c = '0'
    · subst hzero
      have hnext : (cs.head?.map Text.isDigit).getD false = cs.head?.any Text.isDigit := by
        cases cs <;> rfl
      cases hdigit : cs.head?.any Text.isDigit with
      | true =>
        simp [numberOutline, skipping, Cursor.skipNumber, branch, step, hrest, hnext, hdigit,
          refuse, Except.map, bind, Except.bind]
      | false =>
        simp only [numberOutline, branch, step, hrest, outcome_numberEnd, hdigit,
          Cursor.rest_after, List.head?_cons, Option.any_some, BEq.rfl, if_true,
          Bool.false_eq_true, if_false]
        simp only [skipping, Cursor.skipNumber, hrest, hnext, hdigit, BEq.rfl, if_true,
          Bool.false_eq_true, if_false, bind, Except.bind]
        rfl
    · by_cases hc : Text.isDigit c = true
      · simp only [numberOutline, branch, step, past, hrest, outcome_numberEnd, hc, hzero,
          List.head?_cons, Option.any_some, beq_iff_eq, if_false, if_true]
        simp only [skipping, Cursor.skipNumber, hrest, hzero, hc, beq_iff_eq, if_false, if_true,
          bind, Except.bind]
        rfl
      · simp [numberOutline, skipping, Cursor.skipNumber, branch, hrest, hzero, hc, refuse,
          Except.map, bind, Except.bind]

lemma steady_numberOutline : Steady numberOutline :=
  .branch _ (.step (.branch _ .refuse steady_numberEnd))
    (.branch _ (.step (.past _ steady_numberEnd)) .refuse)

lemma gains_numberOutline : Gains numberOutline :=
  .branch _ (.step (Steady.shrinks (.branch _ .refuse steady_numberEnd)))
    (.branch _ (.step (Steady.shrinks (.past _ steady_numberEnd))) .refuse)

lemma steady_skipEscape : Steady (skipping Cursor.skipEscape) := by
  refine .congr (.branch (· == 'u') (.step (.chain reads_hex4.steady fun _ => .give ()))
    (.branch (fun c => (Cursor.shortEscape? c).isSome) (.step (.give ())) .refuse)) fun cur => ?_
  cases hrest : cur.rest with
  | nil => simp [skipping, Cursor.skipEscape, branch, hrest, refuse, Except.map]
  | cons c cs =>
    by_cases hu : c = 'u'
    · subst hu
      simp only [skipping, Cursor.skipEscape, branch, step, chain, hrest, List.head?_cons,
        Option.any_some, BEq.rfl, if_true]
      cases (cur.after 'u' cs).hex4 <;> rfl
    · by_cases hc : (Cursor.shortEscape? c).isSome = true <;>
        simp [skipping, Cursor.skipEscape, branch, step, hrest, hu, hc, give, refuse, Except.map]

lemma skipStringFrom_like (fuel : Nat) :
    ReadsLike (skipping (Cursor.skipStringFrom (fuel + 1))) (branch (· == '"') (step (give ()))
      (branch (· == '\\')
        (step (chain (skipping Cursor.skipEscape) fun _ => skipping (Cursor.skipStringFrom fuel)))
        (branch (fun c => c.toNat < 0x20) refuse
          (step (skipping (Cursor.skipStringFrom fuel)))))) := by
  intro cur
  cases hrest : cur.rest with
  | nil => simp [skipping, Cursor.skipStringFrom, branch, step, hrest, refuse, Except.map]
  | cons c cs =>
    by_cases hquote : c = '"'
    · simp [skipping, Cursor.skipStringFrom, branch, step, hrest, hquote, give, Except.map]
    · by_cases hslash : c = '\\'
      · subst hslash
        simp only [skipping, Cursor.skipStringFrom, branch, step, hrest, List.head?_cons,
          Option.any_some, beq_iff_eq, hquote, if_false, if_true, chain]
        cases (cur.after '\\' cs).skipEscape <;> rfl
      · by_cases hcontrol : c.toNat < 0x20 <;>
          simp [skipping, Cursor.skipStringFrom, branch, step, hrest, hquote, hslash, hcontrol,
            refuse, Except.map]

lemma copies_skipStringFrom {n fuel again : Nat} (hagain : n < again) :
    Copies n (skipping (Cursor.skipStringFrom fuel)) (skipping (Cursor.skipStringFrom again)) := by
  induction fuel generalizing n again with
  | zero => exact .congr .refuse (fun cur => rfl) fun cur => rfl
  | succ fuel ih =>
    obtain ⟨again, rfl⟩ : ∃ m, again = m + 1 := ⟨again - 1, by omega⟩
    have hshrinks : Shrinks (skipping (Cursor.skipStringFrom fuel)) :=
      (ih Nat.zero_lt_one).shrinks
    refine .congr (.branch _ (Steady.step (.give ()) n) (.branch _ ?_ (.branch _ .refuse ?_)))
      (skipStringFrom_like fuel) (skipStringFrom_like again)
    · refine .step (.chain steady_skipEscape.shrinks fun _ => hshrinks) fun k hk => ?_
      exact .chain (steady_skipEscape k) fun _ => ih (by omega)
    · exact .step hshrinks fun k hk => ih (by omega)

lemma steady_skipString : Steady (skipping Cursor.skipString) :=
  .of_limit (fun k => skipping (Cursor.skipStringFrom k)) (fun cur => cur.rest.length + 1) 1
    (fun _ _ _ hm => copies_skipStringFrom (by omega)) fun cur => by omega

/-! ### Frames -/

lemma steady_skipName (frame : Frame) : Steady (skipping (Cursor.skipName frame)) := by
  cases frame with
  | array => exact .congr (.give ()) fun cur => rfl
  | object =>
    refine .congr (.past Cursor.isBlank (.branch (· == '"')
      (.step (.chain steady_skipString fun _ => steady_colon)) .refuse)) fun cur => ?_
    simp only [skipping, Cursor.skipName, Cursor.skipBlanks, past, throw, throwThe,
      MonadExceptOf.throw]
    cases hrest : (cur.skipWhile Cursor.isBlank).rest with
    | nil => simp [branch, hrest, refuse, Except.map]
    | cons c cs =>
      by_cases hquote : c = '"'
      · subst hquote
        simp only [branch, step, hrest, List.head?_cons, Option.any_some, BEq.rfl, if_true,
          chain_skipping, bind, Except.bind]
        cases hstring : ((cur.skipWhile Cursor.isBlank).after '"' cs).skipString with
        | error e => rfl
        | ok mid =>
          simp only [skipping, Cursor.colon, Cursor.skipBlanks]
          cases hmid : (mid.skipWhile Cursor.isBlank).rest with
          | nil => rfl
          | cons d ds => by_cases hd : d = ':' <;> simp [hd, pure, Except.pure, Except.map]
      · simp [branch, hrest, hquote, refuse, Except.map]

lemma steady_skipClosing (comma : Bool) (frames : List Frame) :
    Steady (Cursor.skipClosing comma frames) := by
  induction frames generalizing comma with
  | nil => exact .congr (.give []) fun cur => rfl
  | cons frame outer ih =>
    let inside : Reader (List Frame) :=
      if comma then refuse else branch (fun _ => true) (give (frame :: outer)) refuse
    have hinside : Steady inside := by
      simp only [inside]
      split
      · exact .refuse
      · exact .branch _ (.give _) .refuse
    refine .congr (.past Cursor.isBlank (.branch (fun c => comma && c == ',')
      (.step (.give (frame :: outer))) (.branch (· == frame.bracket) (.step (ih true)) hinside)))
      fun cur => ?_
    simp only [Cursor.skipClosing, Cursor.skipBlanks, past]
    cases hrest : (cur.skipWhile Cursor.isBlank).rest with
    | nil => cases comma <;> simp [branch, hrest, inside, refuse]
    | cons c cs =>
      by_cases hcomma : (comma && c == ',') = true
      · simp [branch, step, hrest, hcomma, give]
      · by_cases hbracket : c = frame.bracket
        · subst hbracket
          simp [branch, step, hrest, hcomma]
        · cases comma with
          | false => simp [branch, hrest, hbracket, inside, give]
          | true =>
            have hother : c ≠ ',' := by simpa using hcomma
            simp [branch, hrest, hbracket, hother, inside, refuse]

/-! ### Values -/

/-- A scalar or an opening bracket; the frames that are open behind it, and whether a comma must
follow before anything else. -/
def skipHead (frames : List Frame) : Reader (List Frame × Bool) :=
  let done (skip : Reader Unit) : Reader (List Frame × Bool) :=
    chain skip fun _ => give (frames, true)
  branch (· == 'n') (done (skipping (Cursor.literal "null".toList)))
    (branch (· == 't') (done (skipping (Cursor.literal "true".toList)))
      (branch (· == 'f') (done (skipping (Cursor.literal "false".toList)))
        (branch (· == '-') (step (done (skipping Cursor.skipNumber)))
          (branch Text.isDigit (done (skipping Cursor.skipNumber))
            (branch (· == '"') (step (done (skipping Cursor.skipString)))
              (branch (· == '[') (step (give (.array :: frames, false)))
                (branch (· == '\x7b') (step (give (.object :: frames, false))) refuse)))))))

lemma steady_skipNumber : Steady (skipping Cursor.skipNumber) :=
  steady_numberOutline.congr skipNumber_like

lemma steady_skipHead (frames : List Frame) : Steady (skipHead frames) := by
  have hdone {skip : Reader Unit} (hskip : Steady skip) :
      Steady (chain skip fun _ => give (frames, true)) := .chain hskip fun _ => .give _
  have hword (word : List Char) := hdone (reads_literal word).steady
  exact .branch _ (hword _) (.branch _ (hword _) (.branch _ (hword _)
    (.branch _ (.step (hdone steady_skipNumber)) (.branch _ (hdone steady_skipNumber)
      (.branch _ (.step (hdone steady_skipString)) (.branch _ (.step (.give _))
        (.branch _ (.step (.give _)) .refuse)))))))

lemma gains_literal {word : List Char} (hword : word ≠ []) :
    Gains (skipping (Cursor.literal word)) := by
  intro cur a tail h
  obtain ⟨cs, rfl, hcs⟩ := (reads_literal word cur a tail).mp h
  rw [hcs, List.length_append]
  exact Nat.lt_add_of_pos_left (List.length_pos_iff.mpr hword)

lemma gains_skipHead (frames : List Frame) : Gains (skipHead frames) := by
  have hshrinks {skip : Reader Unit} (hskip : Steady skip) :
      Shrinks (chain skip fun _ => give (frames, true)) :=
    .chain hskip.shrinks fun _ => Steady.shrinks (.give _)
  have hdone {skip : Reader Unit} (hskip : Gains skip) :
      Gains (chain skip fun _ => give (frames, true)) :=
    .chain hskip fun _ => Steady.shrinks (.give _)
  have hword (word : List Char) (hword : word ≠ []) := hdone (gains_literal hword)
  have hgive (x : List Frame × Bool) : Gains (step (give x)) := .step (Steady.shrinks (.give x))
  exact .branch _ (hword _ (by decide)) (.branch _ (hword _ (by decide)) (.branch _
    (hword _ (by decide)) (.branch _ (.step (hshrinks steady_skipNumber)) (.branch _
      (hdone (gains_numberOutline.congr skipNumber_like)) (.branch _
        (.step (hshrinks steady_skipString)) (.branch _ (hgive _)
          (.branch _ (hgive _) .refuse)))))))

/-- What follows the head of a value: the brackets that close behind it, and the value that the
innermost frame holds next, if one is left. -/
def skipRest (next : List Frame → Reader Unit) (x : List Frame × Bool) : Reader Unit :=
  chain (Cursor.skipClosing x.2 x.1) fun
    | [] => give ()
    | frame :: outer => chain (skipping (Cursor.skipName frame)) fun _ => next (frame :: outer)

section Round

variable (fuel : Nat) (frames : List Frame)

def skipNext (x : List Frame × Bool) (cur : Cursor) : Except ReadError Cursor := do
  match ← Cursor.skipClosing x.2 x.1 cur with
  | ([], cur) => return cur
  | (frame :: outer, cur) =>
    Cursor.skipValueFrom fuel (frame :: outer) (← cur.skipName frame)

lemma skipNext_like (x : List Frame × Bool) : ReadsLike (skipping (skipNext fuel x))
    (skipRest (fun frames => skipping (Cursor.skipValueFrom fuel frames)) x) := by
  intro cur
  simp only [skipping, skipNext, skipRest, chain]
  cases Cursor.skipClosing x.2 x.1 cur with
  | error e => rfl
  | ok y =>
    obtain ⟨frames, mid⟩ := y
    cases frames with
    | nil => rfl
    | cons frame outer =>
      simp only [chain_skipping, bind, Except.bind]
      cases mid.skipName frame <;> rfl

lemma skipDone_like (skip : Cursor → Except ReadError Cursor) :
    ReadsLike (skipping fun cur => skip cur >>= skipNext fuel (frames, true))
      (chain (chain (skipping skip) fun _ => give (frames, true))
        (skipRest fun frames => skipping (Cursor.skipValueFrom fuel frames))) := by
  intro cur
  simp only [skipping, chain]
  cases skip cur with
  | error e => rfl
  | ok mid => exact skipNext_like fuel (frames, true) mid

lemma skipValueFrom_like :
    ReadsLike (skipping (Cursor.skipValueFrom (fuel + 1) frames)) (past Cursor.isBlank
      (chain (skipHead frames)
        (skipRest fun frames => skipping (Cursor.skipValueFrom fuel frames)))) := by
  intro cur
  have hdone := fun skip => skipDone_like fuel frames skip
  have hnext := fun x => skipNext_like fuel x
  simp only [past]
  simp only [skipping, Cursor.skipValueFrom, Cursor.skipBlanks]
  cases hrest : (cur.skipWhile Cursor.isBlank).rest with
  | nil => simp [skipHead, branch, chain, hrest, refuse, throw, throwThe, MonadExceptOf.throw,
      Except.map, bind, Except.bind]
  | cons c cs =>
    simp only [skipHead, branch, chain, hrest, List.head?_cons, Option.any_some]
    split_ifs
    · exact hdone (Cursor.literal "null".toList) _
    · exact hdone (Cursor.literal "true".toList) _
    · exact hdone (Cursor.literal "false".toList) _
    · rw [step, hrest]
      exact hdone Cursor.skipNumber _
    · exact hdone Cursor.skipNumber _
    · rw [step, hrest]
      exact hdone Cursor.skipString _
    · rw [step, hrest]
      exact hnext (.array :: frames, false) _
    · rw [step, hrest]
      exact hnext (.object :: frames, false) _
    · rfl

lemma copies_skipValueFrom {n again : Nat} (hagain : n < again) :
    Copies n (skipping (Cursor.skipValueFrom fuel frames))
      (skipping (Cursor.skipValueFrom again frames)) := by
  induction fuel generalizing n again frames with
  | zero => exact .congr .refuse (fun cur => rfl) fun cur => rfl
  | succ fuel ih =>
    obtain ⟨again, rfl⟩ : ∃ m, again = m + 1 := ⟨again - 1, by omega⟩
    have hrest (k m : Nat) (hk : k < m) (x : List Frame × Bool) : Copies k
        (skipRest (fun frames => skipping (Cursor.skipValueFrom fuel frames)) x)
        (skipRest (fun frames => skipping (Cursor.skipValueFrom m frames)) x) := by
      refine .chain (steady_skipClosing x.2 x.1 k) fun left => ?_
      cases left with
      | nil => exact .give ()
      | cons frame outer => exact .chain (steady_skipName frame k) fun _ => ih _ hk
    exact .congr (.past _ (.chain_of_gains (steady_skipHead frames n) (gains_skipHead frames)
      (fun x => (hrest 0 1 Nat.zero_lt_one x).shrinks) fun x k hk => hrest k again (by omega) x))
      (skipValueFrom_like fuel frames) (skipValueFrom_like again frames)

end Round

lemma steady_skipValue : Steady (skipping Cursor.skipValue) :=
  .of_limit (fun k => skipping (Cursor.skipValueFrom k [])) (fun cur => cur.rest.length + 1) 1
    (fun _ _ _ hm => copies_skipValueFrom _ _ (by omega)) fun cur => by omega

end BatchInsert.Proofs
