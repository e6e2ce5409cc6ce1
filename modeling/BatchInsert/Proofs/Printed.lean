import BatchInsert.Json.Printer
import BatchInsert.Proofs.Numerals
import BatchInsert.Proofs.Values
import Mathlib.Data.List.Forall2

/-!
# Reading what has been printed

In compact JSON a value ends where the text does, or before a comma or a closing bracket. Up to
there a reader takes what the printer has written for a value, and gets the value back. Each loop
over items or members is cut at the commas, so that one item is read at a time.
-/

namespace BatchInsert.Proofs

open Json (Cursor Depth Lexeme Number ReadError)
open Outline

variable {α β : Type}

/-- Characters that may stand behind a value. -/
def endsValue (c : Char) : Bool := c == ',' || c == ']' || c == '\x7d'

/-- A value ends before this text. -/
def Ends (tail : List Char) : Prop := ∀ c, tail.head? = some c → endsValue c = true

/-- Characters that a value may begin with. -/
def beginsValue (c : Char) : Bool := !Cursor.isBlank c && c != ']'

lemma isBlank_of_beginsValue {c : Char} (hc : beginsValue c = true) :
    Cursor.isBlank c = false := by
  simp only [beginsValue, Bool.and_eq_true, Bool.not_eq_true'] at hc
  exact hc.1

/-- What has been printed for a value is read as that value. -/
structure ReadsBack (read : Reader α) (printed : List Char) (a : α) : Prop where
  begins : printed.head?.any beginsValue = true
  reads : ∀ {cur tail}, cur.rest = printed ++ tail → Ends tail →
    outcome (read cur) = some (a, tail)

namespace ReadsBack

variable {printed : List Char} {a : α}

lemma congr {read again : Reader α} (h : ReadsBack again printed a) (hlike : ReadsLike read again) :
    ReadsBack read printed a where
  begins := h.begins
  reads hrest hends := (hlike _).trans (h.reads hrest hends)

lemma chain {read : Reader β} {f : β → Reader α} {b : β} (h : ReadsBack read printed b)
    (hf : ∀ mid, outcome (f b mid) = some (a, mid.rest)) : ReadsBack (chain read f) printed a where
  begins := h.begins
  reads hrest hends := by
    obtain ⟨mid, hmid, rfl⟩ := outcome_eq_some.mp (h.reads hrest hends)
    exact outcome_chain.mpr ⟨b, mid, hmid, hf mid⟩

lemma exists_cons {read : Reader α} (h : ReadsBack read printed a) :
    ∃ c cs, printed = c :: cs ∧ beginsValue c = true := by
  cases hprinted : printed with
  | nil => simpa [hprinted] using h.begins
  | cons c cs => exact ⟨c, cs, rfl, by simpa [hprinted] using h.begins⟩

lemma length_pos {read : Reader α} (h : ReadsBack read printed a) : 0 < printed.length := by
  obtain ⟨c, cs, rfl, -⟩ := h.exists_cons
  exact Nat.succ_pos _

end ReadsBack

/-! ### Strings -/

lemma hexUnit_control {n : Nat} (hn : n < 0x20) :
    HexUnit (Text.padZeros 4 (Text.hexChars n)) n :=
  ⟨length_padZeros (positional_hex.length_write_le (by decide) (Nat.lt_trans hn (by decide))),
    positional_hex.natural?_padZeros 4 n⟩

lemma spells_cons (c : Char) {cs ds : List Char} (h : Spells cs ds) :
    Spells (Json.escape c ++ cs) (c :: ds) := by
  have hofNat {n : Nat} (hn : (c.toNat == n) = true) : Char.ofNat n = c := by
    rw [← beq_iff_eq.mp hn, Char.ofNat_toNat]
  have hshort {d : Char} (hd : Cursor.shortEscape? d = some c) :
      Spells (['\\', d] ++ cs) (c :: ds) := .escape (.short hd) h
  simp only [Json.escape]
  split_ifs with hquote hslash hliteral h8 h9 h10 h12 h13
  · exact hshort (by rw [beq_iff_eq.mp hquote]; rfl)
  · exact hshort (by rw [beq_iff_eq.mp hslash]; rfl)
  · rw [beq_iff_eq] at hquote hslash
    exact .literal (by simp [isLiteral, hquote, hslash, hliteral]) h
  · exact hshort (congrArg some (hofNat h8))
  · exact hshort (congrArg some (hofNat h9))
  · exact hshort (congrArg some (hofNat h10))
  · exact hshort (congrArg some (hofNat h12))
  · exact hshort (congrArg some (hofNat h13))
  · have hescape := Escape.unit (hexUnit_control (Nat.lt_of_not_le hliteral)) (.inl (by omega))
    rw [Char.ofNat_toNat] at hescape
    exact .escape hescape h

lemma spells_escape (cs : List Char) : Spells (cs.flatMap Json.escape) cs := by
  induction cs with
  | nil => exact .nil
  | cons c cs ih =>
    rw [List.flatMap_cons]
    exact spells_cons c ih

lemma stringChars_append (s : String) (rest : List Char) :
    Json.stringChars s ++ rest = '"' :: (s.toList.flatMap Json.escape ++ '"' :: rest) := by
  simp [Json.stringChars]

lemma string_escape (cur : Cursor) (s : String) (rest : List Char) :
    ∃ mid, (cur.after '"' (s.toList.flatMap Json.escape ++ '"' :: rest)).string = .ok (s, mid) ∧
      mid.rest = rest :=
  outcome_eq_some.mp (outcome_string.mpr ⟨_, spells_escape s.toList, Cursor.rest_after ..⟩)

lemma lexeme_stringChars {s : String} {cur : Cursor} {rest : List Char}
    (hrest : cur.rest = Json.stringChars s ++ rest) :
    ∃ mid, cur.lexeme = .ok (.scalar (.string s), mid) ∧ mid.rest = rest := by
  rw [stringChars_append] at hrest
  obtain ⟨mid, hmid, hmidrest⟩ := string_escape cur s rest
  refine ⟨mid, ?_, hmidrest⟩
  rw [lexeme_of_quote hrest, hmid]
  rfl

lemma readsBack_string (s : String) :
    ReadsBack Cursor.lexeme (Json.stringChars s) (.scalar (.string s)) where
  begins := rfl
  reads hrest _ := outcome_eq_some.mpr (lexeme_stringChars hrest)

/-! ### Numbers -/

lemma Ends.not_isDigit {tail : List Char} (h : Ends tail) :
    ∀ c, tail.head? = some c → Text.isDigit c = false := by
  intro c hc
  have hend := h c hc
  simp only [endsValue, Bool.or_eq_true, beq_iff_eq] at hend
  rcases hend with (rfl | rfl) | rfl <;> decide

lemma absorb_of_digitsValue? {cs : List Char} {acc n : Nat}
    (hvalue : Text.digitsValue? 10 acc cs = some n) (hn : n < 2 ^ 64)
    (hdigits : ∀ c ∈ cs, Text.isDigit c = true) :
    Cursor.absorb acc (cs.map fun c => c.toNat - 48) = (n, cs.length) := by
  induction cs generalizing acc with
  | nil =>
    cases hvalue
    rfl
  | cons c cs ih =>
    obtain ⟨hc, hcs⟩ := List.forall_mem_cons.mp hdigits
    obtain ⟨d, hd, hrest⟩ := Option.bind_eq_some_iff.mp hvalue
    obtain rfl : c.toNat - 48 = d := Option.some.inj ((digitValue?_of_isDigit hc).symm.trans hd)
    have hle := le_of_digitsValue? (by decide) hrest
    simp only [List.map_cons, Cursor.absorb, if_pos (Nat.lt_of_le_of_lt hle hn), ih hrest hcs,
      List.length_cons]

lemma numberTail_of_ends {cur : Cursor} (hends : Ends cur.rest) (negative : Bool)
    {whole : List Nat} {n : Nat} (hwhole : Cursor.absorb 0 whole = (n, whole.length)) :
    cur.numberTail negative whole = wholeNumber negative n cur := by
  cases hrest : cur.rest with
  | nil => simp [Cursor.numberTail, wholeNumber, hwhole, hrest]
  | cons c cs =>
    have hend := hends c (by rw [hrest]; rfl)
    simp only [endsValue, Bool.or_eq_true, beq_iff_eq] at hend
    rcases hend with (rfl | rfl) | rfl <;>
      simp [Cursor.numberTail, wholeNumber, hwhole, hrest]

lemma unsignedNumber_decimalChars {n : Nat} (hn : n < 2 ^ 64) (negative : Bool) {cur : Cursor}
    {tail : List Char} (hrest : cur.rest = Text.decimalChars n ++ tail) (hends : Ends tail) :
    ∃ mid, mid.rest = tail ∧ unsignedNumber negative cur = wholeNumber negative n mid := by
  have hnumeral := isNumeral_decimalChars n
  rcases Nat.eq_zero_or_pos n with rfl | hpos
  · have hzero : cur.rest = '0' :: tail := by
      rw [hrest, Text.decimalChars, if_pos (by decide)]
      rfl
    have hafter : (cur.after '0' tail).rest = tail := Cursor.rest_after ..
    refine ⟨_, hafter, ?_⟩
    rw [← numberTail_of_ends (hafter ▸ hends) negative (show Cursor.absorb 0 [0] = (0, 1) by rfl)]
    cases tail with
    | nil => simp [unsignedNumber, hzero]
    | cons c cs => simp [unsignedNumber, hzero, hends.not_isDigit c rfl]
  · obtain ⟨d, hd, hlt, hhead⟩ := positional_decimal.head?_write hpos
    obtain ⟨cs, hcs⟩ := List.head?_eq_some_iff.mp hhead
    have hcons : cur.rest = Text.digitChar d :: (cs ++ tail) := by rw [hrest, hcs, List.cons_append]
    have hzero := digitChar_ne_zero hlt (Nat.ne_of_gt hd)
    obtain ⟨htake, hdrop⟩ := span_append hnumeral.forall_isDigit hends.not_isDigit
    rw [← hrest] at htake hdrop
    have hskip : (cur.skipWhile Text.isDigit).rest = tail := by rw [rest_skipWhile, hdrop]
    refine ⟨_, hskip, ?_⟩
    have hwhole : Cursor.absorb 0 cur.digits.1 = (n, cur.digits.1.length) := by
      simp only [Cursor.digits, htake, List.length_map]
      exact absorb_of_digitsValue? hnumeral.value_eq hn hnumeral.forall_isDigit
    rw [← numberTail_of_ends (hskip ▸ hends) negative hwhole]
    simp [unsignedNumber, hcons, isDigit_digitChar hlt]
    rfl

def startsNumber (c : Char) : Bool := c == '-' || Text.isDigit c

lemma beq_of_startsNumber {c d : Char} (hc : startsNumber c = true)
    (hd : startsNumber d = false := by decide) : (c == d) = false := by
  refine beq_eq_false_iff_ne.mpr ?_
  rintro rfl
  rw [hd] at hc
  cases hc

lemma isBlank_of_startsNumber {c : Char} (hc : startsNumber c = true) :
    Cursor.isBlank c = false := by
  simp only [Cursor.isBlank, beq_of_startsNumber hc (d := ' '), beq_of_startsNumber hc (d := '\n'),
    beq_of_startsNumber hc (d := '\t'), beq_of_startsNumber hc (d := '\r'), Bool.or_self]

lemma lexeme_of_number {cur : Cursor} {c : Char} {cs : List Char} (hrest : cur.rest = c :: cs)
    (hc : startsNumber c = true) :
    cur.lexeme = cur.number >>= fun x => pure (.scalar x.1.scalar, x.2) := by
  have hstay : cur.skipWhile Cursor.isBlank = cur :=
    skipWhile_of_neg hrest (isBlank_of_startsNumber hc)
  have hnumber : (c == '-' || Text.isDigit c) = true := hc
  simp only [Cursor.lexeme, Cursor.skipBlanks, hstay, hrest, beq_of_startsNumber hc (d := 'n'),
    beq_of_startsNumber hc (d := 't'), beq_of_startsNumber hc (d := 'f'),
    beq_of_startsNumber hc (d := '"'), hnumber, Bool.false_eq_true, if_false, if_true]

lemma toList_integer (i : Int) : (Text.integer i).toList =
    if i < 0 then '-' :: Text.decimalChars i.natAbs else Text.decimalChars i.natAbs := by
  cases i with
  | ofNat n => simp [Text.integer, Text.decimal]
  | negSucc n => simp [Text.integer, Text.decimal, Int.negSucc_lt_zero]

lemma startsNumber_integer (i : Int) :
    ∃ c cs, (Text.integer i).toList = c :: cs ∧ startsNumber c = true := by
  rw [toList_integer]
  split
  · exact ⟨_, _, rfl, rfl⟩
  · obtain ⟨c, cs, hcs⟩ := List.exists_cons_of_ne_nil (Text.decimalChars_ne_nil i.natAbs)
    have hc := (isNumeral_decimalChars i.natAbs).forall_isDigit c (by simp [hcs])
    exact ⟨c, cs, hcs, by simp [startsNumber, hc]⟩

lemma number_integer {i : Int} (hi : -2 ^ 63 ≤ i ∧ i < 2 ^ 64) {cur : Cursor} {tail : List Char}
    (hrest : cur.rest = (Text.integer i).toList ++ tail) (hends : Ends tail) :
    outcome cur.number = some (.integer i, tail) := by
  have hnat : i.natAbs < 2 ^ 64 := by omega
  rw [toList_integer] at hrest
  split at hrest
  · rw [List.cons_append] at hrest
    obtain ⟨mid, rfl, hmid⟩ :=
      unsignedNumber_decimalChars hnat true (Cursor.rest_after cur '-' _) hends
    have hzero : i.natAbs ≠ 0 := by omega
    have hlimit : ¬ 2 ^ 63 < i.natAbs := by omega
    have hsign : -(i.natAbs : Int) = i := by omega
    rw [number_of_minus hrest, hmid]
    simp only [wholeNumber, hzero, hlimit, hsign]
    rfl
  · obtain ⟨mid, rfl, hmid⟩ := unsignedNumber_decimalChars hnat false hrest hends
    have hminus : cur.rest.head? ≠ some '-' := by
      intro hhead
      obtain ⟨c, cs, hcs⟩ := List.exists_cons_of_ne_nil (Text.decimalChars_ne_nil i.natAbs)
      have hc := (isNumeral_decimalChars i.natAbs).forall_isDigit c (by simp [hcs])
      rw [hrest, hcs] at hhead
      cases hhead
      cases hc
    have hsign : (i.natAbs : Int) = i := by omega
    rw [number_of_ne_minus hminus, hmid]
    simp [wholeNumber, hsign]

lemma readsBack_integer {i : Int} (hi : -2 ^ 63 ≤ i ∧ i < 2 ^ 64) :
    ReadsBack Cursor.lexeme (Text.integer i).toList (.scalar (.integer i)) := by
  obtain ⟨c, cs, hcs, hc⟩ := startsNumber_integer i
  refine ⟨?_, fun {cur tail} hrest hends => ?_⟩
  · simp [hcs, beginsValue, isBlank_of_startsNumber hc,
      beq_eq_false_iff_ne.mp (beq_of_startsNumber hc (d := ']'))]
  · obtain ⟨mid, hmid, rfl⟩ := outcome_eq_some.mp (number_integer hi hrest hends)
    rw [hcs, List.cons_append] at hrest
    rw [lexeme_of_number hrest hc, hmid]
    rfl

lemma readsBack_natural {n : Nat} (hn : n < 2 ^ 64) :
    ReadsBack Cursor.lexeme (Text.decimalChars n) (.scalar (.integer n)) := by
  have hinteger : (Text.integer n).toList = Text.decimalChars n := String.toList_ofList
  rw [← hinteger]
  exact readsBack_integer (by omega)

/-! ### Literals and brackets -/

lemma readsBack_literal {word : String} {s : Document.Scalar}
    (hbegins : word.toList.head?.any beginsValue = true)
    (hlexeme : ∀ {cur : Cursor} {tail}, cur.rest = word.toList ++ tail →
      cur.lexeme = cur.literal word.toList >>= fun next => pure (.scalar s, next)) :
    ReadsBack Cursor.lexeme word.toList (.scalar s) where
  begins := hbegins
  reads {cur tail} hrest _ := by
    obtain ⟨mid, hmid, rfl⟩ := (reads_literal word.toList).ok_of (a := ()) rfl hrest
    rw [hlexeme hrest, skipping_eq_ok.mp hmid]
    rfl

lemma skipBlanks_of_cons {cur : Cursor} {c : Char} {cs : List Char} (hrest : cur.rest = c :: cs)
    (hc : Cursor.isBlank c = false) : cur.skipBlanks = cur := skipWhile_of_neg hrest hc

lemma readsBack_null : ReadsBack Cursor.lexeme "null".toList (.scalar .null) :=
  readsBack_literal rfl fun {cur tail} hrest => by
    have hcons : cur.rest = 'n' :: ("ull".toList ++ tail) := hrest
    simp only [Cursor.lexeme, skipBlanks_of_cons hcons rfl, hcons]
    rfl

lemma readsBack_bool (b : Bool) :
    ReadsBack Cursor.lexeme (Json.boolChars b) (.scalar (.bool b)) := by
  cases b with
  | false =>
    exact readsBack_literal rfl fun {cur tail} hrest => by
      have hcons : cur.rest = 'f' :: ("alse".toList ++ tail) := hrest
      simp only [Cursor.lexeme, skipBlanks_of_cons hcons rfl, hcons]
      rfl
  | true =>
    exact readsBack_literal rfl fun {cur tail} hrest => by
      have hcons : cur.rest = 't' :: ("rue".toList ++ tail) := hrest
      simp only [Cursor.lexeme, skipBlanks_of_cons hcons rfl, hcons]
      rfl

lemma lexeme_of_bracket {cur : Cursor} {cs : List Char} (hrest : cur.rest = '[' :: cs) :
    cur.lexeme = .ok (.array, cur) := by
  simp only [Cursor.lexeme, skipBlanks_of_cons hrest rfl, hrest]
  rfl

lemma lexeme_of_brace {cur : Cursor} {cs : List Char} (hrest : cur.rest = '\x7b' :: cs) :
    cur.lexeme = .ok (.object, cur) := by
  simp only [Cursor.lexeme, skipBlanks_of_cons hrest rfl, hrest]
  rfl

/-! ### Going on -/

/-- What stands before an item. -/
def separator (first : Bool) : List Char := if first then [] else [',']

/-- Items from the first one or from a later one on. -/
def listed (first : Bool) : List (List Char) → List Char
  | [] => []
  | p :: ps => separator first ++ (p ++ listed false ps)

lemma listed_true (ps : List (List Char)) : listed true ps = Json.commaSeparated ps := by
  cases ps with
  | nil => rfl
  | cons p ps =>
    change p ++ listed false ps = _
    induction ps generalizing p with
    | nil => exact List.append_nil p
    | cons q ps ih => exact congrArg (p ++ ',' :: ·) (ih q)

lemma ends_listed {bracket : Char} (hbracket : endsValue bracket = true) (ps : List (List Char))
    (tail : List Char) : Ends (listed false ps ++ bracket :: tail) := by
  intro c hc
  cases ps with
  | nil =>
    cases hc
    exact hbracket
  | cons p ps =>
    cases hc
    rfl

section GoOn

variable {bracket : Char} {starts : Char → Bool} {first : Bool}

lemma outcome_goOn_item {c : Char} {cs : List Char} {cur : Cursor}
    (hrest : cur.rest = separator first ++ c :: cs) (hcomma : bracket ≠ ',')
    (hbegins : beginsValue c = true) (hbracket : c ≠ bracket) (hstarts : starts c = true) :
    outcome (goOn bracket starts first cur) = some (true, c :: cs) := by
  have hblank := isBlank_of_beginsValue hbegins
  cases first with
  | true =>
    have hcons : cur.rest = c :: cs := hrest
    simp [goOn, past, branch, skipWhile_of_neg hcons hblank, hcons, hbracket, hstarts, give]
  | false =>
    have hcons : cur.rest = ',' :: c :: cs := hrest
    have hafter : (cur.after ',' (c :: cs)).rest = c :: cs := Cursor.rest_after ..
    have hstay : cur.skipWhile Cursor.isBlank = cur := skipWhile_of_neg hcons (by decide)
    simp [goOn, past, branch, step, hstay, hcons, hcomma.symm, skipWhile_of_neg hafter hblank,
      hstarts, give]

lemma outcome_goOn_end {cs : List Char} {cur : Cursor} (hrest : cur.rest = bracket :: cs)
    (hblank : Cursor.isBlank bracket = false) :
    outcome (goOn bracket starts first cur) = some (false, bracket :: cs) := by
  simp [goOn, past, branch, skipWhile_of_neg hrest hblank, hrest, give]

end GoOn

lemma outcome_round_more {next : Reader Bool} {more : Reader α} {a : α} {cur : Cursor}
    {rest : List Char} {x : α × List Char} (hgo : outcome (next cur) = some (true, rest))
    (hmore : ∀ mid, mid.rest = rest → outcome (more mid) = some x) :
    outcome (round next more a cur) = some x := by
  obtain ⟨mid, hmid, hrest⟩ := outcome_eq_some.mp hgo
  rw [round_of_true hmid]
  exact hmore mid hrest

lemma outcome_round_end {next : Reader Bool} {more : Reader α} {a : α} {cur : Cursor}
    {rest : List Char} (hgo : outcome (next cur) = some (false, rest)) :
    outcome (round next more a cur) = some (a, rest) := by
  obtain ⟨mid, hmid, rfl⟩ := outcome_eq_some.mp hgo
  rw [round, chain_of_ok hmid]
  rfl

/-! ### Arrays -/

section Array

variable {width : Nat} {item : Nat → Reader α} (loop : Nat → Bool → Reader (List α))

lemma outcome_items_listed (hwidth : 0 < width)
    (hloop : ∀ fuel first, ReadsLike (loop (fuel + 1) first) (round (Cursor.nextItem first)
      (chain (item fuel) fun a => chain (loop fuel false) fun as => give (a :: as)) []))
    {ps : List (List Char)} {as : List α}
    (h : List.Forall₂
      (fun p a => ∀ fuel, width * p.length ≤ fuel → ReadsBack (item fuel) p a) ps as)
    {fuel : Nat} {first : Bool} {cur : Cursor} {tail : List Char}
    (hfuel : width * (listed first ps).length < fuel)
    (hrest : cur.rest = listed first ps ++ ']' :: tail) :
    outcome (loop fuel first cur) = some (as, ']' :: tail) := by
  obtain ⟨fuel, rfl⟩ : ∃ n, fuel = n + 1 := ⟨fuel - 1, by omega⟩
  rw [hloop]
  induction h generalizing fuel first cur with
  | nil =>
    refine outcome_round_end ?_
    rw [nextItem_like]
    exact outcome_goOn_end hrest rfl
  | @cons p a ps as hp hps ih =>
    simp only [listed, List.length_append, Nat.mul_add] at hfuel
    have hpfuel : width * p.length ≤ fuel := by omega
    obtain ⟨c, cs, hcs, hbegins⟩ := (hp fuel hpfuel).exists_cons
    have hone : width * 1 ≤ width * p.length :=
      Nat.mul_le_mul_left width (hp fuel hpfuel).length_pos
    have hbracket : c ≠ ']' := by
      rintro rfl
      cases hbegins
    have hgo : outcome (cur.nextItem first) =
        some (true, p ++ (listed false ps ++ ']' :: tail)) := by
      rw [nextItem_like, hcs, List.cons_append]
      refine outcome_goOn_item ?_ (by decide) hbegins hbracket (by simpa using hbracket)
      rw [hrest, listed, hcs, List.append_assoc, List.append_assoc, List.cons_append]
    refine outcome_round_more hgo fun mid hmid => ?_
    obtain ⟨next, hnext, hnextrest⟩ :=
      outcome_eq_some.mp ((hp fuel hpfuel).reads hmid (ends_listed rfl ps tail))
    obtain ⟨fuel, rfl⟩ : ∃ n, fuel = n + 1 := ⟨fuel - 1, by omega⟩
    have hothers := ih hnextrest fuel (by omega)
    rw [← hloop] at hothers
    obtain ⟨last, hlast, hlastrest⟩ := outcome_eq_some.mp hothers
    refine outcome_chain.mpr ⟨a, next, hnext, outcome_chain.mpr ⟨as, last, hlast, ?_⟩⟩
    rw [← hlastrest]
    rfl

end Array

lemma readsBack_bracketed {depth : Depth} {opening bracket : Char} {inside : Depth → Reader α}
    {printed : List Char} {a : α} (hdepth : 1 < depth) (hopening : beginsValue opening = true)
    (hblank : Cursor.isBlank bracket = false)
    (h : ∀ {cur tail}, cur.rest = printed ++ bracket :: tail →
      outcome (inside (depth - 1) cur) = some (a, bracket :: tail)) :
    ReadsBack (bracketed depth bracket inside) (opening :: printed ++ [bracket]) a where
  begins := hopening
  reads {cur tail} hrest _ := by
    have hcons : cur.rest = opening :: (printed ++ bracket :: tail) := by rw [hrest]; simp
    have hafter : (cur.after opening (printed ++ bracket :: tail)).rest =
        printed ++ bracket :: tail := Cursor.rest_after ..
    obtain ⟨mid, hmid, hmidrest⟩ := outcome_eq_some.mp (h hafter)
    rw [bracketed, if_neg (Nat.not_le.mpr hdepth)]
    refine outcome_chain.mpr ⟨a, mid, ?_, outcome_closing.mpr ⟨rfl, ?_⟩⟩
    · simp only [step, hcons, hmid]
    · rw [hmidrest, List.dropWhile_cons_of_neg (by simp [hblank])]

section Array

variable {depth : Depth} {item : Depth → Reader α} {ps : List (List Char)} {as : List α}

lemma readsBack_array (hdepth : 1 < depth) (h : List.Forall₂ (ReadsBack (item (depth - 1))) ps as) :
    ReadsBack (fun cur => Cursor.array depth item cur) (Json.arrayChars ps) as := by
  refine .congr (readsBack_bracketed hdepth rfl rfl fun {cur tail} hrest => ?_)
    (array_like depth item)
  rw [← listed_true] at hrest
  refine outcome_items_listed (fun fuel first cur =>
    Cursor.items (item (depth - 1)) fuel first cur) (show 0 < 1 by decide) (items_like _)
    (h.imp fun _ _ hp _ _ => hp) ?_ hrest
  rw [hrest, List.length_append]
  omega

lemma readsBack_sequence (hdepth : 1 < depth)
    (h : List.Forall₂ (ReadsBack (item (depth - 1))) ps as) :
    ReadsBack (fun cur => Cursor.sequence depth item cur) (Json.arrayChars ps) as where
  begins := rfl
  reads hrest hends := by
    rw [Cursor.sequence, lexeme_of_bracket hrest]
    exact (readsBack_array hdepth h).reads hrest hends

end Array

/-! ### Objects -/

def memberChars (member : String × List Char) : List Char :=
  Json.stringChars member.1 ++ ':' :: member.2

lemma colon_of_cons {cur : Cursor} {rest : List Char} (hrest : cur.rest = ':' :: rest) :
    cur.colon = .ok (cur.after ':' rest) := by
  simp only [Cursor.colon, skipBlanks_of_cons hrest (by decide), hrest]
  rfl

lemma memberOf_printed (next : String → Reader α) {name : String} {cur : Cursor}
    {rest : List Char} (hrest : cur.rest = Json.stringChars name ++ ':' :: rest) :
    ∃ mid, mid.rest = rest ∧ memberOf next cur = next name mid := by
  rw [stringChars_append] at hrest
  obtain ⟨mid, hmid, hmidrest⟩ := string_escape cur name (':' :: rest)
  refine ⟨mid.after ':' rest, Cursor.rest_after .., ?_⟩
  simp only [memberOf, step, hrest]
  rw [chain_of_ok hmid, chain_of_ok (skipping_eq_ok.mpr (colon_of_cons hmidrest))]

section Members

variable {σ : Type} (width : Nat) (body : Nat → σ → String → Reader σ)
  (loop : Nat → Bool → σ → Reader σ)

/-- Behind its colon, a member takes the loop from one state to another. -/
def Advances (s : σ) (name : String) (value : List Char) (t : σ) : Prop :=
  ∀ {fuel cur tail}, width * value.length ≤ fuel → cur.rest = value ++ tail → Ends tail →
    ∃ mid, mid.rest = tail ∧ outcome (body fuel s name cur) = outcome (loop fuel false t mid)

inductive AdvancesAll : σ → List (String × List Char) → σ → Prop
  | nil (s : σ) : AdvancesAll s [] s
  | cons {s t u : σ} {name : String} {value : List Char} {members : List (String × List Char)}
      (h : Advances width body loop s name value t) (hs : AdvancesAll t members u) :
      AdvancesAll s ((name, value) :: members) u

variable {width body loop}

lemma ReadsBack.advances {read : Reader β} {f : β → Reader α} {printed : List Char} {b : β}
    (h : ReadsBack read printed b) {cur : Cursor} {tail : List Char}
    (hrest : cur.rest = printed ++ tail) (hends : Ends tail) :
    ∃ mid, mid.rest = tail ∧ Outline.chain read f cur = f b mid := by
  obtain ⟨mid, hmid, rfl⟩ := outcome_eq_some.mp (h.reads hrest hends)
  exact ⟨mid, rfl, chain_of_ok hmid⟩

lemma outcome_members_listed (hwidth : 0 < width)
    (hloop : ∀ fuel first s, ReadsLike (loop (fuel + 1) first s)
      (round (Cursor.nextMember first) (memberOf (body fuel s)) s))
    {s t : σ} {members : List (String × List Char)} (h : AdvancesAll width body loop s members t)
    {fuel : Nat} {first : Bool} {cur : Cursor} {tail : List Char}
    (hfuel : width * (listed first (members.map memberChars)).length < fuel)
    (hrest : cur.rest = listed first (members.map memberChars) ++ '\x7d' :: tail) :
    outcome (loop fuel first s cur) = some (t, '\x7d' :: tail) := by
  induction h generalizing fuel first cur with
  | nil s =>
    obtain ⟨fuel, rfl⟩ : ∃ n, fuel = n + 1 := ⟨fuel - 1, by omega⟩
    rw [hloop]
    refine outcome_round_end ?_
    rw [nextMember_like]
    exact outcome_goOn_end hrest rfl
  | @cons s t u name value members h hs ih =>
    obtain ⟨fuel, rfl⟩ : ∃ n, fuel = n + 1 := ⟨fuel - 1, by omega⟩
    rw [hloop]
    simp only [List.map_cons, listed, memberChars, List.length_append, List.length_cons,
      Nat.mul_add] at hfuel
    have hgo : outcome (cur.nextMember first) = some (true, Json.stringChars name ++ ':' ::
        (value ++ (listed false (members.map memberChars) ++ '\x7d' :: tail))) := by
      rw [nextMember_like]
      refine outcome_goOn_item ?_ (by decide) (show beginsValue '"' = true from rfl) (by decide) rfl
      rw [hrest]
      simp [listed, memberChars, Json.stringChars]
    refine outcome_round_more hgo fun mid hmid => ?_
    obtain ⟨place, hplace, hbody⟩ := memberOf_printed (body fuel s) hmid
    obtain ⟨next, hnext, hloopnext⟩ :=
      h (show width * value.length ≤ fuel by omega) hplace (ends_listed rfl _ tail)
    rw [hbody, hloopnext]
    exact ih (by omega) hnext

end Members

lemma objectChars_eq (members : List (String × List Char)) :
    Json.objectChars members =
      '\x7b' :: listed true (members.map memberChars) ++ ['\x7d'] := by
  rw [listed_true]
  rfl

/-! ### Scalar values -/

lemma readsBack_scalar {printed : List Char} {s : Document.Scalar}
    (h : ReadsBack Cursor.lexeme printed (.scalar s)) {j : Json} (hj : j.found = .scalar s)
    (fuel : Nat) (depth : Depth) : ReadsBack (Cursor.valueFrom (fuel + 1) depth) printed j := by
  refine .congr (h.chain fun mid => ?_) (valueFrom_like depth fuel)
  cases j with
  | array items => cases hj
  | object members => cases hj
  | number n => cases n <;> cases hj <;> rfl
  | _ => cases hj; rfl

end BatchInsert.Proofs
