import BatchInsert.Proofs.Reading

/-!
# Strings in JSON

What a string spells between its quotes: every character itself, but for quotes, backslashes and
control characters, and an escape the character it stands for. Readers of strings take exactly the
texts that spell something, up to the first quote that no escape has before it.
-/

namespace BatchInsert.Proofs

open Json (Cursor ReadError)

/-! ### Escapes -/

lemma utf8ByteSize_cons (c : Char) (cs : List Char) :
    (String.ofList (c :: cs)).utf8ByteSize = c.utf8Size + (String.ofList cs).utf8ByteSize := by
  have happend : String.ofList (c :: cs) = String.ofList [c] ++ String.ofList cs := by
    rw [← String.ofList_append]
    rfl
  rw [happend, String.utf8ByteSize_append, ← String.singleton_eq_ofList,
    String.utf8ByteSize_singleton]

lemma utf8Size_of_digitValue? {base d : Nat} {c : Char} (h : Text.digitValue? base c = some d) :
    c.utf8Size = 1 := by
  have hsmall : c.toNat ≤ 122 := by
    simp only [Text.digitValue?, Option.filter_eq_some_iff] at h
    obtain ⟨h, _⟩ := h
    repeat' split at h
    all_goals grind
  exact Char.utf8Size_eq_one_iff.mpr (UInt32.le_iff_toNat_le.mpr (by
    have : c.toNat = c.val.toNat := rfl
    simp
    omega))

lemma forall_digitValue? {base acc n : Nat} {cs : List Char}
    (h : Text.digitsValue? base acc cs = some n) :
    ∀ c ∈ cs, ∃ d, Text.digitValue? base c = some d := by
  induction cs generalizing acc with
  | nil => simp
  | cons c cs ih =>
    obtain ⟨d, hd, hrest⟩ := Option.bind_eq_some_iff.mp h
    intro c' hc'
    rcases List.mem_cons.mp hc' with rfl | hc'
    · exact ⟨d, hd⟩
    · exact ih hrest c' hc'

/-- Four hexadecimal digits, and the number that they are. -/
def HexUnit (cs : List Char) (n : Nat) : Prop := cs.length = 4 ∧ Text.natural? 16 cs = some n

lemma HexUnit.forall_utf8Size {cs : List Char} {n : Nat} (h : Text.natural? 16 cs = some n) :
    ∀ c ∈ cs, c.utf8Size = 1 := by
  intro c hc
  rw [Text.natural?] at h
  split at h
  · cases h
  · obtain ⟨d, hd⟩ := forall_digitValue? h c hc
    exact utf8Size_of_digitValue? hd

lemma utf8ByteSize_of_forall {cs : List Char} (h : ∀ c ∈ cs, c.utf8Size = 1) :
    (String.ofList cs).utf8ByteSize = cs.length := by
  induction cs with
  | nil => simp
  | cons c cs ih =>
    obtain ⟨hc, hcs⟩ := List.forall_mem_cons.mp h
    rw [utf8ByteSize_cons, hc, ih hcs, List.length_cons, Nat.add_comm]

lemma rest_skipBytes {cs : List Char} (h : ∀ c ∈ cs, c.utf8Size = 1) (cur : Cursor)
    (tail : List Char) : (cur.skipBytes cs.length (cs ++ tail)).rest = tail := by
  induction cs generalizing cur with
  | nil => simp [Cursor.skipBytes]
  | cons c cs ih =>
    obtain ⟨hc, hcs⟩ := List.forall_mem_cons.mp h
    rw [List.length_cons, List.cons_append, Cursor.skipBytes, hc, if_pos (by omega),
      Nat.add_sub_cancel]
    exact ih hcs _

lemma reads_hex4 : Reads Cursor.hex4 HexUnit := by
  intro cur n tail
  constructor
  · intro h
    simp only [Cursor.hex4] at h
    split at h
    · cases h
    · rename_i hbytes
      cases hn : Text.natural? 16 (cur.rest.take 4) with
      | none => simp [hn] at h
      | some m =>
        have hone := HexUnit.forall_utf8Size hn
        rw [utf8ByteSize_of_forall hone] at hbytes
        have hlength : (cur.rest.take 4).length = 4 := by
          have := List.length_take_le 4 cur.rest
          omega
        have hskip := rest_skipBytes hone cur (cur.rest.drop 4)
        rw [hlength, List.take_append_drop] at hskip
        simp only [hn, outcome_ok, hskip, Option.some.injEq, Prod.mk.injEq] at h
        obtain ⟨rfl, rfl⟩ := h
        exact ⟨_, ⟨hlength, hn⟩, (List.take_append_drop 4 cur.rest).symm⟩
  · rintro ⟨cs, ⟨hlength, hn⟩, hrest⟩
    have hone := HexUnit.forall_utf8Size hn
    have htake : cur.rest.take 4 = cs := by rw [hrest, ← hlength, List.take_left]
    have hskip := rest_skipBytes hone cur tail
    rw [hlength, ← hrest] at hskip
    simp only [Cursor.hex4, htake, utf8ByteSize_of_forall hone, hlength, Nat.lt_irrefl, if_false,
      hn, outcome_ok, hskip]

lemma reads_surrogateMark (c : Char) :
    Reads (skipping (Cursor.surrogateMark c)) fun cs _ => cs = [c] := by
  intro cur _ tail
  simp only [skipping, Cursor.surrogateMark, exists_eq_left, List.singleton_append]
  cases cur.rest with
  | nil => simp [Except.map]
  | cons d cs =>
    by_cases hd : c = d
    · subst hd
      simp [Except.map]
    · simp [hd, Ne.symm hd, Except.map]

/-- What may follow a backslash, and the character that it makes up with it. -/
inductive Escape : List Char → Char → Prop
  | short {c d : Char} (h : Cursor.shortEscape? c = some d) : Escape [c] d
  | unit {cs : List Char} {n : Nat} (h : HexUnit cs n) (hn : n < 0xd800 ∨ 0xdfff < n) :
      Escape ('u' :: cs) (Char.ofNat n)
  /-- The halves of a character beyond sixteen bits. -/
  | pair {cs ds : List Char} {n m : Nat} (h : HexUnit cs n) (hn : 0xd800 ≤ n ∧ n ≤ 0xdbff)
      (h' : HexUnit ds m) (hm : 0xdc00 ≤ m ∧ m ≤ 0xdfff) :
      Escape ('u' :: (cs ++ '\\' :: 'u' :: ds))
        (Char.ofNat ((n - 0xd800) * 0x400 + (m - 0xdc00) + 0x10000))

lemma reads_unicodeEscape : Reads Cursor.unicodeEscape fun cs c => Escape ('u' :: cs) c := by
  intro cur c tail
  constructor
  · intro h
    obtain ⟨⟨n, next⟩, hnext, h⟩ := outcome_bind_eq_some.mp h
    obtain ⟨cs, hcs, hrest⟩ := reads_hex4.of_ok hnext
    simp only [Bool.and_eq_true, decide_eq_true_eq, Bool.or_eq_true] at h
    split at h
    · cases h
    · rename_i hlow
      split at h
      · rename_i hwhole
        simp only [outcome_pure, Option.some.injEq, Prod.mk.injEq] at h
        obtain ⟨rfl, rfl⟩ := h
        exact ⟨cs, .unit hcs (by omega), hrest⟩
      · rename_i hhigh
        obtain ⟨mid, hmid, h⟩ := outcome_bind_eq_some.mp h
        obtain ⟨mark, hmark, h⟩ := outcome_bind_eq_some.mp h
        obtain ⟨⟨m, last⟩, hlast, h⟩ := outcome_bind_eq_some.mp h
        obtain ⟨_, rfl, hmidrest⟩ := (reads_surrogateMark '\\').of_ok (skipping_eq_ok.mpr hmid)
        obtain ⟨_, rfl, hmarkrest⟩ := (reads_surrogateMark 'u').of_ok (skipping_eq_ok.mpr hmark)
        obtain ⟨ds, hds, hlastrest⟩ := reads_hex4.of_ok hlast
        split at h
        · cases h
        · simp only [outcome_pure, Option.some.injEq, Prod.mk.injEq] at h
          obtain ⟨rfl, rfl⟩ := h
          refine ⟨_, .pair hcs (by omega) hds (by omega), ?_⟩
          rw [hrest, hmidrest, hmarkrest, hlastrest]
          simp
  · rintro ⟨_, he, hrest⟩
    cases he with
    | short h => cases h
    | unit h hn =>
      obtain ⟨next, hnext, rfl⟩ := reads_hex4.ok_of h hrest
      refine outcome_bind_eq_some.mpr ⟨_, hnext, ?_⟩
      simp only [Bool.and_eq_true, decide_eq_true_eq, Bool.or_eq_true]
      rw [if_neg (by omega), if_pos (by omega)]
      exact outcome_pure _
    | @pair cs ds n m h hn h' hm =>
      rw [List.append_assoc, List.cons_append, List.cons_append] at hrest
      obtain ⟨next, hnext, hnextrest⟩ := reads_hex4.ok_of h hrest
      obtain ⟨mid, hmid, hmidrest⟩ := (reads_surrogateMark '\\').ok_of rfl hnextrest
      obtain ⟨mark, hmark, hmarkrest⟩ := (reads_surrogateMark 'u').ok_of rfl hmidrest
      obtain ⟨last, hlast, rfl⟩ := reads_hex4.ok_of h' hmarkrest
      refine outcome_bind_eq_some.mpr ⟨_, hnext, ?_⟩
      simp only [Bool.and_eq_true, decide_eq_true_eq, Bool.or_eq_true]
      rw [if_neg (by omega), if_neg (by omega)]
      refine outcome_bind_eq_some.mpr ⟨_, skipping_eq_ok.mp hmid, ?_⟩
      refine outcome_bind_eq_some.mpr ⟨_, skipping_eq_ok.mp hmark, ?_⟩
      refine outcome_bind_eq_some.mpr ⟨_, hlast, ?_⟩
      dsimp only
      rw [if_neg (by omega), outcome_pure]

lemma reads_escape : Reads Cursor.escape Escape := by
  intro cur d tail
  simp only [Cursor.escape]
  cases hrest : cur.rest with
  | nil =>
    refine iff_of_false (by simp) ?_
    rintro ⟨cs, hcs, hnil⟩
    cases hcs <;> cases hnil
  | cons c cs =>
    by_cases hu : c = 'u'
    · subst hu
      simp only [BEq.rfl, if_true]
      rw [reads_unicodeEscape (cur.after 'u' cs) d tail, Cursor.rest_after]
      constructor
      · rintro ⟨e, he, hcs⟩
        exact ⟨'u' :: e, he, congrArg ('u' :: ·) hcs⟩
      · rintro ⟨e, he, hcs⟩
        cases he with
        | short h => 
          cases hcs
          cases h
        | unit h hn => exact ⟨_, .unit h hn, (List.cons.inj hcs).2⟩
        | pair h hn h' hm => exact ⟨_, .pair h hn h' hm, (List.cons.inj hcs).2⟩
    · simp only [beq_iff_eq, hu, if_false]
      constructor
      · intro h
        cases hd : Cursor.shortEscape? c with
        | none => simp [hd] at h
        | some d' =>
          simp only [hd, outcome_ok, Cursor.rest_after, Option.some.injEq, Prod.mk.injEq] at h
          obtain ⟨rfl, rfl⟩ := h
          exact ⟨[c], .short hd, rfl⟩
      · rintro ⟨e, he, hcs⟩
        cases he with
        | short h =>
          cases hcs
          simp [h]
        | unit h hn => exact absurd (List.cons.inj hcs).1 hu
        | pair h hn h' hm => exact absurd (List.cons.inj hcs).1 hu

/-! ### Strings -/

/-- Characters of a string that stand for themselves. -/
def isLiteral (c : Char) : Bool := c != '"' && c != '\\' && 0x20 ≤ c.toNat

/-- Characters between quotes, and what they spell. -/
inductive Spells : List Char → List Char → Prop
  | nil : Spells [] []
  | literal {c : Char} {cs ds : List Char} (hc : isLiteral c = true) (h : Spells cs ds) :
      Spells (c :: cs) (c :: ds)
  | escape {e : List Char} {d : Char} {cs ds : List Char} (he : Escape e d) (h : Spells cs ds) :
      Spells ('\\' :: (e ++ cs)) (d :: ds)

lemma spells_of_stringFrom {fuel : Nat} {acc : List Char} {cur : Cursor} {s : String}
    {tail : List Char} (h : outcome (Cursor.stringFrom acc fuel cur) = some (s, tail)) :
    ∃ cs ds, Spells cs ds ∧ cur.rest = cs ++ '"' :: tail ∧
      s = String.ofList (acc.reverse ++ ds) := by
  induction fuel generalizing acc cur with
  | zero => simp [Cursor.stringFrom] at h
  | succ fuel ih =>
    cases hrest : cur.rest with
    | nil => simp [Cursor.stringFrom, hrest] at h
    | cons c cs =>
      simp only [Cursor.stringFrom, hrest, beq_iff_eq] at h
      split at h
      · rename_i hquote
        simp only [outcome_ok, Cursor.rest_after, Option.some.injEq, Prod.mk.injEq] at h
        obtain ⟨rfl, rfl⟩ := h
        exact ⟨[], [], .nil, by rw [hquote]; rfl, by rw [List.append_nil]⟩
      · rename_i hquote
        split at h
        · rename_i hslash
          obtain ⟨⟨d, next⟩, hnext, h⟩ := outcome_bind_eq_some.mp h
          obtain ⟨e, he, hcs⟩ := reads_escape.of_ok hnext
          rw [Cursor.rest_after] at hcs
          obtain ⟨rest, ds, hspells, hnextrest, rfl⟩ := ih h
          refine ⟨_, _, .escape he hspells, ?_, ?_⟩
          · rw [hslash, hcs, hnextrest, List.cons_append, List.append_assoc]
          · rw [List.reverse_cons, List.append_assoc]
            rfl
        · rename_i hslash
          split at h
          · cases h
          · rename_i hcontrol
            obtain ⟨rest, ds, hspells, hnextrest, rfl⟩ := ih h
            rw [Cursor.rest_after] at hnextrest
            have hliteral : isLiteral c = true := by
              simp only [isLiteral, Bool.and_eq_true, bne_iff_ne, decide_eq_true_eq]
              exact ⟨⟨hquote, hslash⟩, Nat.le_of_not_lt hcontrol⟩
            refine ⟨_, _, .literal hliteral hspells, ?_, ?_⟩
            · rw [hnextrest, List.cons_append]
            · rw [List.reverse_cons, List.append_assoc]
              rfl

lemma stringFrom_of_spells {cs ds : List Char} (h : Spells cs ds) {fuel : Nat} {acc : List Char}
    {cur : Cursor} {tail : List Char} (hrest : cur.rest = cs ++ '"' :: tail)
    (hfuel : cs.length < fuel) :
    outcome (Cursor.stringFrom acc fuel cur) = some (String.ofList (acc.reverse ++ ds), tail) := by
  induction h generalizing fuel acc cur with
  | nil =>
    obtain ⟨fuel, rfl⟩ := Nat.exists_eq_add_of_lt hfuel
    simp only [Cursor.stringFrom, hrest, List.nil_append, BEq.rfl, if_true, outcome_ok,
      Cursor.rest_after, List.append_nil]
  | @literal c cs ds hc h ih =>
    obtain ⟨fuel, rfl⟩ := Nat.exists_eq_add_of_lt hfuel
    simp only [isLiteral, Bool.and_eq_true, bne_iff_ne, decide_eq_true_eq] at hc
    obtain ⟨⟨hquote, hslash⟩, hcontrol⟩ := hc
    rw [List.cons_append] at hrest
    simp only [Cursor.stringFrom, hrest, beq_iff_eq, hquote, hslash, if_false,
      Nat.not_lt.mpr hcontrol]
    rw [ih (Cursor.rest_after ..) (by simp only [List.length_cons]; omega), List.reverse_cons,
      List.append_assoc]
    rfl
  | @escape e d cs ds he h ih =>
    obtain ⟨fuel, rfl⟩ := Nat.exists_eq_add_of_lt hfuel
    rw [List.cons_append, List.append_assoc] at hrest
    have hafter : (cur.after '\\' (e ++ (cs ++ '"' :: tail))).rest = e ++ (cs ++ '"' :: tail) :=
      Cursor.rest_after ..
    obtain ⟨next, hnext, hnextrest⟩ := reads_escape.ok_of he hafter
    have hquote : '\\' ≠ '"' := by decide
    simp only [Cursor.stringFrom, hrest, beq_iff_eq, hquote, if_false, if_true]
    refine outcome_bind_eq_some.mpr ⟨_, hnext, ?_⟩
    dsimp only
    rw [ih hnextrest (by simp only [List.length_cons, List.length_append]; omega),
      List.reverse_cons, List.append_assoc]
    rfl

/-- A string is read exactly where characters spell it before a quote. -/
theorem reads_string :
    Reads Cursor.string fun cs s => ∃ w, Spells w s.toList ∧ cs = w ++ ['"'] := by
  intro cur s tail
  constructor
  · intro h
    obtain ⟨cs, ds, hspells, hrest, rfl⟩ := spells_of_stringFrom h
    refine ⟨cs ++ ['"'], ⟨cs, ?_, rfl⟩, ?_⟩
    · rw [String.toList_ofList]
      exact hspells
    · rw [hrest, List.append_assoc]
      rfl
  · rintro ⟨_, ⟨cs, hspells, rfl⟩, happend⟩
    have hrest : cur.rest = cs ++ '"' :: tail := by
      rw [happend, List.append_assoc]
      rfl
    have hlength : cs.length < cur.rest.length + 1 := by
      rw [hrest, List.length_append]
      omega
    rw [Cursor.string, stringFrom_of_spells hspells hrest hlength, List.reverse_nil,
      List.nil_append, String.ofList_toList]

/-! ### How much a string spells -/

lemma outcome_string {cur : Cursor} {s : String} {tail : List Char} :
    outcome cur.string = some (s, tail) ↔ ∃ w, Spells w s.toList ∧ cur.rest = w ++ '"' :: tail := by
  rw [reads_string]
  constructor
  · rintro ⟨_, ⟨w, hw, rfl⟩, hrest⟩
    exact ⟨w, hw, by rw [hrest, List.append_assoc, List.singleton_append]⟩
  · rintro ⟨w, hw, hrest⟩
    exact ⟨_, ⟨w, hw, rfl⟩, by rw [hrest, List.append_assoc, List.singleton_append]⟩

/-- What a quoted text spells, and where it ends, is plain from the text. -/
lemma Spells.unique {w w' tail tail' : List Char} {s s' : String} (h : Spells w s.toList)
    (h' : Spells w' s'.toList) (heq : w ++ '"' :: tail = w' ++ '"' :: tail') :
    s = s' ∧ tail = tail' := by
  let cur : Cursor := ⟨w ++ '"' :: tail, 1, 0⟩
  have hs : outcome cur.string = some (s, tail) := outcome_string.mpr ⟨w, h, rfl⟩
  have hs' : outcome cur.string = some (s', tail') := outcome_string.mpr ⟨w', h', heq⟩
  simpa using hs.symm.trans hs'

lemma HexUnit.count_quote {cs : List Char} {n : Nat} (h : HexUnit cs n) : cs.count '"' = 0 := by
  rw [List.count_eq_zero]
  intro hquote
  have hnatural := h.2
  rw [Text.natural?] at hnatural
  split at hnatural
  · cases hnatural
  · obtain ⟨d, hd⟩ := forall_digitValue? hnatural '"' hquote
    have hnone : Text.digitValue? 16 '"' = none := by decide
    rw [hnone] at hd
    cases hd

lemma Escape.length_pos {e : List Char} {d : Char} (h : Escape e d) : 0 < e.length := by
  cases h <;> simp

lemma Escape.count_quote {e : List Char} {d : Char} (h : Escape e d) :
    e.count '"' ≤ [d].count '"' := by
  cases h with
  | @short c d h =>
    by_cases hc : c = '"'
    · subst hc
      cases h
      exact Nat.le_refl _
    · simp [hc]
  | unit h hn => simp [h.count_quote]
  | pair h hn h' hm => simp [h.count_quote, h'.count_quote]

namespace Spells

variable {cs ds : List Char}

lemma of_literal (h : ∀ c ∈ cs, isLiteral c = true) : Spells cs cs := by
  induction cs with
  | nil => exact .nil
  | cons c cs ih =>
    obtain ⟨hc, hcs⟩ := List.forall_mem_cons.mp h
    exact .literal hc (ih hcs)

lemma length_le (h : Spells cs ds) : ds.length ≤ cs.length := by
  induction h with
  | nil => exact Nat.le_refl _
  | literal _ _ ih => exact Nat.succ_le_succ ih
  | escape _ _ ih =>
    simp only [List.length_cons, List.length_append]
    omega

lemma eq_of_length (h : Spells cs ds) (hlength : cs.length = ds.length) :
    cs = ds ∧ ∀ c ∈ cs, isLiteral c = true := by
  induction h with
  | nil => exact ⟨rfl, by simp⟩
  | literal hc _ ih =>
    obtain ⟨heq, hliteral⟩ := ih (Nat.succ.inj hlength)
    exact ⟨congrArg _ heq, List.forall_mem_cons.mpr ⟨hc, hliteral⟩⟩
  | escape he h _ =>
    have hpos := he.length_pos
    have hle := h.length_le
    simp only [List.length_cons, List.length_append] at hlength
    omega

lemma count_quote (h : Spells cs ds) : cs.count '"' ≤ ds.count '"' := by
  induction h with
  | nil => exact Nat.le_refl _
  | @literal c cs ds _ _ ih =>
    rw [List.count_cons, List.count_cons]
    omega
  | @escape e d cs ds he _ ih =>
    have hescape := he.count_quote
    simp only [List.count_cons, List.count_append, List.count_nil] at hescape ⊢
    have hslash : ('\\' == '"') = false := by decide
    simp only [hslash, Bool.false_eq_true, if_false]
    omega

lemma literal_of_quoted {tail tail' : List Char} (h : Spells cs ds)
    (heq : ds ++ '"' :: tail = cs ++ '"' :: tail') : ∀ c ∈ ds, isLiteral c = true := by
  have hsame (hlength : cs.length = ds.length) : ∀ c ∈ ds, isLiteral c = true := by
    obtain ⟨rfl, hall⟩ := h.eq_of_length hlength
    exact hall
  obtain ⟨mid, rfl, hmid⟩ | ⟨mid, rfl, -⟩ := List.append_eq_append_iff.mp heq
  · cases mid with
    | nil => exact hsame (by rw [List.append_nil])
    | cons c mid =>
      -- Then a quote would be spelled that is not there.
      have hc : c = '"' := (List.cons.inj hmid).1.symm
      have hcount := h.count_quote
      rw [List.count_append, hc, List.count_cons_self] at hcount
      omega
  · have hle := h.length_le
    rw [List.length_append] at hle
    exact hsame (by rw [List.length_append]; omega)

end Spells

end BatchInsert.Proofs
