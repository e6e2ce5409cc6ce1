import BatchInsert.Proofs.Userinfo
import BatchInsert.Url.Punycode
import Mathlib.Tactic.Ring

/-!
# Punycode read back

A label is read back from its code. The encoder goes through the label once for each code point
above ASCII, in ascending order, and writes how many places it has passed since the last insertion;
the decoder steps over as many places, and so inserts the character where the encoder has met it.
-/

namespace BatchInsert.Proofs

open Url Url.Punycode

/-! ### Numerals of variable length -/

lemma digitValue?_digit {d : Nat} (hd : d < 36) : Punycode.digitValue? (digit d) = some d := by
  have all : ∀ e < 36, Punycode.digitValue? (digit e) = some e := by decide
  exact all d hd

/-- Whether `c` is a digit of base 36. -/
def IsPunyDigit (c : Char) : Prop := ∃ d < 36, c = digit d

lemma IsPunyDigit.ne_hyphen {c : Char} (h : IsPunyDigit c) : c ≠ '-' := by
  obtain ⟨d, hd, rfl⟩ := h
  have all : ∀ e < 36, digit e ≠ '-' := by decide
  exact all d hd

lemma numeral_digits (bias k n : Nat) : ∀ c ∈ numeral bias k n, IsPunyDigit c := by
  fun_induction numeral bias k n with
  | case1 k n hn =>
    have := threshold_bounds k bias
    exact List.forall_mem_singleton.mpr ⟨n, by omega, rfl⟩
  | case2 k n hn ih =>
    have := threshold_bounds k bias
    have hmod : (n - threshold k bias) % (36 - threshold k bias) < 36 - threshold k bias :=
      Nat.mod_lt _ (by omega)
    exact List.forall_mem_cons.mpr ⟨⟨_, by omega, rfl⟩, ih⟩

lemma readNumeral?_numeral (bias k n weight acc : Nat) (rest : List Char) :
    readNumeral? bias k weight acc (numeral bias k n ++ rest) = some (acc + n * weight, rest) := by
  fun_induction numeral bias k n generalizing weight acc with
  | case1 k n hn =>
    have hbounds := threshold_bounds k bias
    rw [List.singleton_append, readNumeral?, digitValue?_digit (by omega)]
    simp [hn]
  | case2 k n hn ih =>
    have hbounds := threshold_bounds k bias
    generalize ht : threshold k bias = t at *
    have hmod : (n - t) % (36 - t) < 36 - t := Nat.mod_lt _ (by omega)
    have hvalue : t + (n - t) % (36 - t) + (n - t) / (36 - t) * (36 - t) = n := by
      have hdiv := Nat.mod_add_div' (n - t) (36 - t)
      omega
    rw [List.cons_append, readNumeral?, digitValue?_digit (by omega), Option.bind_some]
    simp only [ht]
    rw [if_neg (by omega), ih]
    congr 2
    calc acc + (t + (n - t) % (36 - t)) * weight + (n - t) / (36 - t) * (weight * (36 - t))
        = acc + (t + (n - t) % (36 - t) + (n - t) / (36 - t) * (36 - t)) * weight := by ring
      _ = acc + n * weight := by rw [hvalue]

lemma length_of_readNumeral? {bias k weight acc n : Nat} {cs rest : List Char}
    (h : readNumeral? bias k weight acc cs = some (n, rest)) : rest.length < cs.length := by
  induction cs generalizing k weight acc with
  | nil => cases h
  | cons c cs ih =>
    obtain ⟨d, -, h⟩ := Option.bind_eq_some_iff.mp h
    split at h
    · cases h
      exact Nat.lt_succ_self _
    · exact Nat.lt_succ_of_lt (ih h)

/-! ### Decoding -/

/-- Where a decoder stands in a label. -/
structure Decoder where
  point : Nat
  index : Nat
  bias : Nat
  label : List Char

namespace Decoder

/-- The label in the end. -/
def run (d : Decoder) (cs : List Char) : Option (List Char) :=
  decodeFrom? d.point d.index d.bias d.label cs.length cs

/-- The decoder after a numeral for `n`. -/
def insert (d : Decoder) (n : Nat) : Decoder :=
  let size := d.label.length + 1
  let point := d.point + (d.index + n) / size
  let place := (d.index + n) % size
  ⟨point, place + 1, adapt n size (d.index == 0),
    d.label.take place ++ Char.ofNat point :: d.label.drop place⟩

lemma decodeFrom?_succ (d : Decoder) (fuel : Nat) {cs : List Char} (hcs : cs ≠ []) :
    decodeFrom? d.point d.index d.bias d.label (fuel + 1) cs =
      (readNumeral? d.bias 36 1 0 cs).bind fun (n, rest) =>
        if 0x10ffff < (d.insert n).point then none
        else decodeFrom? (d.insert n).point (d.insert n).index (d.insert n).bias (d.insert n).label
          fuel rest := by
  cases cs with
  | nil => exact absurd rfl hcs
  | cons c cs => rfl

lemma decodeFrom?_eq_run (d : Decoder) {fuel : Nat} {cs : List Char} (h : cs.length ≤ fuel) :
    decodeFrom? d.point d.index d.bias d.label fuel cs = d.run cs := by
  induction fuel using Nat.strongRecOn generalizing d cs with
  | ind fuel ih =>
    cases cs with
    | nil => cases fuel <;> rfl
    | cons c cs =>
      obtain ⟨fuel, rfl⟩ : ∃ f, fuel = f + 1 := ⟨fuel - 1, by rw [List.length_cons] at h; omega⟩
      rw [run, List.length_cons, decodeFrom?_succ d fuel (List.cons_ne_nil c cs),
        decodeFrom?_succ d cs.length (List.cons_ne_nil c cs)]
      refine Option.bind_congr ?_
      rintro ⟨n, rest⟩ hread
      have hrest : rest.length < cs.length + 1 := length_of_readNumeral? hread
      rw [List.length_cons] at h
      simp only
      rw [ih fuel (by omega) _ (by omega), ih cs.length (by omega) _ (by omega)]

lemma run_nil (d : Decoder) : d.run [] = some d.label := rfl

lemma run_numeral {d : Decoder} {n : Nat} (h : (d.insert n).point ≤ 0x10ffff) (tail : List Char) :
    d.run (numeral d.bias 36 n ++ tail) = (d.insert n).run tail := by
  have hread := readNumeral?_numeral d.bias 36 n 1 0 tail
  have hcs : numeral d.bias 36 n ++ tail ≠ [] := by
    intro hnil
    rw [hnil] at hread
    cases hread
  have hlength := length_of_readNumeral? hread
  obtain ⟨fuel, hfuel⟩ : ∃ f, (numeral d.bias 36 n ++ tail).length = f + 1 :=
    ⟨_, (Nat.succ_pred_eq_of_pos (by omega)).symm⟩
  rw [run, hfuel, decodeFrom?_succ d fuel hcs, hread, Option.bind_some]
  simp only [Nat.mul_one, Nat.zero_add]
  rw [if_neg (by omega), decodeFrom?_eq_run _ (by omega)]

end Decoder

/-! ### Encoder and decoder in step -/

/-- What the encoder writes while it comes from `e` to `e'` brings the decoder from `d` to `d'`. -/
structure Writes (e e' : Encoder) (d d' : Decoder) (more : List Char) : Prop where
  output : e'.output = e.output ++ more
  digits : ∀ c ∈ more, IsPunyDigit c
  run : ∀ tail, d.run (more ++ tail) = d'.run tail

namespace Writes

variable {e e' e'' : Encoder} {d d' d'' : Decoder} {more more' : List Char}

lemma nothing (h : e'.output = e.output) : Writes e e' d d [] where
  output := by rw [h, List.append_nil]
  digits := List.forall_mem_nil _
  run _ := rfl

lemma trans (h : Writes e e' d d' more) (h' : Writes e' e'' d' d'' more') :
    Writes e e'' d d'' (more ++ more') where
  output := by rw [h'.output, h.output, List.append_assoc]
  digits := List.forall_mem_append.mpr ⟨h.digits, h'.digits⟩
  run tail := by rw [List.append_assoc, h.run, h'.run]

end Writes

/-- The encoder is in the middle of the label, at the code point `p`; the decoder has inserted all
characters below it and those of `p` that the encoder has come past. -/
structure InPass (basic p : Nat) (before after : List Char) (e : Encoder) (d : Decoder) :
    Prop where
  label : d.label = before.filter (·.toNat ≤ p) ++ after.filter (·.toNat < p)
  bias : e.bias = d.bias
  count : e.count = d.label.length
  point_le : d.point ≤ p
  /-- The places between both, each pass over the label with one place more than it has. -/
  delta : d.index + e.delta =
    (p - d.point) * (e.count + 1) + (before.filter (·.toNat ≤ p)).length
  basic_le : basic ≤ e.count
  isFirst : (e.count == basic) = (d.index == 0)

namespace InPass

variable {basic p : Nat} {before after : List Char} {e : Encoder} {d : Decoder}

lemma visit_below {c : Char} (h : InPass basic p before (c :: after) e d) (hc : c.toNat < p) :
    InPass basic p (before ++ [c]) after (e.visit basic p c) d := by
  have hvisit : e.visit basic p c = { e with delta := e.delta + 1 } := if_pos hc
  have hle : c.toNat ≤ p := Nat.le_of_lt hc
  rw [hvisit]
  refine ⟨?_, h.bias, h.count, h.point_le, ?_, h.basic_le, h.isFirst⟩
  · simpa [List.filter_cons, hc, hle] using h.label
  · have hdelta := h.delta
    simp only [List.filter_append, List.length_append, List.filter_cons, hle, decide_true, if_true,
      List.filter_nil, List.length_singleton]
    omega

lemma visit_above {c : Char} (h : InPass basic p before (c :: after) e d) (hc : p < c.toNat) :
    InPass basic p (before ++ [c]) after (e.visit basic p c) d := by
  have hlt : ¬c.toNat < p := by omega
  have hle : ¬c.toNat ≤ p := by omega
  have hvisit : e.visit basic p c = e := by
    rw [Encoder.visit, if_neg hlt, if_neg (by omega)]
  rw [hvisit]
  refine ⟨?_, h.bias, h.count, h.point_le, ?_, h.basic_le, h.isFirst⟩
  · simpa [List.filter_cons, hlt, hle] using h.label
  · simpa [List.filter_append, List.filter_cons, hle] using h.delta

lemma insert_eq {c : Char} (h : InPass basic p before (c :: after) e d) (hc : c.toNat = p) :
    d.insert e.delta =
      ⟨p, (before.filter (·.toNat ≤ p)).length + 1, adapt e.delta (e.count + 1) (e.count == basic),
        before.filter (·.toNat ≤ p) ++ c :: after.filter (·.toNat < p)⟩ := by
  have hlabel : d.label = before.filter (·.toNat ≤ p) ++ after.filter (·.toNat < p) := by
    simpa [List.filter_cons, hc] using h.label
  generalize hplace : (before.filter (·.toNat ≤ p)).length = place
  have hdelta := h.delta
  rw [hplace] at hdelta
  have hplace_le : place < e.count + 1 := by
    rw [h.count, hlabel, List.length_append, hplace]
    omega
  have hpoint : d.point + (d.index + e.delta) / (e.count + 1) = p := by
    rw [hdelta, Nat.mul_comm, Nat.mul_add_div (by omega), Nat.div_eq_of_lt hplace_le]
    have := h.point_le
    omega
  have hindex : (d.index + e.delta) % (e.count + 1) = place := by
    rw [hdelta, Nat.mul_comm, Nat.mul_add_mod, Nat.mod_eq_of_lt hplace_le]
  have hchar : Char.ofNat p = c := by rw [← hc, Char.ofNat_toNat]
  simp only [Decoder.insert, ← h.count, hpoint, hindex, hchar, ← h.isFirst]
  rw [hlabel, ← hplace, List.take_left, List.drop_left]

lemma visit_at {c : Char} (h : InPass basic p before (c :: after) e d) (hc : c.toNat = p) :
    Writes e (e.visit basic p c) d (d.insert e.delta) (numeral e.bias 36 e.delta) ∧
      InPass basic p (before ++ [c]) after (e.visit basic p c) (d.insert e.delta) := by
  have hvisit : e.visit basic p c = ⟨e.output ++ numeral e.bias 36 e.delta, 0,
      adapt e.delta (e.count + 1) (e.count == basic), e.count + 1⟩ := by
    rw [Encoder.visit, if_neg (by omega), if_pos hc]
  have hpoint : p ≤ 0x10ffff := by
    have hlt : c.toNat < 0x110000 := by
      rcases c.valid with hvalid | ⟨-, hvalid⟩
      · exact Nat.lt_trans hvalid (by decide)
      · exact hvalid
    omega
  rw [hvisit]
  refine ⟨⟨rfl, numeral_digits _ _ _, ?_⟩, ?_⟩
  · rw [h.bias]
    exact Decoder.run_numeral (by rw [h.insert_eq hc]; exact hpoint)
  · rw [h.insert_eq hc]
    refine ⟨?_, rfl, ?_, Nat.le_refl p, ?_, ?_, ?_⟩
    · simp [List.filter_append, hc]
    · have hcount := h.count
      rw [h.label] at hcount
      simp only [List.length_append, List.length_cons, List.filter_cons, hc] at hcount ⊢
      simp at hcount
      omega
    · simp [List.filter_append, hc]
    · exact Nat.le_succ_of_le h.basic_le
    · have := h.basic_le
      simp
      omega

lemma visit {c : Char} (h : InPass basic p before (c :: after) e d) :
    ∃ d' more, Writes e (e.visit basic p c) d d' more ∧
      InPass basic p (before ++ [c]) after (e.visit basic p c) d' := by
  rcases Nat.lt_trichotomy c.toNat p with hc | hc | hc
  · refine ⟨d, [], .nothing ?_, h.visit_below hc⟩
    rw [Encoder.visit, if_pos hc]
  · exact ⟨_, _, h.visit_at hc⟩
  · refine ⟨d, [], .nothing ?_, h.visit_above hc⟩
    rw [Encoder.visit, if_neg (by omega), if_neg (by omega)]

lemma pass (h : InPass basic p before after e d) :
    ∃ d' more, Writes e (after.foldl (Encoder.visit basic p) e) d d' more ∧
      InPass basic p (before ++ after) [] (after.foldl (Encoder.visit basic p) e) d' := by
  induction after generalizing before e d with
  | nil => exact ⟨d, [], .nothing rfl, by simpa using h⟩
  | cons c after ih =>
    obtain ⟨d', more, hwrites, hnext⟩ := h.visit
    obtain ⟨d'', more', hwrites', hlast⟩ := ih hnext
    refine ⟨d'', more ++ more', hwrites.trans hwrites', ?_⟩
    rwa [List.append_assoc, List.singleton_append] at hlast

lemma skip {start : Nat} {label : List Char} (h : InPass basic start [] label e d)
    (hle : start ≤ p) (hnone : ∀ c ∈ label, c.toNat < p → c.toNat < start) :
    InPass basic p [] label { e with delta := e.delta + (p - start) * (e.count + 1) } d := by
  have hfilter : label.filter (·.toNat < p) = label.filter (·.toNat < start) := by
    refine List.filter_congr fun c hc => ?_
    have := hnone c hc
    simp only [decide_eq_decide]
    omega
  have hpoint := h.point_le
  refine ⟨?_, h.bias, h.count, by omega, ?_, h.basic_le, h.isFirst⟩
  · rw [h.label, hfilter]
    rfl
  · have hdelta := h.delta
    have hsplit : p - d.point = (start - d.point) + (p - start) := by omega
    simp only [List.filter_nil, List.length_nil] at hdelta ⊢
    rw [hsplit, Nat.add_mul]
    omega

lemma next {label : List Char} (h : InPass basic p label [] e d) :
    InPass basic (p + 1) [] label { e with delta := e.delta + 1 } d := by
  have hfilter : label.filter (·.toNat < p + 1) = label.filter (·.toNat ≤ p) := by
    refine List.filter_congr fun c _ => ?_
    simp only [decide_eq_decide]
    omega
  have hlabel : d.label = label.filter (·.toNat ≤ p) := by simpa using h.label
  have hpoint := h.point_le
  refine ⟨?_, h.bias, h.count, by omega, ?_, h.basic_le, h.isFirst⟩
  · rw [hfilter, hlabel]
    rfl
  · have hdelta := h.delta
    have hsplit : p + 1 - d.point = (p - d.point) + 1 := by omega
    rw [← hlabel, ← h.count] at hdelta
    rw [hsplit, Nat.add_mul]
    simp only [List.filter_nil, List.length_nil]
    omega

lemma encodePoints {points : List Nat} {start : Nat} {label : List Char}
    (h : InPass basic start [] label e d) (hsorted : points.Pairwise (· < ·))
    (hstart : ∀ p ∈ points, start ≤ p) (hall : ∀ c ∈ label, start ≤ c.toNat → c.toNat ∈ points) :
    ∃ more, Punycode.encodePoints label basic points start e = e.output ++ more ∧
      (∀ c ∈ more, IsPunyDigit c) ∧ d.run more = some label := by
  induction points generalizing start e d with
  | nil =>
    have hbelow : ∀ c ∈ label, c.toNat < start := by
      intro c hc
      by_contra hnot
      simpa using hall c hc (by omega)
    refine ⟨[], (List.append_nil _).symm, List.forall_mem_nil _, ?_⟩
    rw [Decoder.run_nil, h.label, List.filter_nil, List.nil_append,
      List.filter_eq_self.mpr fun c hc => by simpa using hbelow c hc]
  | cons p points ih =>
    obtain ⟨hfirst, hsorted⟩ := List.pairwise_cons.mp hsorted
    have hp := hstart p List.mem_cons_self
    have hreached := h.skip hp fun c hc hlt => by
      by_contra hnot
      rcases List.mem_cons.mp (hall c hc (by omega)) with heq | hmem
      · omega
      · have := hfirst _ hmem
        omega
    obtain ⟨d', more, hwrites, hpassed⟩ := hreached.pass
    obtain ⟨more', houtput, hdigits, hrun⟩ := ih hpassed.next hsorted hfirst fun c hc hle => by
      rcases List.mem_cons.mp (hall c hc (by omega)) with heq | hmem
      · omega
      · exact hmem
    refine ⟨more ++ more', ?_, List.forall_mem_append.mpr ⟨hwrites.digits, hdigits⟩, ?_⟩
    · rw [Punycode.encodePoints]
      refine houtput.trans ?_
      rw [← List.append_assoc]
      exact congrArg (· ++ more') hwrites.output
    · rw [hwrites.run, hrun]

end InPass

/-! ### Labels -/

lemma mem_insertPoint {n m : Nat} {points : List Nat} :
    m ∈ insertPoint n points ↔ m = n ∨ m ∈ points := by
  induction points with
  | nil => simp [insertPoint]
  | cons p points ih =>
    simp only [insertPoint]
    split
    · simp
    · split
      · rename_i heq
        simp [heq]
      · simp only [List.mem_cons, ih]
        exact or_left_comm

lemma ascending_insertPoint {n : Nat} {points : List Nat} (h : points.Pairwise (· < ·)) :
    (insertPoint n points).Pairwise (· < ·) := by
  induction points with
  | nil => simp [insertPoint]
  | cons p points ih =>
    obtain ⟨hhead, htail⟩ := List.pairwise_cons.mp h
    simp only [insertPoint]
    split
    · rename_i hlt
      refine List.pairwise_cons.mpr ⟨?_, h⟩
      intro m hm
      rcases List.mem_cons.mp hm with rfl | hm
      · exact hlt
      · exact hlt.trans (hhead m hm)
    · split
      · exact h
      · refine List.pairwise_cons.mpr ⟨?_, ih htail⟩
        intro m hm
        rcases mem_insertPoint.mp hm with rfl | hm
        · omega
        · exact hhead m hm

lemma points_spec (cs : List Char) :
    (cs.foldr (fun c points => insertPoint c.toNat points) []).Pairwise (· < ·) ∧
      ∀ n, n ∈ cs.foldr (fun c points => insertPoint c.toNat points) [] ↔
        ∃ c ∈ cs, c.toNat = n := by
  induction cs with
  | nil => simp
  | cons c cs ih =>
    refine ⟨ascending_insertPoint ih.1, ?_⟩
    intro n
    rw [List.foldr_cons, mem_insertPoint, ih.2, List.exists_mem_cons_iff]
    exact or_congr_left eq_comm

/-- A code is the ASCII characters, a hyphen behind them, and digits. -/
lemma encode_spec (label : List Char) :
    let basic := label.filter (·.toNat < 128)
    ∃ more, encode label = (if basic.isEmpty then [] else basic ++ ['-']) ++ more ∧
      (∀ c ∈ more, IsPunyDigit c) ∧ (Decoder.mk 128 0 72 basic).run more = some label := by
  intro basic
  obtain ⟨hsorted, hmem⟩ := points_spec (label.filter fun c => 128 ≤ c.toNat)
  have hstart : InPass basic.length 128 [] label
      ⟨if basic.isEmpty then [] else basic ++ ['-'], 0, 72, basic.length⟩ ⟨128, 0, 72, basic⟩ :=
    ⟨rfl, rfl, rfl, Nat.le_refl _, by simp, Nat.le_refl _, by simp⟩
  refine hstart.encodePoints hsorted ?_ ?_
  · intro n hn
    obtain ⟨c, hc, rfl⟩ := (hmem n).mp hn
    simpa using (List.mem_filter.mp hc).2
  · intro c hc hle
    exact (hmem _).mpr ⟨c, List.mem_filter.mpr ⟨hc, by simpa using hle⟩, rfl⟩

lemma decode?_of_hyphen {digits : List Char} (hdigits : '-' ∉ digits) (plain : List Char) :
    decode? (plain ++ '-' :: digits) = (Decoder.mk 128 0 72 plain).run digits := by
  have hback : ((plain ++ '-' :: digits).reverse.takeWhile (· != '-')).reverse = digits := by
    have hfront : ∀ c ∈ digits.reverse, (c != '-') = true := fun c hc =>
      bne_iff_ne.mpr fun h => hdigits (h ▸ List.mem_reverse.mp hc)
    rw [List.reverse_append, List.reverse_cons, List.append_assoc, List.singleton_append,
      takeWhile_append_cons (by rfl) hfront, List.reverse_reverse]
  have hplain : (plain ++ '-' :: digits).take
      ((plain ++ '-' :: digits).length - digits.length - 1) = plain := by
    have hlength : (plain ++ '-' :: digits).length - digits.length - 1 = plain.length := by
      simp only [List.length_append, List.length_cons]
      omega
    rw [hlength, List.take_left]
  have hcontains : (plain ++ '-' :: digits).contains '-' = true :=
    List.contains_iff_mem.mpr (List.mem_append_right _ List.mem_cons_self)
  simp only [decode?, hback, hplain, hcontains, if_true, Decoder.run]

lemma decode?_of_no_hyphen {digits : List Char} (hdigits : '-' ∉ digits) :
    decode? digits = (Decoder.mk 128 0 72 []).run digits := by
  have hcontains : digits.contains '-' = false := by simpa using hdigits
  simp only [decode?, hcontains, Bool.false_eq_true, if_false, Decoder.run]

/-- A label is read back from its code. -/
theorem decode?_encode (label : List Char) : decode? (encode label) = some label := by
  obtain ⟨more, hcode, hdigits, hrun⟩ := encode_spec label
  have hhyphen : '-' ∉ more := fun h => (hdigits _ h).ne_hyphen rfl
  rw [hcode]
  split
  · rename_i hbasic
    rw [List.nil_append, decode?_of_no_hyphen hhyphen, ← List.isEmpty_iff.mp hbasic]
    exact hrun
  · rw [List.append_assoc, List.singleton_append, decode?_of_hyphen hhyphen]
    exact hrun

lemma mem_encode {label : List Char} {c : Char} (hc : c ∈ encode label) :
    (c ∈ label ∧ c.toNat < 128) ∨ c = '-' ∨ IsPunyDigit c := by
  obtain ⟨more, hcode, hdigits, -⟩ := encode_spec label
  rw [hcode] at hc
  rcases List.mem_append.mp hc with hfront | hmore
  · split at hfront
    · cases hfront
    · rcases List.mem_append.mp hfront with hbasic | hhyphen
      · left
        simpa using List.mem_filter.mp hbasic
      · exact .inr (.inl (List.mem_singleton.mp hhyphen))
  · exact .inr (.inr (hdigits c hmore))

end BatchInsert.Proofs
