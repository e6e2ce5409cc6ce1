import BatchInsert.Proofs.Building
import BatchInsert.Proofs.Classification
import BatchInsert.Proofs.Substitution

/-!
# What loaded settings hold

Whatever document settings are loaded from, the size of a batch is a word of 64 bits, and no tag is
a bare code of a standard type. Both are seen to where a field is read, and every loop around the
readers of fields hands on what they yield.
-/

namespace BatchInsert.Proofs

open Sql (Tag)
open Settings (Field Item Partial)

variable {ε α β ρ : Type} {P : α → Prop}

/-! ### What is yielded -/

/-- What has been read, if anything, satisfies `P`. -/
def Yields (P : α → Prop) (r : Except ε (α × ρ)) : Prop := ∀ a next, r = .ok (a, next) → P a

namespace Yields

lemma ok {a : α} {next : ρ} (h : P a) : Yields P (.ok (a, next) : Except ε (α × ρ)) := by
  rintro _ _ ⟨⟩
  exact h

lemma error {e : ε} : Yields P (.error e : Except ε (α × ρ)) := by
  rintro _ _ ⟨⟩

lemma bind {r : Except ε β} {f : β → Except ε (α × ρ)} (h : ∀ b, r = .ok b → Yields P (f b)) :
    Yields P (r >>= f) := by
  cases r with
  | error e => exact error
  | ok b => exact h b rfl

lemma trivial (r : Except ε (α × ρ)) : Yields (fun _ => True) r := fun _ _ _ => True.intro

lemma mono {Q : α → Prop} {r : Except ε (α × ρ)} (h : Yields P r) (hPQ : ∀ a, P a → Q a) :
    Yields Q r := fun a next hr => hPQ a (h a next hr)

end Yields

/-- All items of a list that may be missing satisfy `P`. -/
def AllOf (P : α → Prop) (items : Option (List α)) : Prop := ∀ as, items = some as → ∀ a ∈ as, P a

/-! ### Tags -/

/-- No bare code of a standard type. -/
def IsNormal (t : Tag) : Prop := t.normalize = t

lemma isNormal_ofCode (c : Int32) : IsNormal (Tag.ofCode c) := normalize_normalize (.other c)

lemma isNormal_further : ∀ n ∈ Sql.furtherNames, IsNormal (.other n.2) := by
  simp only [IsNormal]
  decide

lemma isNormal_ofText {s : String} {t : Tag} (h : Tag.ofText s = .ok t) : IsNormal t := by
  have htext : Tag.ofText? s = some t := by
    rw [Tag.ofText] at h
    split at h
    · rename_i t' ht'
      cases h
      exact ht'
    · cases h
  simp only [Tag.ofText?] at htext
  split at htext
  · cases htext
    rfl
  · split at htext
    · rename_i n hn
      cases htext
      exact isNormal_further n (List.mem_of_find?_eq_some hn)
    · obtain ⟨i, -, rfl⟩ := Option.map_eq_some_iff.mp htext
      exact isNormal_ofCode _

lemma isNormal_ofScalar {s : Document.Scalar} {t : Tag} (h : Tag.ofScalar s = .ok t) :
    IsNormal t := by
  unfold Tag.ofScalar at h
  split at h
  · split at h
    · cases h
      exact isNormal_ofCode _
    · cases h
  · rename_i text
    cases htext : Tag.ofText text with
    | error e => rw [htext] at h; cases h
    | ok t' =>
      rw [htext] at h
      cases h
      exact isNormal_ofText htext
  · cases h

/-! ### Fields -/

/-- What holds of a field that has been read. -/
def ItemFits : Item → Prop
  | .batchSize n => n < 2 ^ 64
  | .columnTypes types => AllOf IsNormal types
  | _ => True

structure PartialFits (p : Partial) : Prop where
  batchSize : ∀ n, p.batchSize = some n → n < 2 ^ 64
  columnTypes : ∀ types, p.columnTypes = some types → AllOf IsNormal types

structure Fits (S : Settings) : Prop where
  batchSize : S.batchSize < 2 ^ 64
  columnTypes : AllOf IsNormal S.columnTypes

lemma partialFits_empty : PartialFits .empty := ⟨by rintro n ⟨⟩, by rintro types ⟨⟩⟩

lemma PartialFits.put {p : Partial} (h : PartialFits p) {item : Item} (hitem : ItemFits item) :
    PartialFits (p.put item) := by
  cases item with
  | batchSize n =>
    refine ⟨?_, h.columnTypes⟩
    rintro _ ⟨⟩
    exact hitem
  | columnTypes types =>
    refine ⟨h.batchSize, ?_⟩
    rintro _ ⟨⟩
    exact hitem
  | _ => exact ⟨h.batchSize, h.columnTypes⟩

lemma PartialFits.complete {p : Partial} (h : PartialFits p) {S : Settings}
    (hS : p.complete = .ok S) : Fits S := by
  have hparts : S.batchSize = p.batchSize.getD defaultBatchSize ∧
      S.columnTypes = p.columnTypes.getD none := by
    simp only [Partial.complete] at hS
    cases hdriver : Partial.require .driver p.driver with
    | error m => rw [hdriver] at hS; cases hS
    | ok driver =>
      cases hurl : Partial.require .url p.url with
      | error m => rw [hdriver, hurl] at hS; cases hS
      | ok url =>
        cases hstatement : Partial.require .statement p.statement with
        | error m => rw [hdriver, hurl, hstatement] at hS; cases hS
        | ok statement =>
          rw [hdriver, hurl, hstatement] at hS
          cases hS
          exact ⟨rfl, rfl⟩
  constructor
  · rw [hparts.1]
    cases hsize : p.batchSize with
    | none => decide
    | some n => exact h.batchSize n hsize
  · rw [hparts.2]
    cases htypes : p.columnTypes with
    | none => rintro ts ⟨⟩
    | some types => exact h.columnTypes types htypes

lemma sizeOfInteger_lt {i : Int} {n : Nat} (h : Settings.sizeOfInteger i = .ok n) : n < 2 ^ 64 := by
  rw [Settings.sizeOfInteger] at h
  split at h
  · cases h
    omega
  · cases h

/-! ### Settings in JSON -/

section Json

open Json (Cursor Depth ReadError)

lemma yields_tag (depth : Depth) (cur : Cursor) : Yields IsNormal (Tag.read depth cur) := by
  refine .bind fun ⟨j, mid⟩ _ => ?_
  dsimp only
  cases htag : Tag.ofJson j with
  | error m => exact .error
  | ok t =>
    refine .ok ?_
    unfold Tag.ofJson at htag
    split at htag
    · exact isNormal_ofScalar htag
    · cases htag

lemma yields_items {item : Reader α} (hitem : ∀ cur, Yields P (item cur)) (fuel : Nat)
    (first : Bool) (cur : Cursor) :
    Yields (∀ a ∈ ·, P a) (Cursor.items item fuel first cur) := by
  induction fuel generalizing first cur with
  | zero => exact .error
  | succ fuel ih =>
    refine .bind fun ⟨more, mid⟩ _ => ?_
    cases more with
    | false => exact .ok fun a ha => by cases ha
    | true =>
      refine .bind fun ⟨a, next⟩ ha => .bind fun ⟨as, last⟩ has => .ok ?_
      exact List.forall_mem_cons.mpr ⟨hitem _ a next ha, ih false next as last has⟩

lemma Yields.finish {close : Cursor → Cursor × Option Json.Cause}
    {r : Except ReadError (α × Cursor)} (h : Yields P r) : Yields P (Cursor.finish close r) := by
  cases r with
  | error e => cases e <;> exact .error
  | ok x =>
    obtain ⟨a, cur⟩ := x
    simp only [Cursor.finish]
    split
    · exact .ok (h a cur rfl)
    · exact .error

lemma yields_sequence {item : Depth → Reader α} (hitem : ∀ depth cur, Yields P (item depth cur))
    (depth : Depth) (cur : Cursor) : Yields (∀ a ∈ ·, P a) (Cursor.sequence depth item cur) := by
  refine .bind fun ⟨lexeme, mid⟩ _ => ?_
  cases lexeme with
  | array => exact .bind fun depth _ => .finish (yields_items (hitem depth) _ _ _)
  | scalar s => exact .error
  | object => exact .error

lemma yields_readScalar {accept : Document.Found → Except Document.Mismatch α}
    (haccept : ∀ found a, accept found = .ok a → P a) (cur : Cursor) :
    Yields P (Settings.readScalar accept cur) := by
  refine .bind fun ⟨lexeme, mid⟩ _ => ?_
  dsimp only
  cases ha : accept lexeme.found with
  | error m => exact .error
  | ok a => exact .ok (haccept _ a ha)

lemma yields_readOption {read : Reader α} (hread : ∀ cur, Yields P (read cur)) (cur : Cursor) :
    Yields (fun o => ∀ a, o = some a → P a) (Settings.readOption read cur) := by
  simp only [Settings.readOption]
  split
  · refine .bind fun mid _ => .ok ?_
    rintro a ⟨⟩
  · refine .bind fun x hx => .ok ?_
    rintro _ ⟨⟩
    exact hread _ x.1 x.2 hx

lemma Yields.mapResult {Q : β → Prop} {f : α → β} {r : Except ReadError (α × Cursor)}
    (h : Yields P r) (hf : ∀ a, P a → Q (f a)) : Yields Q (Settings.mapResult f r) := by
  intro b next hb
  obtain ⟨a, ha, rfl⟩ := mapResult_eq_ok.mp hb
  exact hf a (h a next ha)

lemma yields_readItem (f : Field) (depth : Depth) (cur : Cursor) :
    Yields ItemFits (Settings.readItem f depth cur) := by
  cases f with
  | batchSize =>
    have hsize : ∀ found n, Settings.sizeOf found = .ok n → n < 2 ^ 64 := by
      intro found n hn
      unfold Settings.sizeOf at hn
      split at hn
      · exact sizeOfInteger_lt hn
      · cases hn
    exact (yields_readScalar hsize cur).mapResult fun _ hn => hn
  | columnTypes =>
    exact (yields_readOption (yields_sequence yields_tag depth) cur).mapResult fun _ hall => hall
  | _ => exact Yields.mapResult (.trivial _) fun _ _ => trivial

lemma yields_readList (depth : Depth) {fs : List Field} {index : Nat} {first : Bool} {p : Partial}
    (hp : PartialFits p) (cur : Cursor) :
    Yields PartialFits (Settings.readList depth index first fs p cur) := by
  induction fs generalizing index first p cur with
  | nil => exact .ok hp
  | cons f fs ih =>
    refine .bind fun ⟨more, mid⟩ _ => ?_
    cases more with
    | false =>
      dsimp only
      split
      · contradiction
      · split
        · exact .error
        · exact ih hp mid
    | true =>
      exact .bind fun ⟨item, next⟩ hitem =>
        ih (hp.put (yields_readItem f depth _ item next hitem)) next

lemma yields_readMembers (depth : Depth) {fuel : Nat} {first : Bool} {p : Partial}
    (hp : PartialFits p) (cur : Cursor) :
    Yields PartialFits (Settings.readMembers depth fuel first p cur) := by
  induction fuel generalizing first p cur with
  | zero => exact .error
  | succ fuel ih =>
    refine .bind fun ⟨more, mid⟩ _ => ?_
    cases more with
    | false => exact .ok hp
    | true =>
      refine .bind fun ⟨name, next⟩ _ => ?_
      dsimp only
      split
      · exact .bind fun _ _ => .bind fun last _ => ih hp last
      · rename_i f _
        split
        · exact .error
        · exact .bind fun _ _ => .bind fun ⟨item, last⟩ hitem =>
            ih (hp.put (yields_readItem f depth _ item last hitem)) last

lemma Yields.finishRead {r : Except ReadError (Partial × Cursor)} (h : Yields PartialFits r) :
    Yields Fits (Settings.finishRead r) := by
  refine .bind fun ⟨p, cur⟩ hp => ?_
  dsimp only
  cases hS : p.complete with
  | error m => exact .error
  | ok S => exact .ok ((h p cur hp).complete hS)

lemma yields_read (depth : Depth) (cur : Cursor) : Yields Fits (Settings.read depth cur) := by
  refine .bind fun ⟨lexeme, mid⟩ _ => ?_
  cases lexeme with
  | scalar s => exact .error
  | array =>
    exact .bind fun depth _ => (yields_readList depth partialFits_empty _).finishRead.finish
  | object =>
    exact .bind fun depth _ => (yields_readMembers depth partialFits_empty _).finishRead.finish

end Json

/-! ### Settings in YAML -/

section Yaml

open Yaml (Path ReadError)

lemma Yields.place {path : Path} {mark : Yaml.Mark} {r : Except ReadError (α × Yaml.Reader)}
    (h : Yields P r) : Yields P (Yaml.Reader.place path mark r) := by
  cases r with
  | error e => cases e <;> exact .error
  | ok x => exact h

lemma yields_throughAlias {read : Yaml.Reads α} (hread : ∀ r, Yields P (read r))
    (r : Yaml.Reader) : Yields P (Yaml.Reader.throughAlias read r) := by
  refine .bind fun n _ => ?_
  split
  · exact .bind fun there _ => .bind fun ⟨a, last⟩ ha => .ok (hread there a last ha)
  · exact hread r

lemma yields_node {path : Path} {read : Yaml.Node.Kind → Yaml.Mark → Yaml.Reads α}
    (hread : ∀ k mark r, Yields P (read k mark r)) (r : Yaml.Reader) :
    Yields P (Yaml.Reader.node path read r) :=
  yields_throughAlias (fun _ => .bind fun _ _ => .place (hread _ _ _)) r

lemma yields_unexpected (k : Yaml.Node.Kind) (expected : String) :
    Yields P (Yaml.Reader.unexpected k expected : Except ReadError (α × Yaml.Reader)) := by
  unfold Yaml.Reader.unexpected
  split
  · split <;> exact .error
  all_goals exact .error

lemma yields_natural (bound : Nat) (expected : String) (path : Path) (r : Yaml.Reader) :
    Yields (· < bound) (Yaml.Reader.natural bound expected path r) := by
  refine yields_node (fun k mark r => ?_) r
  split
  · dsimp only
    split
    · rename_i n hn
      refine .ok ?_
      split at hn
      · obtain ⟨-, hbound⟩ := Option.filter_eq_some_iff.mp hn
        simpa using hbound
      · cases hn
    · exact yields_unexpected _ _
  · exact yields_unexpected _ _

lemma yields_yamlOption {read : Yaml.Reads α} (hread : ∀ r, Yields P (read r)) (r : Yaml.Reader) :
    Yields (fun o => ∀ a, o = some a → P a) (Yaml.Reader.option read r) := by
  refine yields_throughAlias (fun r => ?_) r
  refine .bind fun n _ => .bind fun absent _ => ?_
  split
  · refine .ok ?_
    rintro a ⟨⟩
  · refine .bind fun ⟨a, last⟩ ha => .ok ?_
    rintro _ ⟨⟩
    exact hread r a last ha

lemma yields_yamlItems {item : Path → Yaml.Reads α} (hitem : ∀ path r, Yields P (item path r))
    (path : Path) (fuel index : Nat) (r : Yaml.Reader) :
    Yields (∀ a ∈ ·, P a) (Yaml.Reader.items item path fuel index r) := by
  induction fuel generalizing index r with
  | zero => exact .error
  | succ fuel ih =>
    refine .bind fun n _ => ?_
    split
    · exact .ok fun a ha => by cases ha
    · refine .bind fun ⟨a, next⟩ ha => .bind fun ⟨as, last⟩ has => .ok ?_
      exact List.forall_mem_cons.mpr ⟨hitem _ _ a next ha, ih _ next as last has⟩

lemma Yields.descend {read : Nat → Except ReadError (α × Yaml.Reader)} {mark : Yaml.Mark}
    (h : ∀ depth, Yields P (read depth)) (depth : Nat) :
    Yields P (Yaml.Reader.descend mark read depth) := by
  cases depth with
  | zero => exact .error
  | succ depth => exact h depth

lemma yields_yamlSequence {item : Nat → Path → Yaml.Reads α}
    (hitem : ∀ depth path r, Yields P (item depth path r)) (depth : Nat) (path : Path)
    (r : Yaml.Reader) : Yields (∀ a ∈ ·, P a) (Yaml.Reader.sequence item depth path r) := by
  refine yields_node (fun k mark r => ?_) r
  split
  · exact .descend (fun depth => yields_yamlItems (hitem depth) path _ _ _) depth
  · split
    · exact .ok fun a ha => by cases ha
    · exact yields_unexpected _ _

lemma yields_pairs {pair : Yaml.Node.Kind → α → Yaml.Reads α}
    (hpair : ∀ k a r, P a → Yields P (pair k a r)) (fuel : Nat) {a : α} (ha : P a)
    (r : Yaml.Reader) : Yields P (Yaml.Reader.pairs pair fuel a r) := by
  induction fuel generalizing a r with
  | zero => exact .error
  | succ fuel ih =>
    refine .bind fun n _ => ?_
    split
    · exact .ok ha
    · exact .bind fun ⟨b, next⟩ hb => ih (hpair _ a r ha b next hb) next

lemma yields_mapping {Q : β → Prop} {expected : String}
    {pair : Nat → Yaml.Node.Kind → α → Yaml.Reads α} {start : α}
    {complete : α → Except Document.Mismatch β}
    (hpair : ∀ depth k a r, P a → Yields P (pair depth k a r)) (hstart : P start)
    (hcomplete : ∀ a b, P a → complete a = .ok b → Q b) (depth : Nat) (path : Path)
    (r : Yaml.Reader) :
    Yields Q (Yaml.Reader.mapping expected pair start complete depth path r) := by
  have hfinish {a : α} {b : β} (ha : P a)
      (hb : (complete a).mapError ReadError.floating = .ok b) : Q b := by
    cases hc : complete a with
    | error m => rw [hc] at hb; cases hb
    | ok b' =>
      rw [hc] at hb
      cases hb
      exact hcomplete a b ha hc
  unfold Yaml.Reader.mapping
  refine yields_node (fun k mark r => ?_) r
  split
  · refine .descend (fun depth => .bind fun ⟨a, last⟩ ha => .bind fun b hb => .ok ?_) depth
    exact hfinish (yields_pairs (hpair depth) _ hstart _ a last ha) hb
  · split
    · exact .bind fun b hb => .ok (hfinish hstart hb)
    · exact yields_unexpected _ _

lemma yields_yamlTag (depth : Nat) (path : Path) (r : Yaml.Reader) :
    Yields IsNormal (Settings.yamlTag depth path r) := by
  refine .bind fun ⟨found, next⟩ _ => ?_
  dsimp only
  split
  · rename_i t ht
    refine .ok ?_
    split at ht
    · exact isNormal_ofScalar ht
    · cases ht
  · exact .error

lemma Yields.mapYaml {Q : β → Prop} {f : α → β} {read : Yaml.Reads α} {r : Yaml.Reader}
    (h : Yields P (read r)) (hf : ∀ a, P a → Q (f a)) : Yields Q (Settings.mapYaml f read r) := by
  intro b next hb
  cases hr : read r with
  | error e => simp [Settings.mapYaml, hr, Except.map] at hb
  | ok x =>
    obtain ⟨a, mid⟩ := x
    simp only [Settings.mapYaml, hr, Except.map, Except.ok.injEq, Prod.mk.injEq] at hb
    obtain ⟨rfl, rfl⟩ := hb
    exact hf a (h a mid hr)

lemma yields_yamlItem (f : Field) (depth : Nat) (path : Path) (r : Yaml.Reader) :
    Yields ItemFits (Settings.yamlItem f depth path r) := by
  cases f with
  | batchSize => exact (yields_natural _ _ path r).mapYaml fun _ hn => hn
  | columnTypes =>
    exact (yields_yamlOption (yields_yamlSequence yields_yamlTag depth path) r).mapYaml
      fun _ hall => hall
  | _ => exact Yields.mapYaml (.trivial _) fun _ _ => trivial

lemma yields_yamlPair (depth : Nat) (key : Yaml.Node.Kind) {p : Partial} (hp : PartialFits p)
    (r : Yaml.Reader) : Yields PartialFits (Settings.yamlPair depth key p r) := by
  refine .bind fun ⟨name, next⟩ _ => ?_
  dsimp only
  split
  · exact .bind fun _ _ => .ok hp
  · rename_i f _
    split
    · exact .error
    · exact .bind fun ⟨item, last⟩ hitem => .ok (hp.put (yields_yamlItem f _ _ _ item last hitem))

lemma Yields.whole {read : Nat → Path → Yaml.Reads α} {s : String} {a : α}
    (h : ∀ r, Yields P (read Yaml.Reader.maxDepth [] r)) (ha : Yaml.Reader.whole read s = .ok a) :
    P a := by
  rw [Yaml.Reader.whole] at ha
  cases hread : read Yaml.Reader.maxDepth [] (.start (Yaml.Nodes.ofText s)) with
  | error e => simp [hread, Bind.bind, Except.bind] at ha
  | ok x =>
    obtain ⟨b, next⟩ := x
    simp only [hread, Bind.bind, Except.bind] at ha
    split at ha
    · cases ha
    · split at ha
      · cases ha
      · cases ha
        exact h _ _ next hread

end Yaml

/-! ### Settings in either form -/

variable {S : Settings} {env : Environment} {document : String}

lemma fits_of_loaded
    (h : Settings.ofJsonText env document = .ok S ∨ Settings.ofYamlText env document = .ok S) :
    Fits S := by
  have hfits : ∃ T : Settings, T.check = .ok S ∧ Fits T := by
    rcases h with h | h
    · simp only [Settings.ofJsonText] at h
      split at h
      · rename_i T hread
        obtain ⟨last, hlast, -⟩ := readWith_eq_ok.mp hread
        obtain ⟨cur, hcur, -⟩ := outcome_eq_some.mp hlast
        exact ⟨T, h, yields_read _ _ T cur hcur⟩
      · cases h
    · simp only [Settings.ofYamlText] at h
      split at h
      · rename_i T hwhole
        refine ⟨T, h, Yields.whole (fun r => ?_) hwhole⟩
        exact yields_mapping (fun depth k p r hp => yields_yamlPair depth k hp r) partialFits_empty
          (fun p S hp hS => hp.complete hS) _ _ r
      · cases h
  obtain ⟨T, hcheck, hT⟩ := hfits
  obtain ⟨rfl, -⟩ := check_eq_ok_iff.mp hcheck
  exact hT

end BatchInsert.Proofs
