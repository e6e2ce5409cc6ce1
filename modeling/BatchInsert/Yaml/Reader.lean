import BatchInsert.Yaml.Resolution

/-!
# Reading values from YAML

Readers of the nodes of a document. A mismatch is placed by the innermost node whose reader has
found it; a document that is broken off still gives the mismatches of what stands before the break.
-/

namespace BatchInsert.Yaml

open Document (Mismatch Found)

inductive Segment
  | field (name : String)
  | item (index : Nat)
  /-- The value of a key that is no scalar. -/
  | unnamed
deriving DecidableEq

/-- The way to a node, its last step first. -/
abbrev Path := List Segment

def Path.text : Path → String
  | [] => "."
  | s :: outer =>
    let front := if outer.isEmpty then "" else Path.text outer ++ "."
    match s with
    | .field name => front ++ name
    | .item i => Path.text outer ++ "[" ++ Text.decimal i ++ "]"
    | .unnamed => front ++ "?"

inductive ReadError
  /-- A mismatch that an enclosing node has still to place. -/
  | floating (m : Mismatch)
  | placed (m : Mismatch) (path : Path) (mark : Mark)
  | broken (b : Break)
  | tooDeep (mark : Mark)
  | tooManyAliases
  | severalDocuments
  | endOfText

def Break.message : Break → String
  | fault f => f.message
  | unknownAnchor mark => "unknown anchor" ++ mark.suffix

def ReadError.message : ReadError → String
  | floating m => m.message dialect
  | placed m path mark =>
    (if path.isEmpty then "" else path.text ++ ": ") ++ m.message dialect ++ mark.suffix
  | broken b => b.message
  | tooDeep mark => "recursion limit exceeded" ++ mark.suffix
  | tooManyAliases => "repetition limit exceeded"
  | severalDocuments => "deserializing from YAML containing more than one document is not supported"
  | endOfText => "EOF while parsing a value"

structure Reader where
  source : Nodes
  rest : List Node
  /-- The aliases followed so far. -/
  aliases : Nat

/-- A way to read a value off the nodes that are left. -/
abbrev Reads (α : Type) : Type := Reader → Except ReadError (α × Reader)

namespace Reader

def start (ns : Nodes) : Reader := ⟨ns, ns.list, 0⟩

def peek (r : Reader) : Except ReadError Node :=
  match r.rest, r.source.broken with
  | n :: _, _ => .ok n
  | [], some b => .error (.broken b)
  | [], none => .error .endOfText

def skip (r : Reader) : Reader := { r with rest := r.rest.tail }

def reject {α : Type} (m : Mismatch) : Except ReadError α := .error (.floating m)

def place {α : Type} (path : Path) (mark : Mark) : Except ReadError α → Except ReadError α
  | .error (.floating m) => .error (.placed m path mark)
  | result => result

/-- At the node of an anchor. A document has a hundred aliases for each of its nodes at most. -/
def follow (r : Reader) (anchor : Nat) : Except ReadError Reader :=
  if 100 * r.source.list.length < r.aliases + 1 then .error .tooManyAliases
  else .ok { r with rest := r.source.target anchor, aliases := r.aliases + 1 }

/-- Reads at the node of an alias if there is one at hand, and goes on behind the alias. -/
def throughAlias {α : Type} (read : Reads α) (r : Reader) : Except ReadError (α × Reader) := do
  match (← r.peek).kind with
  | .reference anchor =>
    let (a, there) ← read (← r.skip.follow anchor)
    return (a, { r.skip with aliases := there.aliases })
  | _ => read r

/-- Reads the node at hand and places its mismatches. -/
def node {α : Type} (path : Path) (read : Node.Kind → Mark → Reads α) : Reads α :=
  throughAlias fun r => do
    let n ← r.peek
    place path n.mark (read n.kind n.mark r.skip)

/-- The mismatch of a node where something else was expected. -/
def unexpected {α : Type} (k : Node.Kind) (expected : String) : Except ReadError α :=
  match k with
  | .scalar tag text style =>
    match scalarFound tag text style with
    | .ok found => reject (.wrongType found expected)
    | .error m => reject m
  | .sequenceStart _ => reject (.wrongType .sequence expected)
  | .mappingStart _ => reject (.wrongType .map expected)
  | _ => .error .endOfText

/-- The characters of any scalar. -/
def text (expected : String) (path : Path) : Reads String :=
  node path fun k _ r =>
    match k with
    | .scalar _ text _ => .ok (text, r)
    | _ => unexpected k expected

/-- A natural below `bound`. -/
def natural (bound : Nat) (expected : String) (path : Path) : Reads Nat :=
  node path fun k _ r =>
    match k with
    | .scalar tag text style =>
      let bare := style == .plain || (style == .literal && tag == some (standardTag "int"))
      match if bare then Plain.natural? bound text else none with
      | some n => .ok (n, r)
      | none => unexpected k expected
    | _ => unexpected k expected

/-- Whether a node stands for no value. -/
def isAbsent : Node.Kind → Except ReadError Bool
  | .scalar tag text .plain =>
    match tag with
    | none => .ok (text.isEmpty || Plain.isNull text)
    | some t =>
      if t != standardTag "null" then .ok false
      else if Plain.isNull text then .ok true
      else reject (unfit text "null")
  | .nothing => .ok true
  | _ => .ok false

def option {α : Type} (read : Reads α) : Reads (Option α) :=
  throughAlias fun r => do
    if ← isAbsent (← r.peek).kind then return (none, r.skip)
    let (a, r) ← read r
    return (some a, r)

/-- One nesting less, unless none is left. -/
def descend {α : Type} (mark : Mark) (read : Nat → Except ReadError α) :
    Nat → Except ReadError α
  | 0 => .error (.tooDeep mark)
  | depth + 1 => read depth

/-- Items up to the end of a sequence; each takes a node. -/
def items {α : Type} (item : Path → Reads α) (path : Path) : Nat → Nat → Reads (List α)
  | 0, _, _ => .error .endOfText
  | fuel + 1, index, r => do
    if (← r.peek).kind = .sequenceEnd then return ([], r.skip)
    let (a, r) ← item (.item index :: path) r
    let (as, r) ← items item path fuel (index + 1) r
    return (a :: as, r)

/-- An empty plain scalar counts as an empty collection. -/
def isEmptyCollection : Node.Kind → Bool
  | .nothing => true
  | .scalar _ text .plain => text.isEmpty
  | _ => false

def sequence {α : Type} (item : Nat → Path → Reads α) (depth : Nat) (path : Path) :
    Reads (List α) :=
  node path fun k mark r =>
    match k with
    | .sequenceStart _ =>
      descend mark (fun depth => items (item depth) path (r.rest.length + 1) 0 r) depth
    | _ => if isEmptyCollection k then .ok ([], r) else unexpected k "a sequence"

/-- Where the value of a key stands. -/
def valuePath (path : Path) : Node.Kind → Path
  | .scalar _ text _ => .field text :: path
  | _ => .unnamed :: path

/-- Pairs up to the end of a mapping, folded into a state; each takes two nodes. The end is left
to the caller. -/
def pairs {σ : Type} (pair : Node.Kind → σ → Reads σ) : Nat → σ → Reads σ
  | 0, _, _ => .error .endOfText
  | fuel + 1, s, r => do
    let n ← r.peek
    if n.kind = .mappingEnd then return (s, r)
    let (s, r) ← pair n.kind s r
    pairs pair fuel s r

/-- A mapping that is folded into a state from `start` on and completed before its end. -/
def mapping {σ α : Type} (expected : String) (pair : Nat → Node.Kind → σ → Reads σ)
    (start : σ) (complete : σ → Except Mismatch α) (depth : Nat) (path : Path) : Reads α :=
  let finish (s : σ) : Except ReadError α := (complete s).mapError .floating
  node path fun k mark r =>
    match k with
    | .mappingStart _ =>
      descend mark (fun depth => do
        let (s, r) ← pairs (pair depth) (r.rest.length + 1) start r
        return (← finish s, r.skip)) depth
    | _ =>
      if isEmptyCollection k then return (← finish start, r) else unexpected k expected

/-- The nodes after the one at the front, `none` if that does not end; `depth` collections are
open. -/
def skipNode (depth : Nat) : List Node → Option (List Node)
  | [] => none
  | n :: rest =>
    match n.kind with
    | .sequenceStart _ | .mappingStart _ => skipNode (depth + 1) rest
    | .sequenceEnd | .mappingEnd => if depth ≤ 1 then some rest else skipNode (depth - 1) rest
    | _ => if depth = 0 then some rest else skipNode depth rest

/-- Past a node of any kind. -/
def ignore (r : Reader) : Except ReadError Reader :=
  match skipNode 0 r.rest with
  | some rest => .ok { r with rest := rest }
  | none => (peek { r with rest := [] }).map fun _ => r

/-- A tag that is not a standard one asks for a variant, which no value of any kind is. -/
def refuseVariant (tag : Option String) : Except ReadError Unit :=
  if (tag.bind (·.toList.head?)) == some '!' then
    reject (.refused "untagged and internally tagged enums do not support enum input")
  else .ok ()

/-- Past a pair of values of any kind, the key being at hand. -/
def anyPair (value : Path → Reads Found) (path : Path) (k : Node.Kind) (_ : Unit) (r : Reader) :
    Except ReadError (Unit × Reader) := do
  let (_, r) ← value path r
  let (_, r) ← value (valuePath path k) r
  return ((), r)

/-- A value of any kind but an integer of more than 64 bits. -/
def any : Nat → Path → Reads Found
  | depth, path =>
    node path fun k mark r =>
      match k with
      | .scalar tag text style => do
        refuseVariant tag
        match scalarFound tag text style with
        | .ok (.wideInteger i) => reject (.wrongType (.wideInteger i) "any value")
        | .ok found => return (found, r)
        | .error m => reject m
      | .sequenceStart tag => do
        refuseVariant tag
        match depth with
        | 0 => throw (.tooDeep mark)
        | depth + 1 =>
          let (_, r) ← items (any depth) path (r.rest.length + 1) 0 r
          return (.sequence, r)
      | .mappingStart tag => do
        refuseVariant tag
        match depth with
        | 0 => throw (.tooDeep mark)
        | depth + 1 =>
          let (_, r) ← pairs (anyPair (any depth) path) (r.rest.length + 1) () r
          return (.map, r.skip)
      | _ => .ok (.scalar .null, r)

/-- The nestings that a document may have. -/
def maxDepth : Nat := 128

/-- The value of the only document of a text. -/
def whole {α : Type} (read : Nat → Path → Reads α) (s : String) : Except ReadError α := do
  let ns := Nodes.ofText s
  let (a, _) ← read maxDepth [] (start ns)
  match ns.broken with
  | some b => throw (.broken b)
  | none => if ns.followed then throw .severalDocuments else return a

end Reader

end BatchInsert.Yaml
