import BatchInsert.Yaml.Lexer

/-!
# Events of a YAML text

The nodes of a text in order, collections as a start and an end. A run of the grammar keeps a stack
of the productions that wait for the one at hand; each collection among them knows where it began.
-/

namespace BatchInsert.Yaml

/-- What may stand in front of a node. -/
structure Properties where
  anchor : Option String
  tag : Option String
deriving DecidableEq, Repr

namespace Event

inductive Kind
  | documentStart
  | documentEnd
  | streamEnd
  | reference (name : String)
  | scalar (properties : Properties) (text : String) (style : Style)
  | sequenceStart (properties : Properties)
  | sequenceEnd
  | mappingStart (properties : Properties)
  | mappingEnd
deriving DecidableEq, Repr

end Event

structure Event where
  kind : Event.Kind
  mark : Mark
deriving DecidableEq, Repr

/-- What is expected next. A mark is that of the first token of the collection. -/
inductive Production
  | firstDocument
  | document
  | content
  | documentEnd
  | node (block indentless : Bool)
  | blockSequence
  | blockEntry (start : Mark)
  | indentlessEntry
  | blockMapping
  | blockKey (start : Mark)
  | blockValue
  | flowSequence
  | flowEntry (first : Bool) (start : Mark)
  | pairKey
  | pairValue
  | pairEnd
  | flowMapping
  | flowKey (first : Bool) (start : Mark)
  | flowValue
  | flowNoValue
deriving DecidableEq, Repr

structure Grammar where
  tokens : List Token
  /-- Why there are no more tokens. -/
  fault : Fault
  stack : List Production
  /-- Handles of tags and what they stand for. -/
  handles : List (String × String)
deriving Repr

namespace Grammar

def ofTokens (t : Tokens) : Grammar :=
  ⟨t.settled, t.fault.getD (.problem .endOfStream .start none), [.firstDocument], []⟩

def peek (g : Grammar) : Except Fault Token :=
  match g.tokens with
  | [] => .error g.fault
  | t :: _ => .ok t

def skip (g : Grammar) : Grammar := { g with tokens := g.tokens.tail }

def expect (g : Grammar) (p : Production) : Grammar := { g with stack := p :: g.stack }

def fail {α : Type} (t : Token) (p : Problem) (activity : Activity) (start : Mark) :
    Except Fault α := .error (.problem p t.mark (some ⟨activity, start⟩))

abbrev Step := Except Fault (Event × Grammar)

/-- A plain scalar of no characters. -/
def emptyScalar (g : Grammar) (mark : Mark) : Step :=
  .ok (⟨.scalar ⟨none, none⟩ "" .plain, mark⟩, g)

/-- Handles that need no directive. -/
def standardHandles : List (String × String) := [("!", "!"), ("!!", "tag:yaml.org,2002:")]

def addHandle (g : Grammar) (handle expansion : String) : Grammar :=
  { g with handles := g.handles ++ [(handle, expansion)] }

/-- Past the directives of a document, of which each token is one. -/
def directives (version : Bool) : List Token → Grammar → Except Fault Grammar
  | [], g => .error g.fault
  | t :: ts, g =>
    match t.kind with
    | .version major minor =>
      if version then .error (.problem .duplicateVersion t.mark none)
      else if major ≠ 1 ∨ (minor ≠ 1 ∧ minor ≠ 2) then
        .error (.problem .foreignVersion t.mark none)
      else directives true ts g.skip
    | .tagDirective handle expansion =>
      if g.handles.any (·.1 == handle) then .error (.problem .duplicateTagDirective t.mark none)
      else directives version ts (g.skip.addHandle handle expansion)
    | _ => .ok { g with handles := g.handles ++ standardHandles }

/-- A document that begins at `mark` with its directives or its start indicator. -/
def explicitDocument (g : Grammar) (mark : Mark) : Step := do
  let g ← directives false g.tokens { g with handles := [] }
  let t ← g.peek
  if t.kind ≠ .documentStart then throw (.problem .noDocumentStart t.mark none)
  return (⟨.documentStart, mark⟩, (g.skip.expect .documentEnd).expect .content)

/-- The first document may do without a start indicator; the stack is empty here. -/
def startDocument (first : Bool) (g : Grammar) : Step := do
  let g := if first then g
    else { g with tokens := g.tokens.dropWhile fun t => t.kind == .documentEnd }
  let t ← g.peek
  match t.kind with
  | .streamEnd => return (⟨.streamEnd, t.mark⟩, g)
  | .version _ _ | .tagDirective _ _ | .documentStart => explicitDocument g t.mark
  | _ =>
    if !first then explicitDocument g t.mark
    else
      let g := { g with handles := standardHandles }
      return (⟨.documentStart, t.mark⟩, (g.expect .documentEnd).expect (.node true false))

def endDocument (g : Grammar) : Step := do
  let t ← g.peek
  let g := if t.kind = .documentEnd then g.skip else g
  return (⟨.documentEnd, t.mark⟩, g.expect .document)

/-- A tag as it is meant: the handle stands for what a directive says. -/
def resolveTag (g : Grammar) (start : Mark) (t : Token) (handle suffix : String) :
    Except Fault String :=
  if handle.isEmpty then .ok suffix
  else
    match g.handles.find? (·.1 == handle) with
    | some (_, expansion) => .ok (expansion ++ suffix)
    | none => fail t .undefinedHandle .node start

/-- What was read in front of a node: the anchor, and the token of the tag with its parts. -/
structure Header where
  anchor : Option String
  tag : Option (Token × String × String)

/-- An anchor and a tag in either order, each at most once. -/
def header : Nat → Header → Grammar → Except Fault (Header × Grammar)
  | 0, h, g => .ok (h, g)
  | n + 1, h, g => do
    let t ← g.peek
    match t.kind, h.anchor, h.tag with
    | .anchor name, none, tag => header n ⟨some name, tag⟩ g.skip
    | .tag handle suffix, anchor, none => header n ⟨anchor, some (t, handle, suffix)⟩ g.skip
    | _, _, _ => return (h, g)

def properties (g : Grammar) (start : Mark) (h : Header) : Except Fault Properties :=
  match h.tag with
  | none => .ok ⟨h.anchor, none⟩
  | some (t, handle, suffix) => do
    return ⟨h.anchor, some (← g.resolveTag start t handle suffix)⟩

/-- A tag of one exclamation mark says no more of a scalar than none. -/
def scalarTag (tag : Option String) : Option String := tag.filter (· != "!")

/-- The node at hand, in a block collection or not, a sequence without indentation allowed or
not. -/
def node (block indentless : Bool) (g : Grammar) : Step := do
  let first ← g.peek
  let start := first.mark
  if let .reference name := first.kind then return (⟨.reference name, start⟩, g.skip)
  let (h, g) ← header 2 ⟨none, none⟩ g
  let t ← g.peek
  let ⟨anchor, tag⟩ ← g.properties start h
  let sequence (p : Production) : Step := .ok (⟨.sequenceStart ⟨anchor, tag⟩, start⟩, g.expect p)
  let mapping (p : Production) : Step := .ok (⟨.mappingStart ⟨anchor, tag⟩, start⟩, g.expect p)
  match t.kind, indentless, block with
  | .blockEntry, true, _ => sequence .indentlessEntry
  | .scalar text style, _, _ =>
    return (⟨.scalar ⟨anchor, scalarTag tag⟩ text style, start⟩, g.skip)
  | .flowSequenceStart, _, _ => sequence .flowSequence
  | .flowMappingStart, _, _ => mapping .flowMapping
  | .blockSequenceStart, _, true => sequence .blockSequence
  | .blockMappingStart, _, true => mapping .blockMapping
  | _, _, _ =>
    if anchor.isSome || tag.isSome then
      return (⟨.scalar ⟨anchor, tag⟩ "" .plain, start⟩, g)
    else fail t .noNode (if block then .blockNode else .flowNode) start

def content (g : Grammar) : Step := do
  let t ← g.peek
  match t.kind with
  | .version _ _ | .tagDirective _ _ | .documentStart | .documentEnd | .streamEnd =>
    g.emptyScalar t.mark
  | _ => node true false g

/-- The node after an indicator at `mark`, an empty one before a token that `ends` it. -/
def nodeOr (ends : Token.Kind → Bool) (block indentless : Bool) (mark : Mark) (next : Production)
    (g : Grammar) : Step := do
  let t ← g.peek
  if ends t.kind then (g.expect next).emptyScalar mark
  else node block indentless (g.expect next)

def endsBlockPart : Token.Kind → Bool
  | .key | .value | .blockEnd => true
  | _ => false

def endsEntry : Token.Kind → Bool
  | .blockEntry | .blockEnd => true
  | _ => false

def endsIndentlessEntry (k : Token.Kind) : Bool := k == .blockEntry || endsBlockPart k

def endsPair : Token.Kind → Bool
  | .flowEntry | .flowSequenceEnd => true
  | _ => false

def endsFlowValue : Token.Kind → Bool
  | .flowEntry | .flowMappingEnd => true
  | _ => false

def blockEntry (start : Mark) (g : Grammar) : Step := do
  let t ← g.peek
  match t.kind with
  | .blockEntry => nodeOr endsEntry true false t.mark.next (.blockEntry start) g.skip
  | .blockEnd => return (⟨.sequenceEnd, t.mark⟩, g.skip)
  | _ => fail t .noEntry .blockSequence start

def indentlessEntry (g : Grammar) : Step := do
  let t ← g.peek
  match t.kind with
  | .blockEntry => nodeOr endsIndentlessEntry true false t.mark.next .indentlessEntry g.skip
  | _ => return (⟨.sequenceEnd, t.mark⟩, g)

def blockKey (start : Mark) (g : Grammar) : Step := do
  let t ← g.peek
  match t.kind with
  | .key =>
    nodeOr endsBlockPart true true t.mark.next .blockValue (g.skip.expect (.blockKey start))
  | .blockEnd => return (⟨.mappingEnd, t.mark⟩, g.skip)
  | _ => fail t .noKey .blockMapping start

/-- The value of a pair of a block mapping; the next key is expected already. -/
def blockValue (g : Grammar) : Step := do
  let t ← g.peek
  if t.kind ≠ .value then g.emptyScalar t.mark
  else
    let g := g.skip
    let next ← g.peek
    if endsBlockPart next.kind then g.emptyScalar t.mark.next else node true true g

/-- Past the comma that stands in front of every entry but the first. -/
def comma (first : Bool) (p : Problem) (activity : Activity) (start : Mark) (g : Grammar) :
    Except Fault Grammar := do
  if first then return g
  let t ← g.peek
  if t.kind ≠ .flowEntry then fail t p activity start
  return g.skip

def flowEntry (first : Bool) (start : Mark) (g : Grammar) : Step := do
  let t ← g.peek
  if t.kind = .flowSequenceEnd then return (⟨.sequenceEnd, t.mark⟩, g.skip)
  let g ← comma first .noFlowEntry .flowSequence start g
  let t ← g.peek
  match t.kind with
  | .flowSequenceEnd => return (⟨.sequenceEnd, t.mark⟩, g.skip)
  | .key =>
    let g := ((g.skip.expect (.flowEntry false start)).expect .pairEnd).expect .pairKey
    return (⟨.mappingStart ⟨none, none⟩, t.mark⟩, g)
  | _ => node false false (g.expect (.flowEntry false start))

/-- The key of a single pair in a flow sequence. A token that ends an empty key is passed over. -/
def pairKey (g : Grammar) : Step := do
  let t ← g.peek
  let g := g.expect .pairValue
  if t.kind = .value || endsPair t.kind then g.skip.emptyScalar t.mark.next
  else node false false g

/-- The value in a flow collection, empty before a token that `ends` it. -/
def flowValue (ends : Token.Kind → Bool) (g : Grammar) : Step := do
  let t ← g.peek
  if t.kind ≠ .value then g.emptyScalar t.mark
  else
    let g := g.skip
    let next ← g.peek
    if ends next.kind then g.emptyScalar next.mark else node false false g

def pairEnd (g : Grammar) : Step := do
  let t ← g.peek
  return (⟨.mappingEnd, t.mark⟩, g)

def flowKey (first : Bool) (start : Mark) (g : Grammar) : Step := do
  let t ← g.peek
  if t.kind = .flowMappingEnd then return (⟨.mappingEnd, t.mark⟩, g.skip)
  let g ← comma first .noFlowPair .flowMapping start g
  let t ← g.peek
  let rest := g.expect (.flowKey false start)
  match t.kind with
  | .flowMappingEnd => return (⟨.mappingEnd, t.mark⟩, g.skip)
  | .key =>
    let g := rest.skip.expect .flowValue
    let next ← g.peek
    if next.kind = .value || endsFlowValue next.kind then g.emptyScalar next.mark
    else node false false g
  | _ => node false false (rest.expect .flowNoValue)

/-- The entries of the collection whose first token is at hand. -/
def opened (entries : Mark → Grammar → Step) (g : Grammar) : Step := do
  let t ← g.peek
  entries t.mark g.skip

def produce (g : Grammar) : Production → Step
  | .firstDocument => startDocument true g
  | .document => startDocument false g
  | .content => content g
  | .documentEnd => endDocument g
  | .node block indentless => node block indentless g
  | .blockSequence => opened blockEntry g
  | .blockEntry start => blockEntry start g
  | .indentlessEntry => indentlessEntry g
  | .blockMapping => opened blockKey g
  | .blockKey start => blockKey start g
  | .blockValue => blockValue g
  | .flowSequence => opened (flowEntry true) g
  | .flowEntry first start => flowEntry first start g
  | .pairKey => pairKey g
  | .pairValue => flowValue endsPair g
  | .pairEnd => pairEnd g
  | .flowMapping => opened (flowKey true) g
  | .flowKey first start => flowKey first start g
  | .flowValue => flowValue endsFlowValue g
  | .flowNoValue => do g.emptyScalar (← g.peek).mark

/-- The next event, `none` after the last. -/
def next (g : Grammar) : Option Step :=
  match g.stack with
  | [] => none
  | p :: stack => some (produce { g with stack := stack } p)

end Grammar

/-- Events up to a fault, if there is one. -/
structure Events where
  list : List Event
  fault : Option Fault

namespace Events

def run : Nat → Grammar → List Event → Events
  | 0, _, done => ⟨done.reverse, none⟩
  | fuel + 1, g, done =>
    match g.next with
    | none => ⟨done.reverse, none⟩
    | some (.error f) => ⟨done.reverse, some f⟩
    | some (.ok (e, g)) => run fuel g (e :: done)

/-- The events of a text; at most five are due to one token. -/
def ofText (s : String) : Events :=
  let tokens := Tokens.ofText s
  run (5 * tokens.settled.length + 10) (.ofTokens tokens) []

end Events

end BatchInsert.Yaml
