import BatchInsert.Yaml.Event

/-!
# Nodes of a document

The nodes of the first document of a text. An alias holds the number of its anchor; anchors are
numbered by how many names are known, so one that takes a known name again shares its number with
the next new name.
-/

namespace BatchInsert.Yaml

inductive Node.Kind
  /-- A text that holds nothing. -/
  | nothing
  | reference (anchor : Nat)
  | scalar (tag : Option String) (text : String) (style : Style)
  | sequenceStart (tag : Option String)
  | sequenceEnd
  | mappingStart (tag : Option String)
  | mappingEnd
deriving DecidableEq, Repr

/-- A node, or the start or end of one. -/
structure Node where
  kind : Node.Kind
  mark : Mark
deriving DecidableEq, Repr

/-- Why a document ends before its text says so. -/
inductive Break
  | fault (f : Fault)
  | unknownAnchor (mark : Mark)
deriving DecidableEq, Repr

structure Nodes where
  list : List Node
  /-- The place of the node of each anchor. -/
  anchors : Nat → Option Nat
  broken : Option Break
  /-- Whether there is another document. -/
  followed : Bool

namespace Nodes

/-- What is known while events are read. -/
structure Reading where
  /-- The nodes read, the last first. -/
  nodes : List Node
  names : List (String × Nat)
  anchors : Nat → Option Nat

namespace Reading

def empty : Reading := ⟨[], [], fun _ => none⟩

def add (r : Reading) (kind : Node.Kind) (mark : Mark) : Reading :=
  { r with nodes := ⟨kind, mark⟩ :: r.nodes }

/-- With the next node under a name. -/
def bind (r : Reading) : Option String → Reading
  | none => r
  | some name =>
    let number := r.names.length
    let names := (name, number) :: r.names.filter (·.1 != name)
    let place := r.nodes.length
    { r with names, anchors := fun n => if n = number then some place else r.anchors n }

def finish (r : Reading) (broken : Option Break) (followed : Bool) : Nodes :=
  ⟨r.nodes.reverse, r.anchors, broken, followed⟩

/-- The nodes of the events that are left, after those read. -/
def read (fault : Option Fault) : List Event → Reading → Nodes
  | [], r => r.finish (fault.map .fault) false
  | ⟨kind, mark⟩ :: events, r =>
    match kind with
    | .documentStart => read fault events r
    | .documentEnd => r.finish none (events.head?.map (·.kind) != some .streamEnd)
    | .streamEnd => (r.add .nothing mark).finish none false
    | .reference name =>
      match r.names.find? (·.1 == name) with
      | some (_, number) => read fault events (r.add (.reference number) mark)
      | none => r.finish (some (.unknownAnchor mark)) false
    | .scalar p text style =>
      read fault events ((r.bind p.anchor).add (.scalar p.tag text style) mark)
    | .sequenceStart p => read fault events ((r.bind p.anchor).add (.sequenceStart p.tag) mark)
    | .sequenceEnd => read fault events (r.add .sequenceEnd mark)
    | .mappingStart p => read fault events ((r.bind p.anchor).add (.mappingStart p.tag) mark)
    | .mappingEnd => read fault events (r.add .mappingEnd mark)

end Reading

/-- The nodes of the first document of a text. -/
def ofText (s : String) : Nodes :=
  let events := Events.ofText s
  Reading.read events.fault events.list .empty

/-- The nodes from that of an anchor on. -/
def target (ns : Nodes) (anchor : Nat) : List Node :=
  match ns.anchors anchor with
  | some place => ns.list.drop place
  | none => []

end Nodes

end BatchInsert.Yaml
