import BatchInsert.Yaml.Scalar.Plain
import BatchInsert.Yaml.Scalar.Quoted
import BatchInsert.Yaml.Tag

/-!
# Lexer

Tokens of a text. A token that may turn out to be a key is remembered until a colon makes it one,
and the key's own token is then put in front of it. Collections by indentation get start and end
tokens as the column of the text goes up and down.
-/

namespace BatchInsert.Yaml

/-- A token that a colon may still make a key: its number and its mark. -/
structure PendingKey where
  token : Nat
  mark : Mark
  /-- Nothing but a key may stand here. -/
  required : Bool
deriving DecidableEq

structure Lexer where
  cursor : Cursor
  tokens : Array Token
  /-- The pending key of the innermost collection. -/
  key : Option PendingKey
  /-- The pending keys around each flow collection, the innermost first. -/
  outer : List (Option PendingKey)
  keyAllowed : Bool
  /-- The columns of the open block collections, the innermost first. -/
  columns : List Nat
  ended : Bool

namespace Lexer

def start (s : String) : Lexer := ⟨.start s, #[], none, [], true, [], false⟩

def mark (l : Lexer) : Mark := l.cursor.mark

def inFlow (l : Lexer) : Bool := !l.outer.isEmpty

/-- The column from which the text of a nested scalar may start. -/
def indentation (l : Lexer) : Nat := (l.columns.head?.map (· + 1)).getD 0

def push (l : Lexer) (kind : Token.Kind) (mark : Mark) : Lexer :=
  { l with tokens := l.tokens.push ⟨kind, mark⟩ }

/-- A fault in no construct. -/
def fail (l : Lexer) (p : Problem) : Fault := .problem p l.mark none

def missingColon (l : Lexer) (k : PendingKey) : Fault :=
  l.cursor.fail .noColonAfterKey .simpleKey k.mark

/-- A key ends in the line where it begins, within 1024 characters. -/
def isStale (l : Lexer) (k : PendingKey) : Bool :=
  k.mark.line < l.mark.line || k.mark.index + 1024 < l.mark.index

def dropStaleKey (l : Lexer) (key : Option PendingKey) : Except Fault (Option PendingKey) :=
  match key with
  | none => .ok none
  | some k =>
    if !l.isStale k then .ok (some k)
    else if k.required then .error (l.missingColon k)
    else .ok none

/-- Without the pending keys that can no longer become keys, the outermost being looked at first. -/
def dropStaleKeys (l : Lexer) : Except Fault Lexer := do
  let outer ← l.outer.reverse.mapM l.dropStaleKey
  return { l with key := ← l.dropStaleKey l.key, outer := outer.reverse }

def dropKey (l : Lexer) : Except Fault Lexer :=
  match l.key with
  | none => .ok l
  | some k => if k.required then .error (l.missingColon k) else .ok { l with key := none }

/-- With the next token as a pending key, where one is allowed. -/
def saveKey (l : Lexer) : Except Fault Lexer := do
  if !l.keyAllowed then return l
  let required := !l.inFlow && l.columns.head? == some l.mark.column
  return { ← l.dropKey with key := some ⟨l.tokens.size, l.mark, required⟩ }

/-- With a block collection opened at `mark`, its token being number `index`, if the text is
indented beyond the open ones. -/
def openBlock (l : Lexer) (kind : Token.Kind) (mark : Mark) (index : Nat) : Lexer :=
  if l.inFlow || mark.column < l.indentation then l
  else
    { l with
      columns := mark.column :: l.columns
      tokens := l.tokens.insertIdxIfInBounds index ⟨kind, mark⟩ }

/-- With a block collection opened at the cursor. -/
def openBlockHere (l : Lexer) (kind : Token.Kind) : Lexer := l.openBlock kind l.mark l.tokens.size

/-- With the block collections beyond `keep` columns closed. -/
def closeBlocks (l : Lexer) (keep : Nat → Bool) : Lexer :=
  if l.inFlow then l
  else
    let closed := l.columns.takeWhile (!keep ·)
    { l with
      columns := l.columns.drop closed.length
      tokens := l.tokens ++ (closed.map fun _ => ⟨.blockEnd, l.mark⟩).toArray }

/-- With a token of so many characters. -/
def take (l : Lexer) (kind : Token.Kind) (length : Nat) : Lexer :=
  { l.push kind l.mark with cursor := l.cursor.skipMany length }

/-- Past blanks, comments and line breaks. In a block collection a new line may begin with a key. -/
def skipToToken : Nat → Lexer → Lexer
  | 0, l => l
  | fuel + 1, l =>
    let cur := l.cursor
    let cur := if cur.mark.column == 0 && cur.isAt '\ufeff' then cur.skip else cur
    let tabs := l.inFlow || !l.keyAllowed
    let cur := (cur.skipWhile fun c => c == ' ' || (tabs && c == '\t')).skipComment
    if (cur.head.map isBreak).getD false then
      skipToToken fuel { l with cursor := cur.skipLine, keyAllowed := l.keyAllowed || !l.inFlow }
    else { l with cursor := cur }

def streamEnd (l : Lexer) : Except Fault Lexer := do
  let mark := if l.mark.column = 0 then l.mark else l.mark.nextLine 0
  let l := { l with cursor := { l.cursor with mark := mark } }
  let l ← (l.closeBlocks fun _ => false).dropKey
  return { l.push .streamEnd mark with keyAllowed := false, ended := true }

def directive (l : Lexer) : Except Fault Lexer := do
  let l ← (l.closeBlocks fun _ => false).dropKey
  let (t, cur) ← Directive.token l.cursor
  return { l with tokens := l.tokens.push t, cursor := cur, keyAllowed := false }

def documentIndicator (l : Lexer) (kind : Token.Kind) : Except Fault Lexer := do
  let l ← (l.closeBlocks fun _ => false).dropKey
  return { l.take kind 3 with keyAllowed := false }

def flowStart (l : Lexer) (kind : Token.Kind) : Except Fault Lexer := do
  let l := (← l.saveKey).take kind 1
  return { l with key := none, outer := l.key :: l.outer, keyAllowed := true }

def flowEnd (l : Lexer) (kind : Token.Kind) : Except Fault Lexer := do
  let l := (← l.dropKey).take kind 1
  return match l.outer with
    | key :: outer => { l with key := key, outer := outer, keyAllowed := false }
    | [] => { l with keyAllowed := false }

def flowEntry (l : Lexer) : Except Fault Lexer := do
  return { (← l.dropKey).take .flowEntry 1 with keyAllowed := true }

def blockEntry (l : Lexer) : Except Fault Lexer := do
  if !l.inFlow && !l.keyAllowed then throw (l.fail .blockEntryNotAllowed)
  let l ← (l.openBlockHere .blockSequenceStart).dropKey
  return { l.take .blockEntry 1 with keyAllowed := true }

def explicitKey (l : Lexer) : Except Fault Lexer := do
  if !l.inFlow && !l.keyAllowed then throw (l.fail .keyNotAllowed)
  let l ← (l.openBlockHere .blockMappingStart).dropKey
  return { l.take .key 1 with keyAllowed := !l.inFlow }

def value (l : Lexer) : Except Fault Lexer :=
  match l.key with
  | some k =>
    let l := { l with tokens := l.tokens.insertIdxIfInBounds k.token ⟨.key, k.mark⟩ }
    let l := l.openBlock .blockMappingStart k.mark k.token
    .ok { l.take .value 1 with key := none, keyAllowed := false }
  | none =>
    if !l.inFlow && !l.keyAllowed then .error (l.fail .valueNotAllowed)
    else .ok { (l.openBlockHere .blockMappingStart).take .value 1 with keyAllowed := !l.inFlow }

def anchor (l : Lexer) (activity : Activity) (kind : String → Token.Kind) :
    Except Fault Lexer := do
  let l ← l.saveKey
  let (name, cur) ← Anchor.name activity l.cursor
  return { l.push (kind name) l.mark with cursor := cur, keyAllowed := false }

def tag (l : Lexer) : Except Fault Lexer := do
  let l ← l.saveKey
  let (t, cur) ← Tag.token l.inFlow l.cursor
  return { l with tokens := l.tokens.push t, cursor := cur, keyAllowed := false }

def blockScalar (l : Lexer) (style : Style) : Except Fault Lexer := do
  let l ← l.dropKey
  let (text, cur) ← Block.scalar (style == .literal) l.columns.head? l.cursor
  let l := l.push (.scalar (String.ofList text) style) l.mark
  return { l with cursor := cur, keyAllowed := true }

def quotedScalar (l : Lexer) (mode : Quoted.Mode) : Except Fault Lexer := do
  let l ← l.saveKey
  let (text, cur) ← Quoted.scalar mode l.cursor
  let l := l.push (.scalar (String.ofList text) .quoted) l.mark
  return { l with cursor := cur, keyAllowed := false }

def plainScalar (l : Lexer) : Except Fault Lexer := do
  let l ← l.saveKey
  let t ← Plain.scalar l.inFlow l.indentation l.cursor
  return { l.push (.scalar (String.ofList t.chars) .plain) l.mark with
    cursor := t.cursor, keyAllowed := t.broken }

/-- Characters that begin no plain scalar, or one only before certain others. -/
def isIndicator (c : Char) : Bool :=
  "-?:,[]\x7b\x7d#&*!|>\"%@".toList.contains c || c == Char.ofNat 39 || c == Char.ofNat 0x60

/-- Whether a plain scalar begins with `c` before `next`. -/
def startsPlain (flow : Bool) (c : Char) (next : Option Char) : Bool :=
  !(isBlank c || isBreak c || isIndicator c) ||
    (c == '-' && !(next.map isBlank).getD false) ||
    (!flow && (c == '?' || c == ':') && !endsWord next)

/-- The token that begins with `c` at the cursor. -/
def startingWith (l : Lexer) (c : Char) : Except Fault Lexer :=
  let cur := l.cursor
  let apart := endsWord (cur.ahead 1)
  if cur.mark.column = 0 ∧ c = '%' then l.directive
  else if cur.atMarker '-' then l.documentIndicator .documentStart
  else if cur.atMarker '.' then l.documentIndicator .documentEnd
  else if c = '[' then l.flowStart .flowSequenceStart
  else if c = '\x7b' then l.flowStart .flowMappingStart
  else if c = ']' then l.flowEnd .flowSequenceEnd
  else if c = '\x7d' then l.flowEnd .flowMappingEnd
  else if c = ',' then l.flowEntry
  else if c = '-' ∧ apart then l.blockEntry
  else if c = '?' ∧ (l.inFlow || apart) then l.explicitKey
  else if c = ':' ∧ (l.inFlow || apart) then l.value
  else if c = '*' then l.anchor .reference .reference
  else if c = '&' then l.anchor .anchor .anchor
  else if c = '!' then l.tag
  else if c = '|' ∧ !l.inFlow then l.blockScalar .literal
  else if c = '>' ∧ !l.inFlow then l.blockScalar .folded
  else if c = Quoted.Mode.single.quote then l.quotedScalar .single
  else if c = Quoted.Mode.double.quote then l.quotedScalar .double
  else if startsPlain l.inFlow c (cur.ahead 1) then l.plainScalar
  else .error (cur.fail .noToken .nextToken l.mark)

/-- One more token, and the block collections that end before it. -/
def next (l : Lexer) : Except Fault Lexer := do
  let l ← (skipToToken (l.cursor.rest.length + 1) l).dropStaleKeys
  let column := l.mark.column
  let l := l.closeBlocks (· ≤ column)
  match l.cursor.head with
  | none => l.streamEnd
  | some c => l.startingWith c

/-- How many tokens are known to be no keys. -/
def settled (l : Lexer) : Nat :=
  (l.key :: l.outer).foldl (fun n key => (key.map fun k => min n k.token).getD n) l.tokens.size

end Lexer

/-- The tokens that are settled before a fault, if there is one. -/
structure Tokens where
  settled : List Token
  fault : Option Fault

namespace Tokens

/-- Tokens until the text ends or a fault arises; every token takes a character. -/
def run : Nat → Lexer → Tokens
  | 0, l => ⟨l.tokens.toList, none⟩
  | fuel + 1, l =>
    if l.ended then ⟨l.tokens.toList, none⟩
    else
      match l.next.bind Lexer.dropStaleKeys with
      | .error f => ⟨(l.tokens.take l.settled).toList, some f⟩
      | .ok next => run fuel next

def isControl (c : Char) : Bool :=
  let n := c.toNat
  (n < 0x20 && n != 0x09 && n != 0x0A && n != 0x0D) || (0x7F ≤ n && n < 0xA0 && n != 0x85) ||
    (0xFFFE ≤ n && n ≤ 0xFFFF)

/-- The bytes before the first control character, if there is one. -/
def controlOffset? (cs : List Char) : Option Nat :=
  let before := cs.takeWhile (!isControl ·)
  if before.length = cs.length then none else some (String.ofList before).utf8ByteSize

def ofText (s : String) : Tokens :=
  match controlOffset? s.toList with
  | some offset => ⟨[], some (.control offset)⟩
  | none => run (s.length + 1) (.start s)

end Tokens

end BatchInsert.Yaml
