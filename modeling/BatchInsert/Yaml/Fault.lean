import BatchInsert.Text.Numeral

/-!
# Faults of a YAML text

Where a character stands, and why a text is not YAML: what is wrong, where, and the construct that
was being read.
-/

namespace BatchInsert.Yaml

/-- A place in a text: the characters before it, its line and its column, all counted from 0. -/
structure Mark where
  index : Nat
  line : Nat
  column : Nat
deriving DecidableEq, Repr

namespace Mark

def start : Mark := ⟨0, 0, 0⟩

/-- The mark after one more character of the line. -/
def next (m : Mark) : Mark := ⟨m.index + 1, m.line, m.column + 1⟩

/-- The mark after a line break of `width` characters. -/
def nextLine (m : Mark) (width : Nat) : Mark := ⟨m.index + width, m.line + 1, 0⟩

/-- Whether two marks are at the same line and column. -/
def sameAs (m n : Mark) : Bool := m.line == n.line && m.column == n.column

/-- What a message says of a mark: nothing at the start of the text. -/
def suffix (m : Mark) : String :=
  if m.sameAs start then ""
  else " at line " ++ Text.decimal (m.line + 1) ++ " column " ++ Text.decimal (m.column + 1)

end Mark

inductive Problem
  | blockEntryNotAllowed
  | keyNotAllowed
  | valueNotAllowed
  | noToken
  | noColonAfterKey
  | noDirectiveName
  | badDirectiveName
  | unknownDirective
  | noLineEnd
  | noVersionPoint
  | noVersion
  | longVersion
  | noBlank
  | noBlankOrBreak
  | noBang
  | noTagUri
  | noTagEnd
  | badUriEscape
  | badLeadingOctet
  | badTrailingOctet
  | badAnchor
  | zeroIndentation
  | tabForIndentation
  | tabInIndentation
  | documentIndicator
  | endOfStream
  | unknownEscape
  | badHexEscape
  | badCodePoint
  | strayColon
  | noDocumentStart
  | duplicateVersion
  | foreignVersion
  | duplicateTagDirective
  | undefinedHandle
  | noNode
  | noEntry
  | noKey
  | noFlowEntry
  | noFlowPair
deriving DecidableEq, Repr

def Problem.text : Problem → String
  | blockEntryNotAllowed => "block sequence entries are not allowed in this context"
  | keyNotAllowed => "mapping keys are not allowed in this context"
  | valueNotAllowed => "mapping values are not allowed in this context"
  | noToken => "found character that cannot start any token"
  | noColonAfterKey => "could not find expected ':'"
  | noDirectiveName => "could not find expected directive name"
  | badDirectiveName => "found unexpected non-alphabetical character"
  | unknownDirective => "found unknown directive name"
  | noLineEnd => "did not find expected comment or line break"
  | noVersionPoint => "did not find expected digit or '.' character"
  | noVersion => "did not find expected version number"
  | longVersion => "found extremely long version number"
  | noBlank => "did not find expected whitespace"
  | noBlankOrBreak => "did not find expected whitespace or line break"
  | noBang => "did not find expected '!'"
  | noTagUri => "did not find expected tag URI"
  | noTagEnd => "did not find the expected '>'"
  | badUriEscape => "did not find URI escaped octet"
  | badLeadingOctet => "found an incorrect leading UTF-8 octet"
  | badTrailingOctet => "found an incorrect trailing UTF-8 octet"
  | badAnchor => "did not find expected alphabetic or numeric character"
  | zeroIndentation => "found an indentation indicator equal to 0"
  | tabForIndentation => "found a tab character where an indentation space is expected"
  | tabInIndentation => "found a tab character that violates indentation"
  | documentIndicator => "found unexpected document indicator"
  | endOfStream => "found unexpected end of stream"
  | unknownEscape => "found unknown escape character"
  | badHexEscape => "did not find expected hexdecimal number"
  | badCodePoint => "found invalid Unicode character escape code"
  | strayColon => "found unexpected ':'"
  | noDocumentStart => "did not find expected <document start>"
  | duplicateVersion => "found duplicate %YAML directive"
  | foreignVersion => "found incompatible YAML document"
  | duplicateTagDirective => "found duplicate %TAG directive"
  | undefinedHandle => "found undefined tag handle"
  | noNode => "did not find expected node content"
  | noEntry => "did not find expected '-' indicator"
  | noKey => "did not find expected key"
  | noFlowEntry => "did not find expected ',' or ']'"
  | noFlowPair => "did not find expected ',' or '\x7d'"

/-- What was being read when a fault arose. -/
inductive Activity
  | nextToken
  | simpleKey
  | directive
  | versionDirective
  | tagDirective
  | tagDirectiveStart
  | tagDirectiveHandle
  | tagDirectiveUri
  | tag
  | tagUri
  | anchor
  | reference
  | blockScalar
  | quotedScalar
  | escape
  | plainScalar
  | node
  | blockNode
  | flowNode
  | blockSequence
  | blockMapping
  | flowSequence
  | flowMapping
deriving DecidableEq, Repr

def Activity.text : Activity → String
  | nextToken => "while scanning for the next token"
  | simpleKey => "while scanning a simple key"
  | directive => "while scanning a directive"
  | versionDirective => "while scanning a %YAML directive"
  | tagDirective => "while scanning a %TAG directive"
  | tagDirectiveStart => "while scanning a tag directive"
  | tagDirectiveHandle => "while parsing a tag directive"
  | tagDirectiveUri => "while parsing a %TAG directive"
  | tag => "while scanning a tag"
  | tagUri => "while parsing a tag"
  | anchor => "while scanning an anchor"
  | reference => "while scanning an alias"
  | blockScalar => "while scanning a block scalar"
  | quotedScalar => "while scanning a quoted scalar"
  | escape => "while parsing a quoted scalar"
  | plainScalar => "while scanning a plain scalar"
  | node => "while parsing a node"
  | blockNode => "while parsing a block node"
  | flowNode => "while parsing a flow node"
  | blockSequence => "while parsing a block collection"
  | blockMapping => "while parsing a block mapping"
  | flowSequence => "while parsing a flow sequence"
  | flowMapping => "while parsing a flow mapping"

/-- The start of the construct that was being read. -/
structure Context where
  activity : Activity
  mark : Mark
deriving DecidableEq, Repr

inductive Fault
  /-- A control character after so many bytes. -/
  | control (offset : Nat)
  | problem (p : Problem) (mark : Mark) (context : Option Context)
deriving DecidableEq, Repr

/-- A context stands in a message without its mark where that is the mark of the problem. -/
def Context.suffix (problemMark : Mark) (c : Context) : String :=
  ", " ++ c.activity.text ++ if c.mark.sameAs problemMark then "" else c.mark.suffix

def Fault.message : Fault → String
  | control 0 => "control characters are not allowed"
  | control offset => "control characters are not allowed at position " ++ Text.decimal offset
  | problem p mark context =>
    p.text ++ mark.suffix ++
      match context with
      | some c => c.suffix mark
      | none => ""

end BatchInsert.Yaml
