import BatchInsert.Yaml.Cursor
import BatchInsert.Yaml.Scalar.Block
import BatchInsert.Yaml.Token

/-!
# Tags, anchors and directives

The tokens that begin with `!`, `&`, `*` and `%`. A tag is a handle and a suffix; the handle is
empty where the suffix is the whole tag.
-/

namespace BatchInsert.Yaml

namespace Tag

/-- Which of its parts a tag shares with a directive, and how faults name them. -/
inductive Place
  | node
  | directive
deriving DecidableEq

def Place.uri : Place → Activity
  | .node => .tagUri
  | .directive => .tagDirectiveUri

/-- The octets of a character that begins with this one. -/
def octetCount? (octet : Nat) : Option Nat :=
  if octet < 0x80 then some 1
  else if octet < 0xC0 then none
  else if octet < 0xE0 then some 2
  else if octet < 0xF0 then some 3
  else if octet < 0xF8 then some 4
  else none

/-- `%` and two hexadecimal digits. -/
def octet (place : Place) (start : Mark) (cur : Cursor) : Except Fault (Nat × Cursor) :=
  match cur.rest with
  | '%' :: h :: l :: _ =>
    match Text.digitsValue? 16 0 [h, l] with
    | some n => .ok (n, cur.skipMany 3)
    | none => .error (cur.fail .badUriEscape place.uri start)
  | _ => .error (cur.fail .badUriEscape place.uri start)

def trailingOctets (place : Place) (start : Mark) : Nat → Nat → Cursor → Except Fault (Nat × Cursor)
  | 0, code, cur => .ok (code, cur)
  | n + 1, code, cur => do
    let (o, next) ← octet place start cur
    if o / 64 ≠ 2 then throw (cur.fail .badTrailingOctet place.uri start)
    trailingOctets place start n (code * 64 + o % 64) next

/-- The character of the escaped octets at the cursor. -/
def escaped (place : Place) (start : Mark) (cur : Cursor) : Except Fault (Char × Cursor) := do
  let (o, next) ← octet place start cur
  match octetCount? o with
  | none => throw (cur.fail .badLeadingOctet place.uri start)
  | some n =>
    let lead := if n = 1 then o else o % 2 ^ (7 - n)
    let (code, cur) ← trailingOctets place start (n - 1) lead next
    return (Char.ofNat code, cur)

def isUriChar (verbatim : Bool) (c : Char) : Bool :=
  isWord c || ";/?:@&=+$.%!~*()".toList.contains c || c == Char.ofNat 39 ||
    (verbatim && ",[]".toList.contains c)

def uriChars (place : Place) (verbatim : Bool) (start : Mark) :
    Nat → List Char → Cursor → Except Fault (List Char × Cursor)
  | 0, text, cur => .ok (text, cur)
  | fuel + 1, text, cur =>
    match cur.head with
    | none => .ok (text, cur)
    | some c =>
      if !isUriChar verbatim c then .ok (text, cur)
      else if c == '%' then do
        let (c, cur) ← escaped place start cur
        uriChars place verbatim start fuel (text ++ [c]) cur
      else uriChars place verbatim start fuel (text ++ [c]) cur.skip

/-- A URI whose first characters are `head`. -/
def uri (place : Place) (verbatim : Bool) (head : List Char) (start : Mark) (cur : Cursor) :
    Except Fault (List Char × Cursor) := do
  let (text, next) ← uriChars place verbatim start cur.rest.length [] cur
  if head.isEmpty && text.isEmpty then throw (next.fail .noTagUri place.uri start)
  return (head.tail ++ text, next)

/-- `!`, a name, and a second `!`, which may be missing. -/
def handle (place : Place) (start : Mark) (cur : Cursor) : Except Fault (List Char × Cursor) :=
  if !cur.isAt '!' then
    .error (cur.fail .noBang (if place = .directive then .tagDirectiveStart else .tag) start)
  else
    let (name, cur) := cur.skip.span isWord
    if cur.isAt '!' then .ok ('!' :: name ++ ['!'], cur.skip)
    else if place = .directive ∧ name ≠ [] then .error (cur.fail .noBang .tagDirectiveHandle start)
    else .ok ('!' :: name, cur)

/-- Whether a handle stands between two exclamation marks. -/
def isNamed (h : List Char) : Bool := 1 < h.length && h.getLast? == some '!'

/-- Handle and suffix of the tag at the cursor. -/
def parts (cur : Cursor) : Except Fault (List Char × List Char × Cursor) := do
  let start := cur.mark
  if cur.ahead 1 == some '<' then
    let (suffix, cur) ← uri .node true [] start (cur.skipMany 2)
    if !cur.isAt '>' then throw (cur.fail .noTagEnd .tag start)
    return ([], suffix, cur.skip)
  let (h, cur) ← handle .node start cur
  if isNamed h then
    let (suffix, cur) ← uri .node false [] start cur
    return (h, suffix, cur)
  let (suffix, cur) ← uri .node false h start cur
  return if suffix.isEmpty then ([], ['!'], cur) else (['!'], suffix, cur)

/-- The tag token at the cursor. -/
def token (flow : Bool) (cur : Cursor) : Except Fault (Token × Cursor) := do
  let start := cur.mark
  let (h, suffix, cur) ← parts cur
  if !(flow && cur.isAt ',') && !endsWord cur.head then
    throw (cur.fail .noBlankOrBreak .tag start)
  return (⟨.tag (String.ofList h) (String.ofList suffix), start⟩, cur)

end Tag

namespace Anchor

def mayFollow (c? : Option Char) : Bool :=
  endsWord c? || (c?.map fun c => "?:,]\x7d%@".toList.contains c || c == Char.ofNat 0x60).getD false

/-- The name after `&` or `*`. -/
def name (activity : Activity) (cur : Cursor) : Except Fault (String × Cursor) :=
  let (text, next) := cur.skip.span isWord
  if text.isEmpty || !mayFollow next.head then .error (next.fail .badAnchor activity cur.mark)
  else .ok (String.ofList text, next)

end Anchor

namespace Directive

/-- At most nine digits. -/
def versionNumber (start : Mark) (cur : Cursor) : Except Fault (Nat × Cursor) :=
  let digits := cur.rest.takeWhile Text.isDigit
  if 9 < digits.length then
    .error ((cur.skipMany 9).fail .longVersion .versionDirective start)
  else
    match Text.natural? 10 digits with
    | some n => .ok (n, cur.skipMany digits.length)
    | none => .error (cur.fail .noVersion .versionDirective start)

def version (start : Mark) (cur : Cursor) : Except Fault (Token.Kind × Cursor) := do
  let (major, cur) ← versionNumber start cur.skipBlanks
  if !cur.isAt '.' then throw (cur.fail .noVersionPoint .versionDirective start)
  let (minor, cur) ← versionNumber start cur.skip
  return (.version major minor, cur)

def tag (start : Mark) (cur : Cursor) : Except Fault (Token.Kind × Cursor) := do
  let (h, cur) ← Tag.handle .directive start cur.skipBlanks
  if !(cur.head.map isBlank).getD false then throw (cur.fail .noBlank .tagDirective start)
  let (expansion, cur) ← Tag.uri .directive true [] start cur.skipBlanks
  if !endsWord cur.head then throw (cur.fail .noBlankOrBreak .tagDirective start)
  return (.tagDirective (String.ofList h) (String.ofList expansion), cur)

/-- The directive at the cursor, to the end of its line. -/
def token (cur : Cursor) : Except Fault (Token × Cursor) := do
  let start := cur.mark
  let (name, cur) := cur.skip.span isWord
  if name.isEmpty then throw (cur.fail .noDirectiveName .directive start)
  if !endsWord cur.head then throw (cur.fail .badDirectiveName .directive start)
  let (kind, cur) ←
    if name == "YAML".toList then version start cur
    else if name == "TAG".toList then tag start cur
    else throw (cur.fail .unknownDirective .directive start)
  return (⟨kind, start⟩, ← Block.lineEnd start .directive cur)

end Directive

end BatchInsert.Yaml
