import BatchInsert.Json.Lexeme

/-!
# Skipping JSON values

A value that nobody wants is only skimmed: any depth, any number and any escaped code unit will do.
-/

namespace BatchInsert.Json.Cursor

/-- The run of digits after the point of a number or in its power of ten. -/
def skipDigits (cur : Cursor) : Cursor := cur.skipWhile Text.isDigit

/-- The rest of a power of ten after its `e`. -/
def skipPower (cur : Cursor) : Except ReadError Cursor :=
  let cur := match cur.rest with
    | c :: cs => if c == '+' || c == '-' then cur.after c cs else cur
    | [] => cur
  match cur.rest with
  | [] => .error (cur.fail .invalidNumber)
  | c :: cs =>
    if Text.isDigit c then .ok (cur.after c cs).skipDigits
    else .error ((cur.skipBytes 1 cur.rest).fail .invalidNumber)

def skipPowerMark (cur : Cursor) : Except ReadError Cursor :=
  match cur.rest with
  | c :: cs => if c == 'e' || c == 'E' then (cur.after c cs).skipPower else .ok cur
  | [] => .ok cur

/-- A number from its first digit on. -/
def skipNumber (cur : Cursor) : Except ReadError Cursor := do
  let cur ← match cur.rest with
    | [] => .error (cur.fail .invalidNumber)
    | c :: cs =>
      let next := cur.after c cs
      if c == '0' then
        if (cs.head?.map Text.isDigit).getD false then .error (next.failNext .invalidNumber)
        else .ok next
      else if Text.isDigit c then .ok next.skipDigits
      else .error ((cur.skipBytes 1 cur.rest).fail .invalidNumber)
  match cur.rest with
  | '.' :: cs =>
    let point := cur.after '.' cs
    if (cs.head?.map Text.isDigit).getD false then point.skipDigits.skipPowerMark
    else throw (point.failNext .invalidNumber)
  | _ => cur.skipPowerMark

/-- The rest of an escape after its backslash. -/
def skipEscape (cur : Cursor) : Except ReadError Cursor :=
  match cur.rest with
  | [] => .error (cur.fail .eofInString)
  | c :: cs =>
    if c == 'u' then (cur.after c cs).hex4.map Prod.snd
    else if (shortEscape? c).isSome then .ok (cur.after c cs)
    else .error ((cur.skipBytes 1 cur.rest).fail .invalidEscape)

/-- The rest of a string after its opening quote. -/
def skipStringFrom : Nat → Cursor → Except ReadError Cursor
  | 0, cur => .error (cur.fail .eofInString)
  | fuel + 1, cur =>
    match cur.rest with
    | [] => .error (cur.fail .eofInString)
    | c :: cs =>
      if c == '"' then .ok (cur.after c cs)
      else if c == '\\' then do skipStringFrom fuel (← (cur.after c cs).skipEscape)
      else if c.toNat < 0x20 then .error (cur.fail .controlCharacter)
      else skipStringFrom fuel (cur.after c cs)

def skipString (cur : Cursor) : Except ReadError Cursor := skipStringFrom (cur.rest.length + 1) cur

/-- An array or an object around the cursor. -/
inductive Frame
  | array
  | object
deriving DecidableEq

def Frame.bracket : Frame → Char
  | array => ']'
  | object => '\x7d'

def Frame.eof : Frame → Cause
  | array => .eofInList
  | object => .eofInObject

def Frame.expected : Frame → Cause
  | array => .expectedCommaOrBracket
  | object => .expectedCommaOrBrace

/-- The name of a member with its colon; nothing in an array. -/
def skipName (frame : Frame) (cur : Cursor) : Except ReadError Cursor :=
  match frame with
  | .array => .ok cur
  | .object => do
    let cur := cur.skipBlanks
    match cur.rest with
    | [] => throw (cur.failNext .eofInObject)
    | c :: cs =>
      if c == '"' then
        let cur := (← (cur.after c cs).skipString).skipBlanks
        match cur.rest with
        | [] => throw (cur.failNext .eofInObject)
        | d :: ds => if d == ':' then return cur.after d ds else throw (cur.failNext .expectedColon)
      else throw (cur.failNext .keyNotString)

/-- The innermost frame that is still open once closing brackets have been taken, if any is;
`comma` says whether a value came before, so that a comma must come next. -/
def skipClosing (comma : Bool) : List Frame → Cursor → Except ReadError (List Frame × Cursor)
  | [], cur => .ok ([], cur)
  | frame :: outer, cur =>
    let cur := cur.skipBlanks
    match cur.rest with
    | [] => .error (cur.failNext frame.eof)
    | c :: cs =>
      if comma && c == ',' then .ok (frame :: outer, cur.after c cs)
      else if c == frame.bracket then skipClosing true outer (cur.after c cs)
      else if comma then .error (cur.failNext frame.expected)
      else .ok (frame :: outer, cur)

/-- A value inside `frames` and everything up to the end of the outermost one. -/
def skipValueFrom : Nat → List Frame → Cursor → Except ReadError Cursor
  | 0, _, cur => .error (cur.failNext .eofInValue)
  | fuel + 1, frames, cur => do
    let cur := cur.skipBlanks
    match cur.rest with
    | [] => throw (cur.failNext .eofInValue)
    | c :: cs =>
      let next := cur.after c cs
      let (frames, comma, cur) ←
        if c == 'n' then pure (frames, true, ← literal "null".toList cur)
        else if c == 't' then pure (frames, true, ← literal "true".toList cur)
        else if c == 'f' then pure (frames, true, ← literal "false".toList cur)
        else if c == '-' then pure (frames, true, ← next.skipNumber)
        else if Text.isDigit c then pure (frames, true, ← cur.skipNumber)
        else if c == '"' then pure (frames, true, ← next.skipString)
        else if c == '[' then pure (Frame.array :: frames, false, next)
        else if c == '\x7b' then pure (Frame.object :: frames, false, next)
        else throw (cur.failNext .expectedValue)
      match ← skipClosing comma frames cur with
      | ([], cur) => return cur
      | (frame :: outer, cur) => skipValueFrom fuel (frame :: outer) (← cur.skipName frame)

def skipValue (cur : Cursor) : Except ReadError Cursor := skipValueFrom (cur.rest.length + 1) [] cur

end BatchInsert.Json.Cursor
