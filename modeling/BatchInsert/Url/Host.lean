import BatchInsert.Url.Names
import BatchInsert.Url.Percent

/-!
# Hosts

The host of a URL in its normal form: an IPv4 address in four decimal numbers, an IPv6 address with
its longest run of zeros left out, a domain name in ASCII, or, where the scheme is none of the
special ones, any text without the marks of a URL.
-/

namespace BatchInsert.Url

/-- Why a text is no URL. -/
inductive ReadError
  | emptyHost
  | invalidDomain
  | invalidCharacter
  | invalidIpv4
  | invalidIpv6
  | invalidPort
  | noScheme
deriving DecidableEq

def ReadError.message : ReadError → String
  | emptyHost => "empty host"
  | invalidDomain => "invalid international domain name"
  | invalidCharacter => "invalid domain character"
  | invalidIpv4 => "invalid IPv4 address"
  | invalidIpv6 => "invalid IPv6 address"
  | invalidPort => "invalid port number"
  | noScheme => "relative URL without a base"

/-- The parts of a text between `mark`s. -/
def splitAt (mark : Char) : List Char → List (List Char)
  | [] => [[]]
  | c :: cs =>
    if c == mark then [] :: splitAt mark cs
    else
      match splitAt mark cs with
      | [] => [[c]]
      | part :: parts => (c :: part) :: parts

/-- `parts` with `mark` between them. -/
def joinWith (mark : List Char) : List (List Char) → List Char
  | [] => []
  | [p] => p
  | p :: q :: ps => p ++ mark ++ joinWith mark (q :: ps)

namespace Ipv6

/-- A number of an IPv4 address inside an IPv6 address, without leading zeros. -/
def octet? (cs : List Char) : Option Nat :=
  if cs.length ≤ 3 && (cs.length == 1 || cs.head? != some '0') then
    (Text.natural? 10 cs).filter (· < 256)
  else none

/-- The pieces of 16 bits that the groups stand for; the last may be an IPv4 address. -/
def pieces? : List (List Char) → Option (List Nat)
  | [] => some []
  | [g] =>
    if g.contains '.' then
      match (splitAt '.' g).mapM octet? with
      | some [a, b, c, d] => some [a * 256 + b, c * 256 + d]
      | _ => none
    else if g.length ≤ 4 then (Text.natural? 16 g).map fun n => [n]
    else none
  | g :: gs =>
    if g.length ≤ 4 then do return (← Text.natural? 16 g) :: (← pieces? gs) else none

def groups (cs : List Char) : List (List Char) := if cs.isEmpty then [] else splitAt ':' cs

/-- The texts before and after the first double colon. -/
def splitGap? : List Char → Option (List Char × List Char)
  | ':' :: ':' :: cs => some ([], cs)
  | c :: cs => (splitGap? cs).map fun (before, after) => (c :: before, after)
  | [] => none

/-- The eight pieces of an address; a double colon stands for one zero or more. -/
def read? (cs : List Char) : Option (List Nat) :=
  match splitGap? cs with
  | none => (pieces? (groups cs)).filter (·.length == 8)
  | some (before, after) => do
    let front ← if before.contains '.' then none else pieces? (groups before)
    let back ← pieces? (groups after)
    if front.length + back.length ≤ 7 then
      return front ++ List.replicate (8 - front.length - back.length) 0 ++ back
    else none

/-- The lengths of the runs of zeros that start at each piece. -/
def zeroRuns : List Nat → List Nat
  | [] => []
  | p :: ps =>
    let rest := zeroRuns ps
    (if p = 0 then rest.headD 0 + 1 else 0) :: rest

def text (pieces : List Nat) : List Char :=
  let shown (ps : List Nat) := joinWith [':'] (ps.map Text.hexChars)
  let runs := zeroRuns pieces
  let longest := runs.foldl max 0
  let body :=
    if longest < 2 then shown pieces
    else
      let start := runs.findIdx (· == longest)
      shown (pieces.take start) ++ ':' :: ':' :: shown (pieces.drop (start + longest))
  '[' :: body ++ [']']

end Ipv6

namespace Ipv4

/-- A number in decimal, in octal after a zero, in hexadecimal after `0x`. -/
def number? (cs : List Char) : Option Nat :=
  match cs with
  | [] => none
  | '0' :: x :: ds =>
    if x == 'x' || x == 'X' then (if ds.isEmpty then some 0 else Text.natural? 16 ds)
    else Text.natural? 8 (x :: ds)
  | ds => Text.natural? 10 ds

/-- Whether the last part of a name, or the one before a final dot, is a number. -/
def isAddress (cs : List Char) : Bool :=
  let last? := match (splitAt '.' cs).reverse with
    | [] :: part :: _ => some part
    | [[]] | [] => none
    | part :: _ => some part
  match last? with
  | none => false
  | some part => (!part.isEmpty && part.all Text.isDigit) || (number? part).isSome

/-- The address whose last number fills the bytes that the numbers before it leave. -/
def value? (numbers : List Nat) : Option Nat :=
  match numbers.reverse with
  | [] => none
  | last :: front =>
    if front.all (· < 256) && last < 256 ^ (4 - front.length) then
      some (front.reverse.foldl (fun acc n => acc * 256 + n) 0 * 256 ^ (4 - front.length) + last)
    else none

def text (n : Nat) : List Char :=
  joinWith ['.'] ([n / 16777216, n / 65536 % 256, n / 256 % 256, n % 256].map Text.decimalChars)

def read? (cs : List Char) : Option (List Char) :=
  let parts := splitAt '.' cs
  let parts := if parts.getLast? == some [] then parts.dropLast else parts
  if 4 < parts.length then none else ((parts.mapM number?).bind value?).map text

end Ipv4

def ipv6Host (cs : List Char) : Except ReadError (List Char) :=
  let pieces? := if cs.getLast? == some ']' then Ipv6.read? (cs.drop 1).dropLast else none
  match pieces? with
  | some pieces => .ok (Ipv6.text pieces)
  | none => .error .invalidIpv6

/-- The host of a URL with a special scheme. -/
def specialHost [Names] (cs : List Char) : Except ReadError (List Char) :=
  if cs.head? == some '[' then ipv6Host cs
  else
    match (utf8Text? (percentDecode cs)).bind Names.toAscii? with
    | none => .error .invalidDomain
    | some [] => .error .emptyHost
    | some name =>
      if Ipv4.isAddress name then
        match Ipv4.read? name with
        | some address => .ok address
        | none => .error .invalidIpv4
      else .ok name

/-- The host of a URL with any other scheme. -/
def opaqueHost (cs : List Char) : Except ReadError (List Char) :=
  if cs.head? == some '[' then ipv6Host cs
  else if cs.any fun c => c.toNat == 0 || " #/:<>?@[\\]^|".toList.contains c then
    .error .invalidCharacter
  else .ok (percentEncode .controls cs)

end BatchInsert.Url
