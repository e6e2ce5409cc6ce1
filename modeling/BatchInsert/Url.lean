import BatchInsert.Url.Host

/-!
# URLs

A URL in its normal form, as the standard of the web reads it, and the text of one. Special schemes
have a host and a port they may leave out. `redact` covers a password with three asterisks.
-/

namespace BatchInsert

namespace Url

structure Authority where
  username : List Char
  /-- Never empty. -/
  password : Option (List Char)
  /-- Empty for no host. -/
  host : List Char
  port : Option Nat
deriving DecidableEq

end Url

structure Url where
  scheme : List Char
  authority : Option Url.Authority
  path : List Char
  query : Option (List Char)
  fragment : Option (List Char)
deriving DecidableEq

namespace Url

inductive Family
  | file
  | special
  | other
deriving DecidableEq

def family (scheme : List Char) : Family :=
  if scheme == "file".toList then .file
  else if ["http", "https", "ws", "wss", "ftp"].any fun s => s.toList == scheme then .special
  else .other

/-- The port that goes without saying. -/
def defaultPort? (scheme : List Char) : Option Nat :=
  if scheme == "http".toList || scheme == "ws".toList then some 80
  else if scheme == "https".toList || scheme == "wss".toList then some 443
  else if scheme == "ftp".toList then some 21
  else none

namespace Authority

def userinfo (a : Authority) : List Char :=
  let password := match a.password with
    | some p => ':' :: p
    | none => []
  a.username ++ password

def chars (a : Authority) : List Char :=
  let port := match a.port with
    | some n => ':' :: Text.decimalChars n
    | none => []
  (if a.userinfo.isEmpty then [] else a.userinfo ++ ['@']) ++ a.host ++ port

end Authority

def optional (mark : Char) : Option (List Char) → List Char
  | some cs => mark :: cs
  | none => []

def chars (u : Url) : List Char :=
  let head := match u.authority with
    | some a => '/' :: '/' :: a.chars
    | none => if u.path.take 2 == ['/', '/'] then ['/', '.'] else []
  u.scheme ++ ':' :: head ++ u.path ++ optional '?' u.query ++ optional '#' u.fragment

def text (u : Url) : String := String.ofList u.chars

/-- The scheme, in lower case, and what follows its colon. -/
def schemeRest? (acc : List Char) : List Char → Option (List Char × List Char)
  | [] => none
  | c :: cs =>
    if c == ':' then if acc.isEmpty then none else some (acc.reverse, cs)
    else if c.isAlpha || (!acc.isEmpty && (c.isDigit || c == '+' || c == '-' || c == '.')) then
      schemeRest? (c.toLower :: acc) cs
    else none

/-- Whether `c` ends the authority. -/
def endsAuthority (special : Bool) (c : Char) : Bool :=
  c == '/' || c == '?' || c == '#' || (special && c == '\\')

/-- What stands before the last `@` of an authority, if it has one, and what follows it. -/
def splitUserinfo (special : Bool) (cs : List Char) : Option (List Char) × List Char :=
  let authority := cs.takeWhile (!endsAuthority special ·)
  if authority.contains '@' then
    let host := (authority.reverse.takeWhile (· != '@')).reverse
    let user := authority.take (authority.length - host.length - 1)
    (some user, cs.drop (user.length + 1))
  else (none, cs)

/-- A user and a password apart by the first colon; an empty password is none. -/
def readUserinfo (cs : List Char) : List Char × Option (List Char) :=
  let user := cs.takeWhile (· != ':')
  let password := cs.drop (user.length + 1)
  (percentEncode .userinfo user,
    if password.isEmpty then none else some (percentEncode .userinfo password))

/-- The host's characters, a colon among them only in brackets, and what follows. -/
def splitHost (special inBrackets : Bool) : List Char → List Char × List Char
  | [] => ([], [])
  | c :: cs =>
    if endsAuthority special c || (c == ':' && !inBrackets) then ([], c :: cs)
    else
      let inside := if c == '[' then true else if c == ']' then false else inBrackets
      let (host, rest) := splitHost special inside cs
      (c :: host, rest)

/-- Digits up to the end of the authority; the default port and no digits are no port. -/
def readPort (default? : Option Nat) (cs : List Char) :
    Except ReadError (Option Nat × List Char) :=
  let digits := cs.takeWhile Text.isDigit
  let rest := cs.drop digits.length
  let ended := rest.head?.all (endsAuthority true)
  match digits, Text.natural? 10 digits with
  | [], _ => if ended then .ok (none, rest) else .error .invalidPort
  | _, some n =>
    if ended && n < 65536 then .ok (if some n = default? then none else some n, rest)
    else .error .invalidPort
  | _, none => .error .invalidPort

/-- The port of an authority where the host has ended. -/
def portAfter (scheme : List Char) : List Char → Except ReadError (Option Nat × List Char)
  | ':' :: cs => readPort (defaultPort? scheme) cs
  | cs => .ok (none, cs)

/-- What is read of an authority where its host has ended. -/
def serverAfter (scheme host rest : List Char) :
    Except ReadError (List Char × Option Nat × List Char) :=
  if host.isEmpty && rest.head? == some ':' then .error .emptyHost
  else (portAfter scheme rest).map fun found => (host, found)

/-- The host in its normal form. -/
def readHost [Names] (special : Bool) (cs : List Char) : Except ReadError (List Char) :=
  if special then specialHost cs else opaqueHost cs

/-- The host and the port of an authority, and what follows them. -/
def readServer [Names] (scheme cs : List Char) :
    Except ReadError (List Char × Option Nat × List Char) :=
  let special := family scheme == .special
  let (hostChars, rest) := splitHost special false cs
  if special && hostChars.isEmpty then .error .emptyHost
  else (readHost special hostChars).bind fun host => serverAfter scheme host rest

/-- The user and the password in what stands before the last `@`, if there is one. -/
def readLogin : Option (List Char) → List Char × Option (List Char)
  | some cs => readUserinfo cs
  | none => ([], none)

/-- An authority from its two sides; a user or a password needs a host. -/
def joinAuthority (login : List Char × Option (List Char))
    (server : List Char × Option Nat × List Char) : Except ReadError (Authority × List Char) :=
  if server.1.isEmpty && (!login.1.isEmpty || login.2.isSome) then .error .emptyHost
  else .ok (⟨login.1, login.2, server.1, server.2.1⟩, server.2.2)

/-- Behind an `@` with nothing before it the authority goes on. -/
def checkLone (special : Bool) (userinfo? : Option (List Char)) (afterUser : List Char) :
    Except ReadError Unit :=
  if userinfo? == some [] && afterUser.head?.any (endsAuthority special) then .error .emptyHost
  else .ok ()

def readAuthority [Names] (scheme : List Char) (cs : List Char) :
    Except ReadError (Authority × List Char) :=
  let special := family scheme == .special
  let (userinfo?, afterUser) := splitUserinfo special cs
  (checkLone special userinfo? afterUser).bind fun _ =>
    (readServer scheme afterUser).bind (joinAuthority (readLogin userinfo?))

def isSingleDot (segment : List Char) : Bool :=
  String.ofList (segment.map Char.toLower) ∈ [".", "%2e"]

def isDoubleDot (segment : List Char) : Bool :=
  String.ofList (segment.map Char.toLower) ∈ ["..", "%2e.", ".%2e", "%2e%2e"]

/-- The segments with those of one or two dots resolved; `done` are those before, backwards. -/
def resolveDots (done : List (List Char)) : List (List Char) → List (List Char)
  | [] => done.reverse
  | s :: rest =>
    let last := rest.isEmpty
    if isDoubleDot s then
      resolveDots (if last then [] :: done.drop 1 else done.drop 1) rest
    else if isSingleDot s then resolveDots (if last then [] :: done else done) rest
    else resolveDots (s :: done) rest

/-- The path of a URL with an authority; `cs` starts at it and ends before the query. -/
def readPath (special : Bool) (cs : List Char) : List Char :=
  let cs := if special then cs.map fun c => if c == '\\' then '/' else c else cs
  if cs.isEmpty && !special then []
  else
    let body := if cs.head? == some '/' then cs.drop 1 else cs
    let segments := resolveDots [] ((splitAt '/' body).map (percentEncode .path))
    segments.flatMap ('/' :: ·)

/-- The parts before the query, of the query and of the fragment. -/
def splitTail (cs : List Char) : List Char × Option (List Char) × Option (List Char) :=
  let beforeFragment := cs.takeWhile (· != '#')
  let fragment? := (cs.drop beforeFragment.length).tail?
  let path := beforeFragment.takeWhile (· != '?')
  (path, (beforeFragment.drop path.length).tail?, fragment?)

def withTail (scheme : List Char) (authority : Option Authority) (path : List Char)
    (query? fragment? : Option (List Char)) : Url :=
  let set := if family scheme == .other then EncodeSet.query else EncodeSet.specialQuery
  ⟨scheme, authority, path, query?.map (percentEncode set),
    fragment?.map (percentEncode EncodeSet.fragment)⟩

/-- A URL after the marks before its authority. -/
def readHierarchy [Names] (scheme cs : List Char) : Except ReadError Url := do
  let (authority, rest) ← readAuthority scheme cs
  let (path, query?, fragment?) := splitTail rest
  return withTail scheme (some authority) (readPath (family scheme == .special) path) query?
    fragment?

def isSlash (c : Char) : Bool := c == '/' || c == '\\'

/-- The letter of a drive, with a colon or a bar behind it. -/
def isDrive : List Char → Bool
  | [letter, mark] => letter.isAlpha && (mark == ':' || mark == '|')
  | _ => false

/-- The path of a file. No dots lead above a drive at its front. -/
def readFilePath (cs : List Char) : List Char :=
  let body := if cs.head?.any isSlash then cs.drop 1 else cs
  let inside := body.drop 2
  if isDrive (body.take 2) && inside.head?.all isSlash then
    '/' :: body.take 1 ++ ':' :: (if inside.isEmpty then [] else readPath true inside)
  else readPath true cs

/-- The host of a file, between the second and the third slash, and what follows it. A drive there
is no host but belongs to the path. -/
def splitFile : List Char → List Char × List Char
  | a :: b :: rest =>
    let front := rest.takeWhile (!endsAuthority true ·)
    if !(isSlash a && isSlash b) then ([], a :: b :: rest)
    else if isDrive front then ([], rest)
    else (front, rest.drop front.length)
  | cs => ([], cs)

def readFile [Names] (scheme cs : List Char) : Except ReadError Url := do
  let (hostChars, rest) := splitFile cs
  let host ← if hostChars.isEmpty then pure [] else specialHost hostChars
  let (path, query?, fragment?) := splitTail rest
  let host := if host == "localhost".toList then [] else host
  return withTail scheme (some ⟨[], none, host, none⟩) (readFilePath path) query? fragment?

/-- A URL without an authority. -/
def readOpaque (scheme cs : List Char) : Url :=
  let (path, query?, fragment?) := splitTail cs
  let path := if path.head? == some '/' then readPath false path
    else percentEncode .controls path
  withTail scheme none path query? fragment?

/-- Tabs and line ends count nowhere, blanks and controls not at either end. -/
def clean (cs : List Char) : List Char :=
  let isOuter (c : Char) : Bool := c.toNat ≤ 0x20
  let trimmed := ((cs.dropWhile isOuter).reverse.dropWhile isOuter).reverse
  trimmed.filter fun c => !(c == '\t' || c == '\n' || c == '\r')

def read [Names] (cs : List Char) : Except ReadError Url :=
  match schemeRest? [] (clean cs) with
  | none => .error .noScheme
  | some (scheme, rest) =>
    match family scheme with
    | .file => readFile scheme rest
    | .special => readHierarchy scheme (rest.dropWhile isSlash)
    | .other =>
      match rest with
      | '/' :: '/' :: cs => readHierarchy scheme cs
      | cs => .ok (readOpaque scheme cs)

def password? (u : Url) : Option (List Char) := u.authority.bind Authority.password

/-- The URL with another password, none for an empty one. A URL without a host and one of a file
refuse it. -/
def withPassword? (u : Url) (password : List Char) : Option Url :=
  match u.authority with
  | none => none
  | some a =>
    if a.host.isEmpty || family u.scheme == .file then none
    else
      let password? := if password.isEmpty then none else some (percentEncode .userinfo password)
      some { u with authority := some { a with password := password? } }

/-- The URL with its password covered; one that refuses it stays as it is. -/
def maskPassword (u : Url) : Url := (u.withPassword? "***".toList).getD u

end Url

/-- A text with the password of the URL that it is covered. What is no URL is covered as a whole
if it has an `@` in it. -/
def redact [Url.Names] (raw : String) : String :=
  match Url.read raw.toList with
  | .ok u => if u.password?.isSome then u.maskPassword.text else raw
  | .error _ => if raw.toList.contains '@' then "***" else raw

end BatchInsert
