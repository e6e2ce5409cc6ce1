import BatchInsert.Text.Blank
import BatchInsert.Url.Host

/-!
# PostgreSQL connection strings

A connection string is a URL or a list of keys and values. Both set options by name; hosts and
their ports may be several. What is no connection string has no options.
-/

namespace BatchInsert.Postgres

open Url (percentDecode splitAt utf8Bytes utf8Text?)

inductive Host
  | name (s : String)
  /-- The directory of a local socket. -/
  | socket (path : List UInt8)
deriving DecidableEq

structure Options where
  user : Option String
  password : Option (List UInt8)
  database : Option String
  /-- Command-line options of the server. -/
  serverOptions : Option String
  application : Option String
  hosts : List Host
  /-- Addresses to use in place of the hosts' names. -/
  addresses : List String
  ports : List Nat
deriving DecidableEq

namespace Options

def empty : Options := ⟨none, none, none, none, none, [], [], []⟩

def addHost (o : Options) (host : Host) : Options := { o with hosts := o.hosts ++ [host] }

/-- A host that begins with a slash is a directory. -/
def namedHost (cs : List Char) : Host :=
  if cs.head? == some '/' then .socket (utf8Bytes cs) else .name (String.ofList cs)

def isAddress (cs : List Char) : Bool :=
  (match (splitAt '.' cs).mapM Url.Ipv6.octet? with
    | some octets => octets.length == 4
    | none => false) || (Url.Ipv6.read? cs).isSome

def port? (cs : List Char) : Option Nat := if cs.isEmpty then some 5432 else Text.below? 65536 cs

/-- An integer of 64 bits. -/
def isInteger (cs : List Char) : Bool :=
  ((Text.signed? 10 cs).filter fun i => -(2 ^ 63) ≤ i && i < 2 ^ 63).isSome

/-- Options that have one of a few values. -/
def choices : List (String × List String) :=
  [("sslmode", ["disable", "prefer", "require"]), ("sslnegotiation", ["postgres", "direct"]),
    ("target_session_attrs", ["any", "read-write", "read-only"]),
    ("channel_binding", ["disable", "prefer", "require"]),
    ("load_balance_hosts", ["disable", "random"])]

/-- Options that are times in seconds. -/
def durations : List String :=
  ["connect_timeout", "tcp_user_timeout", "keepalives_idle", "keepalives_interval"]

/-- Whether a value is one of an option that leaves no trace here. -/
def isOther (key : String) (value : List Char) : Bool :=
  match choices.find? (·.1 == key) with
  | some (_, values) => values.contains (String.ofList value)
  | none =>
    if durations.contains key then isInteger value
    else if key == "keepalives" then (Text.below? (2 ^ 64) value).isSome
    else if key == "keepalives_retries" then (Text.below? (2 ^ 32) value).isSome
    else false

/-- With an option set; hosts, addresses and ports are added to those there. -/
def set? (o : Options) (key : String) (value : List Char) : Option Options :=
  let s := String.ofList value
  match key with
  | "user" => some { o with user := some s }
  | "password" => some { o with password := some (utf8Bytes value) }
  | "dbname" => some { o with database := some s }
  | "options" => some { o with serverOptions := some s }
  | "application_name" => some { o with application := some s }
  | "host" => some { o with hosts := o.hosts ++ (splitAt ',' value).map namedHost }
  | "hostaddr" =>
    let addresses := splitAt ',' value
    if addresses.all isAddress then
      some { o with addresses := o.addresses ++ addresses.map String.ofList }
    else none
  | "port" =>
    ((splitAt ',' value).mapM port?).map fun ports => { o with ports := o.ports ++ ports }
  | _ => if isOther key value then some o else none

/-- The text of encoded characters, if it is one. -/
def decoded? (cs : List Char) : Option (List Char) := utf8Text? (percentDecode cs)

/-- With a host from a URL, where it is encoded. -/
def setHost? (o : Options) (cs : List Char) : Option Options :=
  let bytes := percentDecode cs
  if bytes.head? == some 0x2f then some (o.addHost (.socket bytes))
  else (utf8Text? bytes).map fun host => o.addHost (.name (String.ofList host))

/-- What stands before the first character that satisfies `p` and what begins there, `none` if no
character does. -/
def upTo? (p : Char → Bool) (cs : List Char) : Option (List Char × List Char) :=
  let front := cs.takeWhile (!p ·)
  if front.length = cs.length then none else some (front, cs.drop front.length)

def setCredentials? (o : Options) (cs : List Char) : Option Options :=
  let user := cs.takeWhile (· != ':')
  (decoded? user).map fun name =>
    { o with
      user := some (String.ofList name)
      password := match cs.drop user.length with
        | _ :: password => some (percentDecode password)
        | [] => o.password }

/-- A host in brackets or without, and its port. -/
def hostPort? (cs : List Char) : Option (List Char × List Char) :=
  match cs with
  | '[' :: inner =>
    (upTo? (· == ']') inner).bind fun (host, rest) =>
      match rest.tail with
      | [] => some (host, "5432".toList)
      | ':' :: port => some (host, port)
      | _ => none
  | _ =>
    let host := cs.takeWhile (· != ':')
    match cs.drop host.length with
    | _ :: port => some (host, port)
    | [] => some (host, "5432".toList)

def setHostPort? (o : Options) (cs : List Char) : Option Options := do
  let (host, port) ← hostPort? cs
  (← o.setHost? host).set? "port" (← decoded? port)

/-- With the options of a query; each takes at least its equals sign. -/
def setQuery? : Nat → Options → List Char → Option Options
  | 0, o, _ => some o
  | _, o, [] => some o
  | fuel + 1, o, cs => do
    let (key, rest) ← upTo? (· == '=') cs
    let key := String.ofList (← decoded? key)
    let value := rest.tail.takeWhile (· != '&')
    let o ← if key == "host" then o.setHost? value else do o.set? key (← decoded? value)
    setQuery? fuel o (rest.tail.drop (value.length + 1))

/-- The options of a URL after its scheme. -/
def ofUrl? (cs : List Char) : Option Options := do
  let (o, cs) ← match upTo? (· == '@') cs with
    | some (credentials, rest) => do pure (← empty.setCredentials? credentials, rest.tail)
    | none => pure (empty, cs)
  let hosts := cs.takeWhile fun c => c != '/' && c != '?'
  let rest := cs.drop hosts.length
  let o ← if hosts.isEmpty then pure o else (splitAt ',' hosts).foldlM setHostPort? o
  let (o, rest) ← match rest with
    | '/' :: path => do
      let database := path.takeWhile (· != '?')
      let name ← decoded? database
      let o := if database.isEmpty then o else { o with database := some (String.ofList name) }
      pure (o, path.drop database.length)
    | cs => pure (o, cs)
  match rest with
  | '?' :: query => setQuery? query.length o query
  | _ => return o

/-- A value up to a blank, or in apostrophes; a backslash goes before a character that is meant as
it stands. -/
def value? (isQuoted : Bool) : List Char → Option (List Char × List Char)
  | [] => if isQuoted then none else some ([], [])
  | c :: cs =>
    if isQuoted && c == Char.ofNat 39 then some ([], cs)
    else if !isQuoted && Text.isBlank c then some ([], c :: cs)
    else if c == '\\' then
      match cs with
      | [] => if isQuoted then none else some ([], [])
      | d :: cs => (value? isQuoted cs).map fun (value, rest) => (d :: value, rest)
    else (value? isQuoted cs).map fun (value, rest) => (c :: value, rest)

def pairValue? (cs : List Char) : Option (List Char × List Char) :=
  match cs with
  | c :: rest =>
    if c == Char.ofNat 39 then value? true rest
    else (value? false cs).filter fun (value, _) => !value.isEmpty
  | [] => none

/-- The options of keys and values; each pair takes at least its equals sign. Nothing is read behind
a pair without a key. -/
def ofPairs? : Nat → Options → List Char → Option Options
  | 0, o, _ => some o
  | fuel + 1, o, cs =>
    let cs := Text.trimStart cs
    let key := cs.takeWhile fun c => c != '=' && !Text.isBlank c
    if key.isEmpty then some o
    else
      match Text.trimStart (cs.drop key.length) with
      | '=' :: rest => do
        let (value, rest) ← pairValue? (Text.trimStart rest)
        ofPairs? fuel (← o.set? (String.ofList key) value) rest
      | _ => none

/-- The characters after one of the schemes, if a text begins with it. -/
def afterScheme? (cs : List Char) : Option (List Char) :=
  ["postgres://", "postgresql://"].findSome? fun scheme =>
    if scheme.toList.isPrefixOf cs then some (cs.drop scheme.length) else none

def ofText? (s : String) : Option Options :=
  match afterScheme? s.toList with
  | some cs => ofUrl? cs
  | none => ofPairs? (s.length + 1) empty s.toList

/-- Why options cannot lead to any server. -/
inductive Misfit
  | noHost
  | addressCount (hosts addresses : Nat)
  | portCount
deriving DecidableEq

def Misfit.text : Misfit → String
  | noHost => "both host and hostaddr are missing"
  | addressCount hosts addresses =>
    "number of hosts (" ++ Text.decimal hosts ++ ") is different from number of hostaddrs (" ++
      Text.decimal addresses ++ ")"
  | portCount => "invalid number of ports"

/-- One address for each host if there are both, and one port for each or for all. -/
def misfit? (o : Options) : Option Misfit :=
  if o.hosts.isEmpty && o.addresses.isEmpty then some .noHost
  else if !o.hosts.isEmpty && !o.addresses.isEmpty && o.hosts.length != o.addresses.length then
    some (.addressCount o.hosts.length o.addresses.length)
  else if 1 < o.ports.length && o.ports.length != max o.hosts.length o.addresses.length then
    some .portCount
  else none

end Options

end BatchInsert.Postgres
