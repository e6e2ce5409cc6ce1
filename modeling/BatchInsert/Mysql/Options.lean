import BatchInsert.Url
import BatchInsert.Url.Form

/-!
# MySQL connection URLs

A URL with a host, in whose query only known parameters with fitting values may stand.
-/

namespace BatchInsert.Mysql

structure Options where
  user : Option String
  password : Option String
  database : Option String
  host : String
  port : Nat
deriving DecidableEq

namespace Options

/-- Why a text is no connection URL. -/
inductive ReadError
  | url (e : Url.ReadError)
  | incomplete
  | scheme (name : String)
  | unknown (parameter : String)
  | invalid (parameter value : String)
  | poolBounds (least most : Nat)
deriving DecidableEq

def quotedName (s : String) : String := String.ofList (Char.ofNat 0x60 :: s.toList) ++ "'"

def ReadError.message : ReadError → String
  | url e => "URL parse error: " ++ e.message
  | incomplete => "Invalid or incomplete connection URL"
  | scheme name => "Unsupported connection URL scheme " ++ quotedName name
  | unknown parameter => "Unknown connection URL parameter " ++ quotedName parameter
  | invalid parameter value =>
    "Invalid value " ++ quotedName value ++ " for connection URL parameter " ++ quotedName parameter
  | poolBounds least most =>
    "Invalid pool constraints: pool_min (" ++ Text.decimal least ++ ") > pool_max (" ++
      Text.decimal most ++ ")."

/-- What a value of a parameter may be. -/
inductive Domain
  | bits (width : Nat)
  | flag
  | compression
  | text
deriving DecidableEq

def domains : List (String × Domain) :=
  [("pool_min", .bits 64), ("pool_max", .bits 64), ("inactive_connection_ttl", .bits 64),
    ("ttl_check_interval", .bits 64), ("conn_ttl", .bits 64), ("abs_conn_ttl", .bits 64),
    ("abs_conn_ttl_jitter", .bits 64), ("tcp_keepalive", .bits 32),
    ("max_allowed_packet", .bits 64), ("wait_timeout", .bits 64), ("stmt_cache_size", .bits 64),
    ("enable_cleartext_plugin", .flag), ("reset_connection", .flag), ("tcp_nodelay", .flag),
    ("prefer_socket", .flag), ("secure_auth", .flag), ("client_found_rows", .flag),
    ("require_ssl", .flag), ("verify_ca", .flag), ("verify_identity", .flag),
    ("built_in_roots", .flag), ("socket", .text), ("compression", .compression)]

def Domain.contains (value : String) : Domain → Bool
  | bits width => (Text.below? (2 ^ width) value.toList).isSome
  | flag => value == "true" || value == "false"
  | compression =>
    ["fast", "on", "true", "best"].contains value ||
      (value.length == 1 && value.toList.all Text.isDigit)
  | text => true

def checkParameter (p : String × String) : Except ReadError Unit :=
  match domains.find? (·.1 == p.1) with
  | none => .error (.unknown p.1)
  | some (_, d) => if d.contains p.2 then .ok () else .error (.invalid p.1 p.2)

/-- The last value of a numeric parameter. -/
def number (name : String) (default : Nat) (ps : List (String × String)) : Nat :=
  match (ps.filter (·.1 == name)).getLast? with
  | some (_, value) => (Text.below? (2 ^ 64) value.toList).getD default
  | none => default

/-- Parameters in order, and then the bounds of the pool. -/
def checkQuery (ps : List (String × String)) : Except ReadError Unit := do
  ps.forM checkParameter
  let least := number "pool_min" 10 ps
  let most := number "pool_max" 100 ps
  if most < least then throw (.poolBounds least most)

/-- The text of a part of a URL, none if there is nothing. -/
def partText? (cs : List Char) : Option String :=
  if cs.isEmpty then none else some (Text.lossyText (Url.percentDecode cs))

/-- The first segment of a path. -/
def firstSegment (path : List Char) : List Char := (path.drop 1).takeWhile (· != '/')

def defaultPort : Nat := 3306

def ofUrl (u : Url) : Except ReadError Options :=
  match u.authority with
  | none => .error .incomplete
  | some a =>
    if a.host.isEmpty || Url.family u.scheme == .file then .error .incomplete
    else if u.scheme ≠ "mysql".toList then .error (.scheme (String.ofList u.scheme))
    else do
      checkQuery (Url.formPairs (u.query.getD []))
      return ⟨partText? a.username, a.password.bind partText?, partText? (firstSegment u.path),
        String.ofList a.host, a.port.getD defaultPort⟩

def ofText [Url.Names] (s : String) : Except ReadError Options :=
  match Url.read s.toList with
  | .error e => .error (.url e)
  | .ok u => ofUrl u

end Options

end BatchInsert.Mysql
