/-!
# Database errors

What a database driver reports, with the texts of whatever caused it, the outermost first.
-/

namespace BatchInsert.Database

inductive Category
  | connection
  | query
  | conversion
  | configuration
deriving DecidableEq, Repr

def Category.name : Category → String
  | connection => "connection"
  | query => "query"
  | conversion => "type_conversion"
  | configuration => "configuration"

inductive Error
  | connection (message : String) (causes : List String)
  | query (message : String) (sql : Option String) (causes : List String)
  | conversion (message : String)
  | configuration (message : String)
  | driverNotFound (name : String)
deriving DecidableEq, Repr

namespace Error

/-- The database's own error about a statement; its text is the message. -/
def rejected (sql cause : String) (below : List String) : Error :=
  query cause (some sql) (cause :: below)

def connectionClosed : Error := connection "connection is closed" []

def category : Error → Category
  | connection _ _ => .connection
  | query _ _ _ => .query
  | conversion _ => .conversion
  | configuration _ | driverNotFound _ => .configuration

/-- Only a failure of the connection may go away by itself. -/
def isRetriable (e : Error) : Bool := e.category == .connection

def text : Error → String
  | connection message _ => "connection error: " ++ message
  | query message _ _ => "query error: " ++ message
  | conversion message => "type conversion error: " ++ message
  | configuration message => "configuration error: " ++ message
  | driverNotFound name => "driver not found: " ++ name

def sql? : Error → Option String
  | query _ sql _ => sql
  | _ => none

def causes : Error → List String
  | connection _ causes | query _ _ causes => causes
  | _ => []

/-- The texts of an error and of everything below it. -/
def chain (e : Error) : List String := e.text :: e.causes

end Error

end BatchInsert.Database
