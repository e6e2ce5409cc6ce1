import BatchInsert.Database.Error
import BatchInsert.Ordered
import BatchInsert.Text.Blank
import BatchInsert.Text.Case
import BatchInsert.Text.Inspect
import BatchInsert.Text.Quoted

/-!
# Registries

Drivers by name, names without regard to case. The last registration under a name counts.
-/

namespace BatchInsert

structure Registry (δ : Type) where
  /-- In ascending order of the names. -/
  entries : List (String × δ)

namespace Registry

variable {δ : Type}

def empty : Registry δ := ⟨[]⟩

def register (r : Registry δ) (name : String) (driver : δ) : Registry δ :=
  ⟨Ordered.insert (Text.lower name) driver r.entries⟩

def registerAll (r : Registry δ) (names : List String) (driver : δ) : Registry δ :=
  names.foldl (fun r name => r.register name driver) r

/-- `register` for a registry in the making. -/
def withDriver (r : Registry δ) (name : String) (driver : δ) : Registry δ := r.register name driver

/-- The key that a query asks for; blanks around a name do not count. -/
def key (query : String) : String := Text.lower (Text.trim query)

def find? (r : Registry δ) (query : String) : Option δ := Ordered.find? (key query) r.entries

def resolve (r : Registry δ) (query : String) : Except Database.Error δ :=
  match r.find? query with
  | some driver => .ok driver
  | none => .error (.driverNotFound query)

def contains (r : Registry δ) (query : String) : Bool := (r.find? query).isSome

/-- The registered names in ascending order. -/
def names (r : Registry δ) : List String := r.entries.map Prod.fst

def inspect (r : Registry δ) : String :=
  Text.Inspect.record "DriverRegistry" [("drivers", Text.Inspect.list Text.quoted r.names)] true

end Registry

end BatchInsert
