import BatchInsert.Settings.Basic

/-!
# The schema of settings

The fields of settings documents as a JSON Schema.
-/

namespace BatchInsert.Settings

/-- An object with the given members, whatever their order. -/
def objectOf (members : List (String × Json)) : Json :=
  .object (members.foldl (fun acc (name, j) => Ordered.insert name j acc) [])

def whole (n : Nat) : Json := .number (.integer n)

/-- A text in the grave accents of running text. -/
def ticked (s : String) : String :=
  let tick := (Char.ofNat 0x60).toString
  tick ++ s ++ tick

def textSchema (description : String) : Json :=
  objectOf
    [("description", .string description), ("type", .string "string"), ("minLength", whole 1)]

def optionalSchema (description : String) (types : List (String × Json)) : Json :=
  objectOf ([("description", .string description), ("default", .null)] ++ types)

def typeOrNull (name : String) : String × Json :=
  ("type", .array [.string name, .string "null"])

def fieldSchema : Field → Json
  | .driver =>
    textSchema ("Driver name or alias, e.g. " ++ ticked "postgres" ++ " or " ++
      ticked "org.postgresql.Driver")
  | .url => textSchema "Database URL"
  | .username => optionalSchema "Database user" [typeOrNull "string"]
  | .password =>
    optionalSchema "Database password"
      [("anyOf", .array
        [objectOf [("$ref", .string "#/definitions/SensitiveString")],
          objectOf [("type", .string "null")]])]
  | .statement => textSchema "Parameterized insert statement"
  | .batchSize =>
    objectOf
      [("description", .string "Records per batch (default: 5000)"),
        ("default", whole defaultBatchSize), ("type", .string "integer"),
        ("format", .string "uint"),
        ("minimum", .number (.real (Binary.Number.ofInt .double 1)))]
  | .columnTypes =>
    optionalSchema
      ("SQL type of each placeholder, by name (" ++ ticked "VARCHAR" ++ ") or JDBC code (" ++
        ticked "12" ++ ")")
      [typeOrNull "array", ("items", objectOf [("type", .string "string")])]

def secretSchema : Json :=
  objectOf
    [("description", .string "Database password. Redacted in logs and serialized output."),
      ("type", .string "string"), ("format", .string "password")]

def schema : Json :=
  let required := [Field.driver, Field.statement, Field.url]
  objectOf
    [("$schema", .string "http://json-schema.org/draft-07/schema#"),
      ("title", .string "SinkSettings"),
      ("description", .string "Deserializable sink settings"), ("type", .string "object"),
      ("required", .array (required.map fun f => .string f.name)),
      ("properties", objectOf (Field.all.map fun f => (f.name, fieldSchema f))),
      ("definitions", objectOf [("SensitiveString", secretSchema)])]

end BatchInsert.Settings
