import BatchInsert.Environment
import BatchInsert.Settings.Basic
import BatchInsert.Yaml.Reader

/-!
# Settings in YAML

A mapping with the fields by name; unknown names are skipped. A scalar of any look is a text.
-/

namespace BatchInsert.Settings

open Yaml (Reader ReadError Reads Path)

/-- A tag at the reader. Its mismatches are placed by the list around it. -/
def yamlTag (depth : Nat) (path : Path) (r : Reader) : Except ReadError (Sql.Tag × Reader) := do
  let (found, r) ← Reader.any depth path r
  let tag := match found with
    | .scalar s => Sql.Tag.ofScalar s
    | _ => .error Sql.Tag.notTag
  match tag with
  | .ok t => return (t, r)
  | .error m => Reader.reject m

def mapYaml {α β : Type} (f : α → β) (read : Reads α) : Reads β := fun r =>
  (read r).map fun (a, r) => (f a, r)

def yamlItem (f : Field) (depth : Nat) (path : Path) : Reads Item :=
  let text := Reader.text "a string" path
  match f with
  | .driver => mapYaml .driver text
  | .url => mapYaml .url text
  | .username => mapYaml .username (Reader.option text)
  | .password => mapYaml .password (Reader.option text)
  | .statement => mapYaml .statement text
  | .batchSize => mapYaml .batchSize (Reader.natural (2 ^ 64) "usize" path)
  | .columnTypes => mapYaml .columnTypes (Reader.option (Reader.sequence yamlTag depth path))

/-- A field and its value, the key being at hand. -/
def yamlPair (depth : Nat) (key : Yaml.Node.Kind) (p : Partial) (r : Reader) :
    Except ReadError (Partial × Reader) := do
  let (name, r) ← Reader.text "field identifier" [] r
  match Field.ofName? name with
  | none => return (p, ← r.ignore)
  | some f =>
    if p.has f then Reader.reject (.duplicateField f.name)
    let (item, r) ← yamlItem f depth (Reader.valuePath [] key) r
    return (p.put item, r)

/-- Settings from a YAML text with its references to the environment replaced. -/
def ofYamlText (env : Environment) (s : String) : Except Problem Settings :=
  let read := Reader.mapping expectation yamlPair .empty Partial.complete
  match Reader.whole read (env.expand s) with
  | .ok settings => settings.check
  | .error e => .error (.unparsable e.message)

end BatchInsert.Settings
