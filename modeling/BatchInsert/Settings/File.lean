import BatchInsert.Settings.Json
import BatchInsert.Settings.Yaml
import BatchInsert.Text.Case

/-!
# Settings in files

A file whose name ends in `.json`, in letters of either case, is read as JSON and any other as
YAML.
-/

namespace BatchInsert.Settings

/-- What follows the last point of a file's name; a point at its start does not count. -/
def extension? (path : String) : Option String :=
  let reversed := (path.toList.reverse.dropWhile (· == '/')).takeWhile (· != '/')
  let ending := reversed.takeWhile (· != '.')
  match reversed.drop ending.length with
  | [] => none
  | _ :: stem =>
    if stem.isEmpty || reversed == ['.', '.'] then none else some (String.ofList ending.reverse)

def isJsonPath (path : String) : Bool :=
  ((extension? path).map (Text.sameLetters · "json")).getD false

/-- Why there is no text to read. -/
inductive FileError
  | missing
  | notText
deriving DecidableEq

def FileError.message : FileError → String
  | missing => "No such file or directory (os error 2)"
  | notText => "stream did not contain valid UTF-8"

/-- The text of a file, of which the bytes are known if it exists. -/
def fileText (bytes : Option ByteArray) : Except FileError String :=
  match bytes with
  | none => .error .missing
  | some bytes =>
    match String.fromUTF8? bytes with
    | some text => .ok text
    | none => .error .notText

/-- Settings from the file at a path. -/
def ofFile (env : Environment) (path : String) (bytes : Option ByteArray) :
    Except Problem Settings :=
  match fileText bytes with
  | .error e => .error (.unreadable path e.message)
  | .ok text => if isJsonPath path then ofJsonText env text else ofYamlText env text

end BatchInsert.Settings
