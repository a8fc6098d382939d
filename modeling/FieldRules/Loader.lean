import FieldRules.Document.Json
import FieldRules.Document.Toml
import FieldRules.Journal.Record
import FieldRules.Text.Split

/-!
Loading definitions from files. The format of a file goes by the extension of its name, in any
case; what the file holds is given as the result of reading it.
-/

namespace FieldRules

inductive FileFormat where
  | json
  | toml
deriving DecidableEq, Repr

namespace FileFormat

def ofExtension? (extension : String) : Option FileFormat :=
  match Text.lowerAscii extension with
  | "json" => some .json
  | "toml" => some .toml
  | _ => none

def readDocument (format : FileFormat) (text : String) : Except ConfigError Document :=
  match format with
  | .json =>
    match Document.readJson? text with
    | some document => .ok document
    | none => .error (.parse "JSON parse error: no definition document")
  | .toml =>
    match Document.readToml? text with
    | some document => .ok document
    | none => .error (.parse "TOML parse error: no definition document")

def readDefinition (format : FileFormat) (text : String) : Except ConfigError Definition :=
  match format.readDocument text with
  | .ok document => document.toDefinition
  | .error error => .error error

end FileFormat

/-- Why a file has no text. -/
inductive ReadFault where
  | missing
  | notUtf8
deriving DecidableEq, Repr

/-- The words of the operating system for a fault. -/
def ReadFault.text : ReadFault → String
  | .missing => "No such file or directory (os error 2)"
  | .notUtf8 => "stream did not contain valid UTF-8"

namespace Loader

/-- The last name of a path. Separators at its end and single points do not count. -/
def fileName? (path : String) : Option (List Char) :=
  let parts := (Text.splitChars '/' path.toList).filter fun part => !part.isEmpty && part != ['.']
  match parts.getLast? with
  | some ['.', '.'] => none
  | name => name

/-- What follows the last point of a name, unless nothing stands before that point. -/
def extension? (path : String) : Option String := do
  let name ← fileName? path
  let pieces := Text.splitChars '.' name
  if pieces.length < 2 ∨ (Text.joinChars ['.'] pieces.dropLast).isEmpty then none
  else return String.ofList (← pieces.getLast?)

def formatOf (path : String) : Except ConfigError FileFormat :=
  match extension? path with
  | none => .error (.load "No file extension found")
  | some extension =>
    match FileFormat.ofExtension? extension with
    | some format => .ok format
    | none => .error (.load ("Unsupported format: " ++ extension))

def loadedRecord (fields : Nat) (path : String) : Record :=
  ⟨.debug, Record.loaderTarget,
    "loaded definition with " ++ toString fields ++ " fields from " ++ path⟩

def textOf (content : Option ByteArray) : Except ReadFault String :=
  match content with
  | none => .error .missing
  | some bytes =>
    match String.fromUTF8? bytes with
    | some text => .ok text
    | none => .error .notUtf8

/-- Loads a definition in a format from a file that holds some bytes, or from none. Gives the
records of the loading too. -/
def load (format : FileFormat) (path : String) (content : Option ByteArray) :
    Except ConfigError Definition × List Record :=
  match textOf content with
  | .error fault => (.error (.load ("Failed to read " ++ path ++ ": " ++ fault.text)), [])
  | .ok text =>
    match format.readDefinition text with
    | .error error => (.error error, [])
    | .ok definition => (.ok definition, [loadedRecord definition.schema.fields.length path])

/-- Loads a definition in the format that the path stands for. -/
def loadByPath (path : String) (content : Option ByteArray) :
    Except ConfigError Definition × List Record :=
  match formatOf path with
  | .error error => (.error error, [])
  | .ok format => load format path content

end Loader

end FieldRules
