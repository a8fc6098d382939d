import FieldRules.Json.Basic
import FieldRules.Toml.Datetime

/-!
TOML values, and the tables of a document while it is read. A table can be opened by a header, be
implied by the header of a table inside it, or be made by a dotted key; which of these it is decides
what may still be added to it.
-/

namespace FieldRules

/-- A TOML value. A float without a value is infinite or not a number. The members of a table have
distinct keys in increasing order. -/
inductive Toml where
  | string (value : String)
  | integer (value : Int)
  | float (value : Option Binary64)
  | bool (value : Bool)
  | datetime (value : Datetime)
  | array (items : List Toml)
  | table (members : List (String × Toml))
deriving Inhabited

namespace Toml

inductive TableOrigin where
  | header
  | implied
  | dotted
deriving DecidableEq, Repr

/-- What a key of a document stands for while the document is read. -/
inductive Node where
  | value (value : Toml)
  | table (origin : TableOrigin) (entries : List (String × Node))
  /-- The entries of an array of tables, the last one first. -/
  | tables (items : List (List (String × Node)))
deriving Inhabited

abbrev Entries := List (String × Node)

namespace Entries

def get? (entries : Entries) (key : String) : Option Node := entries.lookup key

def put (entries : Entries) (key : String) (node : Node) : Entries :=
  Json.insertMember key node entries

/-- Adds a value under a key whose other parts name tables on the way; in an array of tables the
last one is meant. The table it goes into must be one of its own, or one made by dotted keys. -/
def addValue (key : String) (value : Toml) :
    (path : List String) → Entries → Option Entries
  | [], entries =>
    match get? entries key with
    | some _ => none
    | none => some (put entries key (.value value))
  | [part], entries =>
    match get? entries part with
    | none => some (put entries part (.table .dotted [(key, .value value)]))
    | some (.table .dotted inner) =>
      (addValue key value [] inner).map fun inner =>
        put entries part (.table .dotted inner)
    | some _ => none
  | part :: rest, entries =>
    match get? entries part with
    | none =>
      (addValue key value rest []).map fun inner =>
        put entries part (.table .dotted inner)
    | some (.table .header _) => none
    | some (.table origin inner) =>
      (addValue key value rest inner).map fun inner =>
        put entries part (.table origin inner)
    | some (.tables (last :: before)) =>
      (addValue key value rest last).map fun last =>
        put entries part (.tables (last :: before))
    | some _ => none

/-- Changes the table at a path, making the tables on the way that are missing. In an array of
tables the last one is meant. -/
def changeAt (change : Entries → Option Entries) : (path : List String) → Entries → Option Entries
  | [], entries => change entries
  | part :: rest, entries =>
    match get? entries part with
    | none => (changeAt change rest []).map fun inner => put entries part (.table .implied inner)
    | some (.table origin inner) =>
      (changeAt change rest inner).map fun inner => put entries part (.table origin inner)
    | some (.tables (last :: before)) =>
      (changeAt change rest last).map fun last => put entries part (.tables (last :: before))
    | some _ => none

/-- Opens a table by its header. It may have been implied before, but not opened. -/
def openTable (key : String) (entries : Entries) : Option Entries :=
  match get? entries key with
  | none => some (put entries key (.table .header []))
  | some (.table .implied inner) => some (put entries key (.table .header inner))
  | some _ => none

/-- Opens the next table of an array of tables. -/
def openItem (key : String) (entries : Entries) : Option Entries :=
  match get? entries key with
  | none => some (put entries key (.tables [[]]))
  | some (.tables items) => some (put entries key (.tables ([] :: items)))
  | some _ => none

end Entries

mutual

def Node.toToml : Node → Toml
  | .value value => value
  | .table _ entries => .table (membersOf entries)
  | .tables items => .array (itemsOf items).reverse

def membersOf : List (String × Node) → List (String × Toml)
  | [] => []
  | (key, node) :: rest => (key, node.toToml) :: membersOf rest

def itemsOf : List (List (String × Node)) → List Toml
  | [] => []
  | entries :: rest => .table (membersOf entries) :: itemsOf rest

end

/-- The member under which a date or time stands where a table is expected. -/
def datetimeKey : String := "$__toml_private_datetime"

mutual

/-- A value in JSON. Infinite floats and those that are no numbers become null, dates and times an
object; an integer has to fit 64 bits. -/
def toJson? : Toml → Option Json
  | .string s => some (.string s)
  | .integer n =>
    if Int64.minValue.toInt ≤ n ∧ n < UInt64.size then some (.integer n) else none
  | .float (some x) => some (.float x)
  | .float none => some .null
  | .bool b => some (.bool b)
  | .datetime value => some (.object [(datetimeKey, .string value.text)])
  | .array items => (itemsToJson? items).map Json.array
  | .table members => (membersToJson? members).map Json.object

def itemsToJson? : List Toml → Option (List Json)
  | [] => some []
  | item :: rest =>
    match toJson? item, itemsToJson? rest with
    | some value, some values => some (value :: values)
    | _, _ => none

def membersToJson? : List (String × Toml) → Option (List (String × Json))
  | [] => some []
  | (key, item) :: rest =>
    match toJson? item, membersToJson? rest with
    | some value, some values => some ((key, value) :: values)
    | _, _ => none

end

/-- The members of a value that counts as a table. -/
def members? : Toml → Option (List (String × Toml))
  | .table members => some members
  | .datetime value => some [(datetimeKey, .string value.text)]
  | _ => none

end Toml

end FieldRules
