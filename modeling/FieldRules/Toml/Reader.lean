import FieldRules.Toml.Scalar

/-!
Reading TOML text: lines with keys and values, table headers, comments. Values in arrays and inline
tables may go over lines and may end with a comma. Reading gives nothing for a malformed document
and for one that defines a key twice.
-/

namespace FieldRules.Toml

/-- How deep arrays and inline tables may be nested. -/
def maxDepth : Nat := 80

/-- Characters that texts and comments may hold: all but the controls other than the tab. -/
def isPlain (c : Char) : Bool := c == '\t' || (decide (0x20 ≤ c.toNat) && c.toNat != 0x7f)

def isSpace (c : Char) : Bool := c == ' ' || c == '\t'

def skipSpaces (text : List Char) : List Char := text.dropWhile isSpace

def takeNewline? : List Char → Option (List Char)
  | '\n' :: rest => some rest
  | '\r' :: '\n' :: rest => some rest
  | _ => none

def skipComment (text : List Char) : List Char :=
  match skipSpaces text with
  | '#' :: rest => rest.dropWhile isPlain
  | rest => rest

def skipLines : (fuel : Nat) → List Char → List Char
  | 0, text => text
  | fuel + 1, text =>
    let rest := skipComment text
    match takeNewline? rest with
    | some rest => skipLines fuel rest
    | none => rest

def skipAll (text : List Char) : List Char := skipLines (text.length + 1) text

/-- The character of a hexadecimal number of a fixed count of digits, and the text after it. -/
def takeHexChar (count : Nat) (text : List Char) : Option (Char × List Char) :=
  let digits := text.take count
  let n := ofDigitsIn 16 digits
  if digits.length = count ∧ digits.all (isDigitIn 16) then
    if h : n.isValidChar then some (Char.ofNatAux n h, text.drop count) else none
  else none

def takeEscape : List Char → Option (Char × List Char)
  | 'b' :: rest => some ('\x08', rest)
  | 't' :: rest => some ('\t', rest)
  | 'n' :: rest => some ('\n', rest)
  | 'f' :: rest => some ('\x0c', rest)
  | 'r' :: rest => some ('\r', rest)
  | 'e' :: rest => some ('\x1b', rest)
  | '"' :: rest => some ('"', rest)
  | '\\' :: rest => some ('\\', rest)
  | 'x' :: rest => takeHexChar 2 rest
  | 'u' :: rest => takeHexChar 4 rest
  | 'U' :: rest => takeHexChar 8 rest
  | _ => none

def readBasic : (fuel : Nat) → List Char → Option (List Char × List Char)
  | 0, _ => none
  | _, [] => none
  | fuel + 1, c :: rest =>
    if c = '"' then some ([], rest)
    else if c = '\\' then do
      let (escaped, rest) ← takeEscape rest
      let (text, rest) ← readBasic fuel rest
      return (escaped :: text, rest)
    else if isPlain c then (readBasic fuel rest).map fun (text, rest) => (c :: text, rest)
    else none

def readLiteral : List Char → Option (List Char × List Char)
  | [] => none
  | c :: rest =>
    if c = '\'' then some ([], rest)
    else if isPlain c then (readLiteral rest).map fun (text, rest) => (c :: text, rest)
    else none

/-- The quotes at the start of a text: those that belong to a string of several lines, and the rest
if the string ends there. Up to two quotes may stand before the three that end it. -/
def takeClosing (quote : Char) (text : List Char) : List Char × Option (List Char) :=
  let count := (text.takeWhile (· == quote)).length
  if count < 3 then (List.replicate count quote, none)
  else
    let inner := min count 5 - 3
    (List.replicate inner quote, some (text.drop (inner + 3)))

/-- Skips white space after a backslash that ends a line. Gives nothing if there is no line end. -/
def skipLineEnd? (text : List Char) : Option (List Char) :=
  (takeNewline? (skipSpaces text)).map fun rest =>
    rest.dropWhile fun c => isSpace c || c == '\n' || c == '\r'

def readMultiBasic : (fuel : Nat) → List Char → Option (List Char × List Char)
  | 0, _ => none
  | _, [] => none
  | fuel + 1, c :: rest =>
    if c = '"' then
      match takeClosing '"' (c :: rest) with
      | (quotes, some rest) => some (quotes, rest)
      | (quotes, none) =>
        (readMultiBasic fuel ((c :: rest).drop quotes.length)).map fun (text, rest) =>
          (quotes ++ text, rest)
    else if c = '\\' then
      match skipLineEnd? rest with
      | some rest => readMultiBasic fuel rest
      | none => do
        let (escaped, rest) ← takeEscape rest
        let (text, rest) ← readMultiBasic fuel rest
        return (escaped :: text, rest)
    else if isPlain c ∨ c = '\n' ∨ (c = '\r' ∧ rest.head? = some '\n') then
      (readMultiBasic fuel rest).map fun (text, rest) => (c :: text, rest)
    else none

def readMultiLiteral : (fuel : Nat) → List Char → Option (List Char × List Char)
  | 0, _ => none
  | _, [] => none
  | fuel + 1, c :: rest =>
    if c = '\'' then
      match takeClosing '\'' (c :: rest) with
      | (quotes, some rest) => some (quotes, rest)
      | (quotes, none) =>
        (readMultiLiteral fuel ((c :: rest).drop quotes.length)).map fun (text, rest) =>
          (quotes ++ text, rest)
    else if isPlain c ∨ c = '\n' ∨ (c = '\r' ∧ rest.head? = some '\n') then
      (readMultiLiteral fuel rest).map fun (text, rest) => (c :: text, rest)
    else none

/-- A line end right after the opening quotes does not count. -/
def dropFirstNewline (text : List Char) : List Char := (takeNewline? text).getD text

def readString (text : List Char) : Option (List Char × List Char) :=
  match text with
  | '"' :: '"' :: '"' :: rest => readMultiBasic (text.length + 1) (dropFirstNewline rest)
  | '\'' :: '\'' :: '\'' :: rest => readMultiLiteral (text.length + 1) (dropFirstNewline rest)
  | '"' :: rest => readBasic (text.length + 1) rest
  | '\'' :: rest => readLiteral rest
  | _ => none

def isKeyChar (c : Char) : Bool := c.isAlphanum || c == '_' || c == '-'

def readKeyPart (text : List Char) : Option (String × List Char) :=
  match text with
  | '"' :: rest =>
    (readBasic (text.length + 1) rest).map fun (key, rest) => (String.ofList key, rest)
  | '\'' :: rest => (readLiteral rest).map fun (key, rest) => (String.ofList key, rest)
  | text =>
    let key := text.takeWhile isKeyChar
    if key.isEmpty then none else some (String.ofList key, text.dropWhile isKeyChar)

/-- Reads a key: parts with points between them. -/
def readKey : (fuel : Nat) → List Char → Option (List String × List Char)
  | 0, _ => none
  | fuel + 1, text =>
    match readKeyPart (skipSpaces text) with
    | none => none
    | some (part, rest) =>
      match skipSpaces rest with
      | '.' :: rest => (readKey fuel rest).map fun (parts, rest) => (part :: parts, rest)
      | rest => some ([part], rest)

def isWordChar (c : Char) : Bool :=
  c.isAlphanum || c == '_' || c == '-' || c == '+' || c == '.' || c == ':'

/-- Takes a word. A blank between a date and a time belongs to it. -/
def takeWord (text : List Char) : List Char × List Char :=
  let word := text.takeWhile isWordChar
  let rest := text.dropWhile isWordChar
  match rest with
  | ' ' :: a :: b :: ':' :: more =>
    if (Datetime.takeDate word).any (·.2.isEmpty) ∧ Numeral.isDigit a ∧ Numeral.isDigit b then
      let time := (a :: b :: ':' :: more).takeWhile isWordChar
      (word ++ ' ' :: time, (a :: b :: ':' :: more).dropWhile isWordChar)
    else (word, rest)
  | _ => (word, rest)

/-- Adds a value under a key to a table that is not made by dotted keys. -/
def addKey (key : List String) (value : Toml) (entries : Entries) : Option Entries :=
  match key.getLast? with
  | none => none
  | some last => Entries.addValue last value key.dropLast entries

mutual

/-- Reads a value at a depth. -/
def readValue : (fuel depth : Nat) → List Char → Option (Toml × List Char)
  | 0, _, _ => none
  | fuel + 1, depth, text =>
    match text with
    | '[' :: rest =>
      if maxDepth ≤ depth then none
      else (readItems fuel (depth + 1) rest).map fun (items, rest) => (.array items, rest)
    | '\x7b' :: rest =>
      if maxDepth ≤ depth then none
      else
        (readInline fuel (depth + 1) [] rest).map fun (entries, rest) =>
          (.table (membersOf entries), rest)
    | '"' :: _ =>
      (readString text).map fun (value, rest) => (.string (String.ofList value), rest)
    | '\'' :: _ =>
      (readString text).map fun (value, rest) => (.string (String.ofList value), rest)
    | text =>
      let (word, rest) := takeWord text
      (scalar? word).map fun value => (value, rest)

def readItems : (fuel depth : Nat) → List Char → Option (List Toml × List Char)
  | 0, _, _ => none
  | fuel + 1, depth, text =>
    match skipAll text with
    | ']' :: rest => some ([], rest)
    | text =>
      match readValue fuel depth text with
      | none => none
      | some (item, rest) =>
        match skipAll rest with
        | ',' :: rest =>
          (readItems fuel depth rest).map fun (items, rest) => (item :: items, rest)
        | ']' :: rest => some ([item], rest)
        | _ => none

def readInline : (fuel depth : Nat) → Entries → List Char → Option (Entries × List Char)
  | 0, _, _, _ => none
  | fuel + 1, depth, entries, text =>
    match skipAll text with
    | '\x7d' :: rest => some (entries, rest)
    | text =>
      match readKey (text.length + 1) text with
      | some (key, '=' :: rest) =>
        match readValue fuel depth (skipSpaces rest) with
        | none => none
        | some (value, rest) =>
          match addKey key value entries with
          | none => none
          | some entries =>
            match skipAll rest with
            | ',' :: rest => readInline fuel depth entries rest
            | '\x7d' :: rest => some (entries, rest)
            | _ => none
      | _ => none

end

/-- What has been read of a document: its entries, and the table that keys go into. -/
structure DocumentState where
  entries : Entries
  current : List String

/-- Reads what one line is about and the rest of the text from its comment on. -/
def readLine (s : DocumentState) (text : List Char) : Option (DocumentState × List Char) :=
  match text with
  | '[' :: '[' :: rest => do
    let (key, rest) ← readKey (rest.length + 1) rest
    let ']' :: ']' :: rest := rest | none
    let last ← key.getLast?
    let entries ← Entries.changeAt (Entries.openItem last) key.dropLast s.entries
    return (⟨entries, key⟩, rest)
  | '[' :: rest => do
    let (key, rest) ← readKey (rest.length + 1) rest
    let ']' :: rest := rest | none
    let last ← key.getLast?
    let entries ← Entries.changeAt (Entries.openTable last) key.dropLast s.entries
    return (⟨entries, key⟩, rest)
  | text => do
    let (key, rest) ← readKey (text.length + 1) text
    let '=' :: rest := rest | none
    let rest := skipSpaces rest
    let (value, rest) ← readValue (2 * rest.length + 2) 0 rest
    let entries ← Entries.changeAt (addKey key value) s.current s.entries
    return (⟨entries, s.current⟩, rest)

def readLinesFrom : (fuel : Nat) → DocumentState → List Char → Option Entries
  | 0, _, _ => none
  | fuel + 1, s, text =>
    match skipAll text with
    | [] => some s.entries
    | text =>
      match readLine s text with
      | none => none
      | some (s, rest) =>
        match skipComment rest with
        | [] => some s.entries
        | rest =>
          match takeNewline? rest with
          | some rest => readLinesFrom fuel s rest
          | none => none

/-- The members of the document that a text holds. A byte order mark in front is skipped. -/
def read? (text : String) : Option (List (String × Toml)) :=
  let chars :=
    match text.toList with
    | '\ufeff' :: rest => rest
    | chars => chars
  (readLinesFrom (chars.length + 1) ⟨[], []⟩ chars).map membersOf

end FieldRules.Toml
