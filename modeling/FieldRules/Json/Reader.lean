import FieldRules.Json.Literal
import FieldRules.Unicode.Ranges

/-!
Reading JSON text. `Tree.read?` accepts exactly one document with blanks around it; `value?` gives
the value of a document. Arrays and objects may be nested 127 deep in what is given a value, and
without a limit in what is skipped.
-/

namespace FieldRules.Json

namespace Tree

/-- The blanks of JSON, which are fewer than white space. -/
def isBlank (c : Char) : Bool := c == ' ' || c == '\t' || c == '\n' || c == '\r'

def skipBlanks (text : List Char) : List Char := text.dropWhile isBlank

def shortEscape? (c : Char) : Option Char :=
  if c = '"' ∨ c = '\\' ∨ c = '/' then some c
  else if c = 'b' then some '\x08'
  else if c = 'f' then some '\x0c'
  else if c = 'n' then some '\n'
  else if c = 'r' then some '\r'
  else if c = 't' then some '\t'
  else none

/-- The number of four hexadecimal digits. -/
def hexUnit? (a b c d : Char) : Option Nat := do
  let a ← Unicode.hexDigit? a
  let b ← Unicode.hexDigit? b
  let c ← Unicode.hexDigit? c
  let d ← Unicode.hexDigit? d
  return ((a * 16 + b) * 16 + c) * 16 + d

/-- Reads a string after its opening quote. Control characters have to be escaped. -/
def readString : List Char → Option (List Piece × List Char)
  | [] => none
  | '"' :: rest => some ([], rest)
  | '\\' :: 'u' :: a :: b :: c :: d :: rest => do
    let n ← hexUnit? a b c d
    let (pieces, rest) ← readString rest
    return (.unit n :: pieces, rest)
  | '\\' :: c :: rest => do
    let escaped ← shortEscape? c
    let (pieces, rest) ← readString rest
    return (.char escaped :: pieces, rest)
  | c :: rest =>
    if c.toNat < 0x20 ∨ c = '\\' then none
    else do
      let (pieces, rest) ← readString rest
      return (.char c :: pieces, rest)

/-- Takes at least one digit. -/
def readDigits (text : List Char) : Option (List Char × List Char) :=
  let digits := text.takeWhile Numeral.isDigit
  if digits.isEmpty then none else some (digits, text.dropWhile Numeral.isDigit)

def readFraction : List Char → Option (Option (List Char) × List Char)
  | '.' :: rest => (readDigits rest).map fun (digits, rest) => (some digits, rest)
  | rest => some (none, rest)

def readExponent (text : List Char) : Option (Option (Bool × List Char) × List Char) :=
  match text with
  | e :: rest =>
    if e = 'e' ∨ e = 'E' then
      let (negative, rest) := Numeral.takeSign rest
      (readDigits rest).map fun (digits, rest) => (some (negative, digits), rest)
    else some (none, text)
  | [] => some (none, [])

/-- Reads a number. No further digit follows a leading zero. -/
def readNumber (text : List Char) : Option (Tree × List Char) := do
  let (negative, text) :=
    match text with
    | '-' :: rest => (true, rest)
    | rest => (false, rest)
  let (whole, text) ← readDigits text
  if whole.head? = some '0' ∧ whole.length ≠ 1 then none
  else
    let (fraction, text) ← readFraction text
    let (exponent, text) ← readExponent text
    return (.number ⟨negative, whole, fraction, exponent⟩, text)

mutual

def readValue : (fuel : Nat) → List Char → Option (Tree × List Char)
  | 0, _ => none
  | fuel + 1, text =>
    match skipBlanks text with
    | 'n' :: 'u' :: 'l' :: 'l' :: rest => some (.null, rest)
    | 't' :: 'r' :: 'u' :: 'e' :: rest => some (.bool true, rest)
    | 'f' :: 'a' :: 'l' :: 's' :: 'e' :: rest => some (.bool false, rest)
    | '"' :: rest => (readString rest).map fun (pieces, rest) => (.string pieces, rest)
    | '[' :: rest =>
      match skipBlanks rest with
      | ']' :: rest => some (.array [], rest)
      | rest => (readItems fuel rest).map fun (items, rest) => (.array items, rest)
    | '{' :: rest =>
      match skipBlanks rest with
      | '}' :: rest => some (.object [], rest)
      | rest => (readMembers fuel rest).map fun (members, rest) => (.object members, rest)
    | rest => readNumber rest

def readItems : (fuel : Nat) → List Char → Option (List Tree × List Char)
  | 0, _ => none
  | fuel + 1, text =>
    match readValue fuel text with
    | none => none
    | some (item, rest) =>
      match skipBlanks rest with
      | ',' :: rest => (readItems fuel rest).map fun (items, rest) => (item :: items, rest)
      | ']' :: rest => some ([item], rest)
      | _ => none

def readMembers : (fuel : Nat) → List Char → Option (List (List Piece × Tree) × List Char)
  | 0, _ => none
  | fuel + 1, text =>
    match skipBlanks text with
    | '"' :: rest =>
      match readString rest with
      | none => none
      | some (key, rest) =>
        match skipBlanks rest with
        | ':' :: rest =>
          match readValue fuel rest with
          | none => none
          | some (value, rest) =>
            match skipBlanks rest with
            | ',' :: rest =>
              (readMembers fuel rest).map fun (members, rest) => ((key, value) :: members, rest)
            | '}' :: rest => some ([(key, value)], rest)
            | _ => none
        | _ => none
    | _ => none

end

/-- Reads a text that holds one document. Each call takes a character or hands on to one that
does, so twice the length bounds the depth of calls. -/
def read? (text : List Char) : Option Tree :=
  match readValue (2 * text.length + 2) text with
  | some (tree, rest) => if (skipBlanks rest).isEmpty then some tree else none
  | none => none

mutual

/-- The value of a document nested at most `room` deep. -/
def value? : (room : Nat) → Tree → Option Json
  | _, .null => some Json.null
  | _, .bool b => some (Json.bool b)
  | _, .number literal => literal.value?
  | _, .string pieces => (Piece.string? pieces).map Json.string
  | 0, .array _ => none
  | room + 1, .array items => (values? room items).map Json.array
  | 0, .object _ => none
  | room + 1, .object members => (memberValues? room members).map Json.ofMembers

def values? : (room : Nat) → List Tree → Option (List Json)
  | _, [] => some []
  | room, item :: rest =>
    match value? room item, values? room rest with
    | some value, some values => some (value :: values)
    | _, _ => none

def memberValues? : (room : Nat) → List (List Piece × Tree) → Option (List (String × Json))
  | _, [] => some []
  | room, (key, item) :: rest =>
    match Piece.string? key, value? room item, memberValues? room rest with
    | some key, some value, some values => some ((key, value) :: values)
    | _, _, _ => none

end

end Tree

/-- How deep a value may be nested. -/
def maxDepth : Nat := 127

def read? (text : String) : Option Json :=
  (Tree.read? text.toList).bind (Tree.value? maxDepth)

end FieldRules.Json
