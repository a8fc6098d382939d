import FieldRules.Json.Basic
import FieldRules.Text.Split
import FieldRules.Text.Quoted

/-!
JSON documents as written: members in their order with their repetitions, numbers as literals,
strings with their numeric escapes. A document may be well formed and still have no value, because
a number exceeds the finite range, an escape names half of a surrogate pair, or the nesting is too
deep; a reader that skips a part of a document does not ask for its value.
-/

namespace FieldRules.Json

/-- A number literal: the digits before the point, those after it, and the exponent with a flag for
a minus sign. -/
structure Literal where
  negative : Bool
  whole : List Char
  fraction : Option (List Char)
  exponent : Option (Bool × List Char)
deriving DecidableEq, Repr, Inhabited

/-- A piece of a string: a character, or the number of a `\u` escape. -/
inductive Piece where
  | char (c : Char)
  | unit (n : Nat)
deriving DecidableEq, Repr, Inhabited

inductive Tree where
  | null
  | bool (value : Bool)
  | number (literal : Literal)
  | string (pieces : List Piece)
  | array (items : List Tree)
  | object (members : List (List Piece × Tree))
deriving Inhabited

namespace Piece

def isHighSurrogate (n : Nat) : Bool := decide (0xd800 ≤ n) && decide (n < 0xdc00)

def isLowSurrogate (n : Nat) : Bool := decide (0xdc00 ≤ n) && decide (n < 0xe000)

/-- The text of a string: two escapes that form a surrogate pair give one character, and half a
pair gives none. -/
def decode? : List Piece → Option (List Char)
  | [] => some []
  | .char c :: rest => (decode? rest).map (c :: ·)
  | .unit high :: .unit low :: rest =>
    if isHighSurrogate high && isLowSurrogate low then
      (decode? rest).map (Char.ofNat (0x10000 + (high - 0xd800) * 0x400 + (low - 0xdc00)) :: ·)
    else if isHighSurrogate high || isLowSurrogate high then none
    else (decode? (.unit low :: rest)).map (Char.ofNat high :: ·)
  | .unit n :: rest =>
    if isHighSurrogate n || isLowSurrogate n then none
    else (decode? rest).map (Char.ofNat n :: ·)

def ofString (text : String) : List Piece := text.toList.map .char

def string? (pieces : List Piece) : Option String := (decode? pieces).map String.ofList

/-- Four lower-case hexadecimal digits. -/
def fourDigits (n : Nat) : List Char :=
  let digits := Nat.toDigits 16 n
  List.replicate (4 - digits.length) '0' ++ digits

/-- A piece as it is written: quotes, backslashes and control characters are escaped. -/
def render : Piece → List Char
  | .unit n => '\\' :: 'u' :: fourDigits n
  | .char c =>
    if c = '"' then ['\\', '"']
    else if c = '\\' then ['\\', '\\']
    else if c = '\n' then ['\\', 'n']
    else if c = '\r' then ['\\', 'r']
    else if c = '\t' then ['\\', 't']
    else if c.toNat = 0x08 then ['\\', 'b']
    else if c.toNat = 0x0c then ['\\', 'f']
    else if c.toNat < 0x20 then '\\' :: 'u' :: fourDigits c.toNat
    else [c]

def renderAll (pieces : List Piece) : List Char := '"' :: (pieces.flatMap render ++ ['"'])

end Piece

namespace Literal

def render (literal : Literal) : List Char :=
  (if literal.negative then ['-'] else []) ++ literal.whole ++
    (match literal.fraction with
      | some digits => '.' :: digits
      | none => []) ++
    (match literal.exponent with
      | some (negative, digits) => 'e' :: (if negative then '-' :: digits else digits)
      | none => [])

def ofInt (n : Int) : Literal := ⟨decide (n < 0), Nat.toDigits 10 n.natAbs, none, none⟩

end Literal

namespace Tree

mutual

def render : Tree → List Char
  | .null => ['n', 'u', 'l', 'l']
  | .bool true => ['t', 'r', 'u', 'e']
  | .bool false => ['f', 'a', 'l', 's', 'e']
  | .number literal => literal.render
  | .string pieces => Piece.renderAll pieces
  | .array items => '[' :: (Text.joinChars [','] (renderItems items) ++ [']'])
  | .object members => '{' :: (Text.joinChars [','] (renderMembers members) ++ ['}'])

def renderItems : List Tree → List (List Char)
  | [] => []
  | item :: rest => render item :: renderItems rest

def renderMembers : List (List Piece × Tree) → List (List Char)
  | [] => []
  | (key, value) :: rest =>
    (Piece.renderAll key ++ ':' :: render value) :: renderMembers rest

end

def text (tree : Tree) : String := String.ofList tree.render

def ofString (value : String) : Tree := .string (Piece.ofString value)

def ofInt (n : Int) : Tree := .number (Literal.ofInt n)

def ofMembers (members : List (String × Tree)) : Tree :=
  .object (members.map fun (key, value) => (Piece.ofString key, value))

end Tree

mutual

/-- The compact text of a value, its members in key order. -/
def render : Json → List Char
  | .null => ['n', 'u', 'l', 'l']
  | .bool true => ['t', 'r', 'u', 'e']
  | .bool false => ['f', 'a', 'l', 's', 'e']
  | .integer n => (Literal.ofInt n).render
  | .float x => x.text.toList
  | .string s => Piece.renderAll (Piece.ofString s)
  | .array items => '[' :: (Text.joinChars [','] (renderItems items) ++ [']'])
  | .object members => '{' :: (Text.joinChars [','] (renderMembers members) ++ ['}'])

def renderItems : List Json → List (List Char)
  | [] => []
  | item :: rest => render item :: renderItems rest

def renderMembers : List (String × Json) → List (List Char)
  | [] => []
  | (key, value) :: rest =>
    (Piece.renderAll (Piece.ofString key) ++ ':' :: render value) :: renderMembers rest

end

def text (value : Json) : String := String.ofList value.render

end FieldRules.Json
