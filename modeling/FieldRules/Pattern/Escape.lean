import FieldRules.Number.Numeral
import FieldRules.Pattern.Basic
import FieldRules.Unicode.Ranges

/-!
The smallest parts of written patterns: flags, blanks and comments in verbose patterns, numbers,
and what follows a backslash. Reading a part gives it together with the rest of the text, or
nothing if the pattern is malformed; a malformed pattern has no meaning, whatever its fault.
-/

namespace FieldRules.Pattern

/-- The flags in force at a place of a pattern. With `swapGreed` a mark of reluctance asks for as
many copies as there can be. -/
structure Flags where
  caseless : Bool
  multiline : Bool
  dotAll : Bool
  unicode : Bool
  crlf : Bool
  verbose : Bool
  swapGreed : Bool
deriving DecidableEq, Repr

namespace Flags

def initial : Flags := ⟨false, false, false, true, false, false, false⟩

def words (flags : Flags) : WordClass := if flags.unicode then .unicode else .ascii

/-- A set as it is under the flags: both cases of each letter if case does not count. -/
def fold (flags : Flags) (chars : CharSet) : CharSet :=
  if !flags.caseless then chars
  else if flags.unicode then Unicode.Folding.close chars
  else Unicode.Folding.closeAscii chars

end Flags

/-- Drops blanks, and comments up to the end of their line. -/
def skipVerboseFrom (inComment : Bool) : List Char → List Char
  | [] => []
  | c :: rest =>
    if inComment then skipVerboseFrom (c != '\n') rest
    else if Text.isBlank c then skipVerboseFrom false rest
    else if c = '#' then skipVerboseFrom true rest
    else c :: rest

/-- Drops what a verbose pattern may hold between its parts. -/
def skipVerbose (flags : Flags) (text : List Char) : List Char :=
  if flags.verbose then skipVerboseFrom false text else text

def readDigitsFrom (flags : Flags) : (fuel : Nat) → List Char → List Char × List Char
  | 0, text => ([], text)
  | _, [] => ([], [])
  | fuel + 1, c :: rest =>
    if Numeral.isDigit c then
      let (digits, rest) := readDigitsFrom flags fuel (skipVerbose flags rest)
      (c :: digits, rest)
    else ([], c :: rest)

/-- Reads a count of 32 bits with blanks around it. -/
def readCount (flags : Flags) (text : List Char) : Option (Nat × List Char) :=
  let text := text.dropWhile Text.isBlank
  let (digits, rest) := readDigitsFrom flags (text.length + 1) text
  if digits.isEmpty ∨ UInt32.size ≤ Numeral.ofDigits digits then none
  else some (Numeral.ofDigits digits, rest.dropWhile Text.isBlank)

inductive Atom where
  /-- A character, and whether it was given as a byte by two hexadecimal digits. -/
  | char (c : Char) (asByte : Bool)
  | anchor (a : Anchor)
  | set (chars : CharSet)
deriving Repr

def isMeta (c : Char) : Bool := "\\.+*?()|[]\x7b\x7d^$#&-~".toList.contains c

/-- Characters that stand for themselves after a backslash: all of ASCII but letters, digits and
the two angle brackets. -/
def isPlainEscape (c : Char) : Bool :=
  isMeta c || (decide (c.toNat ≤ 0x7f) && !c.isAlphanum && c != '<' && c != '>')

def charOfHex? (digits : List Char) : Option Char :=
  let n := digits.foldl (fun n c => n * 16 + (Unicode.hexDigit? c).getD 0) 0
  if digits.isEmpty then none
  else if h : n.isValidChar then some (Char.ofNatAux n h) else none

def readHexDigits (flags : Flags) : (count : Nat) → List Char → Option (List Char × List Char)
  | 0, text => some ([], text)
  | _, [] => none
  | count + 1, c :: rest =>
    if (Unicode.hexDigit? c).isNone then none
    else
      (readHexDigits flags count (skipVerbose flags rest)).map fun (digits, rest) =>
        (c :: digits, rest)

def readHexBraces (flags : Flags) : (fuel : Nat) → List Char → Option (List Char × List Char)
  | 0, _ => none
  | _, [] => none
  | fuel + 1, c :: rest =>
    if c = '\x7d' then some ([], skipVerbose flags rest)
    else if (Unicode.hexDigit? c).isNone then none
    else
      (readHexBraces flags fuel (skipVerbose flags rest)).map fun (digits, rest) =>
        (c :: digits, rest)

/-- Reads a character by its number, after the letter that gives the number of digits. -/
def readHex (flags : Flags) (letter : Char) (text : List Char) : Option (Atom × List Char) :=
  match skipVerbose flags text with
  | '\x7b' :: rest => do
    let (digits, rest) ← readHexBraces flags (rest.length + 1) (skipVerbose flags rest)
    let c ← charOfHex? digits
    return (.char c false, rest)
  | text => do
    let count := if letter = 'x' then 2 else if letter = 'u' then 4 else 8
    let (digits, rest) ← readHexDigits flags count text
    let c ← charOfHex? digits
    return (.char c (letter == 'x'), rest)

def readNameBraces (flags : Flags) : (fuel : Nat) → List Char → Option (List Char × List Char)
  | 0, _ => none
  | _, [] => none
  | fuel + 1, c :: rest =>
    if c = '\x7d' then some ([], rest)
    else
      (readNameBraces flags fuel (skipVerbose flags rest)).map fun (name, rest) =>
        (c :: name, rest)

def cutAt? (phrase : List Char) : List Char → Option (List Char × List Char)
  | [] => none
  | c :: rest =>
    if phrase.isPrefixOf (c :: rest) then some ([], (c :: rest).drop phrase.length)
    else (cutAt? phrase rest).map fun (before, after) => (c :: before, after)

/-- The set of a property given in braces, and whether its complement is meant. -/
def namedProperty? (name : List Char) : Option (CharSet × Bool) :=
  match cutAt? ['!', '='] name with
  | some (property, value) => (Unicode.byValue? property value).map fun chars => (chars, true)
  | none =>
    match cutAt? [':'] name with
    | some (property, value) => (Unicode.byValue? property value).map fun chars => (chars, false)
    | none =>
      match cutAt? ['='] name with
      | some (property, value) => (Unicode.byValue? property value).map fun chars => (chars, false)
      | none => (Unicode.byName? name).map fun chars => (chars, false)

/-- Reads a Unicode property, after the letter that may ask for its complement. -/
def readProperty (flags : Flags) (negated : Bool) (text : List Char) :
    Option (Atom × List Char) :=
  if !flags.unicode then none
  else
    let finish (chars : CharSet) (negated : Bool) : Atom :=
      let folded := flags.fold chars
      .set (if negated then folded.complement else folded)
    match skipVerbose flags text with
    | [] => none
    | '\x7b' :: rest => do
      let (name, rest) ← readNameBraces flags (rest.length + 1) (skipVerbose flags rest)
      let (chars, swapped) ← namedProperty? name
      return (finish chars (negated != swapped), rest)
    | c :: rest =>
      if c = '\\' then none
      else (Unicode.byName? [c]).map fun chars => (finish chars negated, skipVerbose flags rest)

/-- The set of a one-letter class. Without Unicode its complement is no set of characters. -/
def classLetter? (flags : Flags) (letter : Char) : Option CharSet :=
  let positive : CharSet :=
    if letter.toLower = 'd' then
      if flags.unicode then Unicode.digits else CharSet.range 0x30 0x39
    else if letter.toLower = 's' then
      if flags.unicode then ⟨Text.blankRanges⟩ else ⟨[(0x09, 0x0d), (0x20, 0x20)]⟩
    else if flags.unicode then unicodeWordChars
    else asciiWordChars
  if letter.isLower then some positive
  else if flags.unicode then some positive.complement
  else none

def isBoundaryLetter (c : Char) : Bool := c.isAlpha || c == '-'

/-- Takes the name of a special word boundary. -/
def readBoundaryName (flags : Flags) : (fuel : Nat) → List Char → List Char × List Char
  | 0, text => ([], text)
  | _, [] => ([], [])
  | fuel + 1, c :: rest =>
    if isBoundaryLetter c then
      let (name, rest) := readBoundaryName flags fuel (skipVerbose flags rest)
      (c :: name, rest)
    else ([], c :: rest)

/-- Reads what follows the letter of a word boundary: a name in braces, or nothing. A brace that
cannot start a name is left for a repetition. -/
def readBoundary (flags : Flags) (text : List Char) : Option (Atom × List Char) :=
  match text with
  | '\x7b' :: rest =>
    match skipVerbose flags rest with
    | [] => none
    | c :: more =>
      if !isBoundaryLetter c then some (.anchor (.boundary flags.words), text)
      else
        let (name, rest) := readBoundaryName flags (more.length + 2) (c :: more)
        match rest with
        | '\x7d' :: rest =>
          match String.ofList name with
          | "start" => some (.anchor (.wordStart flags.words), rest)
          | "end" => some (.anchor (.wordEnd flags.words), rest)
          | "start-half" => some (.anchor (.wordStartHalf flags.words), rest)
          | "end-half" => some (.anchor (.wordEndHalf flags.words), rest)
          | _ => none
        | _ => none
  | _ => some (.anchor (.boundary flags.words), text)

def controlEscape? (c : Char) : Option Char :=
  if c = 'a' then some '\x07'
  else if c = 'f' then some '\x0c'
  else if c = 't' then some '\t'
  else if c = 'n' then some '\n'
  else if c = 'r' then some '\r'
  else if c = 'v' then some '\x0b'
  else none

/-- Reads what follows a backslash. Letters and digits without a meaning are refused. -/
def readEscape (flags : Flags) : List Char → Option (Atom × List Char)
  | [] => none
  | c :: rest =>
    if c = 'x' ∨ c = 'u' ∨ c = 'U' then readHex flags c rest
    else if c = 'p' ∨ c = 'P' then readProperty flags (c == 'P') rest
    else if "dswDSW".toList.contains c then
      (classLetter? flags c).map fun chars => (.set chars, rest)
    else if isPlainEscape c then some (.char c false, rest)
    else if c = 'b' then readBoundary flags rest
    else
      match controlEscape? c with
      | some control => some (.char control false, rest)
      | none =>
        if c = 'A' then some (.anchor .textStart, rest)
        else if c = 'z' then some (.anchor .textEnd, rest)
        else if c = 'B' then some (.anchor (.noBoundary flags.words), rest)
        else if c = '<' then some (.anchor (.wordStart flags.words), rest)
        else if c = '>' then some (.anchor (.wordEnd flags.words), rest)
        else none

end FieldRules.Pattern
