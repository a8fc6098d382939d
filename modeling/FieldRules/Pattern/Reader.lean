import FieldRules.Pattern.Class
import FieldRules.Pattern.Program
import FieldRules.Pattern.Search

/-!
Reading a written pattern. Alternatives, groups and repetitions are read here; flags set inside a
group hold up to its end, across its alternatives. A pattern is refused if it is malformed, nested
too deep, or too large as a program.
-/

namespace FieldRules.Pattern

/-- A part of a pattern as read: its term and how deep it is nested as it was written. -/
structure Part where
  term : Term
  depth : Nat

/-- An element of a sequence: a part, or a change of flags, which takes no repetition. -/
inductive Element where
  | part (p : Part)
  | flags

namespace Element

def depth : Element → Nat
  | .part p => p.depth
  | .flags => 0

def term? : Element → Option Term
  | .part p => some p.term
  | .flags => none

end Element

def nestingOf (depths : List Nat) : Nat :=
  match depths with
  | [] => 0
  | [depth] => depth
  | depths => 1 + depths.foldl max 0

/-- The sequence of elements, given last first. -/
def sequence (elements : List Element) : Part :=
  let elements := elements.reverse
  ⟨Term.ofSequence (elements.filterMap Element.term?), nestingOf (elements.map Element.depth)⟩

/-- One of the alternatives, given last first. A lone alternative is no choice. -/
def alternatives (parts : List Part) : Part :=
  match parts with
  | [part] => part
  | parts =>
    let parts := parts.reverse
    ⟨Term.ofChoice (parts.map Part.term), nestingOf (parts.map Part.depth)⟩

/-- The flags in force, the group names given so far and the number of numbered groups. -/
structure ReadState where
  flags : Flags
  names : List (List Char)
  groups : Nat

def startsName (c : Char) : Bool := c == '_' || Unicode.alphabetic.mem c

def continuesName (c : Char) : Bool :=
  c == '_' || c == '.' || c == '[' || c == ']' || Unicode.alphanumeric.mem c

/-- Reads a group name up to its angle bracket. No name is given twice. -/
def readGroupName (names : List (List Char)) (text : List Char) :
    Option (List (List Char) × List Char) :=
  let name := text.takeWhile (· != '>')
  match name, text.dropWhile (· != '>') with
  | first :: more, '>' :: rest =>
    if startsName first && more.all continuesName && !names.contains name then
      some (name :: names, rest)
    else none
  | _, _ => none

def setFlag? (flags : Flags) (letter : Char) (value : Bool) : Option Flags :=
  if letter = 'i' then some { flags with caseless := value }
  else if letter = 'm' then some { flags with multiline := value }
  else if letter = 's' then some { flags with dotAll := value }
  else if letter = 'u' then some { flags with unicode := value }
  else if letter = 'x' then some { flags with verbose := value }
  else if letter = 'R' then some { flags with crlf := value }
  else if letter = 'U' then some { flags with swapGreed := value }
  else none

/-- Reads flag letters up to a colon or a closing parenthesis. Each letter and the minus sign come
once, and a letter follows the minus sign. -/
def readFlags (flags : Flags) (seen : List Char) (last : Option Char) :
    List Char → Option (Flags × Option Char × List Char)
  | [] => none
  | c :: rest =>
    if c = ':' ∨ c = ')' then
      if last = some '-' then none else some (flags, last, c :: rest)
    else if seen.contains c then none
    else if c = '-' then readFlags flags (c :: seen) (some c) rest
    else
      match setFlag? flags c (!seen.contains '-') with
      | some flags => readFlags flags (c :: seen) (some c) rest
      | none => none

inductive GroupOpening where
  /-- A group read under the given state, and its number if it has one. -/
  | group (index? : Option Nat) (inner : ReadState)
  /-- Flags for the rest of the group around. -/
  | setFlags (flags : Flags)

namespace ReadState

def openGroup (s : ReadState) : GroupOpening :=
  .group (some (s.groups + 1)) { s with groups := s.groups + 1 }

end ReadState

/-- Reads the opening of a group after its parenthesis. Groups that look around are refused. -/
def readGroupOpening (s : ReadState) (text : List Char) : Option (GroupOpening × List Char) :=
  let named (rest : List Char) : Option (GroupOpening × List Char) :=
    (readGroupName s.names rest).map fun (names, rest) => ({ s with names }.openGroup, rest)
  match skipVerbose s.flags text with
  | '?' :: 'P' :: '<' :: rest => named rest
  | '?' :: '<' :: rest => named rest
  | '?' :: rest =>
    match readFlags s.flags [] none rest with
    | some (flags, last, ')' :: rest) =>
      if last.isNone then none else some (.setFlags flags, rest)
    | some (flags, _, ':' :: rest) => some (.group none { s with flags }, rest)
    | _ => none
  | rest => some (s.openGroup, rest)

structure Repetition where
  least : Nat
  most : Option Nat
  eager : Bool

/-- Puts a repetition in place of the last element, which has to be a part that may be nested. -/
def repeatLast (elements : List Element) (r : Repetition) : Option (List Element) :=
  match elements with
  | .part p :: before =>
    if p.depth < maxNesting then
      some (.part ⟨Term.ofCopies r.least r.most r.eager p.term, p.depth + 1⟩ :: before)
    else none
  | _ => none

/-- Takes the mark that makes a repetition reluctant. Returns whether the repetition is eager. -/
def readReluctance (flags : Flags) : List Char → Bool × List Char
  | '?' :: rest => (flags.swapGreed, rest)
  | rest => (!flags.swapGreed, rest)

def readCounted (flags : Flags) (text : List Char) : Option (Repetition × List Char) := do
  let (least, rest) ← readCount flags (skipVerbose flags text)
  let (most, rest) ←
    match rest with
    | ',' :: rest =>
      match skipVerbose flags rest with
      | '\x7d' :: rest => some (none, rest)
      | rest =>
        (readCount flags rest).bind fun (most, rest) =>
          match rest with
          | '\x7d' :: rest => if least ≤ most then some (some most, rest) else none
          | _ => none
    | '\x7d' :: rest => some (some least, rest)
    | _ => none
  let (eager, rest) := readReluctance flags (skipVerbose flags rest)
  return (⟨least, most, eager⟩, rest)

def charTerm (flags : Flags) (c : Char) (asByte : Bool) : Option Term :=
  if !flags.unicode && decide (0x7f < c.toNat) then if asByte then none else some (.text [c])
  else some (Term.ofSet (flags.fold (CharSet.single c)) !flags.unicode)

def atomTerm (flags : Flags) : Atom → Option Term
  | .char c asByte => charTerm flags c asByte
  | .anchor a => some (.look a)
  | .set chars => some (Term.ofSet chars !flags.unicode)

/-- The set of the dot: any character, or any that ends no line. -/
def dotChars? (flags : Flags) : Option CharSet :=
  if !flags.unicode then none
  else if flags.dotAll then some CharSet.full
  else if flags.crlf then some (CharSet.ofChars ['\n', '\r']).complement
  else some (CharSet.single '\n').complement

def startAnchor (flags : Flags) : Anchor :=
  if !flags.multiline then .textStart else if flags.crlf then .crlfStart else .lineStart

def endAnchor (flags : Flags) : Anchor :=
  if !flags.multiline then .textEnd else if flags.crlf then .crlfEnd else .lineEnd

/-- Reads one part that is no group: an escape, a class, an anchor or a character. -/
def readPart (flags : Flags) : List Char → Option (Part × List Char)
  | [] => none
  | c :: rest =>
    if c = '\\' then do
      let (atom, rest) ← readEscape flags rest
      let term ← atomTerm flags atom
      return (⟨term, 0⟩, rest)
    else if c = '[' then
      (readClass flags rest).map fun (side, rest) =>
        (⟨Term.ofSet side.chars !flags.unicode, side.depth⟩, rest)
    else if c = '.' then (dotChars? flags).map fun chars => (⟨Term.ofSet chars false, 0⟩, rest)
    else if c = '^' then some (⟨.look (startAnchor flags), 0⟩, rest)
    else if c = '$' then some (⟨.look (endAnchor flags), 0⟩, rest)
    else (charTerm flags c false).map fun term => (⟨term, 0⟩, rest)

def groupPart (index? : Option Nat) (inner : Part) : Part :=
  match index? with
  | some index => ⟨.group index inner.term, inner.depth + 1⟩
  | none => ⟨inner.term, inner.depth + 1⟩

/-- Reads alternatives up to a closing parenthesis, which is left, or the end of the text. What has
been read of the group is given last first: the alternatives that are complete, and the elements
of the one being read. No more groups may be nested in it than `room` tells. -/
def readGroup (room : Nat) : (fuel : Nat) → ReadState → List Part → List Element → List Char →
    Option (Part × ReadState × List Char)
  | 0, _, _, _, _ => none
  | fuel + 1, s, done, elements, text =>
    match skipVerbose s.flags text with
    | [] => some (alternatives (sequence elements :: done), s, [])
    | c :: rest =>
      if c = ')' then some (alternatives (sequence elements :: done), s, c :: rest)
      else if c = '|' then readGroup room fuel s (sequence elements :: done) [] rest
      else if c = '*' ∨ c = '+' ∨ c = '?' then
        let (eager, rest) := readReluctance s.flags rest
        let least := if c = '+' then 1 else 0
        let most := if c = '?' then some 1 else none
        match repeatLast elements ⟨least, most, eager⟩ with
        | some elements => readGroup room fuel s done elements rest
        | none => none
      else if c = '\x7b' then
        match readCounted s.flags rest with
        | some (repetition, rest) =>
          match repeatLast elements repetition with
          | some elements => readGroup room fuel s done elements rest
          | none => none
        | none => none
      else if c = '(' then
        match readGroupOpening s rest with
        | none => none
        | some (.setFlags flags, rest) =>
          readGroup room fuel { s with flags } done (.flags :: elements) rest
        | some (.group index? inner, rest) =>
          if room = 0 then none
          else
            match readGroup (room - 1) fuel inner [] [] rest with
            | some (p, after, ')' :: rest) =>
              readGroup room fuel { s with names := after.names, groups := after.groups } done
                (.part (groupPart index? p) :: elements) rest
            | _ => none
      else
        match readPart s.flags (c :: rest) with
        | some (p, rest) => readGroup room fuel s done (.part p :: elements) rest
        | none => none

/-- The pattern that a text writes. -/
def read? (text : String) : Option Pattern :=
  match readGroup maxNesting (text.length + 1) ⟨Flags.initial, [], 0⟩ [] [] text.toList with
  | some (p, _, []) =>
    if p.depth ≤ maxNesting ∧ p.term.fits = true then some p.term.pattern else none
  | _ => none

end FieldRules.Pattern
