import FieldRules.Pattern.Escape

/-!
Classes in brackets: characters, ranges, escapes, named ASCII classes and nested classes, joined by
union and by the operators for intersection, difference and symmetric difference. The operators
have one precedence, weaker than union, and group to the left.
-/

namespace FieldRules.Pattern

def asciiClass? (name : String) : Option CharSet :=
  match name with
  | "alnum" => some ⟨[(0x30, 0x39), (0x41, 0x5a), (0x61, 0x7a)]⟩
  | "alpha" => some ⟨[(0x41, 0x5a), (0x61, 0x7a)]⟩
  | "ascii" => some ⟨[(0x00, 0x7f)]⟩
  | "blank" => some ⟨[(0x09, 0x09), (0x20, 0x20)]⟩
  | "cntrl" => some ⟨[(0x00, 0x1f), (0x7f, 0x7f)]⟩
  | "digit" => some ⟨[(0x30, 0x39)]⟩
  | "graph" => some ⟨[(0x21, 0x7e)]⟩
  | "lower" => some ⟨[(0x61, 0x7a)]⟩
  | "print" => some ⟨[(0x20, 0x7e)]⟩
  | "punct" => some ⟨[(0x21, 0x2f), (0x3a, 0x40), (0x5b, 0x60), (0x7b, 0x7e)]⟩
  | "space" => some ⟨[(0x09, 0x0d), (0x20, 0x20)]⟩
  | "upper" => some ⟨[(0x41, 0x5a)]⟩
  | "word" => some asciiWordChars
  | "xdigit" => some ⟨[(0x30, 0x39), (0x41, 0x46), (0x61, 0x66)]⟩
  | _ => none

/-- Reads a named ASCII class, such as `[:alpha:]`, after its opening bracket: its set, and whether
the complement is meant. Anything else is left for a nested class. -/
def readAsciiClass? (flags : Flags) (text : List Char) : Option (CharSet × Bool × List Char) :=
  match text with
  | ':' :: rest =>
    let (negated, rest) :=
      match rest with
      | '^' :: rest => (true, rest)
      | rest => (false, rest)
    let name := rest.takeWhile (· != ':')
    match rest.dropWhile (· != ':') with
    | ':' :: ']' :: rest =>
      (asciiClass? (String.ofList name)).map fun chars => (flags.fold chars, negated, rest)
    | _ => none
  | _ => none

/-- A set or its complement. Without Unicode a complement has bytes that are no characters and is
refused. -/
def complementIf? (flags : Flags) (negated : Bool) (chars : CharSet) : Option CharSet :=
  if !negated then some chars
  else if flags.unicode then some chars.complement
  else none

inductive ClassOperator where
  | intersection
  | difference
  | symmetricDifference
deriving DecidableEq, Repr

def ClassOperator.apply (op : ClassOperator) (a b : CharSet) : CharSet :=
  match op with
  | .intersection => a.inter b
  | .difference => a.difference b
  | .symmetricDifference => a.symmetricDifference b

/-- One side of an operator: its set and how deep classes are nested in it. -/
structure ClassSide where
  chars : CharSet
  depth : Nat

/-- A class as read so far: the left side of an operator, the items since then, how many they are,
and how deep classes are nested in one of them. -/
structure ClassState where
  left? : Option (ClassOperator × ClassSide)
  items : CharSet
  count : Nat
  depth : Nat

namespace ClassState

def add (s : ClassState) (chars : CharSet) (depth : Nat) : ClassState :=
  { s with items := s.items.union chars, count := s.count + 1, depth := max s.depth depth }

/-- The items as one side. Two items or more are nested in their union. -/
def side (s : ClassState) : ClassSide :=
  ⟨s.items, if 2 ≤ s.count then s.depth + 1 else s.depth⟩

def joined (flags : Flags) (s : ClassState) : ClassSide :=
  match s.left? with
  | none => s.side
  | some (op, left) =>
    ⟨op.apply (flags.fold left.chars) (flags.fold s.side.chars), max left.depth s.side.depth + 1⟩

def operator (flags : Flags) (s : ClassState) (op : ClassOperator) : ClassState :=
  ⟨some (op, s.joined flags), CharSet.empty, 0, 0⟩

end ClassState

def readClassAtom (flags : Flags) : List Char → Option (Atom × List Char)
  | [] => none
  | '\\' :: rest => readEscape flags rest
  | c :: rest => some (.char c false, rest)

/-- The next character after blanks and after marks that open a comment. The end of a line does
not end a comment here. -/
def peekVerbose (inComment : Bool) : List Char → Option Char
  | [] => none
  | c :: rest =>
    if Text.isBlank c then peekVerbose inComment rest
    else if c = '#' ∧ !inComment then peekVerbose true rest
    else some c

/-- The character that tells what a hyphen stands for, given the text after it. A verbose pattern
may have blanks before it, and if there is nothing else the first of them counts. -/
def peek? (flags : Flags) (text : List Char) : Option Char :=
  if flags.verbose then
    match peekVerbose false text with
    | some c => some c
    | none => text.head?
  else text.head?

/-- A literal hyphen stands before the closing bracket, an operator before another hyphen. -/
def startsRange (flags : Flags) : List Char → Bool
  | '-' :: rest => peek? flags rest != some ']' && peek? flags rest != some '-'
  | _ => false

/-- A character of a class. Without Unicode a class has no characters outside ASCII. -/
def classChar? (flags : Flags) : Atom → Option Char
  | .char c _ => if flags.unicode ∨ c.toNat ≤ 0x7f then some c else none
  | _ => none

def readClassItem (flags : Flags) (text : List Char) : Option (CharSet × List Char) := do
  let (first, rest) ← readClassAtom flags text
  let rest := skipVerbose flags rest
  if startsRange flags rest then
    let (second, rest) ← readClassAtom flags (skipVerbose flags (rest.drop 1))
    let low ← classChar? flags first
    let high ← classChar? flags second
    if low.toNat ≤ high.toNat then return (CharSet.range low.toNat high.toNat, rest) else none
  else
    match first with
    | .set chars => return (chars, rest)
    | atom => return (CharSet.single (← classChar? flags atom), rest)

/-- Takes the hyphens that open a class and stand for themselves, and counts them. -/
def readLeadingHyphens (flags : Flags) : (fuel : Nat) → List Char → Nat × List Char
  | fuel + 1, '-' :: rest =>
    let (count, rest) := readLeadingHyphens flags fuel (skipVerbose flags rest)
    (count + 1, rest)
  | _, text => (0, text)

/-- Reads the opening of a class after its bracket: whether it is negated, and the items that would
otherwise have a meaning. -/
def readClassOpening (flags : Flags) (text : List Char) : Bool × ClassState × List Char :=
  let text := skipVerbose flags text
  let (negated, text) :=
    match text with
    | '^' :: rest => (true, skipVerbose flags rest)
    | text => (false, text)
  match readLeadingHyphens flags (text.length + 1) text with
  | (0, ']' :: rest) => (negated, ⟨none, CharSet.single ']', 1, 0⟩, skipVerbose flags rest)
  | (0, rest) => (negated, ⟨none, CharSet.empty, 0, 0⟩, rest)
  | (count, rest) => (negated, ⟨none, CharSet.single '-', count, 0⟩, rest)

def closeClass? (flags : Flags) (negated : Bool) (s : ClassState) : Option ClassSide :=
  let side := s.joined flags
  (complementIf? flags negated (flags.fold side.chars)).map fun chars => ⟨chars, side.depth + 1⟩

/-- Reads the items of a class and its closing bracket. No more classes may be nested in it than
`room` tells. -/
def readClassItems (flags : Flags) (room : Nat) (negated : Bool) :
    (fuel : Nat) → ClassState → List Char → Option (ClassSide × List Char)
  | 0, _, _ => none
  | fuel + 1, s, text =>
    match skipVerbose flags text with
    | [] => none
    | ']' :: rest => (closeClass? flags negated s).map fun side => (side, rest)
    | '[' :: rest =>
      match readAsciiClass? flags rest with
      | some (chars, complemented, rest) =>
        match complementIf? flags complemented chars with
        | some chars => readClassItems flags room negated fuel (s.add chars 0) rest
        | none => none
      | none =>
        let (innerNegated, inner, rest) := readClassOpening flags rest
        if room = 0 then none
        else
          match readClassItems flags (room - 1) innerNegated fuel inner rest with
          | none => none
          | some (side, rest) =>
            readClassItems flags room negated fuel (s.add side.chars side.depth) rest
    | '&' :: '&' :: rest =>
      readClassItems flags room negated fuel (s.operator flags .intersection) rest
    | '-' :: '-' :: rest =>
      readClassItems flags room negated fuel (s.operator flags .difference) rest
    | '~' :: '~' :: rest =>
      readClassItems flags room negated fuel (s.operator flags .symmetricDifference) rest
    | text =>
      match readClassItem flags text with
      | none => none
      | some (chars, rest) => readClassItems flags room negated fuel (s.add chars 0) rest

def maxNesting : Nat := 250

/-- Reads a class after its opening bracket: its set, and how deep classes are nested in it. -/
def readClass (flags : Flags) (text : List Char) : Option (ClassSide × List Char) :=
  let (negated, s, rest) := readClassOpening flags text
  readClassItems flags maxNesting negated (text.length + 1) s rest

end FieldRules.Pattern
