import FieldRules.Pattern.Term
import FieldRules.Text.Utf8
import Std.Data.HashMap

/-!
The room that a pattern takes as a program. A program is an automaton that reads bytes; a pattern
has one that reads a text forwards and one that reads it backwards, and it is too large if one of
the two takes more than `Program.maxSize` bytes. No automaton is built: laying out a term adds its
states to the count of those laid out before, and their ranges and branches to the room they take.

States that a set has in common are laid out once, as far as they are remembered. A memory has a
fixed number of slots, the slot of a state follows from its contents, and a state put into a slot
drives out the one before it. The contents include the numbers of later states, so copies of one set
may take different room.
-/

namespace FieldRules.Pattern

/-- What has been laid out: how many states, and the bytes taken by their ranges and branches. -/
structure Program where
  states : Nat
  extra : Nat
deriving DecidableEq, Repr

namespace Program

def empty : Program := ⟨0, 0⟩

/-- The bytes of a state without its ranges and branches. -/
def stateSize : Nat := 32

def rangeSize : Nat := 8

def branchSize : Nat := 4

/-- The room of a program: that of each state and what its ranges and branches add. -/
def size (p : Program) : Nat := stateSize * p.states + p.extra

def maxSize : Nat := 10 * 1024 * 1024

/-- Adds states that read one byte or none and lead on to one other. -/
def plain (p : Program) (count : Nat) : Program := { p with states := p.states + count }

def ranges (p : Program) (count : Nat) : Program := ⟨p.states + 1, p.extra + rangeSize * count⟩

def branch (p : Program) (count : Nat) : Program := ⟨p.states + 1, p.extra + branchSize * count⟩

/-- Lays something out a number of times, or until there is too much of it. -/
def iterate (lay : Program → Program) : Nat → Program → Program
  | 0, p => p
  | count + 1, p => if maxSize < p.size then p else iterate lay count (lay p)

/-- A range of bytes and the state that it leads on to. -/
structure Step where
  low : Nat
  high : Nat
  next : Nat
deriving DecidableEq, Repr

/-- The slot of numbers in a memory with a given number of slots. -/
def slot (slots : Nat) (numbers : List Nat) : Nat :=
  (numbers.foldl (fun hash n => (hash ^^^ n.toUInt64) * 1099511628211)
    (14695981039346656037 : UInt64)).toNat % slots

/-- A program that is being laid out, and the states remembered in it by their slots. -/
structure Draft where
  program : Program
  remembered : Std.HashMap Nat (List Step × Nat)

namespace Draft

def stateSlots : Nat := 10000

def backwardSlots : Nat := 1000

/-- The state that is remembered in a slot, if it takes the given steps. -/
def find? (d : Draft) (place : Nat) (steps : List Step) : Option Nat :=
  match d.remembered[place]? with
  | some (known, state) => if known = steps then some state else none
  | none => none

/-- Remembers the steps of the last state of a program. -/
def remember (d : Draft) (place : Nat) (steps : List Step) (program : Program) : Nat × Draft :=
  let state := program.states - 1
  (state, ⟨program, d.remembered.insert place (steps, state)⟩)

/-- The state that takes the given steps. -/
def state (d : Draft) (steps : List Step) : Nat × Draft :=
  let place := slot stateSlots (steps.flatMap fun step => [step.low, step.high, step.next])
  match d.find? place steps with
  | some state => (state, d)
  | none => d.remember place steps (d.program.ranges steps.length)

/-- The state that reads a byte of a range and leads on to another. -/
def stateBefore (d : Draft) (next : Nat) (range : Nat × Nat) : Nat × Draft :=
  let steps := [⟨range.1, range.2, next⟩]
  let place := slot backwardSlots [next, range.1, range.2]
  match d.find? place steps with
  | some state => (state, d)
  | none => d.remember place steps (d.program.plain 1)

/-- Lays out the state that reads one of several sequences of bytes, and those after it. Sequences
that start with the same range stand together and go on from one state. -/
def layTree (target : Nat) : (depth : Nat) → List (List (Nat × Nat)) → Draft → Nat × Draft
  | 0, _, d => (target, d)
  | depth + 1, sequences, d =>
    let groups := sequences.splitBy fun a b => a.head? == b.head?
    let (steps, d) := groups.foldl
      (fun (steps, d) group =>
        match group with
        | (range :: rest) :: _ =>
          let (next, d) :=
            if rest.isEmpty then (target, d) else layTree target depth (group.map List.tail) d
          (⟨range.1, range.2, next⟩ :: steps, d)
        | _ => (steps, d))
      ([], d)
    d.state steps.reverse

/-- Lays out a state for each byte of a sequence, up to the state after it. -/
def layBackwards (d : Draft) (target : Nat) (sequence : List (Nat × Nat)) : Draft :=
  (sequence.foldl (fun (next, d) range => stateBefore d next range) (target, d)).2

end Draft

def longestCharacter : Nat := 4

inductive Direction where
  | forwards
  | backwards
deriving DecidableEq, Repr

/-- Lays out a set. A set of ASCII characters has one state and the state after it. -/
def laySet (direction : Direction) (chars : CharSet) (p : Program) : Program :=
  if chars.isAscii then (p.plain 1).ranges chars.ranges.length
  else
    let sequences := chars.ranges.flatMap Text.Utf8.sequences
    match direction with
    | .forwards =>
      ((⟨p.plain 1, ∅⟩ : Draft).layTree p.states longestCharacter sequences).2.program
    | .backwards =>
      let start := (p.branch sequences.length).plain 1
      let draft : Draft := ⟨start, ∅⟩
      (sequences.foldl (fun d sequence => d.layBackwards (p.states + 1) sequence) draft).program

/-- Lays out a choice of texts by their first bytes, one state for each start that several texts
share. Where a text ends the later texts stand apart from those before, and nothing is laid out
for a text that ends alone. -/
def layWords : (length : Nat) → List (List UInt8) → Program → Program
  | 0, _, p => p
  | length + 1, words, p =>
    let rest := words.dropWhile List.isEmpty
    if rest.isEmpty then p
    else
      let groups := rest.splitBy fun a b => a.isEmpty == b.isEmpty
      let ends := (if rest.length < words.length then 1 else 0) + rest.countP List.isEmpty
      let chunks := groups.filter fun group => group.any fun word => !word.isEmpty
      let p := chunks.foldl
        (fun p chunk =>
          let firsts := (chunk.filterMap List.head?).eraseDups
          let p := firsts.foldl
            (fun p first =>
              layWords length ((chunk.filter fun word => word.head? == some first).map List.tail) p)
            p
          if firsts.length = 1 then p.plain 1 else p.ranges firsts.length)
        p
      p.branch (ends + chunks.length)

end Program

namespace Term

def bytes? : Term → Option (List UInt8)
  | .text chars => some (chars.flatMap String.utf8EncodeChar)
  | _ => none

mutual

/-- Lays a term out after what a program has already. Required copies are laid out one after the
other. A further copy, or going back to the last one, takes a state with two branches; two are taken
to come back to a body that may match the empty text. -/
def lay (direction : Program.Direction) : Term → Program → Program
  | .empty, p => p.plain 1
  | .text chars, p => p.plain (chars.flatMap String.utf8EncodeChar).length
  | .set chars _, p => Program.laySet direction chars p
  | .look _, p => p.plain 1
  | .copies least none _ body, p =>
    if 0 < least then (Program.iterate (lay direction body) least p).branch 2
    else if body.isPossible && body.takesText then lay direction body (p.branch 2)
    else (((lay direction body p).branch 2).branch 2).plain 1
  | .copies least (some most) _ body, p =>
    if least = most then Program.iterate (lay direction body) least p
    else if least = 0 ∧ most = 1 then (lay direction body (p.branch 2)).plain 1
    else
      let p := if least = 0 then p.plain 1 else Program.iterate (lay direction body) least p
      Program.iterate (fun p => lay direction body (p.branch 2)) (most - least) (p.plain 1)
  | .group _ body, p =>
    match direction with
    | .forwards => (lay direction body (p.plain 1)).plain 1
    | .backwards => lay direction body p
  | .sequence parts, p =>
    match direction with
    | .forwards => layForwards parts p
    | .backwards => layBackwards parts p
  | .choice parts, p =>
    match parts.mapM bytes? with
    | some words =>
      Program.layWords ((words.map List.length).foldl max 0 + 1) words (p.plain 1)
    | none => layChoice direction parts.length 2 parts p

def layForwards : List Term → Program → Program
  | [], p => p
  | part :: rest, p => layForwards rest (lay .forwards part p)

def layBackwards : List Term → Program → Program
  | [], p => p
  | part :: rest, p => lay .backwards part (layBackwards rest p)

/-- Lays out `count` alternatives. The state that leads to them and the one after them follow the
second alternative. -/
def layChoice (direction : Program.Direction) (count before : Nat) :
    List Term → Program → Program
  | [], p => p
  | part :: rest, p =>
    let p := lay direction part p
    layChoice direction count (before - 1) rest
      (if before = 1 then (p.branch count).plain 1 else p)

end

/-- Whether every match is tied to the end of the text at which reading starts. -/
def isTied (direction : Program.Direction) (term : Term) : Bool :=
  match direction with
  | .forwards => term.isTiedToStart
  | .backwards => term.isTiedToEnd

/-- The program of a term. Unless a match is tied to one place, characters before it are skipped. A
program that reads forwards notes where a match begins and ends. -/
def program (direction : Program.Direction) (term : Term) : Program :=
  let start :=
    if term.isTied direction then Program.empty.plain 1
    else ((Program.empty.branch 2).plain 1).ranges 1
  match direction with
  | .forwards => (term.lay .forwards (start.plain 1)).plain 2
  | .backwards => (term.lay .backwards start).plain 1

/-- How many texts make a choice that is searched without a program. -/
def wordListSize : Nat := 3000

/-- Whether a term is a choice of many texts and nothing else. -/
def isWordList : Term → Bool
  | .choice parts => decide (wordListSize ≤ parts.length) && parts.all (·.bytes?.isSome)
  | _ => false

/-- Whether there is room for both programs of a term, or no need of them. -/
def fits (term : Term) : Bool :=
  term.isWordList ||
    (decide ((term.program .backwards).size ≤ Program.maxSize) &&
      decide ((term.program .forwards).size ≤ Program.maxSize))

end Term

end FieldRules.Pattern
