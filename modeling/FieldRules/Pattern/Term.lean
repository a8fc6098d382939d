import FieldRules.Pattern.Copies

/-!
Written patterns as terms. The constructors of a term are used through `Term.ofSet`,
`Term.ofCopies`, `Term.ofSequence` and `Term.ofChoice`, which bring a term into the form whose parts
are counted when room is made for it: neighbouring texts are one text, sequences and choices are
flat, and a choice of single characters is a set. `Term.pattern` is what a term means.
-/

namespace FieldRules.Pattern

inductive Term where
  | empty
  /-- One character or more, one after the other. -/
  | text (chars : List Char)
  /-- Any character of a set, and whether the set was written for bytes. -/
  | set (chars : CharSet) (forBytes : Bool)
  | look (anchor : Anchor)
  /-- At least `least` and at most `most` copies, more of them first if they are `eager`. -/
  | copies (least : Nat) (most : Option Nat) (eager : Bool) (body : Term)
  /-- A numbered group. -/
  | group (index : Nat) (body : Term)
  | sequence (parts : List Term)
  | choice (parts : List Term)
deriving BEq, Repr, Inhabited

namespace Term

mutual

/-- Whether no match takes a character, as far as the counts of copies tell. -/
def takesNothing : Term → Bool
  | .empty => true
  | .text _ => false
  | .set _ _ => false
  | .look _ => true
  | .copies _ most _ body => most.isSome && takesNothing body
  | .group _ body => takesNothing body
  | .sequence parts => allTakeNothing parts
  | .choice parts => allTakeNothing parts

def allTakeNothing : List Term → Bool
  | [] => true
  | part :: rest => takesNothing part && allTakeNothing rest

end

mutual

/-- Whether no set in the term is empty. -/
def isPossible : Term → Bool
  | .set chars _ => !chars.ranges.isEmpty
  | .copies _ _ _ body => isPossible body
  | .group _ body => isPossible body
  | .sequence parts => areAllPossible parts
  | .choice parts => areAllPossible parts
  | _ => true

def areAllPossible : List Term → Bool
  | [] => true
  | part :: rest => isPossible part && areAllPossible rest

end

mutual

/-- Whether every match takes a character. -/
def takesText : Term → Bool
  | .empty => false
  | .text _ => true
  | .set _ _ => true
  | .look _ => false
  | .copies least _ _ body => decide (0 < least) && takesText body
  | .group _ body => takesText body
  | .sequence parts => someTakesText parts
  | .choice parts => allTakeText parts

def someTakesText : List Term → Bool
  | [] => false
  | part :: rest => takesText part || someTakesText rest

def allTakeText : List Term → Bool
  | [] => true
  | part :: rest => takesText part && allTakeText rest

end

mutual

/-- Whether every match starts at the start of the text. -/
def isTiedToStart : Term → Bool
  | .look anchor => anchor == .textStart
  | .copies least _ _ body => decide (0 < least) && isTiedToStart body
  | .group _ body => isTiedToStart body
  | .sequence parts => isSequenceTiedToStart parts
  | .choice parts => areAllTiedToStart parts
  | _ => false

/-- Only parts before which no character is taken count. -/
def isSequenceTiedToStart : List Term → Bool
  | [] => false
  | part :: rest => isTiedToStart part || (takesNothing part && isSequenceTiedToStart rest)

def areAllTiedToStart : List Term → Bool
  | [] => true
  | part :: rest => isTiedToStart part && areAllTiedToStart rest

end

mutual

/-- Whether every match ends at the end of the text. -/
def isTiedToEnd : Term → Bool
  | .look anchor => anchor == .textEnd
  | .copies least _ _ body => decide (0 < least) && isTiedToEnd body
  | .group _ body => isTiedToEnd body
  | .sequence parts => isSequenceTiedToEnd parts
  | .choice parts => areAllTiedToEnd parts
  | _ => false

/-- Only parts after which no character is taken count. -/
def isSequenceTiedToEnd : List Term → Bool
  | [] => false
  | part :: rest => (isTiedToEnd part && allTakeNothing rest) || isSequenceTiedToEnd rest

def areAllTiedToEnd : List Term → Bool
  | [] => true
  | part :: rest => isTiedToEnd part && areAllTiedToEnd rest

end

/-- Any character of a set. A set of one character is a text, and all empty sets are the same. -/
def ofSet (chars : CharSet) (forBytes : Bool) : Term :=
  match chars.ranges with
  | [] => .set CharSet.empty true
  | [(low, high)] => if low = high then .text [Char.ofNat low] else .set chars forBytes
  | _ => .set chars forBytes

/-- Copies of a term. Of a term that takes no character one copy is as good as many. -/
def ofCopies (least : Nat) (most : Option Nat) (eager : Bool) (body : Term) : Term :=
  let (least, most) :=
    if body.takesNothing then (min least 1, some (min (most.getD 1) 1)) else (least, most)
  if most = some 0 then .empty
  else if least = 1 ∧ most = some 1 then body
  else .copies least most eager body

/-- The parts of a sequence, or the term itself. -/
def sequenceParts : Term → List Term
  | .sequence parts => parts
  | term => [term]

/-- Drops empty parts and joins neighbouring texts. -/
def joinTexts : List Term → List Term
  | [] => []
  | .empty :: rest => joinTexts rest
  | .text chars :: rest =>
    match joinTexts rest with
    | .text more :: rest => .text (chars ++ more) :: rest
    | rest => .text chars :: rest
  | part :: rest => part :: joinTexts rest

def ofSequence (parts : List Term) : Term :=
  match joinTexts (parts.flatMap sequenceParts) with
  | [] => .empty
  | [part] => part
  | parts => .sequence parts

def choiceParts : Term → List Term
  | .choice parts => parts
  | term => [term]

def char? : Term → Option Char
  | .text [c] => some c
  | _ => none

def set? : Term → Option CharSet
  | .set chars _ => some chars
  | _ => none

/-- The first parts that all sequences have in common. -/
def commonParts (first : List Term) (others : List (List Term)) : List Term :=
  others.foldl
    (fun common parts => ((common.zip parts).takeWhile fun (a, b) => a == b).map Prod.fst) first

/-- A choice whose alternatives have no first part in common. Characters alone, or sets alone, are
one set. -/
def ofDistinctChoice (parts : List Term) : Term :=
  match parts.flatMap choiceParts with
  | [] => ofSet CharSet.empty true
  | [part] => part
  | parts =>
    match parts.mapM char? with
    | some chars => ofSet (CharSet.ofChars chars) false
    | none =>
      match parts.mapM set? with
      | some sets => ofSet (CharSet.unionAll sets) false
      | none => .choice parts

/-- Any one of several terms. What all alternatives start with is written once. -/
def ofChoice (parts : List Term) : Term :=
  match ofDistinctChoice parts with
  | .choice parts =>
    match parts.mapM fun | .sequence parts => some parts | _ => none with
    | some (first :: others) =>
      let common := commonParts first others
      if common.isEmpty then .choice parts
      else
        let rests := (first :: others).map fun parts => ofSequence (parts.drop common.length)
        ofSequence (common ++ [ofDistinctChoice rests])
    | _ => .choice parts
  | term => term

mutual

/-- What a term means. -/
def pattern : Term → Pattern
  | .empty => .empty
  | .text chars => literal chars
  | .set chars _ => .set chars
  | .look anchor => .look anchor
  | .copies least none _ body => repeatedFrom least (pattern body)
  | .copies least (some most) _ body => repeated least most (pattern body)
  | .group _ body => pattern body
  | .sequence parts => seqAll (patterns parts)
  | .choice parts => altAll (patterns parts)

def patterns : List Term → List Pattern
  | [] => []
  | part :: rest => pattern part :: patterns rest

end

end Term

end FieldRules.Pattern
