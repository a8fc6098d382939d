import FieldRules.Text.Blank
import FieldRules.Unicode

/-!
Patterns and what they match. `Matches p before text after` says that `p` matches `text` where it
stands between `before` and `after`: an anchor matches the empty text and looks only at the
characters on either side. Greed plays no part, because only the existence of a match is asked.
-/

namespace FieldRules

/-- Which characters make up words for a boundary. -/
inductive WordClass where
  | ascii
  | unicode
deriving DecidableEq, Repr, Hashable

def asciiWordChars : CharSet := ⟨[(0x30, 0x39), (0x41, 0x5a), (0x5f, 0x5f), (0x61, 0x7a)]⟩

def unicodeWordChars : CharSet := Unicode.wordChars

def WordClass.mem : WordClass → Char → Bool
  | .ascii, c => asciiWordChars.mem c
  | .unicode, c => unicodeWordChars.mem c

/-- A condition on the two characters around a position. -/
inductive Anchor where
  | textStart
  | textEnd
  | lineStart
  | lineEnd
  | crlfStart
  | crlfEnd
  | boundary (words : WordClass)
  | noBoundary (words : WordClass)
  | wordStart (words : WordClass)
  | wordEnd (words : WordClass)
  | wordStartHalf (words : WordClass)
  | wordEndHalf (words : WordClass)
deriving DecidableEq, Repr, Hashable

namespace Anchor

def onWord (words : WordClass) : Option Char → Bool
  | some c => words.mem c
  | none => false

/-- Whether the condition holds between two characters; `none` stands for an end of the text. With
carriage returns counted, a carriage return with a line feed after it is one line end. -/
def holds (before after : Option Char) : Anchor → Bool
  | .textStart => before.isNone
  | .textEnd => after.isNone
  | .lineStart => before.isNone || before == some '\n'
  | .lineEnd => after.isNone || after == some '\n'
  | .crlfStart =>
    before.isNone || before == some '\n' || (before == some '\r' && after != some '\n')
  | .crlfEnd =>
    after.isNone || after == some '\r' || (after == some '\n' && before != some '\r')
  | .boundary words => onWord words before != onWord words after
  | .noBoundary words => onWord words before == onWord words after
  | .wordStart words => !onWord words before && onWord words after
  | .wordEnd words => onWord words before && !onWord words after
  | .wordStartHalf words => !onWord words before
  | .wordEndHalf words => !onWord words after

end Anchor

/-- A pattern. `times least most p` stands for at least `least` and at most `most` copies. A pattern
carries its hash, so that a search need not look at all parts of it. -/
inductive Pattern where
  | empty
  | set (chars : CharSet)
  | look (anchor : Anchor)
  | seq (first second : Pattern)
  | alt (left right : Pattern)
  | star (body : Pattern)
  | times (least most : Nat) (body : Pattern)
with
  @[computed_field] code : Pattern → UInt64
    | .empty => 1
    | .set chars => mixHash 2 (hash chars)
    | .look anchor => mixHash 3 (hash anchor)
    | .seq first second => mixHash 4 (mixHash (code first) (code second))
    | .alt left right => mixHash 5 (mixHash (code left) (code right))
    | .star body => mixHash 6 (code body)
    | .times least most body => mixHash 7 (mixHash (hash least) (mixHash (hash most) (code body)))
deriving Repr, Inhabited

namespace Pattern

instance : Hashable Pattern := ⟨code⟩

/-- Patterns are compared part by part, without a look at parts that are one object. -/
def decideEq (p q : Pattern) : Decidable (p = q) :=
  withPtrEqDecEq p q fun _ =>
    match p with
    | .empty =>
      match q with
      | .empty => isTrue rfl
      | .set _ | .look _ | .seq _ _ | .alt _ _ | .star _ | .times _ _ _ => isFalse nofun
    | .set a =>
      match q with
      | .set b =>
        match decEq a b with
        | isFalse h => isFalse fun same => h (set.inj same)
        | isTrue h => isTrue (h ▸ rfl)
      | .empty | .look _ | .seq _ _ | .alt _ _ | .star _ | .times _ _ _ => isFalse nofun
    | .look a =>
      match q with
      | .look b =>
        match decEq a b with
        | isFalse h => isFalse fun same => h (look.inj same)
        | isTrue h => isTrue (h ▸ rfl)
      | .empty | .set _ | .seq _ _ | .alt _ _ | .star _ | .times _ _ _ => isFalse nofun
    | .seq a b =>
      match q with
      | .seq c d =>
        match decideEq a c with
        | isFalse h => isFalse fun same => h (seq.inj same).1
        | isTrue h =>
          match decideEq b d with
          | isFalse h' => isFalse fun same => h' (seq.inj same).2
          | isTrue h' => isTrue (h ▸ h' ▸ rfl)
      | .empty | .set _ | .look _ | .alt _ _ | .star _ | .times _ _ _ => isFalse nofun
    | .alt a b =>
      match q with
      | .alt c d =>
        match decideEq a c with
        | isFalse h => isFalse fun same => h (alt.inj same).1
        | isTrue h =>
          match decideEq b d with
          | isFalse h' => isFalse fun same => h' (alt.inj same).2
          | isTrue h' => isTrue (h ▸ h' ▸ rfl)
      | .empty | .set _ | .look _ | .seq _ _ | .star _ | .times _ _ _ => isFalse nofun
    | .star a =>
      match q with
      | .star b =>
        match decideEq a b with
        | isFalse h => isFalse fun same => h (star.inj same)
        | isTrue h => isTrue (h ▸ rfl)
      | .empty | .set _ | .look _ | .seq _ _ | .alt _ _ | .times _ _ _ => isFalse nofun
    | .times least most a =>
      match q with
      | .times least' most' b =>
        if h : least = least' ∧ most = most' then
          match decideEq a b with
          | isFalse h' => isFalse fun same => h' (times.inj same).2.2
          | isTrue h' => isTrue (by rw [h.1, h.2, h'])
        else isFalse fun same => h ⟨(times.inj same).1, (times.inj same).2.1⟩
      | .empty | .set _ | .look _ | .seq _ _ | .alt _ _ | .star _ => isFalse nofun

instance : DecidableEq Pattern := decideEq

/-- Most patterns that differ have different hashes. -/
instance : BEq Pattern := ⟨fun p q => p.code == q.code && decide (p = q)⟩

instance : LawfulBEq Pattern where
  rfl := by simp [BEq.beq]
  eq_of_beq same := by simpa using (Bool.and_eq_true_iff.mp same).2

/-- The texts that a pattern matches between two given texts. -/
inductive Matches : Pattern → List Char → List Char → List Char → Prop where
  | empty {before after} : Matches .empty before [] after
  | set {chars before c after} (member : chars.mem c = true) : Matches (.set chars) before [c] after
  | look {anchor before after} (holds : anchor.holds before.getLast? after.head? = true) :
      Matches (.look anchor) before [] after
  | seq {p q before u v after} (first : Matches p before u (v ++ after))
      (second : Matches q (before ++ u) v after) : Matches (.seq p q) before (u ++ v) after
  | left {p q before u after} (left : Matches p before u after) :
      Matches (.alt p q) before u after
  | right {p q before u after} (right : Matches q before u after) :
      Matches (.alt p q) before u after
  | starNone {p before after} : Matches (.star p) before [] after
  | starMore {p before u v after} (first : Matches p before u (v ++ after))
      (more : Matches (.star p) (before ++ u) v after) : Matches (.star p) before (u ++ v) after
  | timesNone {most p before after} : Matches (.times 0 most p) before [] after
  | timesMore {least most p before u v after} (first : Matches p before u (v ++ after))
      (more : Matches (.times (least - 1) most p) (before ++ u) v after) :
      Matches (.times least (most + 1) p) before (u ++ v) after

/-- Whether a pattern matches some part of a text. -/
def Occurs (p : Pattern) (text : List Char) : Prop :=
  ∃ before part after, text = before ++ part ++ after ∧ Matches p before part after

def single (c : Char) : Pattern := .set (CharSet.single c)

def never : Pattern := .set CharSet.empty

def seqAll : List Pattern → Pattern
  | [] => .empty
  | [p] => p
  | p :: rest => .seq p (seqAll rest)

def altAll : List Pattern → Pattern
  | [] => never
  | [p] => p
  | p :: rest => .alt p (altAll rest)

def literal (text : List Char) : Pattern := seqAll (text.map single)

def optional (p : Pattern) : Pattern := .times 0 1 p

def plus (p : Pattern) : Pattern := .seq p (.star p)

end Pattern

end FieldRules
