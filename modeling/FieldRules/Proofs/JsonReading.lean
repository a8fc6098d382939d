import Mathlib.Data.List.Induction
import FieldRules.Json.Reader
import FieldRules.Proofs.Pieces

/-! JSON documents that are written and read again. The documents that are written here hold
texts and integers. What is read has the same value: a control character that has no short escape
comes back as a numeric one, which stands for the character, and all else comes back as it was. -/
namespace FieldRules.Json

namespace Tree

variable {rest : List Char}

theorem readString_short {e c : Char} (other : e ≠ 'u') (stands : shortEscape? e = some c) :
    readString ('\\' :: e :: rest) =
      (readString rest).map fun (pieces, rest) => (.char c :: pieces, rest) := by
  rw [readString]
  · rw [stands]
    cases readString rest <;> rfl
  · rintro _ _ _ _ _ ⟨⟩
    contradiction

theorem readString_unit {a b c d : Char} {n : Nat} (digits : hexUnit? a b c d = some n) :
    readString ('\\' :: 'u' :: a :: b :: c :: d :: rest) =
      (readString rest).map fun (pieces, rest) => (.unit n :: pieces, rest) := by
  rw [readString, digits]
  cases readString rest <;> rfl

theorem readString_plain {c : Char} (quote : c ≠ '"') (backslash : c ≠ '\\')
    (shown : 0x20 ≤ c.toNat) : readString (c :: rest) =
      (readString rest).map fun (pieces, rest) => (.char c :: pieces, rest) := by
  rw [readString]
  · rw [if_neg (by simp [backslash]; omega)]
    cases readString rest <;> rfl
  · exact quote
  · exact fun _ _ _ _ _ same => absurd same backslash
  · exact fun _ _ same => absurd same backslash

end Tree

namespace Piece

theorem string?_ofString (text : String) : string? (ofString text) = some text := by
  have chars (chars : List Char) : decode? (chars.map .char) = some chars := by
    induction chars with
    | nil => rfl
    | cons c rest ih => rw [List.map_cons, decode?, ih, Option.map_some]
  rw [string?, ofString, chars, Option.map_some, String.ofList_toList]

/-- Below the surrogates an escape stands for a character whatever follows it. -/
theorem decode?_unit {n : Nat} (below : n < 0xd800) (rest : List Piece) :
    decode? (.unit n :: rest) = (decode? rest).map (Char.ofNat n :: ·) := by
  have surrogate : isHighSurrogate n = false ∧ isLowSurrogate n = false := by
    simp only [isHighSurrogate, isLowSurrogate, Bool.and_eq_false_iff, decide_eq_false_iff_not]
    omega
  obtain ⟨high, low⟩ := surrogate
  cases rest with
  | nil => simp [decode?, high, low]
  | cons piece more =>
    cases piece with
    | char c => simp [decode?, high, low]
    | unit next =>
      rw [decode?]
      simp [high, low]

theorem fourDigits_control : ∀ n < 0x20,
    fourDigits n = ['0', '0', (n / 16).digitChar, (n % 16).digitChar] ∧
      Tree.hexUnit? '0' '0' (n / 16).digitChar (n % 16).digitChar = some n := by
  decide

/-- A character as it is written is read as one piece, and the piece stands for it. -/
theorem exists_readString_cons (c : Char) (rest : List Char) :
    ∃ piece, (∀ more, decode? (piece :: more) = (decode? more).map (c :: ·)) ∧
      Tree.readString ((Piece.char c).render ++ rest) =
        (Tree.readString rest).map fun (pieces, rest) => (piece :: pieces, rest) := by
  have short {e : Char} (other : e ≠ 'u') (stands : Tree.shortEscape? e = some c) :
      ∃ piece, (∀ more, decode? (piece :: more) = (decode? more).map (c :: ·)) ∧
        Tree.readString (['\\', e] ++ rest) =
          (Tree.readString rest).map fun (pieces, rest) => (piece :: pieces, rest) :=
    ⟨.char c, fun _ => rfl, Tree.readString_short other stands⟩
  rw [render]
  split_ifs with quote backslash feed carriage tab bell form control
  · exact short (by decide) (by subst quote; decide)
  · exact short (by decide) (by subst backslash; decide)
  · exact short (by decide) (by subst feed; decide)
  · exact short (by decide) (by subst carriage; decide)
  · exact short (by decide) (by subst tab; decide)
  · obtain rfl : c = '\x08' := Char.toNat_inj.mp bell
    exact short (by decide) (by decide)
  · obtain rfl : c = '\x0c' := Char.toNat_inj.mp form
    exact short (by decide) (by decide)
  · obtain ⟨written, read⟩ := fourDigits_control c.toNat control
    refine ⟨.unit c.toNat, ?_, ?_⟩
    · intro more
      rw [decode?_unit (by omega), Char.ofNat_toNat]
    · rw [written]
      exact Tree.readString_unit read
  · exact ⟨.char c, fun _ => rfl, Tree.readString_plain quote backslash (by omega)⟩

theorem exists_readString_flatMap (chars rest : List Char) :
    ∃ pieces, decode? pieces = some chars ∧
      Tree.readString ((chars.map .char).flatMap render ++ '"' :: rest) = some (pieces, rest) := by
  induction chars with
  | nil => exact ⟨[], rfl, rfl⟩
  | cons c chars ih =>
    obtain ⟨pieces, meant, read⟩ := ih
    obtain ⟨piece, means, step⟩ :=
      exists_readString_cons c ((chars.map .char).flatMap render ++ '"' :: rest)
    refine ⟨piece :: pieces, ?_, ?_⟩
    · rw [means, meant]
      rfl
    · rw [List.map_cons, List.flatMap_cons, List.append_assoc, step, read]
      rfl

/-- A text in quotes is read up to its closing quote, and nothing is lost of it. -/
theorem exists_readString_renderAll (text : String) :
    ∃ body, renderAll (ofString text) = '"' :: body ∧
      ∀ rest, ∃ pieces, string? pieces = some text ∧
        Tree.readString (body ++ rest) = some (pieces, rest) := by
  refine ⟨_, rfl, fun rest => ?_⟩
  obtain ⟨pieces, meant, read⟩ := exists_readString_flatMap text.toList rest
  refine ⟨pieces, ?_, ?_⟩
  · rw [string?, meant, Option.map_some, String.ofList_toList]
  · rw [List.append_assoc]
    exact read

end Piece

namespace Tree

/-- What may follow a number: nothing that it could go on with. -/
def Ends (rest : List Char) : Prop :=
  ∀ c ∈ rest.head?, Numeral.isDigit c = false ∧ c ≠ '.' ∧ c ≠ 'e' ∧ c ≠ 'E'

theorem ends_nil : Ends [] := fun _ member => absurd member (Option.not_mem_none _)

theorem ends_cons {c : Char} (mark : c ∈ [',', ']', '}']) (rest : List Char) :
    Ends (c :: rest) := by
  intro d member
  obtain rfl : c = d := Option.mem_some.mp member
  simp only [List.mem_cons, List.not_mem_nil, or_false] at mark
  rcases mark with rfl | rfl | rfl
  · decide
  · decide
  · decide

theorem isDigit_of_mem_toDigits {n : Nat} {c : Char} (member : c ∈ Nat.toDigits 10 n) :
    Numeral.isDigit c = true :=
  Nat.isDigit_of_mem_toDigits (by decide) (by decide) member

/-- Only the numeral of zero begins with a zero. -/
theorem eq_zero_of_head? {n : Nat} (zero : (Nat.toDigits 10 n).head? = some '0') : n = 0 := by
  induction n using Nat.base_induction 10 (by decide) with
  | single m small => simpa [Nat.toDigits_of_lt_base small] using zero
  | digit m k small positive ih =>
    rw [← Nat.toDigits_append_toDigits (by decide) positive small,
      List.head?_append_of_ne_nil _ Nat.toDigits_ne_nil] at zero
    rw [ih zero] at positive
    contradiction

theorem render_ofInt (n : Int) :
    (ofInt n).render = (if n < 0 then ['-'] else []) ++ Nat.toDigits 10 n.natAbs := by
  simp [ofInt, render, Literal.render, Literal.ofInt]

/-- A number begins with a minus sign or a digit. -/
theorem exists_head_ofInt (n : Int) : ∃ c more, (ofInt n).render = c :: more ∧
    ∀ mark, mark ≠ '-' ∧ Numeral.isDigit mark = false → c ≠ mark := by
  rw [render_ofInt]
  by_cases negative : n < 0
  · rw [if_pos negative]
    exact ⟨'-', Nat.toDigits 10 n.natAbs, rfl, fun mark other => other.1.symm⟩
  · obtain ⟨c, more, first⟩ :=
      List.exists_cons_of_ne_nil (Nat.toDigits_ne_nil (b := 10) (n := n.natAbs))
    have digit : Numeral.isDigit c = true := isDigit_of_mem_toDigits (first ▸ List.mem_cons_self)
    rw [if_neg negative]
    refine ⟨c, more, first, ?_⟩
    rintro mark ⟨_, none⟩ rfl
    rw [none] at digit
    contradiction

section Numbers

variable {rest : List Char} (ends : Ends rest)
include ends

theorem readDigits_append {digits : List Char} (nonempty : digits ≠ [])
    (all : ∀ c ∈ digits, Numeral.isDigit c = true) :
    readDigits (digits ++ rest) = some (digits, rest) := by
  have stop : rest.takeWhile Numeral.isDigit = [] ∧ rest.dropWhile Numeral.isDigit = rest := by
    cases rest with
    | nil => exact ⟨rfl, rfl⟩
    | cons c more => simp [(ends c rfl).1]
  rw [readDigits, List.takeWhile_append_of_pos all, List.dropWhile_append_of_pos all, stop.1,
    stop.2, List.append_nil]
  simp [nonempty]

theorem readFraction_of_ends : readFraction rest = some (none, rest) := by
  cases rest with
  | nil => rfl
  | cons c more =>
    rw [readFraction]
    rintro _ ⟨⟩
    exact absurd rfl (ends '.' rfl).2.1

theorem readExponent_of_ends : readExponent rest = some (none, rest) := by
  cases rest with
  | nil => rfl
  | cons c more =>
    obtain ⟨_, _, small, capital⟩ := ends c rfl
    simp [readExponent, small, capital]

theorem readNumber_ofInt (n : Int) :
    readNumber ((ofInt n).render ++ rest) = some (ofInt n, rest) := by
  have digits := readDigits_append ends (Nat.toDigits_ne_nil (b := 10) (n := n.natAbs))
    fun c member => isDigit_of_mem_toDigits member
  have leading : ¬ ((Nat.toDigits 10 n.natAbs).head? = some '0' ∧
      (Nat.toDigits 10 n.natAbs).length ≠ 1) := by
    rintro ⟨zero, longer⟩
    rw [eq_zero_of_head? zero] at longer
    exact longer rfl
  rw [render_ofInt, List.append_assoc]
  by_cases negative : n < 0
  · simp only [if_pos negative, List.cons_append, List.nil_append, readNumber, digits, bind,
      Option.bind, if_neg leading, readFraction_of_ends ends, readExponent_of_ends ends]
    simp [ofInt, Literal.ofInt, negative]
  · rw [if_neg negative, List.nil_append, readNumber]
    · simp only [digits, bind, Option.bind, if_neg leading, readFraction_of_ends ends,
        readExponent_of_ends ends]
      simp [ofInt, Literal.ofInt, negative]
    · intro later same
      have member : '-' ∈ Nat.toDigits 10 n.natAbs := by
        obtain ⟨c, more, first⟩ :=
          List.exists_cons_of_ne_nil (Nat.toDigits_ne_nil (b := 10) (n := n.natAbs))
        rw [first, List.cons_append] at same
        rw [first, (List.cons.inj same).1]
        exact List.mem_cons_self
      exact absurd (isDigit_of_mem_toDigits member) (by decide)

end Numbers

theorem skipBlanks_cons {c : Char} (shown : isBlank c = false) (rest : List Char) :
    skipBlanks (c :: rest) = c :: rest :=
  List.dropWhile_cons_of_neg (by simp [shown])

/-- The text of a document is read as a document of the same value, whatever follows it. -/
structure Reads (tree : Tree) : Prop where
  first : ∃ c more, tree.render = c :: more ∧ isBlank c = false ∧ c ≠ ']'
  value : ∀ fuel rest, 2 * tree.render.length ≤ fuel → Ends rest →
    ∃ read, readValue fuel (tree.render ++ rest) = some (read, rest) ∧
      ∀ room, value? room read = value? room tree

theorem Reads.of_first {tree : Tree} {c : Char} {more : List Char}
    (written : tree.render = c :: more) (shown : isBlank c = false) (other : c ≠ ']')
    (value : ∀ fuel rest, 2 * tree.render.length ≤ fuel + 1 → Ends rest →
      ∃ read, readValue (fuel + 1) (tree.render ++ rest) = some (read, rest) ∧
        ∀ room, value? room read = value? room tree) : tree.Reads := by
  refine ⟨⟨c, more, written, shown, other⟩, ?_⟩
  intro fuel rest enough ends
  cases fuel with
  | zero =>
    rw [written, List.length_cons] at enough
    omega
  | succ fuel => exact value fuel rest enough ends

theorem reads_string (text : String) : (ofString text).Reads := by
  refine .of_first rfl (by decide) (by decide) ?_
  intro fuel rest _ _
  obtain ⟨body, written, readText⟩ := Piece.exists_readString_renderAll text
  obtain ⟨pieces, meant, done⟩ := readText rest
  refine ⟨.string pieces, ?_, ?_⟩
  · rw [ofString, render, written, List.cons_append, readValue, skipBlanks_cons (by decide)]
    simp only [done, Option.map_some]
  · intro room
    simp only [ofString, value?, meant, Piece.string?_ofString]

theorem reads_ofInt (n : Int) : (ofInt n).Reads := by
  obtain ⟨c, more, first, differs⟩ := exists_head_ofInt n
  have shown : isBlank c = false := by
    simp only [isBlank, Bool.or_eq_false_iff, beq_eq_false_iff_ne]
    exact ⟨⟨⟨differs ' ' (by decide), differs '\t' (by decide)⟩, differs '\n' (by decide)⟩,
      differs '\r' (by decide)⟩
  refine .of_first first shown (differs ']' (by decide)) ?_
  intro fuel rest _ ends
  refine ⟨ofInt n, ?_, fun _ => rfl⟩
  have read := readNumber_ofInt ends n
  rw [first, List.cons_append] at read ⊢
  rw [readValue, skipBlanks_cons shown]
  split
  · next same => exact absurd (List.cons.inj same).1 (differs 'n' (by decide))
  · next same => exact absurd (List.cons.inj same).1 (differs 't' (by decide))
  · next same => exact absurd (List.cons.inj same).1 (differs 'f' (by decide))
  · next same => exact absurd (List.cons.inj same).1 (differs '"' (by decide))
  · next same => exact absurd (List.cons.inj same).1 (differs '[' (by decide))
  · next same => exact absurd (List.cons.inj same).1 (differs '\x7b' (by decide))
  · exact read

section Arrays

def itemsText (items : List Tree) : List Char := Text.joinChars [','] (renderItems items)

theorem itemsText_cons (item next : Tree) (more : List Tree) :
    itemsText (item :: next :: more) = item.render ++ ',' :: itemsText (next :: more) := by
  simp [itemsText, renderItems, Text.joinChars]

theorem readItems_itemsText {items : List Tree} (nonempty : items ≠ [])
    (each : ∀ item ∈ items, item.Reads) (fuel : Nat)
    (enough : 2 * (itemsText items).length < fuel) (rest : List Char) :
    ∃ read, readItems fuel (itemsText items ++ ']' :: rest) = some (read, rest) ∧
      ∀ room, values? room read = values? room items := by
  induction items generalizing fuel with
  | nil => contradiction
  | cons item items ih =>
    obtain ⟨fuel, rfl⟩ := Nat.exists_eq_add_one.mpr (Nat.zero_lt_of_lt enough)
    have value := (each item List.mem_cons_self).value fuel
    cases items with
    | nil =>
      obtain ⟨read, done, same⟩ :=
        value (']' :: rest) (Nat.lt_succ_iff.mp enough) (ends_cons (by decide) rest)
      refine ⟨[read], ?_, fun room => by simp only [values?, same]⟩
      rw [itemsText, renderItems, renderItems, Text.joinChars, readItems, done]
      rfl
    | cons next more =>
      -- An item and its comma take two characters, which pay for the call that reads the others.
      have length := congrArg List.length (itemsText_cons item next more)
      rw [List.length_append, List.length_cons] at length
      obtain ⟨read, done, same⟩ :=
        value (',' :: (itemsText (next :: more) ++ ']' :: rest)) (by omega)
          (ends_cons (by decide) _)
      obtain ⟨reads, done', same'⟩ := ih (List.cons_ne_nil next more)
        (fun item member => each item (List.mem_cons_of_mem _ member)) fuel (by omega)
      refine ⟨read :: reads, ?_, fun room => by rw [values?, same, same', ← values?]⟩
      rw [itemsText_cons, List.append_assoc, List.cons_append, readItems, done]
      simp only [skipBlanks_cons (c := ',') (by decide), done', Option.map_some]

theorem reads_array {items : List Tree} (each : ∀ item ∈ items, item.Reads) :
    (array items).Reads := by
  refine .of_first rfl (by decide) (by decide) ?_
  intro fuel rest enough _
  cases items with
  | nil => exact ⟨.array [], rfl, fun _ => rfl⟩
  | cons item more =>
    have text : (array (item :: more)).render ++ rest =
        '[' :: (itemsText (item :: more) ++ ']' :: rest) := by
      simp [render, itemsText]
    have length := congrArg List.length text
    simp only [List.length_append, List.length_cons] at length
    obtain ⟨read, done, same⟩ :=
      readItems_itemsText (List.cons_ne_nil item more) each fuel (by omega) rest
    obtain ⟨c, tail, written, shown, other⟩ : ∃ c tail, itemsText (item :: more) = c :: tail ∧
        isBlank c = false ∧ c ≠ ']' := by
      obtain ⟨c, tail, written, shown, other⟩ := (each item List.mem_cons_self).first
      cases more with
      | nil => exact ⟨c, tail, written, shown, other⟩
      | cons next more =>
        exact ⟨c, _, by rw [itemsText_cons, written, List.cons_append], shown, other⟩
    refine ⟨.array read, ?_, ?_⟩
    · rw [text, readValue, skipBlanks_cons (by decide)]
      rw [written, List.cons_append] at done ⊢
      simp only [skipBlanks_cons shown]
      split
      · next same => exact absurd (List.cons.inj same).1 other
      · rw [done, Option.map_some]
    · intro room
      cases room with
      | zero => rfl
      | succ room => rw [value?, value?, same]

end Arrays

section Objects

def membersOf (members : List (String × Tree)) : List (List Piece × Tree) :=
  members.map fun (key, value) => (Piece.ofString key, value)

def membersText (members : List (String × Tree)) : List Char :=
  Text.joinChars [','] (renderMembers (membersOf members))

theorem membersText_single (key : String) (value : Tree) :
    membersText [(key, value)] = Piece.renderAll (Piece.ofString key) ++ ':' :: value.render := rfl

theorem membersText_cons (key : String) (value : Tree) (next : String × Tree)
    (more : List (String × Tree)) :
    membersText ((key, value) :: next :: more) = Piece.renderAll (Piece.ofString key) ++
      ':' :: (value.render ++ ',' :: membersText (next :: more)) := by
  simp [membersText, membersOf, renderMembers, Text.joinChars]

/-- A key, a colon and a value are read, and then the mark after them decides. -/
theorem exists_readMembers_cons (key : String) {value : Tree} (reads : value.Reads) (fuel : Nat)
    (enough : 2 * value.render.length ≤ fuel) (mark : Char) (marked : mark ∈ [',', ']', '}'])
    (rest : List Char) :
    ∃ pieces read, Piece.string? pieces = some key ∧
      (∀ room, value? room read = value? room value) ∧
      let text := Piece.renderAll (Piece.ofString key) ++ ':' :: (value.render ++ mark :: rest)
      (mark = '}' → readMembers (fuel + 1) text = some ([(pieces, read)], rest)) ∧
      (mark = ',' → readMembers (fuel + 1) text =
        (readMembers fuel rest).map fun (members, rest) => ((pieces, read) :: members, rest)) := by
  obtain ⟨body, written, readKey⟩ := Piece.exists_readString_renderAll key
  obtain ⟨pieces, meant, done⟩ := readKey (':' :: (value.render ++ mark :: rest))
  obtain ⟨read, done', same⟩ := reads.value fuel (mark :: rest) enough (ends_cons marked rest)
  refine ⟨pieces, read, meant, same, ?_, ?_⟩
  · rintro rfl
    rw [written, List.cons_append, readMembers, skipBlanks_cons (by decide)]
    simp only [done, skipBlanks_cons (c := ':') (by decide), done',
      skipBlanks_cons (c := '}') (by decide)]
  · rintro rfl
    rw [written, List.cons_append, readMembers, skipBlanks_cons (by decide)]
    simp only [done, skipBlanks_cons (c := ':') (by decide), done',
      skipBlanks_cons (c := ',') (by decide)]

theorem memberValues?_cons {pieces : List Piece} {key : String} {read value : Tree}
    {reads : List (List Piece × Tree)} {members : List (String × Tree)} {room : Nat}
    (meant : Piece.string? pieces = some key) (same : value? room read = value? room value)
    (same' : memberValues? room reads = memberValues? room (membersOf members)) :
    memberValues? room ((pieces, read) :: reads) =
      memberValues? room (membersOf ((key, value) :: members)) := by
  have cons : membersOf ((key, value) :: members) =
      (Piece.ofString key, value) :: membersOf members := rfl
  rw [cons, memberValues?, memberValues?, meant, same, same', Piece.string?_ofString]

theorem readMembers_membersText {members : List (String × Tree)} (nonempty : members ≠ [])
    (each : ∀ member ∈ members, member.2.Reads) (fuel : Nat)
    (enough : 2 * (membersText members).length < fuel) (rest : List Char) :
    ∃ read, readMembers fuel (membersText members ++ '}' :: rest) = some (read, rest) ∧
      ∀ room, memberValues? room read = memberValues? room (membersOf members) := by
  induction members generalizing fuel with
  | nil => contradiction
  | cons member members ih =>
    obtain ⟨key, value⟩ := member
    obtain ⟨fuel, rfl⟩ := Nat.exists_eq_add_one.mpr (Nat.zero_lt_of_lt enough)
    have reads : value.Reads := each (key, value) List.mem_cons_self
    cases members with
    | nil =>
      have length := congrArg List.length (membersText_single key value)
      rw [List.length_append, List.length_cons] at length
      obtain ⟨pieces, read, meant, same, last, _⟩ :=
        exists_readMembers_cons key reads fuel (by omega) '}' (by decide) rest
      refine ⟨[(pieces, read)], ?_, fun room => memberValues?_cons meant (same room) rfl⟩
      rw [membersText_single, List.append_assoc, List.cons_append]
      exact last rfl
    | cons next more =>
      have length := congrArg List.length (membersText_cons key value next more)
      simp only [List.length_append, List.length_cons] at length
      obtain ⟨pieces, read, meant, same, _, onward⟩ :=
        exists_readMembers_cons key reads fuel (by omega) ',' (by decide)
          (membersText (next :: more) ++ '}' :: rest)
      obtain ⟨reads, done, same'⟩ := ih (List.cons_ne_nil next more)
        (fun member listed => each member (List.mem_cons_of_mem _ listed)) fuel (by omega)
      refine ⟨(pieces, read) :: reads, ?_,
        fun room => memberValues?_cons meant (same room) (same' room)⟩
      rw [membersText_cons, List.append_assoc, List.cons_append, List.append_assoc,
        List.cons_append, onward rfl, done, Option.map_some]

theorem reads_object {members : List (String × Tree)}
    (each : ∀ member ∈ members, member.2.Reads) : (ofMembers members).Reads := by
  refine .of_first rfl (by decide) (by decide) ?_
  intro fuel rest enough _
  cases members with
  | nil => exact ⟨.object [], rfl, fun _ => rfl⟩
  | cons member more =>
    have text : (ofMembers (member :: more)).render ++ rest =
        '{' :: (membersText (member :: more) ++ '}' :: rest) := by
      simp [ofMembers, render, membersText, membersOf]
    have length := congrArg List.length text
    simp only [List.length_append, List.length_cons] at length
    obtain ⟨read, done, same⟩ :=
      readMembers_membersText (List.cons_ne_nil member more) each fuel (by omega) rest
    obtain ⟨tail, written⟩ : ∃ tail, membersText (member :: more) = '"' :: tail := by
      cases more <;> exact ⟨_, rfl⟩
    refine ⟨.object read, ?_, ?_⟩
    · rw [text, readValue, skipBlanks_cons (by decide)]
      rw [written, List.cons_append] at done ⊢
      simp only [skipBlanks_cons (c := '"') (by decide)]
      split
      · next same => exact absurd (List.cons.inj same).1 (by decide)
      · rw [done, Option.map_some]
    · intro room
      cases room with
      | zero => rfl
      | succ room => rw [ofMembers, value?, value?, same, ← membersOf]

end Objects

/-- The documents that are written here. -/
inductive Plain : Tree → Prop where
  | null : Plain .null
  | bool (b : Bool) : Plain (.bool b)
  | integer (n : Int) : Plain (ofInt n)
  | string (text : String) : Plain (ofString text)
  | array {items : List Tree} : (∀ item ∈ items, Plain item) → Plain (.array items)
  | object {members : List (String × Tree)} :
    (∀ member ∈ members, Plain member.2) → Plain (ofMembers members)

theorem Plain.reads {tree : Tree} (plain : tree.Plain) : tree.Reads := by
  induction plain with
  | null => exact .of_first rfl (by decide) (by decide) fun _ _ _ _ => ⟨.null, rfl, fun _ => rfl⟩
  | bool b =>
    cases b with
    | true =>
      exact .of_first rfl (by decide) (by decide) fun _ _ _ _ => ⟨.bool true, rfl, fun _ => rfl⟩
    | false =>
      exact .of_first rfl (by decide) (by decide) fun _ _ _ _ => ⟨.bool false, rfl, fun _ => rfl⟩
  | integer n => exact reads_ofInt n
  | string text => exact reads_string text
  | array _ each => exact reads_array each
  | object _ each => exact reads_object each

end Tree

/-- The text of a document reads as the value of the document, if it has one. -/
theorem read?_text {tree : Tree} (plain : tree.Plain) : read? tree.text = tree.value? maxDepth := by
  obtain ⟨read, done, same⟩ :=
    plain.reads.value (2 * tree.render.length + 2) [] (by omega) Tree.ends_nil
  rw [List.append_nil] at done
  rw [read?, Tree.text, String.toList_ofList, Tree.read?, done]
  exact same maxDepth

end FieldRules.Json
