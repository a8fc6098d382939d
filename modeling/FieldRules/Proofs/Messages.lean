import FieldRules.Outcome
import FieldRules.Proofs.Ordered

/-! Messages as what is left of a list of notes taken in order. `Messages.Reflects`
says what is left without a map: where a field and a rule stand is decided by
their first notes, what is written there by the last one. -/
namespace FieldRules

structure Note where
  field : String
  rule : String
  text : String
deriving DecidableEq, Repr

def Note.pair (note : Note) : String × String := (note.field, note.rule)

namespace Messages

/-- The texts for one field by rule; none for a field without messages. -/
def ofField (messages : Messages) (field : String) : List (String × String) :=
  (Ordered.get? field messages).getD []

def addNote (messages : Messages) (note : Note) : Messages :=
  Ordered.putInner note.field note.rule note.text messages

def ofNotes (notes : List Note) : Messages := notes.foldl addNote []

/-- Fields stand in the order of their first notes and the rules of a field in
the order of theirs. A pair has the text of its last note, and none without one. -/
structure Reflects (notes : List Note) (messages : Messages) : Prop where
  fields : Ordered.keys messages = (notes.map Note.field).eraseDups
  rules : ∀ field, Ordered.keys (ofField messages field) =
    ((notes.filter (·.field = field)).map Note.rule).eraseDups
  text : ∀ field rule, Ordered.getInner? field rule messages =
    ((notes.filter fun note => note.field = field ∧ note.rule = rule).getLast?).map Note.text

theorem eraseDups_concat (texts : List String) (text : String) :
    (texts ++ [text]).eraseDups =
      if text ∈ texts.eraseDups then texts.eraseDups else texts.eraseDups ++ [text] := by
  by_cases member : text ∈ texts <;>
    simp [List.eraseDups_append, List.removeAll, List.eraseDups_cons, member]

theorem nodup_eraseDups : (texts : List String) → texts.eraseDups.Nodup
  | [] => List.nodup_nil
  | text :: rest => by
    rw [List.eraseDups_cons, List.nodup_cons, List.mem_eraseDups]
    exact ⟨by simp, nodup_eraseDups _⟩
termination_by texts => texts.length
decreasing_by
  have shorter := List.length_filter_le (fun other => !other == text) rest
  simp only [List.length_cons]
  omega

/-- Items that each write nothing but their own name, over and over, leave the names
in the order of the items. -/
theorem eraseDups_flatMap_sublist {ι : Type} (items : List ι) (name : ι → String)
    (texts : ι → List String) (own : ∀ item ∈ items, ∀ text ∈ texts item, text = name item) :
    (items.flatMap texts).eraseDups.Sublist (items.map name) := by
  induction items generalizing texts with
  | nil => simp
  | cons item rest ih =>
    rw [List.flatMap_cons, List.eraseDups_append, List.removeAll, List.filter_flatMap,
      List.map_cons]
    have once : (texts item).eraseDups.Sublist [name item] := by
      have all := own item List.mem_cons_self
      cases written : texts item with
      | nil => simp
      | cons text more =>
        rw [written] at all
        have nothing : more.filter (fun other => !other == text) = [] := by
          apply List.filter_eq_nil_iff.mpr
          intro other member
          simp [all other (List.mem_cons_of_mem _ member), all text List.mem_cons_self]
        rw [List.eraseDups_cons, nothing, all text List.mem_cons_self]
        exact List.Sublist.refl _
    refine once.append (ih _ ?_)
    intro other member text written
    exact own other (List.mem_cons_of_mem _ member) text (List.mem_filter.mp written).1

theorem ofField_addNote (messages : Messages) (note : Note) (field : String) :
    ofField (addNote messages note) field =
      if note.field = field then Ordered.put note.rule note.text (ofField messages field)
      else ofField messages field := by
  simp only [ofField, addNote, Ordered.putInner, Ordered.get?_put]
  by_cases here : note.field = field
  · subst here
    simp
  · simp [here]

/-- One more note keeps the account: it may add a field, a rule or neither at the
end, and it decides the text of its own pair alone. -/
theorem Reflects.addNote {notes : List Note} {messages : Messages}
    (reflects : Reflects notes messages) (note : Note) :
    Reflects (notes ++ [note]) (addNote messages note) := by
  refine ⟨?_, ?_, ?_⟩
  · rw [Messages.addNote, Ordered.putInner, Ordered.keys_put, reflects.fields, List.map_append,
      List.map_singleton, eraseDups_concat]
  · intro field
    rw [ofField_addNote, List.filter_append]
    by_cases here : note.field = field
    · rw [if_pos here, Ordered.keys_put, reflects.rules field]
      simp [here, eraseDups_concat]
    · rw [if_neg here, reflects.rules field]
      simp [here]
  · intro field rule
    rw [Messages.addNote, Ordered.getInner?_putInner, List.filter_append]
    by_cases here : note.field = field ∧ note.rule = rule
    · simp [here]
    · rw [if_neg here, reflects.text field rule]
      simp [here]

theorem reflects_ofNotes (notes : List Note) : Reflects notes (ofNotes notes) := by
  suffices run : ∀ (later earlier : List Note) (messages : Messages), Reflects earlier messages →
      Reflects (earlier ++ later) (later.foldl addNote messages) from
    run notes [] [] ⟨rfl, fun _ => rfl, fun _ _ => rfl⟩
  intro later
  induction later with
  | nil =>
    intro earlier messages reflects
    simpa using reflects
  | cons note rest ih =>
    intro earlier messages reflects
    have next := ih (earlier ++ [note]) (addNote messages note) (reflects.addNote note)
    simpa only [List.append_assoc, List.singleton_append, List.foldl_cons] using next

section Account

variable {notes : List Note} {messages : Messages}

theorem Reflects.distinct (reflects : Reflects notes messages) :
    (Ordered.keys messages).Nodup := by
  rw [reflects.fields]
  exact nodup_eraseDups _

theorem Reflects.isSome_iff (reflects : Reflects notes messages) (field rule : String) :
    (Ordered.getInner? field rule messages).isSome = true ↔
      ∃ note ∈ notes, note.field = field ∧ note.rule = rule := by
  rw [reflects.text field rule, Option.isSome_map, Option.isSome_iff_ne_none, ne_eq,
    List.getLast?_eq_none_iff, List.filter_eq_nil_iff]
  simp

/-- A field that stands in the messages has at least one of them. -/
theorem Reflects.nonempty (reflects : Reflects notes messages) {field : String}
    {rules : List (String × String)} (member : (field, rules) ∈ messages) : rules ≠ [] := by
  have noted : field ∈ notes.map Note.field := by
    rw [← List.mem_eraseDups, ← reflects.fields]
    exact List.mem_map_of_mem (f := Prod.fst) member
  obtain ⟨note, member', here⟩ := List.mem_map.mp noted
  have first : note.rule ∈ Ordered.keys (ofField messages field) := by
    rw [reflects.rules field, List.mem_eraseDups]
    exact List.mem_map_of_mem (List.mem_filter.mpr ⟨member', by simpa using here⟩)
  rw [ofField, Ordered.get?_of_mem reflects.distinct member, Option.getD_some] at first
  rintro rfl
  contradiction

end Account

/-- The fields of messages in order, each with its rules in order. -/
def pairs (messages : Messages) : List (String × List String) :=
  messages.map fun (field, rules) => (field, Ordered.keys rules)

theorem keys_pairs (messages : Messages) : Ordered.keys messages.pairs = Ordered.keys messages := by
  rw [Ordered.keys, pairs, List.map_map]
  rfl

theorem Reflects.pairs {notes : List Note} {messages : Messages}
    (reflects : Reflects notes messages) :
    messages.pairs = (notes.map Note.field).eraseDups.map fun field =>
      (field, ((notes.filter (·.field = field)).map Note.rule).eraseDups) := by
  rw [← reflects.fields, Ordered.keys, List.map_map]
  apply List.map_congr_left
  rintro ⟨field, rules⟩ member
  have own := Ordered.get?_of_mem reflects.distinct member
  simp only [Function.comp_apply, ← reflects.rules, ofField, own, Option.getD_some]

/-- Which pairs there are, and in which order, is not a matter of the texts. -/
theorem pairs_ofNotes_congr {notes others : List Note}
    (same : notes.map Note.pair = others.map Note.pair) :
    (ofNotes notes).pairs = (ofNotes others).pairs := by
  have fields (notes : List Note) :
      notes.map Note.field = (notes.map Note.pair).map Prod.fst := by
    rw [List.map_map]
    rfl
  have rules (notes : List Note) (field : String) :
      (notes.filter (·.field = field)).map Note.rule =
        ((notes.map Note.pair).filter (·.1 = field)).map Prod.snd := by
    rw [List.filter_map, List.map_map]
    rfl
  simp only [(reflects_ofNotes _).pairs, fields, rules, same]

section Append

variable {before : Messages} {notes : List Note}

theorem addNote_append {note : Note} (fresh : note.field ∉ Ordered.keys before)
    (after : Messages) : addNote (before ++ after) note = before ++ addNote after note := by
  rw [addNote, Ordered.putInner, Ordered.get?_append fresh, Ordered.put_append fresh]
  rfl

/-- Notes for new fields go behind what is there, as if they were the first ones. -/
theorem foldl_addNote (fresh : ∀ note ∈ notes, note.field ∉ Ordered.keys before) :
    notes.foldl addNote before = before ++ ofNotes notes := by
  suffices onward : ∀ after : Messages,
      notes.foldl addNote (before ++ after) = before ++ notes.foldl addNote after by
    simpa [ofNotes] using onward []
  induction notes with
  | nil => exact fun _ => rfl
  | cons note rest ih =>
    intro after
    rw [List.foldl_cons, addNote_append (fresh note List.mem_cons_self), List.foldl_cons]
    exact ih (fun later member => fresh later (List.mem_cons_of_mem _ member)) _

theorem mem_keys_ofNotes {field : String} :
    field ∈ Ordered.keys (ofNotes notes) ↔ ∃ note ∈ notes, note.field = field := by
  rw [(reflects_ofNotes notes).fields, List.mem_eraseDups, List.mem_map]

/-- Items that each note their own field alone, no field twice, have their messages
one after the other. -/
theorem ofNotes_flatMap {ι : Type} {items : List ι} (name : ι → String) {noted : ι → List Note}
    (own : ∀ item ∈ items, ∀ note ∈ noted item, note.field = name item)
    (distinct : (items.map name).Nodup) :
    ofNotes (items.flatMap noted) = items.flatMap fun item => ofNotes (noted item) := by
  induction items with
  | nil => rfl
  | cons item rest ih =>
    obtain ⟨fresh, distinct⟩ := List.nodup_cons.mp distinct
    have here := own item List.mem_cons_self
    have later : ∀ other ∈ rest, ∀ note ∈ noted other, note.field = name other :=
      fun other member => own other (List.mem_cons_of_mem _ member)
    rw [List.flatMap_cons, List.flatMap_cons, ofNotes, List.foldl_append, foldl_addNote,
      ih later distinct]
    · rfl
    · intro note member known
      obtain ⟨other, declared, noted⟩ := List.mem_flatMap.mp member
      obtain ⟨earlier, member, same⟩ := mem_keys_ofNotes.mp known
      rw [here earlier member, later other declared note noted] at same
      exact fresh (same ▸ List.mem_map_of_mem declared)

end Append

/-- No field stands twice, none without a rule, and no rule twice in its field. -/
structure WellFormed (messages : Messages) : Prop where
  distinct : (Ordered.keys messages).Nodup
  nonempty : ∀ entry ∈ messages, entry.2 ≠ []
  rules : ∀ entry ∈ messages, (Ordered.keys entry.2).Nodup

theorem wellFormed_ofNotes (notes : List Note) : (ofNotes notes).WellFormed := by
  have reflects := reflects_ofNotes notes
  refine ⟨reflects.distinct, fun entry member => reflects.nonempty member, ?_⟩
  rintro ⟨field, rules⟩ member
  have order := reflects.rules field
  rw [ofField, Ordered.get?_of_mem reflects.distinct member, Option.getD_some] at order
  rw [order]
  exact nodup_eraseDups _

/-- The notes that write the texts for one field. -/
def fieldEntries (field : String) (rules : List (String × String)) : List Note :=
  rules.map fun (rule, text) => ⟨field, rule, text⟩

/-- The notes that write messages, one for each text. -/
def entries (messages : Messages) : List Note :=
  messages.flatMap fun (field, rules) => fieldEntries field rules

theorem foldl_fieldEntries {field : String} (written : List (String × String))
    {rules : List (String × String)}
    (distinct : (Ordered.keys (written ++ rules)).Nodup) :
    (fieldEntries field rules).foldl addNote [(field, written)] = [(field, written ++ rules)] := by
  induction rules generalizing written with
  | nil => simp [fieldEntries]
  | cons entry rest ih =>
    obtain ⟨rule, text⟩ := entry
    have fresh : rule ∉ Ordered.keys written := by
      intro member
      rw [Ordered.keys, List.map_append, List.map_cons] at distinct
      exact (List.nodup_append.mp distinct).2.2 rule member rule List.mem_cons_self rfl
    have added : addNote [(field, written)] ⟨field, rule, text⟩ =
        [(field, written ++ [(rule, text)])] := by
      have put := Ordered.put_append fresh text []
      rw [List.append_nil] at put
      simp [addNote, Ordered.putInner, Ordered.get?, Ordered.put, put]
    rw [fieldEntries, List.map_cons, List.foldl_cons, added]
    simpa [fieldEntries] using ih (written ++ [(rule, text)]) (by simpa using distinct)

theorem ofNotes_fieldEntries {field : String} {rules : List (String × String)} (some : rules ≠ [])
    (distinct : (Ordered.keys rules).Nodup) :
    ofNotes (fieldEntries field rules) = [(field, rules)] := by
  obtain ⟨⟨rule, text⟩, rest, rfl⟩ := List.exists_cons_of_ne_nil some
  exact foldl_fieldEntries [(rule, text)] distinct

/-- Messages are what their own texts leave when they are written in order. -/
theorem WellFormed.ofNotes_entries {messages : Messages} (wellFormed : messages.WellFormed) :
    ofNotes messages.entries = messages := by
  obtain ⟨distinct, nonempty, rules⟩ := wellFormed
  calc
    ofNotes messages.entries
    _ = messages.flatMap fun entry => ofNotes (fieldEntries entry.1 entry.2) := by
      refine ofNotes_flatMap Prod.fst ?_ distinct
      intro entry _ note member
      obtain ⟨_, _, rfl⟩ := List.mem_map.mp member
      rfl
    _ = (messages.map fun entry => [entry]).flatten := by
      rw [List.flatMap_def]
      exact congrArg List.flatten (List.map_congr_left fun entry member =>
        ofNotes_fieldEntries (nonempty entry member) (rules entry member))
    _ = messages := by simp [← List.flatMap_def]

end Messages

end FieldRules
