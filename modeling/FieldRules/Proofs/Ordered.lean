import Mathlib.Data.List.Induction
import FieldRules.Ordered

/-! Insertion-ordered maps through two views, the value under a key and the list
of the keys. Putting changes the first view at its own key only, and the second
at the end only, where a key goes that was not there. -/
namespace FieldRules.Ordered

variable {α β : Type}

/-- The keys of a map in the order of their first insertion. -/
def keys (entries : List (α × β)) : List α := entries.map Prod.fst

@[simp]
theorem keys_cons (key : α) (value : β) (rest : List (α × β)) :
    keys ((key, value) :: rest) = key :: keys rest := rfl

variable [DecidableEq α]

theorem get?_put (key other : α) (value : β) (entries : List (α × β)) :
    get? other (put key value entries) =
      if key = other then some value else get? other entries := by
  induction entries with
  | nil => rfl
  | cons entry rest ih =>
    obtain ⟨head, old⟩ := entry
    by_cases same : head = key
    · subst same
      by_cases here : head = other <;> simp [put, get?, here]
    · simp only [put, if_neg same, get?, ih]
      by_cases here : head = other
      · subst here
        simp [Ne.symm same]
      · simp [here]

theorem keys_put (key : α) (value : β) (entries : List (α × β)) :
    keys (put key value entries) =
      if key ∈ keys entries then keys entries else keys entries ++ [key] := by
  induction entries with
  | nil => rfl
  | cons entry rest ih =>
    obtain ⟨head, old⟩ := entry
    by_cases same : head = key
    · simp [put, same]
    · simp only [put, if_neg same, keys_cons, ih, List.mem_cons, Ne.symm same, false_or]
      split <;> rfl

theorem get?_eq_none_iff (key : α) (entries : List (α × β)) :
    get? key entries = none ↔ key ∉ keys entries := by
  induction entries with
  | nil => simp [get?, keys]
  | cons entry rest ih =>
    obtain ⟨head, value⟩ := entry
    by_cases same : head = key
    · simp [get?, same]
    · simp [get?, same, ih, Ne.symm same]

theorem has_iff (key : α) (entries : List (α × β)) : has key entries = true ↔ key ∈ keys entries := by
  rw [has, Option.isSome_iff_ne_none, ne_eq, get?_eq_none_iff, Decidable.not_not]

section Append

variable {key : α} {before : List (α × β)} (fresh : key ∉ keys before)
include fresh

theorem get?_append (after : List (α × β)) : get? key (before ++ after) = get? key after := by
  induction before with
  | nil => rfl
  | cons entry rest ih =>
    obtain ⟨head, value⟩ := entry
    simp only [keys_cons, List.mem_cons, not_or] at fresh
    simp only [List.cons_append, get?, if_neg (Ne.symm fresh.1)]
    exact ih fresh.2

theorem put_append (value : β) (after : List (α × β)) :
    put key value (before ++ after) = before ++ put key value after := by
  induction before with
  | nil => rfl
  | cons entry rest ih =>
    obtain ⟨head, old⟩ := entry
    simp only [keys_cons, List.mem_cons, not_or] at fresh
    simp only [List.cons_append, put, if_neg (Ne.symm fresh.1), ih fresh.2]

end Append

/-- Of the entries put under a key one after the other the last one is found. -/
theorem get?_ofList (key : α) (entries : List (α × β)) :
    get? key (ofList entries) =
      ((entries.filter fun entry => entry.1 = key).getLast?).map Prod.snd := by
  induction entries using List.reverseRecOn with
  | nil => rfl
  | append_singleton entries entry ih =>
    have put_last : ofList (entries ++ [entry]) = put entry.1 entry.2 (ofList entries) :=
      List.foldl_append
    rw [put_last, get?_put, ih, List.filter_append]
    by_cases here : entry.1 = key <;> simp [here]

theorem length_put_le (key : α) (value : β) (entries : List (α × β)) :
    (put key value entries).length ≤ entries.length + 1 := by
  have keys := congrArg List.length (keys_put key value entries)
  rw [Ordered.keys, List.length_map] at keys
  rw [keys]
  split <;> simp [Ordered.keys]

theorem get?_of_mem {key : α} {value : β} {entries : List (α × β)}
    (distinct : (keys entries).Nodup) (member : (key, value) ∈ entries) :
    get? key entries = some value := by
  induction entries with
  | nil => contradiction
  | cons entry rest ih =>
    obtain ⟨head, old⟩ := entry
    obtain ⟨fresh, distinct⟩ := List.nodup_cons.mp distinct
    rcases List.mem_cons.mp member with same | later
    · obtain ⟨rfl, rfl⟩ := Prod.mk.inj same
      simp [get?]
    · have present : key ∈ keys rest := List.mem_map_of_mem (f := Prod.fst) later
      have other : head ≠ key := fun same => fresh (same ▸ present)
      simp only [get?, if_neg other]
      exact ih distinct later

theorem mem_put {key : α} {value : β} {entry : α × β} {entries : List (α × β)}
    (member : entry ∈ put key value entries) : entry = (key, value) ∨ entry ∈ entries := by
  induction entries with
  | nil => exact .inl (List.mem_singleton.mp member)
  | cons first rest ih =>
    obtain ⟨head, old⟩ := first
    rw [put] at member
    split at member
    · rcases List.mem_cons.mp member with same | later
      · exact .inl same
      · exact .inr (List.mem_cons_of_mem _ later)
    · rcases List.mem_cons.mp member with same | later
      · exact .inr (same ▸ List.mem_cons_self)
      · exact (ih later).imp_right (List.mem_cons_of_mem _)

theorem mem_of_get? {key : α} {value : β} {entries : List (α × β)}
    (found : get? key entries = some value) : (key, value) ∈ entries := by
  induction entries with
  | nil => contradiction
  | cons entry rest ih =>
    obtain ⟨head, old⟩ := entry
    by_cases same : head = key
    · simp only [get?, if_pos same, Option.some.injEq] at found
      rw [same, found]
      exact List.mem_cons_self
    · simp only [get?, if_neg same] at found
      exact List.mem_cons_of_mem _ (ih found)

/-- Entries with distinct keys are found in whatever order they stand. -/
theorem get?_perm {entries others : List (α × β)} (perm : entries.Perm others)
    (distinct : (keys entries).Nodup) (key : α) : get? key entries = get? key others := by
  have distinct' : (keys others).Nodup := (perm.map Prod.fst).nodup_iff.mp distinct
  apply Option.ext
  intro value
  constructor
  · intro found
    exact get?_of_mem distinct' (perm.mem_iff.mp (mem_of_get? found))
  · intro found
    exact get?_of_mem distinct (perm.mem_iff.mpr (mem_of_get? found))

theorem eq_of_mem {key : α} {value other : β} {entries : List (α × β)}
    (distinct : (keys entries).Nodup) (member : (key, value) ∈ entries)
    (member' : (key, other) ∈ entries) : value = other :=
  Option.some.inj ((get?_of_mem distinct member).symm.trans (get?_of_mem distinct member'))

/-- A value put into an inner map is found under both keys, and no other pair of
keys finds anything new. -/
theorem getInner?_putInner (outer key field rule : α) (value : β)
    (map : List (α × List (α × β))) :
    getInner? field rule (putInner outer key value map) =
      if outer = field ∧ key = rule then some value else getInner? field rule map := by
  simp only [getInner?, putInner, get?_put]
  by_cases here : outer = field
  · subst here
    simp only [if_pos, Option.bind_some, get?_put, true_and]
    by_cases same : key = rule
    · simp [same]
    · simp only [if_neg same]
      cases get? outer map <;> rfl
  · simp [here]

end FieldRules.Ordered
