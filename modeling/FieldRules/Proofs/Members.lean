import FieldRules.Json.Basic
import FieldRules.Proofs.Ordered

/-! Members of JSON objects. Sorting keeps one value for each key, the last one given,
so it forgets the order in which members with distinct keys were given. -/
namespace FieldRules.Json

theorem member?_cons (head key : String) (value : Json) (rest : List (String × Json)) :
    member? ((head, value) :: rest) key = if key = head then some value else member? rest key := by
  rw [member?, List.lookup_cons]
  by_cases here : key = head
  · simp [here]
  · rw [if_neg here, beq_false_of_ne here, member?]

theorem member?_insertMember (key other : String) (value : Json)
    (members : List (String × Json)) :
    member? (insertMember key value members) other =
      if other = key then some value else member? members other := by
  induction members with
  | nil => rw [insertMember, member?_cons]
  | cons entry rest ih =>
    obtain ⟨head, old⟩ := entry
    rw [insertMember]
    split
    · rw [member?_cons]
    · split
      · next same =>
        subst same
        rw [member?_cons, member?_cons]
        split <;> rfl
      · next different =>
        rw [member?_cons, ih, member?_cons]
        by_cases here : other = head
        · rw [if_pos here, if_pos here, if_neg (here ▸ Ne.symm different)]
        · rw [if_neg here, if_neg here]

theorem member?_sortMembers (members : List (String × Json)) (key : String) :
    member? (sortMembers members) key =
      ((members.filter (·.1 = key)).getLast?).map Prod.snd := by
  suffices onward : ∀ sorted : List (String × Json),
      member? (members.foldl (fun sorted (key, value) => insertMember key value sorted) sorted)
          key =
        (((members.filter (·.1 = key)).getLast?).map Prod.snd).or (member? sorted key) by
    exact (onward []).trans (Option.or_none)
  induction members with
  | nil => exact fun _ => rfl
  | cons entry rest ih =>
    intro sorted
    obtain ⟨head, value⟩ := entry
    rw [List.foldl_cons, ih, member?_insertMember]
    by_cases here : key = head
    · subst here
      rw [if_pos rfl, List.filter_cons_of_pos (by simp), List.getLast?_cons]
      cases (rest.filter (·.1 = key)).getLast? <;> rfl
    · rw [if_neg here, List.filter_cons_of_neg (by simpa using Ne.symm here)]

/-- Two members with different keys come to the same places in either order. -/
theorem insertMember_comm {α : Type} {key other : String} (different : key ≠ other)
    (value old : α) (members : List (String × α)) :
    insertMember key value (insertMember other old members) =
      insertMember other old (insertMember key value members) := by
  induction members with
  | nil => grind [insertMember]
  | cons entry rest ih =>
    obtain ⟨head, first⟩ := entry
    grind [insertMember]

theorem sortMembers_perm {α : Type} {members others : List (String × α)}
    (perm : members.Perm others) (distinct : (Ordered.keys members).Nodup) :
    sortMembers members = sortMembers others := by
  refine perm.foldl_eq' ?_ []
  rintro ⟨key, value⟩ here ⟨other, old⟩ there sorted
  by_cases same : other = key
  · subst same
    rw [Ordered.eq_of_mem distinct here there]
  · exact insertMember_comm same old value sorted

mutual

theorem same_refl : (value : Json) → same value value = true
  | .null => rfl
  | .bool _ => by simp [same]
  | .integer _ => by simp [same]
  | .float _ => by simp [same, Binary64.eq]
  | .string _ => by simp [same]
  | .array items => by
    rw [same]
    exact sameItems_refl items
  | .object members => by
    rw [same]
    exact sameMembers_refl members

theorem sameItems_refl : (items : List Json) → sameItems items items = true
  | [] => rfl
  | item :: rest => by rw [sameItems, same_refl item, sameItems_refl rest, Bool.and_self]

theorem sameMembers_refl : (members : List (String × Json)) → sameMembers members members = true
  | [] => rfl
  | (_, value) :: rest => by
    rw [sameMembers, same_refl value, sameMembers_refl rest, beq_self_eq_true, Bool.and_self,
      Bool.and_self]

end

end FieldRules.Json
