/-!
Maps as lists of entries in the order of their first insertion. Putting a value under a key that is
present replaces the value and keeps the place.
-/

namespace FieldRules.Ordered

variable {α : Type} {β : Type} [DecidableEq α]

def put (key : α) (value : β) : List (α × β) → List (α × β)
  | [] => [(key, value)]
  | (other, old) :: rest =>
    if other = key then (key, value) :: rest else (other, old) :: put key value rest

def get? (key : α) : List (α × β) → Option β
  | [] => none
  | (other, value) :: rest => if other = key then some value else get? key rest

def has (key : α) (entries : List (α × β)) : Bool := (get? key entries).isSome

def ofList (entries : List (α × β)) : List (α × β) :=
  entries.foldl (fun map (key, value) => put key value map) []

/-- Puts a value into an inner map, which is made when it is first needed. -/
def putInner (outer key : α) (value : β) (map : List (α × List (α × β))) :
    List (α × List (α × β)) :=
  put outer (put key value ((get? outer map).getD [])) map

def getInner? (outer key : α) (map : List (α × List (α × β))) : Option β :=
  (get? outer map).bind (get? key)

end FieldRules.Ordered
