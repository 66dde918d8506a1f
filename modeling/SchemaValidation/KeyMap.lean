/-!
# Keyed members

Members addressed by name are kept as a list of pairs in strictly ascending
order of their names, by code point. Every operation below keeps that order, so
two collections with the same members are the same list.
-/

namespace SchemaValidation.KeyMap

variable {α β : Type}

/-- The names of a collection stand in strictly ascending order. -/
def IsAscending (members : List (String × α)) : Prop :=
  members.Pairwise fun first second => first.1 < second.1

/-- The member stored under a name. -/
def find? (key : String) : List (String × α) → Option α
  | [] => none
  | (name, item) :: rest => if name = key then some item else find? key rest

/-- Whether a member is stored under a name. -/
def contains (key : String) (members : List (String × α)) : Bool :=
  (find? key members).isSome

/-- The collection with a member stored under a name, in place of the one that was there. -/
def insert (key : String) (item : α) : List (String × α) → List (String × α)
  | [] => [(key, item)]
  | (name, old) :: rest =>
      if key < name then (key, item) :: (name, old) :: rest
      else if name = key then (key, item) :: rest
      else (name, old) :: insert key item rest

/-- The collection without the member stored under a name. -/
def erase (key : String) (members : List (String × α)) : List (String × α) :=
  members.filter fun entry => entry.1 != key

/-- The names in ascending order. -/
def keys (members : List (String × α)) : List String :=
  members.map Prod.fst

/-- The first collection with every member of the second stored over it. -/
def overlay (base top : List (String × α)) : List (String × α) :=
  top.foldl (fun members entry => insert entry.1 entry.2 members) base

/-- The collection of some pairs, the last of several pairs with one name counting. -/
def ofList (pairs : List (String × α)) : List (String × α) :=
  overlay [] pairs

/-- The collection with every member replaced by its image. -/
def mapItems (f : α → β) (members : List (String × α)) : List (String × β) :=
  members.map fun entry => (entry.1, f entry.2)

@[simp] theorem find?_nil (key : String) : find? key ([] : List (String × α)) = none := rfl

/-- What was just stored is found. -/
@[simp] theorem find?_insert_self (key : String) (item : α) (members : List (String × α)) :
    find? key (insert key item members) = some item := by
  induction members with
  | nil => simp [insert, find?]
  | cons entry rest ih =>
      obtain ⟨name, old⟩ := entry
      unfold insert
      split
      · simp [find?]
      · split
        · simp [find?]
        · rename_i distinct
          simp [find?, distinct, ih]

/-- Storing under one name leaves the member under every other name in place. -/
theorem find?_insert_of_ne {key other : String} (distinct : other ≠ key) (item : α)
    (members : List (String × α)) :
    find? other (insert key item members) = find? other members := by
  induction members with
  | nil => simp [insert, find?, distinct.symm]
  | cons entry rest ih =>
      obtain ⟨name, old⟩ := entry
      unfold insert
      split
      · simp [find?, distinct.symm]
      · split
        · rename_i same
          simp [find?, same, distinct.symm]
        · simp [find?, ih]

end SchemaValidation.KeyMap
