import SchemaValidation.Value.Basic

/-!
# Deep merge

One record is laid over another. A list on the left grows by what meets it from
the right, item by item if that is a list too; two objects merge member by
member; everything else gives way to the right.
-/

namespace SchemaValidation

mutual

/-- What becomes of a member of the left record when `incoming` meets it from the right. -/
def Value.combine (incoming : Value) : Option Value → Value
  | some (.array items) =>
      match incoming with
      | .array more => .array (items ++ more)
      | other => .array (items ++ [other])
  | some (.object className members) =>
      match incoming with
      | .object _ more => .object className (KeyMap.mergeInto more members)
      | other => other
  | _ => incoming
termination_by structural incoming

/-- The members of the left record with all members of the right record combined into them. -/
def KeyMap.mergeInto : List (String × Value) → List (String × Value) → List (String × Value)
  | [], members => members
  | (key, incoming) :: rest, members =>
      KeyMap.mergeInto rest
        (KeyMap.insert key (Value.combine incoming (KeyMap.find? key members)) members)
termination_by structural more => more

end

namespace Record

/-- The right record merged into the left one, whose class is kept. -/
def merge (left right : Record) : Record :=
  ⟨left.className, KeyMap.mergeInto right.members left.members⟩

/-- All records merged into the empty record, from left to right. -/
def mergeAll (records : List Record) : Record :=
  records.foldl merge {}

end Record

end SchemaValidation
