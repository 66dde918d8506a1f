import Mathlib.Data.List.Basic
import Mathlib.Data.List.Induction
import Mathlib.Data.Set.List
import SchemaValidation.Proofs.ValueTree
import SchemaValidation.Value.Merge

/-!
# Grouping deep merges

What is found under a name after one record is laid over another depends on what
the two have under this name, and on nothing else.  The four ways in which values
combine do not mix well, so the order in which records are grouped matters in
general.  It does not matter for records that are alike: under every name their
members are all lists, all objects that are alike again, or all something else.
-/

namespace SchemaValidation

open KeyMap

namespace Value

/-! ## Values that meet under one name -/

/-- What is left under a name where what is held on the right meets what is held on the left. -/
def meet (left : Option Value) : Option Value → Option Value
  | none => left
  | some incoming => some (incoming.combine left)

/-- What some values come to that meet one after the other. -/
def gather (values : List Value) : Option Value :=
  values.foldl (fun gathered incoming => meet gathered (some incoming)) none

theorem combine_none (incoming : Value) : incoming.combine none = incoming := by
  cases incoming <;> rfl

/-- What is neither a list nor an object gives way. -/
theorem combine_of_leaf {old : Value} (plain : old.isContainer = false) (incoming : Value) :
    incoming.combine (some old) = incoming := by
  cases old <;> cases plain <;> cases incoming <;> rfl

@[simp] theorem meet_none (left : Option Value) : meet left none = left := rfl

@[simp] theorem none_meet (right : Option Value) : meet none right = right := by
  cases right with
  | none => rfl
  | some incoming => exact congrArg some incoming.combine_none

theorem gather_concat (values : List Value) (incoming : Value) :
    gather (values ++ [incoming]) = meet (gather values) (some incoming) :=
  List.foldl_concat ..

/-- Lists that meet make one list. -/
theorem gather_lists (first : List Value) (rest : List (List Value)) :
    gather ((first :: rest).map array) = some (array (first ++ rest.flatten)) := by
  induction rest using List.reverseRecOn with
  | nil => exact congrArg (some ∘ array) (List.append_nil first).symm
  | append_singleton rest last ih =>
      have grouped : (first :: (rest ++ [last])).map array =
          (first :: rest).map array ++ [array last] := by
        rw [← List.cons_append, List.map_append, List.map_singleton]
      rw [grouped, gather_concat, ih, List.flatten_concat, ← List.append_assoc]
      rfl

/-- Of values that are neither lists nor objects the last one is left. -/
theorem gather_leaves {values : List Value}
    (plain : ∀ value ∈ values, value.isContainer = false) : gather values = values.getLast? := by
  induction values using List.reverseRecOn with
  | nil => rfl
  | append_singleton values last ih =>
      have others : ∀ value ∈ values, value.isContainer = false := fun value member =>
        plain value (List.mem_append_left _ member)
      rw [gather_concat, ih others, List.getLast?_concat]
      cases left : values.getLast? with
      | none => exact none_meet _
      | some old =>
          exact congrArg some
            (combine_of_leaf (others old (List.mem_of_getLast? left)) last)

end Value

namespace Record

variable {left right record : Record} {records first last : List Record} {key : String}

/-! ## What is found after a merge -/

theorem find?_mergeInto {more : List (String × Value)} (distinct : (KeyMap.keys more).Nodup)
    (members : List (String × Value)) :
    KeyMap.find? key (mergeInto more members) =
      Value.meet (KeyMap.find? key members) (KeyMap.find? key more) := by
  induction more generalizing members with
  | nil => rfl
  | cons entry rest ih =>
      obtain ⟨name, incoming⟩ := entry
      obtain ⟨absent, others⟩ := List.nodup_cons.mp distinct
      have stored : mergeInto ((name, incoming) :: rest) members = mergeInto rest
          (KeyMap.insert name (incoming.combine (KeyMap.find? name members)) members) := rfl
      rw [stored, ih others, find?_insert, find?_cons]
      by_cases same : name = key
      · subst same
        have missing : KeyMap.find? name rest = none :=
          Option.not_isSome_iff_eq_none.mp (mt mem_keys_iff.mpr absent)
        rw [if_pos rfl, if_pos rfl, missing]
        rfl
      · rw [if_neg (Ne.symm same), if_neg same]

theorem mergeInto_ascending {members : List (String × Value)} (ascending : IsAscending members)
    (more : List (String × Value)) : IsAscending (mergeInto more members) := by
  induction more generalizing members with
  | nil => exact ascending
  | cons entry rest ih => exact ih ascending.insert

/-- Under every name, a merged record has what meets there. -/
theorem find?_merge (ascending : IsAscending right.members) :
    (left.merge right).find? key = Value.meet (left.find? key) (right.find? key) :=
  find?_mergeInto ascending.nodup_keys left.members

theorem merge_ascending (ascending : IsAscending left.members) (right : Record) :
    IsAscending (left.merge right).members :=
  mergeInto_ascending ascending right.members

/-- Nothing but its class is lost of a record that is merged into the empty one. -/
theorem empty_merge (ascending : IsAscending record.members) :
    ({} : Record).merge record = ⟨none, record.members⟩ := by
  have same : (({} : Record).merge record).members = record.members := by
    have empty : IsAscending ({} : Record).members := .nil
    refine (merge_ascending empty record).ext ascending fun key => ?_
    exact (find?_merge ascending).trans (Value.none_meet _)
  exact congrArg (mk none) same

/-- The values under a name in some records. -/
def held (key : String) (records : List Record) : List Value :=
  records.filterMap fun record => record.find? key

theorem held_append : held key (first ++ last) = held key first ++ held key last :=
  List.filterMap_append ..

theorem mergeAll_concat : mergeAll (records ++ [record]) = (mergeAll records).merge record :=
  List.foldl_concat ..

theorem mergeAll_className (records : List Record) : (mergeAll records).className = none := by
  induction records using List.reverseRecOn with
  | nil => rfl
  | append_singleton records record ih => exact (congrArg className mergeAll_concat).trans ih

theorem mergeAll_ascending (records : List Record) : IsAscending (mergeAll records).members := by
  induction records using List.reverseRecOn with
  | nil => exact .nil
  | append_singleton records record ih =>
      rw [mergeAll_concat]
      exact merge_ascending ih record

/-- Under every name, records that are merged have what the values that they hold there come to. -/
theorem find?_mergeAll (ascending : ∀ record ∈ records, IsAscending record.members) :
    (mergeAll records).find? key = Value.gather (held key records) := by
  induction records using List.reverseRecOn with
  | nil => rfl
  | append_singleton records record ih =>
      have here : IsAscending record.members :=
        ascending record (List.mem_append_right _ List.mem_cons_self)
      rw [mergeAll_concat, find?_merge here, ih fun other member =>
        ascending other (List.mem_append_left _ member), held_append]
      cases found : record.find? key with
      | none => simp [held, found]
      | some value =>
          have alone : held key [record] = [value] := by simp [held, found]
          rw [alone, Value.gather_concat]

/-- Which class the first record has does not matter to the members. -/
theorem foldl_merge_members (className : Option String) (members : List (String × Value))
    (rest : List Record) :
    rest.foldl merge ⟨className, members⟩ =
      ⟨className, (rest.foldl merge ⟨none, members⟩).members⟩ := by
  induction rest generalizing members with
  | nil => rfl
  | cons record rest ih => exact ih (mergeInto record.members members)

/-- Objects that meet make the object of their records, of the class of the first. -/
theorem gather_records (ascending : IsAscending record.members) (rest : List Record) :
    Value.gather ((record :: rest).map toValue) =
      some (.object record.className (mergeAll (record :: rest)).members) := by
  have gathered : Value.gather ((record :: rest).map toValue) =
      some (rest.foldl merge record).toValue := by
    induction rest using List.reverseRecOn with
    | nil => exact congrArg some record.toValue.combine_none
    | append_singleton rest last ih =>
        have grouped : (record :: (rest ++ [last])).map toValue =
            (record :: rest).map toValue ++ [last.toValue] := by
          rw [← List.cons_append, List.map_append, List.map_singleton]
        rw [grouped, Value.gather_concat, ih, List.foldl_concat]
        rfl
  have started : mergeAll (record :: rest) = rest.foldl merge ⟨none, record.members⟩ :=
    congrArg (rest.foldl merge) (empty_merge ascending)
  rw [gathered, foldl_merge_members, ← started]
  rfl

/-! ## Records that are alike -/

/-- The values are all lists, all objects, or all neither. -/
def AreAlike (values : List Value) : Prop :=
  (∀ value ∈ values, value.shape = .array) ∨ (∀ value ∈ values, value.shape = .object) ∨
    ∀ value ∈ values, value.isContainer = false

/-- Under every name the values that the records hold are alike, and where they are objects, so are
again the records of these objects. -/
inductive Compatible : List Record → Prop where
  | of {records : List Record} (alike : ∀ key, AreAlike (held key records))
      (below : ∀ key, held key records ≠ [] →
        (∀ value ∈ held key records, value.shape = .object) →
          Compatible ((held key records).filterMap Value.record?)) :
      Compatible records

instance (values : List Value) : Decidable (AreAlike values) :=
  inferInstanceAs (Decidable (_ ∨ _ ∨ _))

theorem held_eq_nil (absent : key ∉ records.flatMap keys) : held key records = [] := by
  refine List.filterMap_eq_nil_iff.mpr fun record listed => ?_
  refine Option.not_isSome_iff_eq_none.mp (mt mem_keys_iff.mpr fun own => absent ?_)
  exact List.mem_flatMap.mpr ⟨record, listed, own⟩

/-- Only the names that occur in the records count. -/
theorem Compatible.of_names (alike : ∀ key ∈ records.flatMap keys, AreAlike (held key records))
    (below : ∀ key ∈ records.flatMap keys,
      (∀ value ∈ held key records, value.shape = .object) →
        Compatible ((held key records).filterMap Value.record?)) :
    Compatible records := by
  refine .of (fun key => ?_) fun key filled => ?_
  · by_cases named : key ∈ records.flatMap keys
    · exact alike key named
    · rw [held_eq_nil named]
      exact .inl nofun
  · by_cases named : key ∈ records.flatMap keys
    · exact below key named
    · exact absurd (held_eq_nil named) filled

/-- The records and all values in them keep their members in ascending order. -/
def AreWellFormed (records : List Record) : Prop :=
  ∀ record ∈ records, record.toValue.IsWellFormed

theorem AreWellFormed.ascending (wellFormed : AreWellFormed records) :
    ∀ record ∈ records, IsAscending record.members :=
  fun record member => (wellFormed record member).ascending

theorem exists_lists {values : List Value} (lists : ∀ value ∈ values, value.shape = .array) :
    ∃ contents : List (List Value), contents.map Value.array = values := by
  refine (Set.range_list_map Value.array).superset fun value member => ?_
  have shape := lists value member
  cases value with
  | array items => exact ⟨items, rfl⟩
  | _ => cases shape

theorem exists_records {values : List Value} (objects : ∀ value ∈ values, value.shape = .object) :
    ∃ records : List Record, records.map toValue = values := by
  refine (Set.range_list_map toValue).superset fun value member => ?_
  obtain ⟨className, members, rfl⟩ := Value.exists_of_shape_object (objects value member)
  exact ⟨⟨className, members⟩, rfl⟩

theorem filterMap_record? (records : List Record) :
    (records.map toValue).filterMap Value.record? = records := by
  rw [List.filterMap_map]
  exact List.filterMap_some

theorem gather_append_lists {values more : List Value}
    (lists : ∀ value ∈ values ++ more, value.shape = .array) :
    Value.gather (values ++ more) = Value.meet (Value.gather values) (Value.gather more) := by
  obtain ⟨contents, rfl⟩ := exists_lists fun value member =>
    lists value (List.mem_append_left _ member)
  obtain ⟨others, rfl⟩ := exists_lists fun value member =>
    lists value (List.mem_append_right _ member)
  rw [← List.map_append]
  cases others with
  | nil => rw [List.append_nil]; rfl
  | cons other others =>
      cases contents with
      | nil => exact (Value.none_meet _).symm
      | cons items contents =>
          rw [List.cons_append, Value.gather_lists, Value.gather_lists, Value.gather_lists,
            List.flatten_append, List.flatten_cons, ← List.append_assoc]
          rfl

theorem gather_append_leaves {values more : List Value}
    (plain : ∀ value ∈ values ++ more, value.isContainer = false) :
    Value.gather (values ++ more) = Value.meet (Value.gather values) (Value.gather more) := by
  have front : ∀ value ∈ values, value.isContainer = false := fun value member =>
    plain value (List.mem_append_left _ member)
  have back : ∀ value ∈ more, value.isContainer = false := fun value member =>
    plain value (List.mem_append_right _ member)
  rw [Value.gather_leaves plain, Value.gather_leaves front, Value.gather_leaves back,
    List.getLast?_append]
  cases more.getLast? with
  | none => rfl
  | some last =>
      cases left : values.getLast? with
      | none => exact (Value.none_meet _).symm
      | some old =>
          exact congrArg some
            (Value.combine_of_leaf (front old (List.mem_of_getLast? left)) last).symm

/-- Objects come to the same part by part if their records do. -/
theorem gather_append_objects {values more : List Value}
    (objects : ∀ value ∈ values ++ more, value.shape = .object)
    (wellFormed : AreWellFormed ((values ++ more).filterMap Value.record?))
    (grouped : mergeAll ((values ++ more).filterMap Value.record?) =
      (mergeAll (values.filterMap Value.record?)).merge (mergeAll (more.filterMap Value.record?))) :
    Value.gather (values ++ more) = Value.meet (Value.gather values) (Value.gather more) := by
  obtain ⟨first, rfl⟩ := exists_records fun value member =>
    objects value (List.mem_append_left _ member)
  obtain ⟨last, rfl⟩ := exists_records fun value member =>
    objects value (List.mem_append_right _ member)
  rw [← List.map_append] at wellFormed grouped ⊢
  rw [filterMap_record?] at wellFormed grouped
  rw [filterMap_record?, filterMap_record?] at grouped
  cases last with
  | nil => rw [List.append_nil]; rfl
  | cons back others =>
      cases first with
      | nil => exact (Value.none_meet _).symm
      | cons front rest =>
          have head : IsAscending front.members := wellFormed.ascending front List.mem_cons_self
          have behind : IsAscending back.members :=
            wellFormed.ascending back (List.mem_append_right _ List.mem_cons_self)
          rw [List.cons_append, gather_records head, gather_records head, gather_records behind,
            ← List.cons_append, grouped]
          rfl

/-- Values that are alike come to the same part by part. -/
theorem gather_append {values more : List Value} (alike : AreAlike (values ++ more))
    (wellFormed : AreWellFormed ((values ++ more).filterMap Value.record?))
    (grouped : values ++ more ≠ [] → (∀ value ∈ values ++ more, value.shape = .object) →
      mergeAll ((values ++ more).filterMap Value.record?) =
        (mergeAll (values.filterMap Value.record?)).merge
          (mergeAll (more.filterMap Value.record?))) :
    Value.gather (values ++ more) = Value.meet (Value.gather values) (Value.gather more) := by
  rcases alike with lists | objects | plain
  · exact gather_append_lists lists
  · by_cases nobody : values ++ more = []
    · obtain ⟨rfl, rfl⟩ := List.append_eq_nil_iff.mp nobody
      rfl
    · exact gather_append_objects objects wellFormed (grouped nobody objects)
  · exact gather_append_leaves plain

/-- Of records that are well formed, so are the records under a name. -/
theorem AreWellFormed.held (wellFormed : AreWellFormed records) (key : String) :
    AreWellFormed ((held key records).filterMap Value.record?) := by
  intro nested member
  obtain ⟨value, under, read⟩ := List.mem_filterMap.mp member
  obtain ⟨record, listed, found⟩ := List.mem_filterMap.mp under
  have below : value.IsWellFormed := (wellFormed record listed).find? found
  cases value with
  | object className members =>
      cases read
      exact below
  | _ => cases read

/-- Records that are alike can be merged in two parts. -/
theorem mergeAll_append (compatible : Compatible (first ++ last))
    (wellFormed : AreWellFormed (first ++ last)) :
    mergeAll (first ++ last) = (mergeAll first).merge (mergeAll last) := by
  generalize whole : first ++ last = records at compatible
  induction compatible generalizing first last with
  | @of records alike below ih =>
      subst whole
      have front : ∀ record ∈ first, IsAscending record.members := fun record member =>
        wellFormed.ascending record (List.mem_append_left _ member)
      have back : ∀ record ∈ last, IsAscending record.members := fun record member =>
        wellFormed.ascending record (List.mem_append_right _ member)
      have found (key : String) : (mergeAll (first ++ last)).find? key =
          ((mergeAll first).merge (mergeAll last)).find? key := by
        have parts : held key (first ++ last) = held key first ++ held key last := held_append
        have split : (held key first ++ held key last).filterMap Value.record? = _ :=
          List.filterMap_append
        have tidy := wellFormed.held key
        have kinds := alike key
        have nested := ih key
        rw [parts] at tidy kinds nested
        rw [find?_merge (mergeAll_ascending last), find?_mergeAll wellFormed.ascending,
          find?_mergeAll front, find?_mergeAll back, parts]
        exact gather_append kinds tidy fun filled objects =>
          nested filled objects (split ▸ tidy) split.symm
      have classes : (mergeAll (first ++ last)).className = (mergeAll first).className := by
        rw [mergeAll_className, mergeAll_className]
      have members := (mergeAll_ascending (first ++ last)).ext
        (merge_ascending (mergeAll_ascending first) (mergeAll last)) found
      exact congrArg₂ mk classes members

/-- Three records that are alike merge to one record, whichever two are merged first. -/
theorem merge_merge {second third : Record} (compatible : Compatible [record, second, third])
    (wellFormed : AreWellFormed [record, second, third]) :
    (record.merge second).merge third = record.merge (second.merge third) := by
  have ofFirst : IsAscending record.members := wellFormed.ascending record (by simp)
  have ofSecond : IsAscending second.members := wellFormed.ascending second (by simp)
  -- Merged from the empty record on, the first record loses its class and nothing else.
  have split : mergeAll ([record] ++ [second, third]) =
      (mergeAll [record]).merge (mergeAll [second, third]) := mergeAll_append compatible wellFormed
  have alone : mergeAll [record] = ⟨none, record.members⟩ := empty_merge ofFirst
  have left : mergeAll ([record] ++ [second, third]) =
      ((mk none record.members).merge second).merge third :=
    congrArg (fun start => (start.merge second).merge third) (empty_merge ofFirst)
  have right : mergeAll [second, third] = (mk none second.members).merge third :=
    congrArg (merge · third) (empty_merge ofSecond)
  rw [left, right, alone] at split
  exact congrArg (mk record.className) (congrArg members split)

theorem mem_keys_merge (ascending : IsAscending right.members) :
    key ∈ (left.merge right).keys ↔ key ∈ left.keys ∨ key ∈ right.keys := by
  have found : (left.merge right).find? key = Value.meet (left.find? key) (right.find? key) :=
    find?_merge ascending
  unfold find? at found
  unfold keys
  rw [mem_keys_iff, mem_keys_iff, mem_keys_iff, found]
  cases KeyMap.find? key right.members <;> simp [Value.meet]

/--
Merging is associative on records that are alike, and so the records of a list
can be merged in two parts.  The results are the same member for member, with the
same classes at every level.  What holds of all records is that the names of a
merged record are those of the two, and that a member that only one of them has
is taken over as it is.
-/
theorem merge_grouping :
    (∀ first second third : Record, AreWellFormed [first, second, third] →
      Compatible [first, second, third] →
        (first.merge second).merge third = first.merge (second.merge third)) ∧
    (∀ first last : List Record, AreWellFormed (first ++ last) → Compatible (first ++ last) →
      mergeAll (first ++ last) = (mergeAll first).merge (mergeAll last)) ∧
    ∀ left right : Record, IsAscending right.members → ∀ key,
      (key ∈ (left.merge right).keys ↔ key ∈ left.keys ∨ key ∈ right.keys) ∧
        (key ∉ right.keys → (left.merge right).find? key = left.find? key) ∧
          (key ∉ left.keys → (left.merge right).find? key = right.find? key) := by
  refine ⟨fun _ _ _ wellFormed compatible => merge_merge compatible wellFormed,
    fun _ _ wellFormed compatible => mergeAll_append compatible wellFormed, ?_⟩
  intro left right ascending key
  have missing {record : Record} (absent : key ∉ record.keys) : record.find? key = none :=
    Option.not_isSome_iff_eq_none.mp (mt mem_keys_iff.mpr absent)
  refine ⟨mem_keys_merge ascending, fun absent => ?_, fun absent => ?_⟩
  · rw [find?_merge ascending, missing absent, Value.meet_none]
  · rw [find?_merge ascending, missing absent, Value.none_meet]

/-- Two of three records have a list and an object under the same names, the objects with a list
under the same name again. -/
theorem merge_grouping_nested :
    let list (text : String) : Value := .array [.string text]
    let first : Record :=
      ⟨some "A", [("list", list "a"),
        ("object", .object (some "P") [("list", list "p"), ("x", .null)])]⟩
    let second : Record := ⟨some "B", [("text", .string "b")]⟩
    let third : Record :=
      ⟨none, [("list", list "c"), ("object", .object (some "Q") [("list", list "q")]),
        ("text", .null)]⟩
    let merged : Record :=
      ⟨some "A", [("list", .array [.string "a", .string "c"]),
        ("object", .object (some "P") [("list", .array [.string "p", .string "q"]), ("x", .null)]),
        ("text", .null)]⟩
    AreWellFormed [first, second, third] ∧ Compatible [first, second, third] ∧
      (first.merge second).merge third = merged ∧ first.merge (second.merge third) = merged ∧
      mergeAll ([first] ++ [second, third]) = (mergeAll [first]).merge (mergeAll [second, third]) ∧
      IsAscending second.members ∧ "object" ∉ second.keys ∧
      (first.merge second).find? "object" = first.find? "object" := by
  intro list first second third merged
  have wellFormed : AreWellFormed [first, second, third] := by
    rw [AreWellFormed, List.forall_mem_cons, List.forall_mem_cons, List.forall_mem_singleton]
    simp only [toValue, Value.IsWellFormed, Value.HasWellFormedMembers, Value.AreWellFormed,
      IsAscending, first, second, third, list]
    decide
  have below : Compatible [⟨some "P", [("list", list "p"), ("x", .null)]⟩,
      ⟨some "Q", [("list", list "q")]⟩] := by
    let inner : List Record := [⟨some "P", [("list", list "p"), ("x", .null)]⟩,
      ⟨some "Q", [("list", list "q")]⟩]
    have flat : ∀ key ∈ inner.flatMap keys,
        ¬ ∀ value ∈ held key inner, value.shape = .object := by decide
    exact .of_names (by decide) fun key named objects => absurd objects (flat key named)
  have compatible : Compatible [first, second, third] := by
    have only : ∀ key ∈ [first, second, third].flatMap keys,
        (∀ value ∈ held key [first, second, third], value.shape = .object) → key = "object" := by
      decide
    refine .of_names (by decide) fun key named objects => ?_
    rw [only key named objects]
    exact below
  have ascending : IsAscending second.members := List.pairwise_singleton _ _
  have absent : "object" ∉ second.keys := by decide
  obtain ⟨three, parts, all⟩ := merge_grouping
  refine ⟨wellFormed, compatible, rfl, ?_, parts _ _ wellFormed compatible, ascending, absent,
    (all first second ascending "object").2.1 absent⟩
  exact (three first second third wellFormed compatible).symm

end Record

end SchemaValidation
