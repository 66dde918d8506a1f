import SchemaValidation.KeyMap

/-!
# Collections by name

What is found under a name after each operation on a collection, and why a
collection in ascending order is determined by what is found in it.
-/

namespace SchemaValidation.KeyMap

variable {α : Type} {key other : String} {item : α} {members : List (String × α)}

/-! ## Look-up and membership -/

theorem find?_cons (name : String) (item : α) (rest : List (String × α)) :
    find? key ((name, item) :: rest) = if name = key then some item else find? key rest :=
  rfl

/-- What is found stands in the collection. -/
theorem mem_of_find? (found : find? key members = some item) : (key, item) ∈ members := by
  induction members with
  | nil => cases found
  | cons entry rest ih =>
      obtain ⟨name, first⟩ := entry
      rw [find?_cons] at found
      split at found
      · rename_i same
        cases found
        rw [same]
        exact List.mem_cons_self
      · exact List.mem_cons_of_mem _ (ih found)

/-- Nothing is found under a name exactly if the name does not occur. -/
theorem find?_eq_none_iff : find? key members = none ↔ ∀ entry ∈ members, entry.1 ≠ key := by
  induction members with
  | nil => simp
  | cons entry rest ih =>
      obtain ⟨name, first⟩ := entry
      rw [find?_cons]
      split
      · rename_i same
        simp [same]
      · rename_i distinct
        simp [ih, distinct]

theorem mem_keys_iff : key ∈ keys members ↔ (find? key members).isSome = true := by
  rw [Option.isSome_iff_ne_none, ne_eq, find?_eq_none_iff]
  simp [keys]

theorem contains_eq_false_iff : contains key members = false ↔ find? key members = none := by
  simp [contains]

/-- A selection by name keeps what is found under the selected names. -/
theorem find?_filter (selects : String → Bool) (members : List (String × α)) :
    find? key (members.filter fun entry => selects entry.1) =
      if selects key then find? key members else none := by
  induction members with
  | nil => simp
  | cons entry rest ih =>
      obtain ⟨name, first⟩ := entry
      rw [List.filter_cons]
      by_cases same : name = key
      · subst same
        cases selected : selects name <;> simp [selected, find?_cons, ih]
      · cases selects name <;> simp [find?_cons, same, ih]

theorem find?_erase (members : List (String × α)) :
    find? key (erase other members) = if key = other then none else find? key members := by
  rw [erase, find?_filter fun name => name != other]
  by_cases same : key = other <;> simp [same]

/-- Where names are looked up one by one and removed, a name that comes again finds nothing, and each
other finds what was there. -/
theorem forall_found_cons {holds : String → α → Prop} {names : List String}
    (found : find? key members = some item) :
    (∀ name ∈ key :: names, ∀ given, find? name members = some given → holds name given) ↔
      holds key item ∧
        ∀ name ∈ names, ∀ given, find? name (erase key members) = some given →
          holds name given := by
  constructor
  · intro each
    refine ⟨each key List.mem_cons_self item found, ?_⟩
    intro name listed given left
    rw [find?_erase] at left
    split at left
    · cases left
    · exact each name (List.mem_cons_of_mem _ listed) given left
  · rintro ⟨first, others⟩ name listed given present
    by_cases same : name = key
    · subst same
      rw [found] at present
      cases present
      exact first
    · refine others name ((List.mem_cons.mp listed).resolve_left same) given ?_
      rwa [find?_erase, if_neg same]

theorem find?_insert (members : List (String × α)) :
    find? key (insert other item members) =
      if key = other then some item else find? key members := by
  split
  · rename_i same
    rw [same, find?_insert_self]
  · rename_i distinct
    exact find?_insert_of_ne distinct item members

/-- A selection by name does not see what is stored under a name that it leaves out. -/
theorem filter_insert (selects : String → Bool) (left : selects key = false) (item : α)
    (members : List (String × α)) :
    ((insert key item members).filter fun entry => selects entry.1) =
      members.filter fun entry => selects entry.1 := by
  induction members with
  | nil => simp [insert, left]
  | cons entry rest ih =>
      obtain ⟨name, old⟩ := entry
      unfold insert
      split
      · simp [left]
      · split
        · rename_i same
          subst same
          simp [left]
        · rw [List.filter_cons, List.filter_cons, ih]

/-! ## Ascending order -/

theorem mem_insert {entry : String × α} (member : entry ∈ insert key item members) :
    entry = (key, item) ∨ entry ∈ members := by
  induction members with
  | nil => simpa [insert] using member
  | cons first rest ih =>
      obtain ⟨name, old⟩ := first
      unfold insert at member
      split at member
      · simpa using member
      · split at member
        · rcases List.mem_cons.mp member with same | member
          · exact .inl same
          · exact .inr (List.mem_cons_of_mem _ member)
        · rcases List.mem_cons.mp member with same | member
          · exact .inr (same ▸ List.mem_cons_self)
          · exact (ih member).imp id (List.mem_cons_of_mem _)

theorem ascending_cons {name : String} :
    IsAscending ((name, item) :: members) ↔
      (∀ entry ∈ members, name < entry.1) ∧ IsAscending members :=
  List.pairwise_cons

/-- A name in front of a collection in ascending order is in front of every name behind its head. -/
theorem ascending_pair {first second : String} (less : first < second) (item other : α) :
    IsAscending [(first, item), (second, other)] :=
  List.pairwise_pair.mpr less

theorem IsAscending.lt_of_lt_head {name : String}
    (ascending : IsAscending ((name, item) :: members)) (less : key < name) :
    ∀ entry ∈ (name, item) :: members, key < entry.1 := by
  intro entry member
  rcases List.mem_cons.mp member with rfl | member
  · exact less
  · exact String.lt_trans less ((ascending_cons.mp ascending).1 entry member)

/-- Storing a member keeps the order. -/
theorem IsAscending.insert (ascending : IsAscending members) :
    IsAscending (insert key item members) := by
  induction members with
  | nil => exact List.pairwise_singleton _ _
  | cons first rest ih =>
      obtain ⟨name, old⟩ := first
      obtain ⟨behind, tail⟩ := ascending_cons.mp ascending
      unfold KeyMap.insert
      split
      · rename_i less
        exact ascending_cons.mpr ⟨ascending.lt_of_lt_head less, ascending⟩
      · split
        · rename_i same
          subst same
          exact ascending_cons.mpr ⟨behind, tail⟩
        · rename_i notLess distinct
          refine ascending_cons.mpr ⟨?_, ih tail⟩
          intro entry member
          rcases mem_insert member with rfl | member
          · exact Std.lt_of_le_of_ne (Std.not_lt.mp notLess) distinct
          · exact behind entry member

/-- In ascending order every member is found under its name. -/
theorem IsAscending.find?_of_mem (ascending : IsAscending members)
    (member : (key, item) ∈ members) : find? key members = some item := by
  induction members with
  | nil => cases member
  | cons first rest ih =>
      obtain ⟨name, old⟩ := first
      obtain ⟨behind, tail⟩ := ascending_cons.mp ascending
      rw [find?_cons]
      rcases List.mem_cons.mp member with same | member
      · cases same
        exact if_pos rfl
      · rw [if_neg (String.ne_of_lt (behind _ member))]
        exact ih tail member

/-- Nothing is found under a name that is less than all others. -/
theorem find?_eq_none_of_lt (less : ∀ entry ∈ members, key < entry.1) :
    find? key members = none :=
  find?_eq_none_iff.mpr fun entry member => (String.ne_of_lt (less entry member)).symm

/-- The head of a collection cannot come before that of another in which the same is found. -/
theorem not_lt_of_same_finds {name name' : String} {first second : α}
    {rest rest' : List (String × α)} (ascending : IsAscending ((name', second) :: rest'))
    (same : find? name ((name, first) :: rest) = find? name ((name', second) :: rest')) :
    ¬ name < name' := by
  intro less
  rw [find?_eq_none_of_lt (ascending.lt_of_lt_head less), find?_cons, if_pos rfl] at same
  cases same

/-- Two collections in ascending order in which the same is found are the same. -/
theorem IsAscending.ext {first second : List (String × α)} (ascending : IsAscending first)
    (ascending' : IsAscending second) (same : ∀ key, find? key first = find? key second) :
    first = second := by
  induction first generalizing second with
  | nil =>
      cases second with
      | nil => rfl
      | cons entry rest =>
          have missing := same entry.1
          simp [find?] at missing
  | cons entry rest ih =>
      obtain ⟨name, item⟩ := entry
      cases second with
      | nil =>
          have missing := same name
          simp [find?] at missing
      | cons entry' rest' =>
          obtain ⟨name', item'⟩ := entry'
          have names : name = name' := by
            rcases Std.lt_trichotomy name name' with less | equal | less
            · exact absurd less (not_lt_of_same_finds ascending' (same name))
            · exact equal
            · exact absurd less (not_lt_of_same_finds ascending (same name').symm)
          subst names
          obtain ⟨behind, tail⟩ := ascending_cons.mp ascending
          obtain ⟨behind', tail'⟩ := ascending_cons.mp ascending'
          have items : item = item' := by
            have found := same name
            rw [find?_cons, find?_cons, if_pos rfl, if_pos rfl] at found
            exact Option.some.inj found
          have rests : rest = rest' := by
            refine ih tail tail' fun key => ?_
            by_cases equal : name = key
            · subst equal
              rw [find?_eq_none_of_lt behind, find?_eq_none_of_lt behind']
            · have found := same key
              rwa [find?_cons, find?_cons, if_neg equal, if_neg equal] at found
          rw [items, rests]

/-! ## Collections of pairs -/

/-- A member whose name comes after all others is stored at the end. -/
theorem insert_of_forall_lt (less : ∀ entry ∈ members, entry.1 < key) :
    insert key item members = members ++ [(key, item)] := by
  induction members with
  | nil => rfl
  | cons first rest ih =>
      obtain ⟨name, old⟩ := first
      have before : name < key := less (name, old) List.mem_cons_self
      have behind : ∀ entry ∈ rest, entry.1 < key := fun entry member =>
        less entry (List.mem_cons_of_mem _ member)
      rw [insert, if_neg (String.lt_asymm before), if_neg (String.ne_of_lt before), ih behind]
      rfl

/-- Members that come after those of a collection are laid behind it. -/
theorem overlay_of_ascending {base top : List (String × α)}
    (ascending : IsAscending (base ++ top)) : overlay base top = base ++ top := by
  induction top generalizing base with
  | nil => exact (List.append_nil base).symm
  | cons entry rest ih =>
      have before : ∀ other ∈ base, other.1 < entry.1 := fun other member =>
        (List.pairwise_append.mp ascending).2.2 other member entry List.mem_cons_self
      have whole : (base ++ [entry]) ++ rest = base ++ entry :: rest := by
        rw [List.append_assoc, List.singleton_append]
      have stored : overlay base (entry :: rest) =
          overlay (insert entry.1 entry.2 base) rest := rfl
      rw [stored, insert_of_forall_lt before, ih (whole ▸ ascending), whole]

/-- Pairs in ascending order are the collection that is made of them. -/
theorem IsAscending.ofList_eq {pairs : List (String × α)} (ascending : IsAscending pairs) :
    ofList pairs = pairs :=
  overlay_of_ascending (List.nil_append pairs ▸ ascending)

theorem find?_mapItems {β : Type} (f : α → β) (members : List (String × α)) :
    find? key (mapItems f members) = (find? key members).map f := by
  induction members with
  | nil => rfl
  | cons entry rest ih =>
      obtain ⟨name, item⟩ := entry
      have mapped : mapItems f ((name, item) :: rest) = (name, f item) :: mapItems f rest := rfl
      rw [mapped, find?_cons, find?_cons, ih]
      split <;> rfl

theorem IsAscending.mapItems {β : Type} (ascending : IsAscending members) (f : α → β) :
    IsAscending (mapItems f members) :=
  List.pairwise_map.mpr ascending

theorem mapItems_insert {β : Type} (f : α → β) (key : String) (item : α)
    (members : List (String × α)) :
    mapItems f (insert key item members) = insert key (f item) (mapItems f members) := by
  induction members with
  | nil => rfl
  | cons entry rest ih =>
      obtain ⟨name, old⟩ := entry
      have mapped : mapItems f ((name, old) :: rest) = (name, f old) :: mapItems f rest := rfl
      rw [mapped]
      unfold insert
      split
      · rfl
      · split
        · rfl
        · rw [← ih]
          rfl

theorem mapItems_overlay {β : Type} (f : α → β) (base top : List (String × α)) :
    mapItems f (overlay base top) = overlay (mapItems f base) (mapItems f top) := by
  induction top generalizing base with
  | nil => rfl
  | cons entry rest ih =>
      refine (ih (insert entry.1 entry.2 base)).trans ?_
      rw [mapItems_insert]
      rfl

theorem mapItems_filter {β : Type} (f : α → β) (selects : String → Bool)
    (members : List (String × α)) :
    mapItems f (members.filter fun entry => selects entry.1) =
      (mapItems f members).filter fun entry => selects entry.1 := by
  unfold mapItems
  rw [List.filter_map]
  rfl

/-- What stands in a collection after others are laid over it stood in one of the two. -/
theorem mem_overlay {entry : String × α} {base top : List (String × α)}
    (member : entry ∈ overlay base top) : entry ∈ base ∨ entry ∈ top := by
  induction top generalizing base with
  | nil => exact .inl member
  | cons first rest ih =>
      rcases ih member with member | member
      · rcases mem_insert member with rfl | member
        · exact .inr List.mem_cons_self
        · exact .inl member
      · exact .inr (List.mem_cons_of_mem _ member)

theorem IsAscending.overlay {base : List (String × α)} (ascending : IsAscending base)
    (top : List (String × α)) : IsAscending (overlay base top) := by
  induction top generalizing base with
  | nil => exact ascending
  | cons entry rest ih => exact ih ascending.insert

/-- Of members that are laid over others, those without a name twice among them count first. -/
theorem find?_overlay {top : List (String × α)} (distinct : (keys top).Nodup)
    (base : List (String × α)) :
    find? key (overlay base top) = (find? key top).or (find? key base) := by
  induction top generalizing base with
  | nil => rfl
  | cons entry rest ih =>
      obtain ⟨absent, others⟩ := List.nodup_cons.mp distinct
      refine (ih others _).trans ?_
      rw [find?_insert, find?_cons]
      by_cases same : entry.1 = key
      · subst same
        have missing : find? entry.1 rest = none :=
          Option.not_isSome_iff_eq_none.mp (mt mem_keys_iff.mpr absent)
        simp [missing]
      · simp [same, Ne.symm same]

/-- Members that are laid over others leave what is stored under a name that they do not have. -/
theorem find?_overlay_of_missing {top : List (String × α)} (missing : find? key top = none)
    (base : List (String × α)) : find? key (overlay base top) = find? key base := by
  induction top generalizing base with
  | nil => rfl
  | cons entry rest ih =>
      rw [find?_cons] at missing
      split at missing
      · cases missing
      · rename_i other
        exact (ih missing _).trans (find?_insert_of_ne (Ne.symm other) entry.2 base)

theorem find?_ofList {pairs : List (String × α)} (distinct : (keys pairs).Nodup) :
    find? key (ofList pairs) = find? key pairs :=
  (find?_overlay distinct []).trans (Option.or_none ..)

theorem IsAscending.nodup_keys (ascending : IsAscending members) : (keys members).Nodup :=
  List.pairwise_map.mpr (ascending.imp String.ne_of_lt)

/-- In a collection that is made of names, exactly these names are found. -/
theorem find?_map (f : String → α) (names : List String) :
    find? key (names.map fun name => (name, f name)) =
      if names.contains key then some (f key) else none := by
  induction names with
  | nil => rfl
  | cons name rest ih =>
      rw [List.map_cons, find?_cons, List.contains_cons, ih]
      by_cases same : name = key
      · simp [same]
      · simp [same, Ne.symm same]

/-! ## Selections -/

/-- The members of a collection under some names, in the order of the names. -/
def select (names : List String) (members : List (String × α)) : List (String × α) :=
  names.filterMap fun name => (find? name members).map fun item => (name, item)

theorem find?_select (names : List String) (members : List (String × α)) :
    find? key (select names members) =
      if names.contains key then find? key members else none := by
  induction names with
  | nil => rfl
  | cons name rest ih =>
      unfold select at ih ⊢
      rw [List.filterMap_cons, List.contains_cons]
      by_cases same : key = name
      · subst same
        cases found : find? key members with
        | none => simp [ih, found]
        | some item => simp [find?_cons]
      · have distinct : (key == name) = false := beq_false_of_ne same
        rw [distinct, Bool.false_or, ← ih]
        cases find? name members with
        | none => rfl
        | some item =>
            rw [Option.map_some]
            dsimp only
            rw [find?_cons, if_neg (Ne.symm same)]

/-- From a collection in ascending order, names in ascending order select the members in the order in
which they stand. -/
theorem IsAscending.select_eq_filter (ascending : IsAscending members) {names : List String}
    (sorted : names.Pairwise (· < ·)) :
    select names members = members.filter fun entry => names.contains entry.1 := by
  have selected : IsAscending (select names members) := by
    refine sorted.filterMap _ fun first second less entry found other found' => ?_
    obtain ⟨item, -, rfl⟩ := Option.map_eq_some_iff.mp found
    obtain ⟨item', -, rfl⟩ := Option.map_eq_some_iff.mp found'
    exact less
  refine selected.ext (ascending.filter _) fun key => ?_
  rw [find?_select, find?_filter fun name => names.contains name]

end SchemaValidation.KeyMap
