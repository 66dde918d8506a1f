import SchemaValidation.Proofs.Choices
import SchemaValidation.Proofs.EachReport
import SchemaValidation.Schema.Compilation

/-!
# What becomes of the items of a list

Each item of a list is looked at on its own, so what is built of a list, the
reports against it and its warnings are put together from what becomes of the
items, in their order.  A list under schemas to consist of is settled item by
item by the choice between them, and a union of the same schemas settles every
item in the same way.
-/

namespace SchemaValidation

open Trail

namespace Value

theorem numbered_map_snd (start : Nat) (items : List Value) :
    (numbered start items).map Prod.snd = items := by
  induction items generalizing start with
  | nil => rfl
  | cons item rest ih => exact congrArg (item :: ·) (ih (start + 1))

theorem mem_of_mem_numbered {start : Nat} {items : List Value} {entry : Slot × Value}
    (member : entry ∈ numbered start items) : entry.2 ∈ items := by
  rw [← numbered_map_snd start items]
  exact List.mem_map_of_mem member

end Value

namespace Schema

/-- The items of a list are settled one by one, each as if it were the only one. -/
theorem settleItems_alone (path : String)
    {choose : Value → String → Trail → Except (List Report) Value × Trail}
    (adds : ∀ item path, OnlyAdds (choose item path)) (start : Nat) (items : List Value)
    (trail : Trail) :
    let settled := settleItems path choose start items trail
    let alone (entry : Slot × Value) := choose entry.2 (entry.1.join path) {}
    settled.1 = (Value.numbered start items).filterMap (fun entry => (alone entry).1.toOption) ∧
      settled.2.1 = (Value.numbered start items).flatMap
        (fun entry => (choiceReported (alone entry)).1) ∧
      settled.2.2.warnings = trail.warnings ++ (Value.numbered start items).flatMap
        (fun entry => (alone entry).2.warnings) := by
  induction items generalizing start trail with
  | nil => exact ⟨rfl, rfl, (List.append_nil _).symm⟩
  | cons item rest ih =>
      have first := (adds item ((Slot.index start).join path)).eq_append trail
      obtain ⟨values, errors, warnings⟩ :=
        ih (start + 1) (trail ++ (choose item ((Slot.index start).join path) {}).2)
      dsimp only at values errors warnings ⊢
      unfold settleItems Value.numbered
      rw [first, List.filterMap_cons, List.flatMap_cons, List.flatMap_cons]
      rw [append_warnings, List.append_assoc] at warnings
      rcases run : choose item ((Slot.index start).join path) {} with ⟨reports | value, after⟩
      all_goals rw [run] at values errors warnings
      · exact ⟨values, congrArg (reports ++ ·) errors, warnings⟩
      · exact ⟨congrArg (value :: ·) values, errors, warnings⟩

variable {capabilities : Capabilities} {options : Options} {node : Node Schema}

/-! ## One item -/

variable (capabilities options) in
/-- Where items are called for, an item becomes what the first accepting schema makes of it. -/
theorem chooseItem_of_included (included : node.includes ≠ []) (item : Value) (path : String) :
    let settled := chooseItem capabilities options node item path {}
    let taken := chosen? capabilities options node.includes item path
    settled.1.toOption =
        taken.map (fun schema => (walk capabilities options schema item path {}).1.value) ∧
      (choiceReported settled).1 = (if taken.isNone then
        (walk capabilities options (node.includes.getLast included) item path {}).1.errors
          else []) ∧
      settled.2.warnings = match taken with
        | some schema => (walk capabilities options schema item path {}).2.warnings
        | none => [] := by
  have searched : chooseItem capabilities options node item path {} =
      walkFirst capabilities options node.includes item path [] {} :=
    if_neg (by simpa using included)
  have decided := walkFirst_decision capabilities options node.includes item path [] {}
  have warnings := walkFirst_warnings capabilities options node.includes item path [] {}
  change _ = [] ++ match chosen? capabilities options node.includes item path with
    | some schema => _
    | none => _ at warnings
  rw [List.getLast?_eq_some_getLast included] at decided
  unfold choiceReported
  dsimp only
  rw [searched, warnings]
  cases first : chosen? capabilities options node.includes item path with
  | none =>
      rw [first] at decided
      rw [decided]
      exact ⟨rfl, rfl, rfl⟩
  | some schema =>
      rw [first] at decided
      rw [decided]
      exact ⟨rfl, rfl, rfl⟩

variable (capabilities options) in
/-- Where items are only excluded, an item stays as it is unless a schema accepts it. -/
theorem chooseItem_of_excluded (unrestricted : node.includes = []) (item : Value)
    (path : String) :
    let settled := chooseItem capabilities options node item path {}
    let matched := node.excludes.any fun schema =>
      (walk capabilities options schema item path {}).1.isOk
    settled.1.toOption = (if matched then none else some item) ∧
      (choiceReported settled).1 = (if matched then [.of .matchedExcludedType path item] else []) ∧
      settled.2.warnings = [] := by
  intro settled matched
  have searched : settled = walkExcluded capabilities options node.excludes item path {} :=
    if_pos (by simp [unrestricted])
  have decided := walkExcluded_decision capabilities options node.excludes item path {}
  have found : (chosen? capabilities options node.excludes item path).isSome = matched :=
    List.isSome_find?
  rw [← searched] at decided
  rw [← found]
  unfold choiceReported
  rw [decided, searched, walkExcluded_warnings]
  cases chosen? capabilities options node.excludes item path with
  | none => exact ⟨rfl, rfl, rfl⟩
  | some schema => exact ⟨rfl, rfl, rfl⟩

/-! ## Whole lists -/

variable (capabilities options) in
/-- What is built of a restricted list is put together from what becomes of its items. -/
theorem descendArray_alone (node : Node Schema)
    (restricted : (node.includes.isEmpty && node.excludes.isEmpty) = false)
    (items : List Value) (path : String) (trail : Trail) :
    let descent := descendArray capabilities options node items path trail
    let alone (entry : Slot × Value) :=
      chooseItem capabilities options node entry.2 (entry.1.join path) {}
    descent.1.value =
        .array ((Value.numbered 0 items).filterMap fun entry => (alone entry).1.toOption) ∧
      descent.1.errors =
        (Value.numbered 0 items).flatMap (fun entry => (choiceReported (alone entry)).1) ∧
      descent.2.warnings = trail.warnings ++
        (Value.numbered 0 items).flatMap fun entry => (alone entry).2.warnings := by
  obtain ⟨values, errors, warnings⟩ := settleItems_alone path
    (chooseItem_onlyAdds capabilities options
      fun schema (_ : schema ∈ node.nested) => walk_onlyAdds capabilities options schema)
    0 items trail
  unfold descendArray
  rw [if_neg (by simp [restricted])]
  exact ⟨congrArg Value.array values, errors, warnings⟩

theorem descendArray_of_included (included : node.includes ≠ []) (items : List Value)
    (path : String) (trail : Trail) :
    let descent := descendArray capabilities options node items path trail
    let entries := Value.numbered 0 items
    let taken (entry : Slot × Value) :=
      chosen? capabilities options node.includes entry.2 (entry.1.join path)
    descent.1.value = .array (entries.filterMap fun entry => (taken entry).map fun schema =>
        (walk capabilities options schema entry.2 (entry.1.join path) {}).1.value) ∧
      descent.1.errors = ((entries.filter fun entry => (taken entry).isNone).flatMap fun entry =>
        (walk capabilities options (node.includes.getLast included) entry.2
          (entry.1.join path) {}).1.errors) ∧
      descent.2.warnings = trail.warnings ++ entries.flatMap fun entry =>
        match taken entry with
        | some schema =>
            (walk capabilities options schema entry.2 (entry.1.join path) {}).2.warnings
        | none => [] := by
  obtain ⟨values, errors, warnings⟩ :=
    descendArray_alone capabilities options node (by simp [included]) items path trail
  have settled := chooseItem_of_included capabilities options included
  refine ⟨values.trans (congrArg Value.array ?_), ?_, warnings.trans (congrArg _ ?_)⟩
  · exact List.filterMap_congr fun entry _ => (settled entry.2 _).1
  · rw [flatMap_filter]
    exact errors.trans (List.flatMap_congr fun entry _ => (settled entry.2 _).2.1)
  · exact List.flatMap_congr fun entry _ => (settled entry.2 _).2.2

theorem descendArray_of_excluded (unrestricted : node.includes = []) (excluded : node.excludes ≠ [])
    (items : List Value) (path : String) (trail : Trail) :
    let descent := descendArray capabilities options node items path trail
    let entries := Value.numbered 0 items
    let matched (entry : Slot × Value) := node.excludes.any fun schema =>
      (walk capabilities options schema entry.2 (entry.1.join path) {}).1.isOk
    descent.1.value = .array ((entries.filter fun entry => !matched entry).map Prod.snd) ∧
      descent.1.errors = ((entries.filter matched).map fun entry =>
        .of .matchedExcludedType (entry.1.join path) entry.2) ∧
      descent.2.warnings = trail.warnings := by
  obtain ⟨values, errors, warnings⟩ :=
    descendArray_alone capabilities options node (by simp [unrestricted, excluded]) items path trail
  have settled := chooseItem_of_excluded capabilities options unrestricted
  intro descent entries matched
  refine ⟨values.trans (congrArg Value.array ?_), ?_, warnings.trans ?_⟩
  · rw [List.map_eq_flatMap, flatMap_filter, List.filterMap_eq_flatMap_toList]
    refine List.flatMap_congr fun entry _ => ?_
    rw [(settled entry.2 _).1]
    dsimp only [matched]
    split <;> simp_all
  · rw [List.map_eq_flatMap, flatMap_filter]
    exact errors.trans (List.flatMap_congr fun entry _ => (settled entry.2 _).2.1)
  · rw [List.flatMap_eq_nil_iff.mpr fun entry _ => (settled entry.2 _).2.2, List.append_nil]

/-- A descent without errors drops no item. -/
theorem descendArray_length {items : List Value} {path : String} {trail : Trail}
    (accepted : (descendArray capabilities options node items path trail).1.errors = []) :
    ∃ values, (descendArray capabilities options node items path trail).1.value = .array values ∧
      values.length = items.length := by
  have ruled : (descendArray capabilities options node items path trail).1.ruling =
      ruleArray capabilities options node items :=
    descendArray_ruling (fun schema _ => schema.followsRuling) items path trail
  refine ⟨_, congrArg Ruling.value ruled, List.filterMap_length_eq_length.mpr ?_⟩
  have all : (descendArray capabilities options node items path trail).1.isOk = _ :=
    congrArg Ruling.accepted ruled
  rw [Outcome.isOk, accepted] at all
  exact List.all_eq_true.mp all.symm

variable (capabilities options) in
/--
Descending a list keeps the order of its items and loses none of them.  Where
items are called for, the list that is built holds what the first accepting
schema makes of each item that has one, the errors are those of the last schema
on each item that has none, and the warnings are those of the accepting schemas.
Where items are only excluded, the items that no schema accepts stay as they
are, each other item has one report, and there is no warning.
-/
theorem descendArray_in_order (node : Node Schema) (items : List Value) (path : String)
    (trail : Trail) :
    let descent := descendArray capabilities options node items path trail
    let entries := Value.numbered 0 items
    (∀ included : node.includes ≠ [],
      let taken (entry : Slot × Value) :=
        chosen? capabilities options node.includes entry.2 (entry.1.join path)
      descent.1.value = .array (entries.filterMap fun entry => (taken entry).map fun schema =>
          (walk capabilities options schema entry.2 (entry.1.join path) {}).1.value) ∧
        descent.1.errors =
          ((entries.filter fun entry => (taken entry).isNone).flatMap fun entry =>
            (walk capabilities options (node.includes.getLast included) entry.2
              (entry.1.join path) {}).1.errors) ∧
        descent.2.warnings = trail.warnings ++ entries.flatMap fun entry =>
          match taken entry with
          | some schema =>
              (walk capabilities options schema entry.2 (entry.1.join path) {}).2.warnings
          | none => []) ∧
    (node.includes = [] → node.excludes ≠ [] →
      let matched (entry : Slot × Value) := node.excludes.any fun schema =>
        (walk capabilities options schema entry.2 (entry.1.join path) {}).1.isOk
      descent.1.value = .array ((entries.filter fun entry => !matched entry).map Prod.snd) ∧
        descent.1.errors = ((entries.filter matched).map fun entry =>
          .of .matchedExcludedType (entry.1.join path) entry.2) ∧
        descent.2.warnings = trail.warnings) ∧
    (descent.1.errors = [] →
      ∃ values, descent.1.value = .array values ∧ values.length = items.length) := by
  refine ⟨?_, ?_, descendArray_length⟩
  · intro included
    exact descendArray_of_included included items path trail
  · intro unrestricted excluded
    exact descendArray_of_excluded unrestricted excluded items path trail

/-- Of an object, a text and a truth value, the text is rejected where objects and truth values are
called for, and the truth value where truth values are excluded. -/
theorem descendArray_in_order_three :
    let boolean : Schema := .node { constraints := { kind := some .boolean } }
    let object : Schema :=
      .node { constraints := { kind := some .object }, keys := [("a", boolean)] }
    let calling : Node Schema := { includes := [object, boolean] }
    let excluding : Node Schema := { excludes := [.node { constraints := { kind := some .number } },
      boolean] }
    let items : List Value := [.object none [("a", .string "x")], .string "y", .boolean true]
    let mismatch (path text : String) : Report :=
      { tag := "mismatching_types", sourcePath := path, sourceValue := .string text,
        expected := .string "boolean", actual := .string "string" }
    let called := descendArray .native {} calling items "" {}
    let excluded := descendArray .native {} excluding items "" {}
    (calling.includes ≠ [] ∧ called.1.value = .array [.object none [], .boolean true] ∧
      called.1.errors = [mismatch "/1" "y"] ∧ called.2.warnings = [mismatch "/0/a" "x"]) ∧
    (excluding.includes = [] ∧ excluding.excludes ≠ [] ∧
      excluded.1.value = .array [.object none [("a", .string "x")], .string "y"] ∧
      excluded.1.errors =
        [{ tag := "matched_excluded_type", sourcePath := "/2", sourceValue := .boolean true }] ∧
      excluded.2.warnings = []) ∧
    (descendArray .native {} calling [] "" {}).1.errors = [] ∧
      ∃ values, (descendArray .native {} calling [] "" {}).1.value = .array values ∧
        values.length = 0 := by
  intro boolean object calling excluding items mismatch called excluded
  have included : calling.includes ≠ [] := List.cons_ne_nil _ _
  have barred : excluding.excludes ≠ [] := List.cons_ne_nil _ _
  obtain ⟨values, errors, warnings⟩ :=
    (descendArray_in_order .native {} calling items "" {}).1 included
  obtain ⟨values', errors', warnings'⟩ :=
    (descendArray_in_order .native {} excluding items "" {}).2.1 rfl barred
  exact ⟨⟨included, values, errors, warnings⟩, ⟨rfl, barred, values', errors', warnings'⟩, rfl,
    (descendArray_in_order .native {} calling [] "" {}).2.2 rfl⟩

/-! ## A union in the place of its alternatives -/

variable (capabilities options) in
/-- The items of a list that a node does not take, with their places. -/
def rejectedItems (node : Node Schema) (items : List Value) (path : String) :
    List (Slot × Value) :=
  (Value.numbered 0 items).filter fun entry =>
    (chooseItem capabilities options node entry.2 (entry.1.join path) {}).1.toOption.isNone

/-- The union of frozen schemas has them as its alternatives, and no other field. -/
theorem compile_union (candidates : List Frozen) (supply : Supply) :
    ((Source.union (candidates.map .frozen)).compile supply).1.schema =
      .node { alternatives := candidates.map Frozen.schema } := by
  have all : Compilation.all (Source.compileItems (candidates.map .frozen)) supply =
      (candidates.map Frozen.schema, supply) := by
    induction candidates with
    | nil => rfl
    | cons candidate rest ih =>
        change ((candidate.schema :: (Compilation.all _ supply).1, (Compilation.all _ supply).2) :
          List Schema × Supply) = _
        rw [ih]
        rfl
  change Schema.node { alternatives := (Compilation.all
    ([] ++ Source.compileItems (candidates.map .frozen)) supply).1 } = _
  rw [List.nil_append, all]

section Union

variable {schemas : List Schema} (filled : schemas ≠ []) {item : Value}
  (present : item.isUndefined = false) (admitted : options.presence ≠ .forbidden)
include filled present admitted

variable (capabilities) in
/-- A union without other fields answers like the schema that is taken, or with one report. -/
theorem walk_bareUnion (path : String) :
    let walked := walk capabilities options (.node { alternatives := schemas }) item path {}
    match chosen? capabilities options schemas item path with
    | some schema => walked.1 = (walk capabilities options schema item path {}).1 ∧
        walked.2.warnings = (walk capabilities options schema item path {}).2.warnings
    | none => walked.1 = ⟨.undefined, [.of .noAlternativeMatched path item]⟩ := by
  have union : ({ alternatives := schemas } : Node Schema).alternatives ≠ [] := filled
  obtain ⟨result, warnings⟩ := walk_answer capabilities union present admitted path {}
  change _ = (unionAnswer _ _ _ (chosen? capabilities options schemas item path) _ _).1 at result
  change _ =
    [] ++ (unionAnswer _ _ _ (chosen? capabilities options schemas item path) _ _).2.warnings
    at warnings
  cases first : chosen? capabilities options schemas item path with
  | none =>
      rw [first] at result
      exact result
  | some schema =>
      rw [first] at result warnings
      exact ⟨result, warnings⟩

variable (capabilities) in
/-- A union is taken exactly if one of its alternatives would be. -/
theorem chosen?_bareUnion (path : String) :
    chosen? capabilities options [.node { alternatives := schemas }] item path =
      (chosen? capabilities options schemas item path).map
        fun _ => .node { alternatives := schemas } := by
  have walked := walk_bareUnion capabilities filled present admitted path
  rw [chosen?_cons]
  cases first : chosen? capabilities options schemas item path with
  | none =>
      rw [first] at walked
      rw [walked]
      rfl
  | some schema =>
      rw [first] at walked
      rw [if_pos (by rw [walked.1]; exact isOk_of_chosen first)]
      rfl

variable (capabilities node) in
/-- An item becomes the same under schemas and under their union; only the reports on an item that
none accepts differ. -/
theorem chooseItem_union (path : String) :
    let union : Schema := .node { alternatives := schemas }
    let listed := chooseItem capabilities options { node with includes := schemas } item path {}
    let united := chooseItem capabilities options { node with includes := [union] } item path {}
    listed.1.toOption = united.1.toOption ∧ listed.2.warnings = united.2.warnings ∧
      (choiceReported united).1 =
        if united.1.toOption.isNone then [.of .noAlternativeMatched path item] else [] := by
  intro union listed united
  have listing : ({ node with includes := schemas } : Node Schema).includes ≠ [] := filled
  have uniting : ({ node with includes := [union] } : Node Schema).includes ≠ [] :=
    List.cons_ne_nil union []
  obtain ⟨taken, -, warned⟩ := chooseItem_of_included capabilities options listing item path
  obtain ⟨taken', refused', warned'⟩ :=
    chooseItem_of_included capabilities options uniting item path
  have same := chosen?_bareUnion capabilities filled present admitted path
  have walked := walk_bareUnion capabilities filled present admitted path
  rw [same] at taken' refused' warned'
  cases first : chosen? capabilities options schemas item path with
  | none =>
      rw [first] at taken warned taken' refused' warned' walked
      refine ⟨taken.trans taken'.symm, warned.trans warned'.symm, ?_⟩
      rw [taken']
      exact refused'.trans (congrArg Outcome.errors walked)
  | some schema =>
      rw [first] at taken warned taken' refused' warned' walked
      obtain ⟨result, warnings⟩ := walked
      have value : listed.1.toOption = united.1.toOption := by
        refine taken.trans (Eq.trans ?_ taken'.symm)
        exact congrArg (fun outcome : Outcome => some outcome.value) result.symm
      refine ⟨value, warned.trans (warnings.symm.trans warned'.symm), ?_⟩
      rw [taken']
      exact refused'

end Union

variable (capabilities options) in
/-- The errors on a list are those on its rejected items. -/
theorem errors_of_rejectedItems
    (restricted : (node.includes.isEmpty && node.excludes.isEmpty) = false)
    (items : List Value) (path : String) (trail : Trail) :
    (descendArray capabilities options node items path trail).1.errors =
      (rejectedItems capabilities options node items path).flatMap fun entry =>
        (choiceReported
          (chooseItem capabilities options node entry.2 (entry.1.join path) {})).1 := by
  unfold rejectedItems
  rw [flatMap_filter]
  refine (descendArray_alone capabilities options node restricted items path trail).2.1.trans ?_
  refine List.flatMap_congr fun entry _ => ?_
  dsimp only
  rcases chooseItem capabilities options node entry.2 (entry.1.join path) {} with
    ⟨reports | value, after⟩
  · rfl
  · rfl

variable (capabilities) in
/--
Calling for one of several schemas and calling for their union come to the same.
For frozen schemas, and a list of present items under options that do not forbid
what says nothing of its presence, the same items are rejected, the same list is
built and the same warnings are left.  Only the reports on the rejected items
differ: the errors of the last schema on one side, one report of the union on the
other.
-/
theorem descendArray_union {candidates : List Frozen} (given : candidates ≠ [])
    (node : Node Schema) {items : List Value}
    (present : ∀ item ∈ items, item.isUndefined = false)
    (admitted : options.presence ≠ .forbidden) (supply : Supply) (path : String)
    (trail : Trail) :
    let union := ((Source.union (candidates.map .frozen)).compile supply).1.schema
    let listed : Node Schema := { node with includes := candidates.map Frozen.schema }
    let united : Node Schema := { node with includes := [union] }
    let descent := descendArray capabilities options listed items path trail
    let descent' := descendArray capabilities options united items path trail
    let rejected := rejectedItems capabilities options listed items path
    rejected = rejectedItems capabilities options united items path ∧
      descent.1.value = descent'.1.value ∧ descent.2.warnings = descent'.2.warnings ∧
      descent.1.errors = (rejected.flatMap fun entry =>
        (walk capabilities options (candidates.getLast given).schema entry.2 (entry.1.join path)
          {}).1.errors) ∧
      descent'.1.errors =
        rejected.map fun entry => .of .noAlternativeMatched (entry.1.join path) entry.2 := by
  rw [compile_union]
  intro union listed united descent descent' rejected
  have filled : candidates.map Frozen.schema ≠ [] := by simpa using given
  have included : listed.includes ≠ [] := filled
  have listing : (listed.includes.isEmpty && listed.excludes.isEmpty) = false := by
    simp [listed, given]
  obtain ⟨values, -, warnings⟩ :=
    descendArray_alone capabilities options listed listing items path trail
  obtain ⟨values', -, warnings'⟩ :=
    descendArray_alone capabilities options united rfl items path trail
  have each (entry : Slot × Value) (member : entry ∈ Value.numbered 0 items) :=
    chooseItem_union capabilities node filled
      (present entry.2 (Value.mem_of_mem_numbered member)) admitted (entry.1.join path)
  have same : rejected = rejectedItems capabilities options united items path :=
    List.filter_congr fun entry member => congrArg _ (each entry member).1
  refine ⟨same, ?_, ?_, ?_, ?_⟩
  · rw [values, values']
    exact congrArg _ (List.filterMap_congr fun entry member => (each entry member).1)
  · rw [warnings, warnings']
    exact congrArg _ (List.flatMap_congr fun entry member => (each entry member).2.1)
  · refine (errors_of_rejectedItems capabilities options listing items path trail).trans ?_
    refine List.flatMap_congr fun entry member => ?_
    obtain ⟨result, errors, -⟩ :=
      chooseItem_of_included capabilities options included entry.2 (entry.1.join path)
    have refused := (List.mem_filter.mp member).2
    rw [result, Option.isNone_map] at refused
    rw [errors, if_pos refused, List.getLast_map]
  · rw [same, List.map_eq_flatMap]
    refine (errors_of_rejectedItems capabilities options rfl items path trail).trans ?_
    refine List.flatMap_congr fun entry member => ?_
    obtain ⟨listed, refused⟩ := List.mem_filter.mp member
    exact (each entry listed).2.2.trans (if_pos refused)

/-- The text is rejected by the object and the truth value, and by their union. -/
theorem descendArray_union_three :
    let boolean : Schema := .node { constraints := { kind := some .boolean } }
    let object : Schema :=
      .node { constraints := { kind := some .object }, keys := [("a", boolean)] }
    let candidates : List Frozen := [⟨0, object⟩, ⟨1, boolean⟩]
    let union := ((Source.union (candidates.map .frozen)).compile {}).1.schema
    let listed : Node Schema := { includes := [object, boolean] }
    let united : Node Schema := { includes := [union] }
    let items : List Value := [.object none [("a", .string "x")], .string "y", .boolean true]
    let descent := descendArray .native {} listed items "" {}
    let descent' := descendArray .native {} united items "" {}
    candidates ≠ [] ∧ (∀ item ∈ items, item.isUndefined = false) ∧
      ({} : Options).presence ≠ .forbidden ∧
      rejectedItems .native {} listed items "" = [(.index 1, .string "y")] ∧
      rejectedItems .native {} united items "" = [(.index 1, .string "y")] ∧
      descent.1.value = descent'.1.value ∧ descent.2.warnings = descent'.2.warnings ∧
      descent.1.errors = [
        { tag := "mismatching_types", sourcePath := "/1", sourceValue := .string "y",
          expected := .string "boolean", actual := .string "string" }] ∧
      descent'.1.errors =
        [{ tag := "no_alternative_matched", sourcePath := "/1", sourceValue := .string "y" }] := by
  intro boolean object candidates union listed united items descent descent'
  have filled : candidates ≠ [] := List.cons_ne_nil _ _
  have present : ∀ item ∈ items, item.isUndefined = false := by simp [items, Value.isUndefined]
  have admitted : ({} : Options).presence ≠ .forbidden := by decide
  obtain ⟨same, value, warnings, errors, errors'⟩ :=
    descendArray_union .native filled {} present admitted {} "" {}
  exact ⟨filled, present, admitted, rfl, same.symm, value, warnings, errors, errors'⟩

end Schema

end SchemaValidation
