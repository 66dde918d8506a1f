import SchemaValidation.Proofs.EachReport

/-!
# The account of an object

Every member of an object is walked or ruled unknown exactly once.  What becomes
of it, and what is reported on it, is the same as if it were the only member.  An
account of the whole object is put together from these: the members that are
built, the errors and the warnings, each in the order of the names.
-/

namespace SchemaValidation

/-! ## Members that are looked up one by one -/

namespace KeyMap

variable {α : Type} {key : String} {item : α} {keys : List String} {members : List (String × α)}

theorem select_cons_of_missing (missing : find? key members = none) (keys : List String) :
    select (key :: keys) members = select keys members := by
  unfold select
  rw [List.filterMap_cons_none (by rw [missing]; rfl)]

/-- A member that is found and removed is not asked for again. -/
theorem select_cons_of_found (found : find? key members = some item) (new : key ∉ keys) :
    select (key :: keys) members = (key, item) :: select keys (erase key members) := by
  unfold select
  rw [List.filterMap_cons_some (by rw [found]; rfl)]
  refine congrArg _ (List.filterMap_congr fun name listed => ?_)
  have other : name ≠ key := fun same => new (same ▸ listed)
  rw [find?_erase, if_neg other]

end KeyMap

/-- The schema of the pattern if a name fits it. -/
def Node.fitting? (node : Node Schema) (key : String) : Option Schema :=
  (node.pattern.filter fun entry => entry.1.isMatch key).map Prod.snd

theorem Node.nested_of_fitting {node : Node Schema} {key : String} {schema : Schema}
    (fits : node.fitting? key = some schema) : schema ∈ node.nested := by
  obtain ⟨entry, selected, rfl⟩ := Option.map_eq_some_iff.mp fits
  exact nested_of_pattern (Option.filter_eq_some_iff.mp selected).1

/-- The members of a record that are its own but that a node does not declare. -/
def Record.undeclared (capabilities : Capabilities) (node : Node Schema) (record : Record) :
    List (String × Value) :=
  record.members.filter fun entry =>
    (capabilities.ownKeys record).contains entry.1 && !KeyMap.contains entry.1 node.keys

/-- The report that a member of a record is unknown. -/
def Record.unknownKey (record : Record) (path key : String) : Report :=
  { Report.of .unknownKey path record.toValue with actual := .string key }

namespace Schema

variable {capabilities : Capabilities} {options : Options} {node : Node Schema} {path : String}

theorem walkFitting_eq (key : String) (item : Value) (trail : Trail) :
    walkFitting capabilities options node.pattern path key item trail =
      (node.fitting? key).map fun schema =>
        walk capabilities options schema item ((Slot.key key).join path) trail := by
  unfold Node.fitting?
  rcases node.pattern with _ | ⟨pattern, schema⟩
  · rfl
  · unfold walkFitting
    cases fits : pattern.isMatch key <;> simp [Option.filter, fits]

theorem ruleFitting_eq (key : String) (item : Value) :
    ruleFitting capabilities options node key item =
      (node.fitting? key).map fun schema => schema.ruling capabilities options item := by
  unfold Node.fitting? ruleFitting
  rcases node.pattern with _ | ⟨pattern, schema⟩
  · rfl
  · cases fits : pattern.isMatch key <;> simp [Option.filter, fits]

variable (capabilities options node path) in
/-- The errors on a member that is not declared. -/
theorem otherReported_errors (record : Record) (key : String) (item : Value) :
    (otherReported capabilities options node.pattern path record.toValue key item).1 =
      if (node.fitting? key).isNone && !options.allowUnknown then [record.unknownKey path key]
      else [] := by
  unfold otherReported Assembly.settleOther
  rw [walkFitting_eq]
  cases node.fitting? key with
  | some schema => exact Assembly.store_errors _ _ _
  | none =>
      unfold Assembly.settleUnknown Assembly.reported
      cases options.stripUnknown <;> cases options.allowUnknown <;> rfl

variable (capabilities options node path) in
/-- The warnings on a member that is not declared. -/
theorem otherReported_warnings (record : Record) (key : String) (item : Value) :
    (otherReported capabilities options node.pattern path record.toValue key item).2.warnings =
      match node.fitting? key with
      | some schema => schema.allReports capabilities options item ((Slot.key key).join path)
      | none =>
          if options.allowUnknown && options.warnUnknown then [record.unknownKey path key]
          else [] := by
  unfold otherReported Assembly.settleOther
  rw [walkFitting_eq]
  cases node.fitting? key with
  | some schema => rfl
  | none =>
      unfold Assembly.settleUnknown Assembly.reported
      cases options.allowUnknown <;> cases options.warnUnknown <;> rfl

/-- A member that is not declared has the reports of its walk if it fits the pattern, and else at
most the one that it is unknown. -/
theorem otherReported_each {holds : Report → Prop} {record : Record} {key : String} {item : Value}
    (walked : ∀ schema, node.fitting? key = some schema → Reported.Each holds (Outcome.reported
      (walk capabilities options schema item ((Slot.key key).join path) {})))
    (unknown : node.fitting? key = none →
      (options.allowUnknown = true → options.warnUnknown = true) →
        holds (record.unknownKey path key)) :
    Reported.Each holds
      (otherReported capabilities options node.pattern path record.toValue key item) := by
  constructor
  · rw [otherReported_errors]
    split
    · rename_i refused
      obtain ⟨unfit, refused⟩ := Bool.and_eq_true_iff.mp refused
      exact List.forall_mem_singleton.mpr (unknown (Option.isNone_iff_eq_none.mp unfit)
        fun allowed => by rw [allowed] at refused; cases refused)
    · exact List.forall_mem_nil _
  · rw [otherReported_warnings]
    split
    · rename_i schema fits
      exact List.forall_mem_append.mpr ⟨(walked schema fits).warnings, (walked schema fits).errors⟩
    · rename_i unfit
      split
      · rename_i told
        exact List.forall_mem_singleton.mpr
          (unknown unfit fun _ => (Bool.and_eq_true_iff.mp told).2)
      · exact List.forall_mem_nil _

variable (capabilities options) in
/-- Each listed member that is not declared adds its reports, in the order of the list. -/
theorem settleOthers_reported (pattern : Option (Pattern × Schema)) (path : String)
    (whole : Value) {keys : List String} (distinct : keys.Nodup)
    (members : List (String × Value)) (assembly : Assembly) (trail : Trail) :
    let settled := Assembly.settleOthers options path whole
      (walkFitting capabilities options pattern path) keys members assembly trail
    let reports (entry : String × Value) :=
      otherReported capabilities options pattern path whole entry.1 entry.2
    settled.1.errors = assembly.errors ++
        ((KeyMap.select keys members).flatMap fun entry => (reports entry).1) ∧
      settled.2.warnings = trail.warnings ++
        (KeyMap.select keys members).flatMap fun entry => (reports entry).2.warnings := by
  induction keys generalizing members assembly trail with
  | nil => exact ⟨(List.append_nil _).symm, (List.append_nil _).symm⟩
  | cons key rest ih =>
      obtain ⟨new, distinct⟩ := List.nodup_cons.mp distinct
      cases found : KeyMap.find? key members with
      | none =>
          rw [Assembly.settleOthers_cons_of_missing options path assembly found,
            KeyMap.select_cons_of_missing found]
          exact ih distinct members assembly trail
      | some item =>
          have settled : Assembly.reported (assembly.settleOther options path whole
              (walkFitting capabilities options pattern path) key item trail) = _ :=
            settleOther_append pattern path whole assembly key item trail
          have errors := congrArg Prod.fst settled
          have warnings := congrArg (fun reported => reported.2.warnings) settled
          dsimp only [Assembly.reported, Reported.append, Trail.append_warnings] at errors warnings
          rw [Assembly.settleOthers_cons_of_found options path assembly found,
            KeyMap.select_cons_of_found found new]
          obtain ⟨errors', warnings'⟩ := ih distinct (KeyMap.erase key members)
            (assembly.settleOther options path whole
              (walkFitting capabilities options pattern path) key item trail).1
            (assembly.settleOther options path whole
              (walkFitting capabilities options pattern path) key item trail).2
          constructor
          · rw [errors', errors, List.append_assoc, List.flatMap_cons]
          · rw [warnings', warnings, List.append_assoc, List.flatMap_cons]

variable (capabilities options node path) in
/-- The reports on an object are those on its declared members and those on the others, in the order
of the names. -/
theorem descendObject_reported {record : Record} (ascending : KeyMap.IsAscending record.members)
    (sorted : (capabilities.ownKeys record).Pairwise (· < ·)) (trail : Trail) :
    let descent := descendObject capabilities options node record path trail
    let reports (entry : String × Value) :=
      otherReported capabilities options node.pattern path record.toValue entry.1 entry.2
    descent.1.errors = (node.keys.flatMap fun entry => entry.2.memberErrors capabilities options
        (record.get entry.1) ((Slot.key entry.1).join path)) ++
        ((record.undeclared capabilities node).flatMap fun entry => (reports entry).1) ∧
      descent.2.warnings = trail.warnings ++
        (node.keys.flatMap fun entry => entry.2.memberWarnings capabilities options
          (record.get entry.1) ((Slot.key entry.1).join path)) ++
        (record.undeclared capabilities node).flatMap fun entry => (reports entry).2.warnings := by
  let whole : Value :=
    if (capabilities.ownKeys record).any fun key => !KeyMap.contains key node.keys
    then record.toValue else .undefined
  let others := record.undeclared capabilities node
  have selected : KeyMap.select (capabilities.ownKeys record)
      (record.members.filter fun entry => !KeyMap.contains entry.1 node.keys) = others := by
    have left : KeyMap.IsAscending
        (record.members.filter fun entry => !KeyMap.contains entry.1 node.keys) :=
      ascending.filter _
    exact (left.select_eq_filter sorted).trans List.filter_filter
  -- the value of the reports is only set aside if some member is not declared
  have told (reports : Value → String × Value → List Report) :
      others.flatMap (reports whole) = others.flatMap (reports record.toValue) := by
    refine List.flatMap_congr fun entry member => congrArg (reports · entry) (if_pos ?_)
    obtain ⟨own, undeclared⟩ := Bool.and_eq_true_iff.mp (List.mem_filter.mp member).2
    exact List.any_eq_true.mpr ⟨entry.1, List.contains_iff_mem.mp own, undeclared⟩
  obtain ⟨errors, warnings⟩ := settleOthers_reported capabilities options node.pattern path whole
    (sorted.imp String.ne_of_lt)
    (record.members.filter fun entry => !KeyMap.contains entry.1 node.keys)
    (walkKeys capabilities options node.keys record.members path {} trail.countOwnKeys).1
    (walkKeys capabilities options node.keys record.members path {} trail.countOwnKeys).2
  rw [walkKeys_errors, selected] at errors
  rw [walkKeys_warnings, selected] at warnings
  constructor
  · exact errors.trans (congrArg (List.append _) (told fun whole entry =>
      (otherReported capabilities options node.pattern path whole entry.1 entry.2).1))
  · exact warnings.trans (congrArg (List.append _) (told fun whole entry =>
      (otherReported capabilities options node.pattern path whole entry.1 entry.2).2.warnings))

/-- If no member may be unknown and there is no pattern, the errors on an object are those on its
declared members, followed by one for each other member. -/
theorem descendObject_errors (plain : node.pattern = none) (refused : options.allowUnknown = false)
    {record : Record} (listed : capabilities.ownKeys record = record.keys)
    (ascending : KeyMap.IsAscending record.members) (trail : Trail) :
    (descendObject capabilities options node record path trail).1.errors =
      (node.keys.flatMap fun entry => entry.2.memberErrors capabilities options
        (record.get entry.1) ((Slot.key entry.1).join path)) ++
      (record.members.filter fun entry => !KeyMap.contains entry.1 node.keys).map
        fun entry => record.unknownKey path entry.1 := by
  have sorted : (capabilities.ownKeys record).Pairwise (· < ·) :=
    listed ▸ List.pairwise_map.mpr ascending
  have others : record.undeclared capabilities node =
      record.members.filter fun entry => !KeyMap.contains entry.1 node.keys := by
    refine List.filter_congr fun entry member => ?_
    have own : entry.1 ∈ record.keys := List.mem_map_of_mem member
    rw [listed, List.contains_iff_mem.mpr own, Bool.true_and]
  refine (descendObject_reported capabilities options node path ascending sorted trail).1.trans ?_
  refine congrArg (List.append _) ?_
  rw [others, List.map_eq_flatMap]
  refine List.flatMap_congr fun entry _ => ?_
  rw [otherReported_errors, refused, Node.fitting?, plain]
  rfl

theorem find?_undeclared (record : Record) (key : String) :
    KeyMap.find? key (record.undeclared capabilities node) =
      if (capabilities.ownKeys record).contains key && !KeyMap.contains key node.keys
      then record.find? key else none :=
  KeyMap.find?_filter (fun name =>
    (capabilities.ownKeys record).contains name && !KeyMap.contains name node.keys) record.members

/-- What becomes of a member is what its own walk delivers, or an unknown member itself. -/
theorem memberResult_eq (record : Record) (key : String) :
    memberResult capabilities options node record key =
      match KeyMap.find? key node.keys with
      | some schema => (walk capabilities options schema (record.get key)
          ((Slot.key key).join path) {}).1.value.present?
      | none =>
          (KeyMap.find? key (record.undeclared capabilities node)).bind fun item =>
            match node.fitting? key with
            | some schema => (walk capabilities options schema item
                ((Slot.key key).join path) {}).1.value.present?
            | none => if options.stripUnknown then none else some item := by
  have delivered (schema : Schema) (item : Value) :
      (walk capabilities options schema item ((Slot.key key).join path) {}).1.value =
        schema.result capabilities options item :=
    schema.followsRuling.value item _ {}
  simp only [delivered]
  unfold memberResult
  cases declared : KeyMap.find? key node.keys with
  | some schema => rfl
  | none =>
      dsimp only
      rw [find?_undeclared, KeyMap.contains_eq_false_iff.mpr declared, Bool.not_false,
        Bool.and_true]
      by_cases own : key ∈ capabilities.ownKeys record
      · rw [if_pos own, if_pos (List.contains_iff_mem.mpr own)]
        refine congrArg (record.find? key).bind (funext fun item => ?_)
        unfold Assembly.otherResult
        rw [ruleFitting_eq]
        cases node.fitting? key <;> rfl
      · rw [if_neg own, if_neg (mt List.contains_iff_mem.mp own)]
        rfl

variable (capabilities options) in
/--
The account of an object.  Under a declared name the object that is built has
what the walk of the member alone delivers, and under any other name of its own
what the walk along the schema of the pattern delivers, or the member itself
unless unknown members are stripped.  The errors are those of the declared
members whose errors are no warnings, and one for each unknown member unless it
is allowed.  The warnings come behind those that were there: for each declared
member those of its walk and its errors if they are warnings, and for each other
member all reports of its walk, or that it is unknown if this is to be said.
-/
theorem descendObject_account (declared : KeyMap.IsAscending node.keys) {record : Record}
    (ascending : KeyMap.IsAscending record.members)
    (sorted : (capabilities.ownKeys record).Pairwise (· < ·)) (path : String) (trail : Trail) :
    let descent := descendObject capabilities options node record path trail
    let walked (schema : Schema) (key : String) (item : Value) :=
      walk capabilities options schema item ((Slot.key key).join path) {}
    let others := record.undeclared capabilities node
    let unknown := others.filter fun entry => (node.fitting? entry.1).isNone
    (∃ members, descent.1.value = .object record.className members ∧
      KeyMap.IsAscending members ∧ ∀ key, KeyMap.find? key members =
        match KeyMap.find? key node.keys with
        | some schema => (walked schema key (record.get key)).1.value.present?
        | none => (KeyMap.find? key others).bind fun item =>
            match node.fitting? key with
            | some schema => (walked schema key item).1.value.present?
            | none => if options.stripUnknown then none else some item) ∧
    descent.1.errors =
      (node.keys.flatMap fun (key, schema) =>
        if schema.isLenient options then []
        else (walked schema key (record.get key)).1.errors) ++
      (if options.allowUnknown then []
        else unknown.map fun entry => record.unknownKey path entry.1) ∧
    descent.2.warnings = trail.warnings ++
      (node.keys.flatMap fun (key, schema) =>
        (walked schema key (record.get key)).2.warnings ++
          if schema.isLenient options then (walked schema key (record.get key)).1.errors
          else []) ++
      others.flatMap fun (key, item) =>
        match node.fitting? key with
        | some schema => (walked schema key item).2.warnings ++ (walked schema key item).1.errors
        | none =>
            if options.allowUnknown && options.warnUnknown then [record.unknownKey path key]
            else [] := by
  intro descent walked others unknown
  obtain ⟨errors, warnings⟩ :=
    descendObject_reported capabilities options node path ascending sorted trail
  refine ⟨?_, ?_, ?_⟩
  · have ruled : descent.1.ruling = ruleObject capabilities options node record :=
      descendObject_ruling (fun schema _ => schema.followsRuling) record path trail
    obtain ⟨delivered, value, className, ordered, finds⟩ :=
      ruleObject_value capabilities options declared record
    refine ⟨delivered.members, ?_, ordered, ?_⟩
    · rw [← className]
      exact (congrArg Ruling.value ruled).trans value
    · intro key
      exact (finds key).trans (memberResult_eq record key)
  · refine errors.trans (congrArg (List.append _) ?_)
    simp only [otherReported_errors]
    rw [← flatMap_filter, ← List.map_eq_flatMap]
    cases options.allowUnknown with
    | true => simp
    | false => simp [unknown, others]
  · refine warnings.trans (congrArg (List.append _) (List.flatMap_congr fun entry _ => ?_))
    exact otherReported_warnings capabilities options node path record entry.1 entry.2

/-- Of five members two are declared, two fit the pattern and one is unknown.  The failure of the
required member and the unknown one are errors; those of the optional member and of the one that
fits are warnings. -/
theorem descendObject_account_five :
    let boolean (presence : Presence) : Schema :=
      .node { constraints := { kind := some .boolean, presence := some presence } }
    let pattern : Pattern := ⟨"^x", .sequence .start (.one { items := [.range 'x' 'x'] })⟩
    let node : Node Schema := {
      constraints := { kind := some .object }
      keys := [("a", boolean .optional), ("b", boolean .required)]
      pattern := some (pattern, boolean .required) }
    let record : Record :=
      ⟨some "C", [("a", .string "s"), ("b", .null), ("x", .boolean true), ("xx", .string "t"),
        ("y", .null)]⟩
    let prior : Report := { tag := "unknown_key", sourcePath := "", sourceValue := .null }
    let descent := descendObject .native { stripUnknown := false } node record "" ⟨[prior], [], {}⟩
    let mismatch (path kind : String) (item : Value) : Report :=
      { tag := "mismatching_types", sourcePath := path, sourceValue := item,
        expected := .string "boolean", actual := .string kind }
    KeyMap.IsAscending node.keys ∧ KeyMap.IsAscending record.members ∧
      (Capabilities.native.ownKeys record).Pairwise (· < ·) ∧
      (∃ members, descent.1.value = .object (some "C") members ∧ KeyMap.IsAscending members ∧
        KeyMap.find? "a" members = none ∧ KeyMap.find? "x" members = some (.boolean true) ∧
        KeyMap.find? "xx" members = none ∧ KeyMap.find? "y" members = some .null) ∧
      descent.1.errors = [mismatch "/b" "null" .null,
        { tag := "unknown_key", sourcePath := "", sourceValue := .object (some "C") record.members,
          actual := .string "y" }] ∧
      descent.2.warnings = [prior, mismatch "/a" "string" (.string "s"),
        mismatch "/xx" "string" (.string "t")] := by
  intro boolean pattern node record prior descent mismatch
  have declared : KeyMap.IsAscending node.keys := KeyMap.ascending_pair (by decide) _ _
  have sorted : (Capabilities.native.ownKeys record).Pairwise (· < ·) := by decide
  have ascending : KeyMap.IsAscending record.members := List.pairwise_map.mp sorted
  obtain ⟨⟨members, value, ordered, finds⟩, errors, warnings⟩ :=
    descendObject_account .native { stripUnknown := false } declared ascending sorted ""
      ⟨[prior], [], {}⟩
  refine ⟨declared, ascending, sorted, ⟨members, value, ordered, ?_, ?_, ?_, ?_⟩, errors, warnings⟩
  · exact finds "a"
  · exact finds "x"
  · exact finds "xx"
  · exact finds "y"

end Schema

end SchemaValidation
