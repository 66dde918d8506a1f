import SchemaValidation.Proofs.ItemAccounts
import SchemaValidation.Proofs.MemberAccounts
import SchemaValidation.Proofs.Positions
import SchemaValidation.Proofs.ReportRecords

/-!
# The positions of reports

A walk goes through the value and the schema together.  At each position the node
reports on the value that has come there, and the reports on the parts are made
below it.  Where schemas are tried, the reports are those of the one that decides.
So the positions of the reports of one walk lie in one tree, even where
sanitizers, aliases and conversions make other values of those that were given,
and a path tells them apart as far as it tells positions of one tree apart.
-/

namespace SchemaValidation

open Trail Reported

variable (capabilities : Capabilities) (options : Options)

/-! ## Where a walk comes -/

namespace Node

/-- A node looks at a value: it is there and may be there. -/
structure Admits (node : Node Schema) (value : Value) : Prop where
  present : value.isUndefined = false
  admitted : node.constraints.effectivePresence options ≠ .forbidden

/-- A node makes of a value one whose parts it looks at. -/
structure Enters (node : Node Schema) (value entered : Value) : Prop
    extends Admits options node value where
  plain : node.alternatives = []
  received : node.constraints.receive options value = .entered entered

/-- The parts of a value that a node looks at. -/
inductive Part (node : Node Schema) (value : Value) : Slot → Value → Prop where
  /-- A member is looked at if it is declared or the record has it. -/
  | member {entered : Value} {key : String} (enters : node.Enters options value entered)
      (kind : node.constraints.kind = some .object)
      (known : (KeyMap.find? key node.keys).isSome ∨
        key ∈ capabilities.ownKeys entered.recordOrEmpty ∧
          (entered.recordOrEmpty.find? key).isSome) :
      Part node value (.key key) (entered.recordOrEmpty.get key)
  /-- All items are looked at. -/
  | item {entered item : Value} {index : Nat} (enters : node.Enters options value entered)
      (kind : node.constraints.kind = some .array)
      (found : entered.itemsOrEmpty[index]? = some item) : Part node value (.index index) item

/-- The schema along which the walk of a part decides: for a member the one of its name or of the
pattern, and for an item the first to accept it of those that it may follow, or else the last. -/
def guide? (node : Node Schema) : Slot → Value → Option Schema
  | .key key, _ => (KeyMap.find? key node.keys).or (node.fitting? key)
  | .index _, item =>
      (node.includes.find? fun schema => schema.accepts capabilities options item).or
        node.includes.getLast?

/-- The reports that a node makes on the value that has come to it at a path. -/
inductive Makes (node : Node Schema) (value : Value) (path : String) : Report → Prop where
  | missing (absent : value.isUndefined = true)
      (required : node.constraints.effectivePresence options = .required) :
      Makes node value path (.of .requiredMissing path .undefined)
  | forbidden (present : value.isUndefined = false)
      (forbidden : node.constraints.effectivePresence options = .forbidden) :
      Makes node value path (.of .forbiddenEncountered path value)
  | unmatched (admits : node.Admits options value) (union : node.alternatives ≠ [])
      (unmatched : (node.alternatives.find? fun schema =>
        schema.accepts capabilities options value) = none) :
      Makes node value path (.of .noAlternativeMatched path value)
  /-- A value is turned away on arrival. -/
  | rejected {report : Report} (admits : node.Admits options value)
      (plain : node.alternatives = [])
      (rejected : (node.constraints.arrive options path value {}).1 = .rejected report) :
      Makes node value path report
  /-- A value is converted on arrival. -/
  | converted {report : Report} (admits : node.Admits options value)
      (plain : node.alternatives = [])
      (warned : report ∈ (node.constraints.arrive options path value {}).2.warnings) :
      Makes node value path report
  /-- The record has a member that is not declared and does not fit the pattern. -/
  | unknown {entered : Value} {key : String} (enters : node.Enters options value entered)
      (kind : node.constraints.kind = some .object)
      (own : key ∈ capabilities.ownKeys entered.recordOrEmpty)
      (held : (entered.recordOrEmpty.find? key).isSome)
      (undeclared : KeyMap.find? key node.keys = none) (unfit : node.fitting? key = none)
      (told : options.allowUnknown = true → options.warnUnknown = true) :
      Makes node value path (entered.recordOrEmpty.unknownKey path key)
  /-- What is built of the parts fails a check. -/
  | checked {entered : Value} {report : Report} (enters : node.Enters options value entered)
      (accepted : (Schema.descend capabilities options node entered path {}).1.isOk = true)
      (warned : report ∈ (runChecksAfter capabilities path
        (Schema.descend capabilities options node entered path {}).1.value
        node.constraints.checksAfter {}).warnings) : Makes node value path report
  /-- A sanitizer panics on what is built of the parts. -/
  | unsanitized {entered : Value} {report : Report} (enters : node.Enters options value entered)
      (accepted : (Schema.descend capabilities options node entered path {}).1.isOk = true)
      (failed : (runSanitizers path node.constraints.sanitize
        (Schema.descend capabilities options node entered path {}).1.value {}).1 =
          .error report) : Makes node value path report

end Node

/-- On the walk of a value along a schema a report is made behind some addresses. A schema that is
tried in vain has no part in it, unless it is the last of those that an item may follow. -/
inductive Schema.Reports : Schema → Value → String → List Slot → Report → Prop where
  | own {node : Node Schema} {value : Value} {path : String} {report : Report}
      (made : node.Makes capabilities options value path report) :
      Reports (.node node) value path [] report
  /-- The report is made on the walk along the alternative that is taken. -/
  | alternative {node : Node Schema} {value : Value} {path : String} {slots : List Slot}
      {report : Report} {schema : Schema} (admits : node.Admits options value)
      (taken : (node.alternatives.find? fun schema =>
        schema.accepts capabilities options value) = some schema)
      (made : Reports schema value path slots report) : Reports (.node node) value path slots report
  /-- The report is made on the walk of a part. -/
  | part {node : Node Schema} {value part : Value} {path : String} {slot : Slot}
      {slots : List Slot} {report : Report} {schema : Schema}
      (inside : node.Part capabilities options value slot part)
      (guided : node.guide? capabilities options slot part = some schema)
      (made : Reports schema part (slot.join path) slots report) :
      Reports (.node node) value path (slot :: slots) report
  /-- An item is accepted by a schema that it must not follow. -/
  | excluded {node : Node Schema} {value item : Value} {path : String} {index : Nat}
      {schema : Schema} (inside : node.Part capabilities options value (.index index) item)
      (unrestricted : node.includes = []) (listed : schema ∈ node.excludes)
      (matched : schema.accepts capabilities options item = true) :
      Reports (.node node) value path [.index index]
        (.of .matchedExcludedType ((Slot.index index).join path) item)

variable {capabilities options} {node : Node Schema} {value : Value} {path : String}
  {report : Report}

/-! ## The positions lie in one tree -/

namespace Node

/-- What a node makes of a value is determined. -/
theorem Enters.unique {entered entered' : Value} (enters : node.Enters options value entered)
    (enters' : node.Enters options value entered') : entered = entered' :=
  Reception.entered.inj (enters.received.symm.trans enters'.received)

namespace Part

variable {x y : Slot} {part part' : Value} (inside : node.Part capabilities options value x part)
include inside

/-- A union does not look at the parts of a value. -/
theorem plain : node.alternatives = [] := by
  cases inside with
  | member enters _ _ => exact enters.plain
  | item enters _ _ => exact enters.plain

theorem unique (inside' : node.Part capabilities options value x part') : part = part' := by
  cases inside with
  | member enters _ _ =>
      cases inside' with
      | member enters' _ _ => rw [enters.unique enters']
  | item enters _ found =>
      cases inside' with
      | item enters' _ found' =>
          rw [enters.unique enters'] at found
          exact Option.some.inj (found.symm.trans found')

/-- The parts that a node looks at have addresses of one sort. -/
theorem alike (inside' : node.Part capabilities options value y part') : x.Alike y := by
  cases inside with
  | member _ kind _ =>
      cases inside' with
      | member _ _ _ => exact .key _ _
      | item _ kind' _ => cases kind.symm.trans kind'
  | item _ kind _ =>
      cases inside' with
      | member _ kind' _ => cases kind.symm.trans kind'
      | item _ _ _ => exact .index _ _

/-- Behind the addresses of two parts, sequences share a tree if they do so behind equal ones. -/
theorem sharesTree {s t : List Slot} (inside' : node.Part capabilities options value y part')
    (below : x = y → Slot.SharesTree s t) : Slot.SharesTree (x :: s) (y :: t) := by
  by_cases same : x = y
  · subst same
    exact .along x (below rfl)
  · exact .apart same (inside.alike inside') s t

end Part

/-- The walk of a part goes along a schema that is nested in the node. -/
theorem nested_of_guide {slot : Slot} {part : Value} {schema : Schema}
    (guided : node.guide? capabilities options slot part = some schema) :
    schema ∈ node.nested := by
  cases slot with
  | key key =>
      rcases Option.or_eq_some_iff.mp guided with declared | ⟨-, fits⟩
      · exact nested_of_key (KeyMap.mem_of_find? declared)
      · exact nested_of_fitting fits
  | index index =>
      rcases Option.or_eq_some_iff.mp guided with taken | ⟨-, last⟩
      · exact nested_of_include (List.mem_of_find?_eq_some taken)
      · exact nested_of_include (List.mem_of_getLast? last)

end Node

/-- All reports of a walk are made in one tree. -/
theorem Schema.Reports.sharesTree {schema : Schema} {path' : String} {s t : List Slot}
    {report' : Report} (first : schema.Reports capabilities options value path s report)
    (second : schema.Reports capabilities options value path' t report') :
    Slot.SharesTree s t := by
  -- As long as the addresses agree, both walks come to the same value and go along the same schema,
  -- so the case to be shown is that in which they part: below one node.
  induction first generalizing path' t report' with
  | own made => exact .left t
  | alternative admits taken made ih =>
      cases second with
      | own made => exact .right _
      | alternative admits' taken' made' =>
          obtain rfl := Option.some.inj (taken.symm.trans taken')
          exact ih made'
      | part inside' guided' made' =>
          rw [inside'.plain] at taken
          cases taken
      | excluded inside' unrestricted' listed' matched' =>
          rw [inside'.plain] at taken
          cases taken
  | part inside guided made ih =>
      cases second with
      | own made => exact .right _
      | alternative admits' taken' made' =>
          rw [inside.plain] at taken'
          cases taken'
      | part inside' guided' made' =>
          refine inside.sharesTree inside' fun same => ?_
          subst same
          obtain rfl := inside.unique inside'
          obtain rfl := Option.some.inj (guided.symm.trans guided')
          exact ih made'
      | excluded inside' unrestricted' listed' matched' =>
          exact inside.sharesTree inside' fun _ => .right _
  | excluded inside unrestricted listed matched =>
      cases second with
      | own made => exact .right _
      | alternative admits' taken' made' =>
          rw [inside.plain] at taken'
          cases taken'
      | part inside' guided' made' => exact inside.sharesTree inside' fun _ => .left _
      | excluded inside' unrestricted' listed' matched' =>
          exact inside.sharesTree inside' fun _ => .left _

/-! ## The paths of reports -/

/-- Laid over a record, another one leaves the members for which it has none. -/
def Capabilities.KeepsMembers (capabilities : Capabilities) : Prop :=
  ∀ parent overlay name, overlay.find? name = none →
    (capabilities.derive parent overlay).get name = parent.get name

theorem Capabilities.keepsMembers_native : Capabilities.native.KeepsMembers := by
  intro parent overlay name missing
  exact congrArg (Option.getD · .undefined)
    (KeyMap.find?_overlay_of_missing missing parent.members)

/-- No record in what the checks after the descent say against a value has a path. -/
def Node.NamesNoPath (node : Node Schema) : Prop :=
  ∀ check ∈ node.constraints.checksAfter, ∀ value, ∀ leaf ∈ check.details value,
    ∀ record, leaf.record? = some record → record.find? "sourcePath" = none

/-- A detail that names no path is reported at the path of the check. -/
theorem Report.sourcePath_ofDetail (keeps : capabilities.KeepsMembers) {leaf : Value}
    (unnamed : ∀ record, leaf.record? = some record → record.find? "sourcePath" = none) :
    (Report.ofDetail capabilities path value leaf).sourcePath = path := by
  cases leaf with
  | object className members =>
      have base : (checkFailure path value).get "sourcePath" = .string path :=
        (isUnambiguous_of_plain rfl).get_toRecord "sourcePath"
      have laid := keeps (checkFailure path value) ⟨className, members⟩ "sourcePath"
        (unnamed ⟨className, members⟩ rfl)
      refine (textField_eq _ "sourcePath" "").trans ?_
      rw [laid, base]
  | _ => rfl

theorem Node.NamesNoPath.runChecksAfter (keeps : capabilities.KeepsMembers)
    (unnamed : node.NamesNoPath) (path : String) (value : Value) :
    ∀ report ∈ (runChecksAfter capabilities path value node.constraints.checksAfter {}).warnings,
      report.sourcePath = path := by
  rw [runChecksAfter_warnings]
  intro report member
  obtain ⟨leaf, said, rfl⟩ := List.mem_map.mp member
  obtain ⟨check, listed, detail⟩ := List.mem_flatMap.mp said
  exact Report.sourcePath_ofDetail keeps (unnamed check listed value leaf detail)

theorem Node.Makes.sourcePath (keeps : capabilities.KeepsMembers) (unnamed : node.NamesNoPath)
    (made : node.Makes capabilities options value path report) : report.sourcePath = path := by
  have own : Report.OnOwnAt path fun report => report.sourcePath = path :=
    fun _ _ _ _ _ => rfl
  obtain ⟨refused, warned⟩ := node.constraints.arrive_own own options value
  cases made with
  | missing | forbidden | unmatched | unknown => rfl
  | rejected _ _ rejected => exact refused report rejected
  | converted _ _ converted => exact warned report converted
  | checked _ _ said => exact unnamed.runChecksAfter keeps path _ report said
  | unsanitized _ _ failed => exact runSanitizers_own own failed

/-- The path of a report is that of its position. -/
theorem Schema.Reports.sourcePath (keeps : capabilities.KeepsMembers) {schema : Schema}
    (tree : schema.Everywhere Node.NamesNoPath) {slots : List Slot}
    (made : schema.Reports capabilities options value path slots report) :
    report.sourcePath = path ++ Slot.pathOf slots := by
  induction made with
  | own made => exact (made.sourcePath keeps tree.root).trans String.append_empty.symm
  | alternative _ taken _ ih =>
      exact ih (tree.nested (Node.nested_of_alternative (List.mem_of_find?_eq_some taken)))
  | part _ guided _ ih =>
      rw [Slot.append_pathOf_cons]
      exact ih (tree.nested (Node.nested_of_guide guided))
  | excluded => exact (Slot.append_pathOf_cons _ _ []).symm ▸ String.append_empty.symm

/-! ## Every report has a position -/

namespace Schema

variable (capabilities options) in
/-- On the walk of a value at a path a report is made at some position. -/
def ReportsSomewhere (schema : Schema) (value : Value) (path : String) (report : Report) : Prop :=
  ∃ slots, schema.Reports capabilities options value path slots report

variable (capabilities options) in
/-- Every report of the walks along a schema has a position. -/
def IsLocated (schema : Schema) : Prop :=
  ∀ value path, Each (schema.ReportsSomewhere capabilities options value path)
    (Outcome.reported (walk capabilities options schema value path {}))

/-- A condition on what a choice rejects and on what it warns of. -/
theorem choiceReported_each {holds : Report → Prop} {errors warnings : List Report}
    {choice : Except (List Report) Value × Trail} (rejects : (choiceReported choice).1 = errors)
    (warns : choice.2.warnings = warnings) (each : ∀ report ∈ errors, holds report)
    (each' : ∀ report ∈ warnings, holds report) : Each holds (choiceReported choice) := by
  subst rejects warns
  exact ⟨each, each'⟩

section Node

variable (below : ∀ schema ∈ node.nested, schema.IsLocated capabilities options)

include below in
/-- The reports of the walk that decides on a part are made below its address. -/
theorem part_located {slot : Slot} {part : Value} {schema : Schema}
    (inside : node.Part capabilities options value slot part)
    (guided : node.guide? capabilities options slot part = some schema) :
    Each ((Schema.node node).ReportsSomewhere capabilities options value path)
      (Outcome.reported (walk capabilities options schema part (slot.join path) {})) :=
  (below schema (Node.nested_of_guide guided) part (slot.join path)).imp
    fun _ ⟨slots, made⟩ => ⟨slot :: slots, .part inside guided made⟩

variable {entered : Value} (enters : node.Enters options value entered)
include enters

include below in
theorem chooseItem_located (kind : node.constraints.kind = some .array) {index : Nat}
    {item : Value} (found : entered.itemsOrEmpty[index]? = some item) :
    Each ((Schema.node node).ReportsSomewhere capabilities options value path)
      (choiceReported (chooseItem capabilities options node item
        ((Slot.index index).join path) {})) := by
  have inside : node.Part capabilities options value (.index index) item :=
    .item enters kind found
  by_cases unrestricted : node.includes = []
  · obtain ⟨-, errors, warnings⟩ := chooseItem_of_excluded capabilities options unrestricted item
      ((Slot.index index).join path)
    refine choiceReported_each errors warnings ?_ (List.forall_mem_nil _)
    split
    · rename_i matched
      obtain ⟨schema, listed, accepted⟩ := List.any_eq_true.mp matched
      rw [schema.followsRuling.isOk] at accepted
      exact List.forall_mem_singleton.mpr
        ⟨[.index index], .excluded inside unrestricted listed accepted⟩
    · exact List.forall_mem_nil _
  · obtain ⟨-, errors, warnings⟩ := chooseItem_of_included capabilities options unrestricted item
      ((Slot.index index).join path)
    have guide : node.guide? capabilities options (.index index) item =
        (chosen? capabilities options node.includes item ((Slot.index index).join path)).or
          node.includes.getLast? := by
      unfold chosen?
      rw [find?_walk_isOk]
      rfl
    cases taken : chosen? capabilities options node.includes item
        ((Slot.index index).join path) with
    | some schema =>
        rw [taken] at guide errors warnings
        exact choiceReported_each errors warnings (List.forall_mem_nil _)
          (part_located below inside guide).warnings
    | none =>
        rw [taken] at guide errors warnings
        have last : node.includes.getLast? = some (node.includes.getLast unrestricted) :=
          List.getLast?_eq_some_getLast unrestricted
        exact choiceReported_each errors warnings
          (part_located below inside (guide.trans last)).errors (List.forall_mem_nil _)

include below in
theorem descendObject_located (ascending : KeyMap.IsAscending node.keys)
    (kind : node.constraints.kind = some .object) {trail : Trail}
    (before : Each ((Schema.node node).ReportsSomewhere capabilities options value path) ([], trail)) :
    Each ((Schema.node node).ReportsSomewhere capabilities options value path)
      (Outcome.reported (descendObject capabilities options node entered.recordOrEmpty path
        trail)) := by
  rw [descendObject_each]
  refine ⟨before, ?_, ?_⟩
  · intro entry member
    have declared := ascending.find?_of_mem member
    exact part_located below (.member enters kind (.inl (Option.isSome_of_eq_some declared)))
      (Option.or_eq_some_iff.mpr (.inl declared))
  · intro key own undeclared item found
    have held : (entered.recordOrEmpty.find? key).isSome = true := Option.isSome_of_eq_some found
    have inside : node.Part capabilities options value (.key key)
        (entered.recordOrEmpty.get key) := .member enters kind (.inr ⟨own, held⟩)
    rw [Record.get, found, Option.getD_some] at inside
    refine otherReported_each ?_ ?_
    · intro schema fits
      exact part_located below inside (Option.or_eq_some_iff.mpr (.inr ⟨undeclared, fits⟩))
    · intro unfit told
      exact ⟨[], .own (.unknown enters kind own held undeclared unfit told)⟩

include below in
theorem descend_located (ascending : KeyMap.IsAscending node.keys) {trail : Trail}
    (before : Each ((Schema.node node).ReportsSomewhere capabilities options value path) ([], trail)) :
    Each ((Schema.node node).ReportsSomewhere capabilities options value path)
      (Outcome.reported (descend capabilities options node entered path trail)) := by
  unfold descend
  split
  · rename_i kind
    exact descendObject_located below enters ascending kind before
  · rename_i kind
    exact descendArray_each_alone
      (fun _ _ found => chooseItem_located below enters kind found) before
  · exact before

omit enters in
include below in
theorem settlePlain_located (ascending : KeyMap.IsAscending node.keys)
    (admits : node.Admits options value) (plain : node.alternatives = []) :
    Each ((Schema.node node).ReportsSomewhere capabilities options value path)
      (Outcome.reported (settlePlain capabilities options node value path {})) := by
  have reception := node.constraints.arrive_reception options path value {}
  have converted : ∀ report ∈ (node.constraints.arrive options path value {}).2.warnings,
      (Schema.node node).ReportsSomewhere capabilities options value path report :=
    fun report warned => ⟨[], .own (.converted admits plain warned)⟩
  unfold settlePlain
  rcases run : node.constraints.arrive options path value {} with
    ⟨accepted | report | entered, after⟩
  all_goals rw [run] at converted
  · exact ⟨nofun, converted⟩
  · have rejected : (Schema.node node).ReportsSomewhere capabilities options value path report :=
      ⟨[], .own (.rejected admits plain (congrArg Prod.fst run))⟩
    exact (node.constraints.fail_each report after).mpr
      ⟨List.forall_mem_singleton.mpr rejected, converted⟩
  · rw [run] at reception
    have enters : node.Enters options value entered := ⟨admits, plain, reception.symm⟩
    have alone := (descend_adds capabilities options node path entered).result after
    have before : Each ((Schema.node node).ReportsSomewhere capabilities options value path)
        ([], after) := ⟨nofun, converted⟩
    dsimp only
    refine node.constraints.leave_each ?_ ?_ (descend_located below enters ascending before)
    · rw [alone]
      exact fun accepted report warned => ⟨[], .own (.checked enters accepted warned)⟩
    · rw [alone]
      exact fun accepted report failed => ⟨[], .own (.unsanitized enters accepted failed)⟩

omit enters in
include below in
theorem settleUnion_located (admits : node.Admits options value) (union : node.alternatives ≠ []) :
    Each ((Schema.node node).ReportsSomewhere capabilities options value path)
      (Outcome.reported (settleUnion capabilities options node value path {})) := by
  cases first : node.alternatives.find? fun schema =>
      schema.accepts capabilities options value with
  | some schema =>
      have listed := Node.nested_of_alternative (List.mem_of_find?_eq_some first)
      have located : Each ((Schema.node node).ReportsSomewhere capabilities options value path)
          (Outcome.reported (walk capabilities options schema value path {})) :=
        (below schema listed value path).imp
          fun _ ⟨slots, made⟩ => ⟨slots, .alternative admits first made⟩
      exact located.of_endsAlike (settleUnion_of_chosen first path).symm
  | none =>
      have unmatched : (Schema.node node).ReportsSomewhere capabilities options value path
          (.of .noAlternativeMatched path value) := ⟨[], .own (.unmatched admits union first)⟩
      have failed : Each ((Schema.node node).ReportsSomewhere capabilities options value path)
          (Outcome.reported
            (node.constraints.fail options (.of .noAlternativeMatched path value) {})) :=
        (node.constraints.fail_each _ _).mpr ⟨List.forall_mem_singleton.mpr unmatched, nofun⟩
      exact failed.of_endsAlike (settleUnion_of_unmatched first path).symm

end Node

variable (capabilities options) in
/-- Every report of a walk is made at some position. -/
theorem isLocated {schema : Schema} (wellFormed : schema.IsWellFormed) :
    schema.IsLocated capabilities options := by
  induction wellFormed with
  | @node parts ascending _ ih =>
      intro value path
      rw [walk_node]
      split
      · rename_i absent
        unfold Constraints.absent
        split
        · exact each_empty
        · rename_i required
          exact (parts.constraints.failAll_each _ _ _).mpr
            ⟨List.forall_mem_singleton.mpr ⟨[], .own (.missing absent required)⟩, nofun⟩
        · exact each_empty
      · rename_i present
        have present : value.isUndefined = false := by simpa using present
        split
        · rename_i forbidden
          exact (parts.constraints.failAll_each _ _ _).mpr
            ⟨List.forall_mem_singleton.mpr ⟨[], .own (.forbidden present forbidden)⟩, nofun⟩
        · rename_i admitted
          have admits : parts.Admits options value := ⟨present, admitted⟩
          split
          · rename_i union
            exact settleUnion_located ih admits (by simpa using union)
          · rename_i plain
            exact settlePlain_located ih ascending admits (by simpa using plain)

end Schema

/--
A path tells positions apart unless names with slashes in them spell one like the
other.  Two positions of a value have the same path exactly if they are the same,
or part at two names of which one is the other with a slash and further text that
the way below the other one spells.  If the checks after the descent name no path
of their own, every report of a validation concerns a position of the walk and has
its path, and two reports have the same path exactly if they concern the same
position, or two that part in this way.
-/
theorem Engine.paths_tell_positions_apart :
    (∀ (root : Value) (s t : List Slot), root.HasPosition s → root.HasPosition t →
      (Slot.pathOf s = Slot.pathOf t ↔ s = t ∨ Slot.FoldsInto s t ∨ Slot.FoldsInto t s)) ∧
    (∀ s t, Slot.FoldsInto s t → ∃ name, .key name ∈ t ∧ '/' ∈ name.toList) ∧
    ∀ (engine : Engine) (value : Value) (source : Source) (options : Options) (ledger : Ledger),
      let schema := (source.compile ledger.supply).1.schema
      engine.capabilities.KeepsMembers → schema.IsWellFormed →
        schema.Everywhere Node.NamesNoPath →
      let validation := (engine.validateWith value source options ledger).1
      let concerns (report : Report) (slots : List Slot) :=
        schema.Reports engine.capabilities options value "" slots report
      (∀ report ∈ validation.errors ++ validation.warnings,
        ∃ slots, concerns report slots ∧ report.sourcePath = Slot.pathOf slots) ∧
      ∀ a b s t, concerns a s → concerns b t →
        (a.sourcePath = b.sourcePath ↔ s = t ∨ Slot.FoldsInto s t ∨ Slot.FoldsInto t s) := by
  refine ⟨fun root s t first second => (first.sharesTree second).pathOf_eq_iff,
    fun s t folds => folds.slash, ?_⟩
  intro engine value source options ledger schema keeps wellFormed tree validation concerns
  have spelled {report : Report} {slots : List Slot} (concerned : concerns report slots) :
      report.sourcePath = Slot.pathOf slots :=
    (concerned.sourcePath keeps tree).trans String.empty_append
  have located := Schema.isLocated engine.capabilities options wellFormed value ""
  constructor
  · have placed (report : Report)
        (some : schema.ReportsSomewhere engine.capabilities options value "" report) :
        ∃ slots, concerns report slots ∧ report.sourcePath = Slot.pathOf slots := by
      obtain ⟨slots, concerned⟩ := some
      exact ⟨slots, concerned, spelled concerned⟩
    exact List.forall_mem_append.mpr
      ⟨fun report made => placed report (located.errors report made),
        fun report made => placed report (located.warnings report made)⟩
  · intro a b s t first second
    rw [spelled first, spelled second]
    exact (first.sharesTree second).pathOf_eq_iff

/-- Below the empty name an item is accepted and the list fails a check with two details; the value
of the name `0` is of the wrong kind.  The two reports on the list have one path, that of the empty
name, and the third one has another. -/
theorem Engine.paths_tell_positions_apart_three :
    let check : Check := ⟨"check", 0, fun _ => .returned (.fail (.array
      [.string "late", .object none [("hint", .null)]]))⟩
    let number : Schema := .node { constraints := { kind := some .number } }
    let list : Schema := .node {
      constraints := { kind := some .array, checksAfter := [check] }, includes := [number] }
    let schema : Schema :=
      .node { constraints := { kind := some .object }, keys := [("", list), ("0", number)] }
    let engine : Engine := ⟨.native, ⟨0, schema⟩⟩
    let value : Value := .object none [("", .array [.number .zero]), ("0", .string "x")]
    let validation := (engine.validateWith value (.frozen ⟨1, schema⟩) {} {}).1
    let concerns (report : Report) (slots : List Slot) :=
      schema.Reports .native {} value "" slots report
    (value.HasPosition [.key "", .index 0] ∧ value.HasPosition [.key "0"] ∧
      Slot.pathOf [.key "", .index 0] ≠ Slot.pathOf [.key "0"]) ∧
    Capabilities.native.KeepsMembers ∧ schema.IsWellFormed ∧ schema.Everywhere Node.NamesNoPath ∧
    validation.errors = [] ∧
    (validation.warnings.map fun report => (report.tag, report.sourcePath)) =
      [("late", "/"), ("check_failed", "/"), ("mismatching_types", "/0")] ∧
    (∀ report ∈ validation.warnings,
      ∃ slots, concerns report slots ∧ report.sourcePath = Slot.pathOf slots) ∧
    ∀ a b s t, concerns a s → concerns b t →
      (a.sourcePath = b.sourcePath ↔ s = t ∨ Slot.FoldsInto s t ∨ Slot.FoldsInto t s) := by
  intro check number list schema engine value validation concerns
  obtain ⟨positions, slash, reports⟩ := paths_tell_positions_apart
  have item : value.HasPosition [.key "", .index 0] := ⟨_, rfl, _, rfl, trivial⟩
  have other : value.HasPosition [.key "0"] := ⟨_, rfl, trivial⟩
  have apart : Slot.pathOf [.key "", .index 0] ≠ Slot.pathOf [.key "0"] := by
    rw [ne_eq, positions value _ _ item other]
    rintro (same | folds | folds)
    · exact absurd same (by decide)
    · obtain ⟨name, listed, slashed⟩ := slash _ _ folds
      obtain rfl : name = "0" := by simpa using listed
      exact absurd slashed (by decide)
    · obtain ⟨name, listed, slashed⟩ := slash _ _ folds
      obtain rfl : name = "" := by simpa using listed
      exact absurd slashed (by decide)
  have wellFormed : schema.IsWellFormed := by
    have leaf : number.IsWellFormed := .node .nil (by simp [Node.nested])
    have middle : list.IsWellFormed :=
      .node .nil (by simpa [Schema.IsWellFormed, Node.nested] using leaf)
    exact .node (KeyMap.ascending_pair (by decide) _ _)
      (by simpa [Schema.IsWellFormed, Node.nested] using ⟨middle, leaf⟩)
  have tree : schema.Everywhere Node.NamesNoPath := by
    have leaf : number.Everywhere Node.NamesNoPath :=
      .node (List.forall_mem_nil _) (by simp [Node.nested])
    have unnamed : Node.NamesNoPath list.root := by
      intro made listed value leaf said record held
      obtain rfl := List.mem_singleton.mp listed
      have leaves : leaf = .string "late" ∨ leaf = .object none [("hint", .null)] := by
        simpa [Check.details, check, Value.leaves, Value.itemLeaves] using said
      rcases leaves with rfl | rfl
      · cases held
      · cases held
        rfl
    have middle : list.Everywhere Node.NamesNoPath :=
      .node unnamed (by simpa [Node.nested] using leaf)
    exact .node (List.forall_mem_nil _) (by simpa [Node.nested] using ⟨middle, leaf⟩)
  obtain ⟨placed, paths⟩ := reports engine value (.frozen ⟨1, schema⟩) {} {}
    Capabilities.keepsMembers_native wellFormed tree
  exact ⟨⟨item, other, apart⟩, Capabilities.keepsMembers_native, wellFormed, tree, rfl, by decide,
    placed, paths⟩

/-- Two positions of an object have one path, and so have the reports on them, since a name with a
slash reads like the way through the name in front of the slash.  A check that names a path has its
report stand at another position than the one that it is about. -/
theorem Engine.one_path_of_two_positions :
    let number : Schema := .node { constraints := { kind := some .number } }
    let mismatch (path : String) (item : Value) : Report :=
      { tag := "mismatching_types", sourcePath := path, sourceValue := item,
        expected := .string "number", actual := .string "string" }
    let validate (keys : List (String × Schema)) (value : Value) : Validation :=
      let schema : Schema := .node { constraints := { kind := some .object }, keys }
      let engine : Engine := ⟨.native, ⟨0, schema⟩⟩
      (engine.validateWith value (.frozen ⟨1, schema⟩) { warnOnInvalidOptionals := false } {}).1
    (let parts : Schema :=
        .node { constraints := { kind := some .object }, keys := [("b", number)] }
      let value : Value :=
        .object none [("a", .object none [("b", .string "x")]), ("a/b", .string "y")]
      value.HasPosition [.key "a", .key "b"] ∧ value.HasPosition [.key "a/b"] ∧
        Slot.pathOf [.key "a", .key "b"] = Slot.pathOf [.key "a/b"] ∧
        value.follow [.key "a", .key "b"] = .string "x" ∧
        value.follow [.key "a/b"] = .string "y" ∧
        (validate [("a", parts), ("a/b", number)] value).errors =
          [mismatch "/a/b" (.string "x"), mismatch "/a/b" (.string "y")]) ∧
    (let check : Check := ⟨"check", 0, fun _ =>
        .returned (.fail (.object none [("sourcePath", .string "/b")]))⟩
      let checked : Schema :=
        .node { constraints := { kind := some .number, checksAfter := [check] } }
      let value : Value := .object none [("a", .number .zero), ("b", .string "x")]
      let validation := validate [("a", checked), ("b", number)] value
      validation.warnings =
        [{ tag := "check_failed", sourcePath := "/b", sourceValue := .number .zero }] ∧
        validation.errors = [mismatch "/b" (.string "x")]) := by
  intro number mismatch validate
  refine ⟨?_, rfl, rfl⟩
  intro parts value
  exact ⟨⟨_, rfl, _, rfl, trivial⟩, ⟨_, rfl, trivial⟩, by decide, rfl, rfl, rfl⟩

end SchemaValidation
