import SchemaValidation.Proofs.Defaults
import SchemaValidation.Proofs.ItemAccounts

/-!
# Candidates and their defaults

A candidate is a schema that is tried on a value: one that the items of a list
must or must not satisfy, or an alternative of a union.  Whether it matches a
present value is decided without its default, except that a candidate that turns
its failures into warnings matches everything.  So other defaults select other
items and other alternatives only if they change whether a candidate does that.
-/

namespace SchemaValidation.Schema

variable {capabilities : Capabilities} {options : Options} {value : Value}

theorem downgrades_withDefault (options : Options) (schema : Schema) (default : Value) :
    (schema.withDefault default).root.constraints.downgrades options =
      (!default.isNullish && schema.isLenient options) :=
  Bool.and_assoc _ _ _

section Present

variable (present : value.isUndefined = false)
include present

variable (capabilities options) in
/-- A schema that accepts a present value without its default makes the same of it with the default.
Any other value it accepts exactly if it turns its failures into warnings. -/
theorem isOk_of_withoutDefault (schema : Schema) (path : String) (trail : Trail) :
    let walked := walk capabilities options schema value path trail
    let bare := walk capabilities options (schema.withDefault .undefined) value path trail
    walked.1.isOk = (bare.1.isOk || schema.root.constraints.downgrades options) ∧
      (bare.1.isOk = true → walked = bare) := by
  obtain ⟨node⟩ := schema
  intro walked bare
  rcases walk_withoutDefault present node path trail with
    ⟨accepted, same⟩ | ⟨rejected, failed, fails⟩
  · have accepted' : walked.1.isOk = true :=
      (congrArg (fun ending => ending.1.isOk) same).trans accepted
    rw [accepted', show bare.1.isOk = true from accepted]
    exact ⟨rfl, fun _ => same⟩
  · have ending : walked.1.isOk = node.constraints.downgrades options :=
      (congrArg (fun ending => ending.1.isOk) fails.walk_eq).trans (congrArg Ruling.accepted
        (node.constraints.failAll_ruling options failed
          (by simpa using fails.reports_ne_nil) bare.2))
    rw [ending, show bare.1.isOk = false from rejected]
    exact ⟨rfl, nofun⟩

/-- A schema accepts the same present values with another default, unless the change has a part in
what it does with failures. -/
theorem isOk_withDefault {schema : Schema} {default : Value}
    (kept : schema.isLenient options = true →
      default.isNullish = schema.root.constraints.default.isNullish) (path : String)
    (trail : Trail) :
    (walk capabilities options (schema.withDefault default) value path trail).1.isOk =
      (walk capabilities options schema value path trail).1.isOk := by
  have downgrades : (schema.withDefault default).root.constraints.downgrades options =
      schema.root.constraints.downgrades options := by
    refine (downgrades_withDefault options schema default).trans (Eq.symm ?_)
    refine (downgrades_withDefault options schema schema.root.constraints.default).trans ?_
    cases lenient : schema.isLenient options with
    | true => rw [kept lenient]
    | false => rw [Bool.and_false, Bool.and_false]
  rw [(isOk_of_withoutDefault capabilities options present (schema.withDefault default) path
      trail).1,
    (isOk_of_withoutDefault capabilities options present schema path trail).1, downgrades]
  rfl

end Present

/-! ## Selections -/

variable (capabilities options) in
/-- Which schemas of a list accept a value, place by place. -/
def verdicts (schemas : List Schema) (value : Value) (path : String) : List Bool :=
  schemas.map fun schema => (walk capabilities options schema value path {}).1.isOk

/-- An item is not taken if no schema that it must satisfy accepts it, or, where there is none, if
one accepts it that it must not satisfy. -/
theorem chooseItem_isNone (node : Node Schema) (item : Value) (path : String) :
    (chooseItem capabilities options node item path {}).1.toOption.isNone =
      if node.includes.isEmpty then (verdicts capabilities options node.excludes item path).any id
      else !(verdicts capabilities options node.includes item path).any id := by
  have any (schemas : List Schema) : (verdicts capabilities options schemas item path).any id =
      schemas.any fun schema => (walk capabilities options schema item path {}).1.isOk :=
    List.any_map
  rw [any, any]
  cases unrestricted : node.includes with
  | nil =>
      rw [(chooseItem_of_excluded capabilities options unrestricted item path).1]
      dsimp only [List.isEmpty_nil, if_true]
      cases node.excludes.any fun schema =>
        (walk capabilities options schema item path {}).1.isOk <;> rfl
  | cons schema rest =>
      have included : node.includes ≠ [] := by simp [unrestricted]
      rw [(chooseItem_of_included capabilities options included item path).1, Option.isNone_map,
        ← Option.not_isSome, chosen?, List.isSome_find?, unrestricted]
      rfl

/-- Nodes whose schemas for items accept the same items, place by place, reject the same items. -/
theorem rejectedItems_congr {node other : Node Schema} {items : List Value} {path : String}
    (includes : ∀ item ∈ items, ∀ path,
      verdicts capabilities options other.includes item path =
        verdicts capabilities options node.includes item path)
    (excludes : ∀ item ∈ items, ∀ path,
      verdicts capabilities options other.excludes item path =
        verdicts capabilities options node.excludes item path)
    (restricted : other.includes.isEmpty = node.includes.isEmpty) :
    rejectedItems capabilities options other items path =
      rejectedItems capabilities options node items path := by
  refine List.filter_congr fun entry member => ?_
  have listed := Value.mem_of_mem_numbered member
  rw [chooseItem_isNone, chooseItem_isNone, restricted, includes _ listed, excludes _ listed]

section Redefaulted

variable {candidates : List (Schema × Value)}
  (kept : ∀ candidate ∈ candidates, candidate.1.isLenient options = true →
    candidate.2.isNullish = candidate.1.root.constraints.default.isNullish)
include kept

theorem verdicts_withDefault (present : value.isUndefined = false) (path : String) :
    verdicts capabilities options (candidates.map fun candidate =>
        candidate.1.withDefault candidate.2) value path =
      verdicts capabilities options (candidates.map Prod.fst) value path := by
  unfold verdicts
  rw [List.map_map, List.map_map]
  exact List.map_congr_left fun candidate member =>
    isOk_withDefault present (kept candidate member) path {}

theorem chosenAt?_withDefault (present : value.isUndefined = false) (path : String) :
    chosenAt? capabilities options (candidates.map fun candidate =>
        candidate.1.withDefault candidate.2) value path =
      chosenAt? capabilities options (candidates.map Prod.fst) value path := by
  have first (schemas : List Schema) :
      (verdicts capabilities options schemas value path).findIdx? id =
        chosenAt? capabilities options schemas value path :=
    List.findIdx?_map
  rw [← first, ← first, verdicts_withDefault kept present path]

variable (capabilities) in
/--
Other defaults select nothing else.  Let some candidates be given other defaults,
where a candidate whose failures may become warnings keeps having a default, or
having none.  Then among present items the same ones are rejected by schemas that
they must not satisfy, and by schemas that they must satisfy.  A union of the
candidates takes the one at the same place, and answers what this one answers.
The condition is needed: a schema accepts a present value if it does so without
its default, and then the default has no part in what is made of the value, or if
it turns its failures into warnings.
-/
theorem selection_of_defaults (node : Node Schema) (path : String) :
    let given := candidates.map Prod.fst
    let changed := candidates.map fun candidate => candidate.1.withDefault candidate.2
    (∀ items : List Value, (∀ item ∈ items, item.isUndefined = false) →
      rejectedItems capabilities options { node with includes := [], excludes := changed } items
          path =
        rejectedItems capabilities options { node with includes := [], excludes := given } items
          path ∧
      rejectedItems capabilities options { node with includes := changed } items path =
        rejectedItems capabilities options { node with includes := given } items path) ∧
    (∀ value : Value, value.isUndefined = false →
      let place := chosenAt? capabilities options given value path
      chosenAt? capabilities options changed value path = place ∧
      (candidates ≠ [] → node.constraints.effectivePresence options ≠ .forbidden → ∀ trail,
        (walk capabilities options (.node { node with alternatives := given }) value path trail).1 =
            (unionAnswer capabilities options node.constraints (place.bind (given[·]?)) value
              path).1 ∧
          (walk capabilities options (.node { node with alternatives := changed }) value path
              trail).1 =
            (unionAnswer capabilities options node.constraints (place.bind (changed[·]?)) value
              path).1)) ∧
    ∀ (schema : Schema) (value : Value), value.isUndefined = false → ∀ trail,
      let walked := walk capabilities options schema value path trail
      let bare := walk capabilities options (schema.withDefault .undefined) value path trail
      walked.1.isOk = (bare.1.isOk || schema.root.constraints.downgrades options) ∧
        (bare.1.isOk = true → walked = bare) := by
  intro given changed
  have same (value : Value) (present : value.isUndefined = false) (path : String) :
      verdicts capabilities options changed value path =
        verdicts capabilities options given value path :=
    verdicts_withDefault kept present path
  refine ⟨fun items present => ⟨?_, ?_⟩, fun value present => ⟨?_, ?_⟩, ?_⟩
  · refine rejectedItems_congr (fun _ _ _ => rfl) ?_ rfl
    exact fun item member path => same item (present item member) path
  · refine rejectedItems_congr ?_ (fun _ _ _ => rfl) (by simp [changed, given])
    exact fun item member path => same item (present item member) path
  · exact chosenAt?_withDefault kept present path
  · intro filled admitted trail
    have answer (schemas : List Schema)
        (union : { node with alternatives := schemas }.alternatives ≠ []) :
        (walk capabilities options (.node { node with alternatives := schemas }) value path
            trail).1 =
          (unionAnswer capabilities options node.constraints
            ((chosenAt? capabilities options schemas value path).bind (schemas[·]?)) value
            path).1 := by
      rw [← chosen?_eq_bind]
      exact (walk_answer capabilities union present admitted path trail).1
    have answer' := answer changed (by simpa [changed] using filled)
    rw [chosenAt?_withDefault kept present path] at answer'
    exact ⟨answer given (by simpa [given] using filled), answer'⟩
  · intro schema value present trail
    exact isOk_of_withoutDefault capabilities options present schema path trail

end Redefaulted

/-- A number that must be present is given a default that it lacked, and a truth value that may be
absent another one; this one matches the text too, before and after. -/
theorem selection_of_defaults_two :
    let number : Schema :=
      .node { constraints := { kind := some .number, presence := some .required } }
    let boolean : Schema :=
      .node { constraints := { kind := some .boolean, default := .boolean true } }
    let candidates : List (Schema × Value) := [(number, .string "x"), (boolean, .boolean false)]
    let changed := candidates.map fun candidate => candidate.1.withDefault candidate.2
    let items : List Value := [.string "a", .boolean true]
    (∀ candidate ∈ candidates, candidate.1.isLenient {} = true →
        candidate.2.isNullish = candidate.1.root.constraints.default.isNullish) ∧
      (∀ item ∈ items, item.isUndefined = false) ∧
      rejectedItems .native {} { excludes := changed } items "" =
        [(.index 0, .string "a"), (.index 1, .boolean true)] ∧
      rejectedItems .native {} { includes := changed } items "" = [] ∧
      chosenAt? .native {} changed (.string "a") "" = some 1 ∧
      (walk .native {} (.node { alternatives := changed }) (.string "a") "" {}).1 =
        ⟨.boolean false, []⟩ := by
  intro number boolean candidates changed items
  have kept : ∀ candidate ∈ candidates, candidate.1.isLenient {} = true →
      candidate.2.isNullish = candidate.1.root.constraints.default.isNullish := by decide
  have present : ∀ item ∈ items, item.isUndefined = false := by decide
  have admitted : ({} : Node Schema).constraints.effectivePresence {} ≠ .forbidden := by decide
  obtain ⟨selected, taken, -⟩ := selection_of_defaults .native kept {} ""
  obtain ⟨excluded, included⟩ := selected items present
  obtain ⟨place, answers⟩ := taken (.string "a") rfl
  have answer := (answers (List.cons_ne_nil _ _) admitted {}).2
  exact ⟨kept, present, excluded.trans rfl, included.trans rfl, place.trans rfl, answer.trans rfl⟩

/-- A truth value that may be absent matches a text once it has a default: the text is excluded,
called for and chosen because of it. -/
theorem text_matches_defaulted_boolean :
    let boolean (default : Value) : Schema :=
      .node { constraints := { kind := some .boolean, default } }
    let text : Value := .string "a"
    text.isUndefined = false ∧
      rejectedItems .native {} { excludes := [boolean .undefined] } [text] "" = [] ∧
      rejectedItems .native {} { excludes := [boolean (.boolean true)] } [text] "" =
        [(.index 0, text)] ∧
      rejectedItems .native {} { includes := [boolean .undefined] } [text] "" =
        [(.index 0, text)] ∧
      rejectedItems .native {} { includes := [boolean (.boolean true)] } [text] "" = [] ∧
      chosenAt? .native {} [boolean .undefined, .node {}] text "" = some 1 ∧
      chosenAt? .native {} [boolean (.boolean true), .node {}] text "" = some 0 := by
  intro boolean text
  exact ⟨rfl, rfl, rfl, rfl, rfl, rfl, rfl⟩

end SchemaValidation.Schema
