import SchemaValidation.Proofs.DeepMerge
import SchemaValidation.Proofs.Identities

/-!
# Tables of aliases

Tables of aliases that are declared one after the other are merged, so the targets
that they have for one name accumulate.  A later target takes the place of an
earlier one, except that a list grows by what is declared after it and that two
objects are merged.  A schema that has nothing but aliases delivers for a value
that selects a name what the targets for this name come to.
-/

namespace SchemaValidation

namespace Value

/-- What some targets come to that are declared one after the other for one name. -/
inductive Accumulate : List Value → Value → Prop where
  | alone (target : Value) : Accumulate [target] target
  | replaced {targets : List Value} {old target : Value} (before : Accumulate targets old)
      (noList : old.shape ≠ .array) (apart : ¬ (old.shape = .object ∧ target.shape = .object)) :
      Accumulate (targets ++ [target]) target
  | extended {targets items : List Value} (before : Accumulate targets (.array items))
      (more : List Value) : Accumulate (targets ++ [.array more]) (.array (items ++ more))
  | appended {targets items : List Value} (before : Accumulate targets (.array items))
      {target : Value} (noList : target.shape ≠ .array) :
      Accumulate (targets ++ [target]) (.array (items ++ [target]))
  | merged {targets : List Value} {old : Record} (before : Accumulate targets old.toValue)
      (target : Record) : Accumulate (targets ++ [target.toValue]) (old.merge target).toValue

/-- One more target accumulates with those before as it combines with what they come to. -/
theorem Accumulate.concat {targets : List Value} {old : Value} (before : Accumulate targets old)
    (target : Value) : Accumulate (targets ++ [target]) (target.combine (some old)) := by
  cases old with
  | array items =>
      cases target with
      | array more => exact before.extended more
      | _ => exact before.appended nofun
  | object className members =>
      cases target with
      | object className' more =>
          have objects : Accumulate targets (Record.mk className members).toValue := before
          exact objects.merged ⟨className', more⟩
      | _ => exact before.replaced nofun nofun
  | _ =>
      rw [combine_of_leaf rfl]
      exact before.replaced nofun nofun

theorem Accumulate.gather_eq {targets : List Value} {result : Value}
    (accumulate : Accumulate targets result) : gather targets = some result := by
  induction accumulate with
  | alone target => exact congrArg some target.combine_none
  | @replaced targets old target before noList apart ih =>
      rw [gather_concat, ih]
      cases old with
      | array items => exact absurd rfl noList
      | object className members =>
          cases target with
          | object _ more => exact absurd ⟨rfl, rfl⟩ apart
          | _ => rfl
      | _ => exact congrArg some (combine_of_leaf rfl target)
  | extended before more ih => rw [gather_concat, ih]; rfl
  | @appended targets items before target noList ih =>
      rw [gather_concat, ih]
      cases target with
      | array more => exact absurd rfl noList
      | _ => rfl
  | merged before target ih => rw [gather_concat, ih]; rfl

/-- Targets that there are come to something. -/
theorem exists_accumulate {targets : List Value} (given : targets ≠ []) :
    ∃ result, Accumulate targets result := by
  induction targets using List.reverseRecOn with
  | nil => exact absurd rfl given
  | append_singleton targets target ih =>
      by_cases none : targets = []
      · subst none
        exact ⟨target, .alone target⟩
      · obtain ⟨old, before⟩ := ih none
        exact ⟨_, before.concat target⟩

end Value

/-- The source that lets some names stand for others and restricts nothing, by tables of pairs that
are declared one after the other. -/
def Source.aliased (tables : List (List (String × Value))) : Source :=
  .chain (.root none :: tables.map fun pairs => .aliases (.ofList pairs))

theorem Node.ofRefinements_aliases {α : Type} (tables : List (List (String × Value))) :
    Node.ofRefinements (.root none :: tables.map fun pairs => .aliases (.ofList pairs)) =
      ({ constraints := { aliases := .mergeAll (tables.map .ofList) } } : Node α) := by
  have folded (start : Record) :
      (tables.map fun pairs => Refinement.aliases (.ofList pairs)).foldl refine
          { constraints := { aliases := start } } =
        ({ constraints := { aliases := (tables.map Record.ofList).foldl .merge start } } :
          Node α) := by
    induction tables generalizing start with
    | nil => rfl
    | cons pairs rest ih => exact ih (start.merge (.ofList pairs))
  exact folded {}

theorem Source.schema_aliased (tables : List (List (String × Value))) :
    (Source.aliased tables).schema =
      .node { constraints := { aliases := .mergeAll (tables.map .ofList) } } := by
  rw [Source.schema_of_steps rfl, Node.ofRefinements_aliases]
  rfl

/-- A schema that has nothing but aliases delivers what they let a present value stand for. -/
theorem Schema.walk_aliases {capabilities : Capabilities} {options : Options} {value : Value}
    (present : value.isUndefined = false) (admitted : options.presence ≠ .forbidden)
    (aliases : Record) (path : String) (trail : Trail) :
    walk capabilities options (.node { constraints := { aliases } }) value path trail =
      (⟨Constraints.resolveAlias { aliases } value, []⟩, trail) := by
  have plain : walk capabilities options (.node { constraints := { aliases } }) value path trail =
      _ := walk_eq_settlePlain present admitted rfl
  rw [plain]
  rfl

theorem Record.ofList_ascending (pairs : List (String × Value)) :
    KeyMap.IsAscending (ofList pairs).members :=
  KeyMap.IsAscending.overlay .nil pairs

namespace Engine

/--
Every entry of every table of aliases counts.  A present value that selects no
name is delivered as it is, and so is one whose name no table mentions.  For any
other value stands what the targets that the tables have for its name come to, in
the order of the tables: the last one, except that lists grow and that objects are
merged.  Where this is null or absent, the value stands for itself.  Nothing is
reported.
-/
theorem aliases_apply (engine : Engine) {options : Options}
    (admitted : options.presence ≠ .forbidden) {value : Value}
    (present : value.isUndefined = false) (tables : List (List (String × Value)))
    (ledger : Ledger) :
    let answer := (engine.validateWith value (.aliased tables) options ledger).1
    (value.keyText? = none → answer = ⟨value, [], []⟩) ∧
      ∀ key, value.keyText? = some key →
        let targets := Record.held key (tables.map .ofList)
        (targets = [] → answer = ⟨value, [], []⟩) ∧
          (targets ≠ [] → ∃ result, Value.Accumulate targets result) ∧
            ∀ result, Value.Accumulate targets result →
              answer = ⟨if result.isNullish then value else result, [], []⟩ := by
  intro answer
  let aliases : Record := .mergeAll (tables.map .ofList)
  have walked : answer = ⟨Constraints.resolveAlias { aliases } value, [], []⟩ := by
    dsimp only [answer]
    rw [validateWith_schema, Source.schema_aliased, Schema.walk_aliases present admitted]
  rw [walked]
  unfold Constraints.resolveAlias
  refine ⟨fun unnamed => by rw [unnamed]; rfl, fun key named => ?_⟩
  intro targets
  have found : aliases.find? key = Value.gather targets :=
    Record.find?_mergeAll (List.forall_mem_map.mpr fun pairs _ => Record.ofList_ascending pairs)
  rw [named, Option.bind_some, found]
  refine ⟨fun unmentioned => by rw [unmentioned]; rfl, Value.exists_accumulate, ?_⟩
  intro result accumulate
  rw [accumulate.gather_eq]

/-- The truth value selects the name that two of three tables mention, one of them twice. -/
theorem aliases_apply_boolean :
    let engine : Engine := (Engine.start .native {}).1
    let value : Value := .boolean true
    let tables : List (List (String × Value)) := [
      [("true", .array [.string "a"])],
      [("x", .null)],
      [("true", .null), ("true", .string "b")]]
    let targets := Record.held "true" (tables.map .ofList)
    let result : Value := .array [.string "a", .string "b"]
    ({} : Options).presence ≠ .forbidden ∧ value.isUndefined = false ∧
      value.keyText? = some "true" ∧ targets = [.array [.string "a"], .string "b"] ∧
      Value.Accumulate targets result ∧
      (engine.validateWith value (.aliased tables) {} {}).1 = ⟨result, [], []⟩ := by
  intro engine value tables targets result
  have admitted : ({} : Options).presence ≠ .forbidden := by decide
  have accumulate : Value.Accumulate targets result :=
    .appended (.alone (.array [.string "a"])) nofun
  have present : value.isUndefined = false := rfl
  obtain ⟨-, apply⟩ := engine.aliases_apply admitted present tables {}
  exact ⟨admitted, present, rfl, rfl, accumulate, (apply "true" rfl).2.2 result accumulate⟩

/-- The last table that mentions the name maps it to a text, to an object and to null, and in no
case is this what is delivered. -/
theorem last_target_not_delivered :
    let engine : Engine := (Engine.start .native {}).1
    let delivers (tables : List (List (String × Value))) (target delivered : Value) : Prop :=
      (Record.held "k" (tables.map .ofList)).getLast? = some target ∧
        (engine.validateWith (.string "k") (.aliased tables) {} {}).1.value = delivered ∧
          delivered ≠ target
    ({} : Options).presence ≠ .forbidden ∧ (Value.string "k").keyText? = some "k" ∧
      delivers [[("k", .array [.null])], [("k", .string "y")]]
        (.string "y") (.array [.null, .string "y"]) ∧
      delivers [[("k", .object none [("a", .null)])], [("k", .object none [("b", .null)])]]
        (.object none [("b", .null)]) (.object none [("a", .null), ("b", .null)]) ∧
      delivers [[("k", .null)]] .null (.string "k") := by
  intro engine delivers
  have admitted : ({} : Options).presence ≠ .forbidden := by decide
  exact ⟨admitted, rfl, ⟨rfl, rfl, nofun⟩, ⟨rfl, rfl, by simp⟩, ⟨rfl, rfl, nofun⟩⟩

end Engine

end SchemaValidation
