import SchemaValidation.Proofs.WrittenNumbers

/-!
# Repeated items

The rule against repeated items goes through a list once.  It keeps a text for every
number and every text that it has passed and rejects the list at the first item
whose text it has kept.  Numbers have one text exactly if they are equal, a mark in
front keeps the texts of numbers and of texts apart, and other items have none.  So
the rule says what a comparison of all pairs of items would say.
-/

namespace SchemaValidation

/-- Two items count as one that is repeated: both are numbers or both are texts, and they are
equal. -/
inductive Value.IsRepetition : Value → Value → Prop where
  | number {x y : Binary64} (equal : (Value.number x).equals (.number y) = true) :
      IsRepetition (.number x) (.number y)
  | string {first second : String} (equal : (Value.string first).equals (.string second) = true) :
      IsRepetition (.string first) (.string second)

theorem Value.IsRepetition.symm {first second : Value} (repetition : first.IsRepetition second) :
    second.IsRepetition first := by
  cases repetition with
  | number equal => exact .number (Binary64.equals_iff.mpr (Binary64.equals_iff.mp equal).symm)
  | string equal => exact .string (beq_iff_eq.mpr (eq_of_beq equal).symm)

namespace Rule

/-! ## Texts of items -/

/-- What is marked as a number has no mark of a text. -/
theorem marks_apart (first second : String) : "n:" ++ first ≠ "s:" ++ second := by
  intro same
  have characters := congrArg String.toList same
  simp at characters

/-- Items share a text exactly if one of them repeats the other. -/
theorem sharedText_iff {first second : Value} :
    (∃ text, distinctText? first = some text ∧ distinctText? second = some text) ↔
      first.IsRepetition second := by
  constructor
  · rintro ⟨text, kept, kept'⟩
    have same : distinctText? first = distinctText? second := kept.trans kept'.symm
    cases first with
    | number x =>
        cases second with
        | number y =>
            have texts : x.keyText = y.keyText := by simpa [distinctText?] using same
            exact .number (Binary64.keyText_eq_iff.mp texts)
        | string other => exact absurd (Option.some.inj same) (marks_apart _ _)
        | _ => cases kept'
    | string given =>
        cases second with
        | number y => exact absurd (Option.some.inj same).symm (marks_apart _ _)
        | string other =>
            have texts : given = other := by simpa [distinctText?] using same
            exact .string (texts ▸ Value.equals_self _)
        | _ => cases kept'
    | _ => cases kept
  · intro repetition
    cases repetition with
    | @number x y equal =>
        have texts : x.keyText = y.keyText := Binary64.keyText_eq_iff.mpr equal
        exact ⟨_, rfl, by rw [distinctText?, texts]⟩
    | @string given other equal =>
        have texts : given = other := eq_of_beq equal
        exact ⟨_, rfl, by rw [distinctText?, texts]⟩

/-! ## The pass over a list -/

/-- The pass over some texts succeeds exactly if none of them occurs twice and none was seen
before. -/
theorem allUnseen_iff {seen texts : List String} :
    allUnseen seen texts = true ↔ texts.Nodup ∧ ∀ text ∈ texts, text ∉ seen := by
  induction texts generalizing seen with
  | nil => simp [allUnseen]
  | cons text rest ih =>
      have step : allUnseen seen (text :: rest) = true ↔
          text ∉ seen ∧ allUnseen (seen.insert text) rest = true := by
        simp [allUnseen]
      -- A text is unseen behind `text` if it is unseen in front and is another one.
      have later : (∀ other ∈ rest, other ∉ seen.insert text) ↔
          text ∉ rest ∧ ∀ other ∈ rest, other ∉ seen := by
        simp only [List.mem_insert_iff, not_or]
        constructor
        · intro each
          exact ⟨fun listed => (each text listed).1 rfl,
            fun other listed => (each other listed).2⟩
        · rintro ⟨absent, each⟩ other listed
          exact ⟨fun same => absent (same ▸ listed), each other listed⟩
      rw [step, ih, later, List.nodup_cons, List.forall_mem_cons]
      tauto

/-- The texts of some items are distinct exactly if none of the items repeats an earlier one. -/
theorem nodup_texts_iff (items : List Value) :
    (items.filterMap distinctText?).Nodup ↔
      items.Pairwise fun first second => ¬ first.IsRepetition second := by
  rw [List.Nodup, List.pairwise_filterMap]
  refine List.Pairwise.iff fun first second => ?_
  rw [← sharedText_iff, not_exists]
  exact ⟨fun distinct text ⟨kept, kept'⟩ => distinct text kept text kept' rfl,
    fun unshared text kept text' kept' same => unshared text ⟨kept, same ▸ kept'⟩⟩

/-- No item repeats an earlier one exactly if no two different places hold a repetition. -/
theorem pairwise_iff_places (items : List Value) :
    (items.Pairwise fun first second => ¬ first.IsRepetition second) ↔
      ∀ (i j : ℕ) (first second : Value), i ≠ j → items[i]? = some first →
        items[j]? = some second → ¬ first.IsRepetition second := by
  rw [List.pairwise_iff_getElem]
  constructor
  · intro ordered i j first second distinct here there repetition
    obtain ⟨inside, rfl⟩ := List.getElem?_eq_some_iff.mp here
    obtain ⟨inside', rfl⟩ := List.getElem?_eq_some_iff.mp there
    rcases Nat.lt_or_gt_of_ne distinct with less | greater
    · exact ordered i j inside inside' less repetition
    · exact ordered j i inside' inside greater repetition.symm
  · intro apart i j inside inside' less
    exact apart i j _ _ (Nat.ne_of_lt less) (List.getElem?_eq_getElem inside)
      (List.getElem?_eq_getElem inside')

/--
The check against repeated items passes exactly the lists in which no two different
places hold equal numbers or equal texts.
-/
theorem unique_passes_iff (identity : Nat) (value : Value) :
    (unique.check identity).judge value = .returned .pass ↔
      ∃ items, value = .array items ∧
        ∀ (i j : ℕ) (first second : Value), i ≠ j → items[i]? = some first →
          items[j]? = some second → ¬ first.IsRepetition second := by
  have judged : (unique.check identity).judge value = .returned .pass ↔
      unique.holds value = true := by
    change Attempt.returned (unique.verdict value) = .returned .pass ↔ _
    unfold verdict
    cases unique.holds value <;> simp
  rw [judged]
  cases value with
  | array items =>
      change allUnseen [] (items.filterMap distinctText?) = true ↔ _
      rw [allUnseen_iff, nodup_texts_iff, pairwise_iff_places]
      simp
  | _ => simp [holds]

/-- A number and the text that is written like it are no repetition, and neither are two lists. -/
example : unique.holds (.array [.number .one, .string "1", .array [.null], .array [.null]]) =
    true := by
  decide

/-- The two zeros are a repetition, and so are two non-numbers with different bits. -/
example : unique.holds (.array [.number .zero, .number (.ofMagnitude true 0)]) = false ∧
    unique.holds (.array [.number (.ofBits 0x7FF8000000000000), .null,
      .number (.ofBits 0xFFF0000000000001)]) = false := by
  decide

end Rule

end SchemaValidation
