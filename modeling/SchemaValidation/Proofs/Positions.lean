import SchemaValidation.Proofs.Provenance

/-!
# Paths and positions

A position in a tree is a sequence of addresses that leads to it from the root.
Its path writes the addresses down one after the other with a slash before each,
and a name that has a slash in it is written as it is.  So a path tells two
positions of a tree apart unless they part at two names, one of which spells a
way that begins with the other.
-/

namespace SchemaValidation

namespace Slot

/-! ## What a path spells -/

theorem foldl_join (path : String) (slots : List Slot) :
    slots.foldl (fun path slot => slot.join path) path = path ++ pathOf slots := by
  induction slots generalizing path with
  | nil => exact (String.append_empty).symm
  | cons slot rest ih =>
      have first : pathOf (slot :: rest) = slot.join "" ++ pathOf rest := ih (slot.join "")
      rw [List.foldl_cons, ih, first]
      simp only [join, String.empty_append, String.append_assoc]

/-- An address stands behind a slash and before the path of the rest. -/
theorem pathOf_cons (slot : Slot) (rest : List Slot) :
    pathOf (slot :: rest) = "/" ++ slot.text ++ pathOf rest := by
  rw [pathOf, List.foldl_cons, foldl_join]
  rfl

/-- The path of a position below a part, from that of the part. -/
theorem append_pathOf_cons (path : String) (slot : Slot) (rest : List Slot) :
    path ++ pathOf (slot :: rest) = slot.join path ++ pathOf rest := by
  rw [pathOf_cons, join]
  simp only [String.append_assoc]

theorem pathOf_append (before after : List Slot) :
    pathOf (before ++ after) = pathOf before ++ pathOf after := by
  rw [pathOf, List.foldl_append, foldl_join]
  rfl

theorem toList_pathOf_cons (slot : Slot) (rest : List Slot) :
    (pathOf (slot :: rest)).toList = '/' :: (slot.text.toList ++ (pathOf rest).toList) := by
  rw [pathOf_cons, String.toList_append, String.toList_append]
  rfl

/-- A path is empty or begins with a slash. -/
theorem head_of_pathOf {slots : List Slot} {first : Char} {rest : List Char}
    (spelled : (pathOf slots).toList = first :: rest) : first = '/' := by
  cases slots with
  | nil => cases spelled
  | cons slot slots =>
      rw [toList_pathOf_cons] at spelled
      exact (List.cons.inj spelled).1.symm

/-! ## Addresses in one tree -/

/-- Two addresses of parts of one collection: two indices or two names. -/
inductive Alike : Slot → Slot → Prop where
  | index (m n : Nat) : Alike (.index m) (.index n)
  | key (name other : String) : Alike (.key name) (.key other)

theorem Alike.symm {x y : Slot} (alike : x.Alike y) : y.Alike x := by
  cases alike with
  | index m n => exact .index n m
  | key name other => exact .key other name

/-- Two sequences of addresses can lead through one tree: where they part, they go on to parts of one
collection. -/
inductive SharesTree : List Slot → List Slot → Prop where
  | left (t : List Slot) : SharesTree [] t
  | right (s : List Slot) : SharesTree s []
  | along (slot : Slot) {s t : List Slot} (below : SharesTree s t) :
      SharesTree (slot :: s) (slot :: t)
  | apart {x y : Slot} (distinct : x ≠ y) (alike : x.Alike y) (s t : List Slot) :
      SharesTree (x :: s) (y :: t)

/-- Two sequences of addresses part at two names, of which the second is the first with a slash and
further text, and the first sequence goes on to spell this text and what follows it in the second. -/
def FoldsInto (s t : List Slot) : Prop :=
  ∃ before name further s' t', s = before ++ .key name :: s' ∧
    t = before ++ .key (name ++ "/" ++ further) :: t' ∧
    pathOf s' = "/" ++ further ++ pathOf t'

theorem FoldsInto.cons {s t : List Slot} (folds : FoldsInto s t) (slot : Slot) :
    FoldsInto (slot :: s) (slot :: t) := by
  obtain ⟨before, name, further, s', t', rfl, rfl, spelled⟩ := folds
  exact ⟨slot :: before, name, further, s', t', rfl, rfl, spelled⟩

theorem FoldsInto.pathOf_eq {s t : List Slot} (folds : FoldsInto s t) :
    pathOf s = pathOf t := by
  obtain ⟨before, name, further, s', t', rfl, rfl, spelled⟩ := folds
  rw [pathOf_append, pathOf_append, pathOf_cons, pathOf_cons, spelled]
  simp only [text, String.append_assoc]

/-- A sequence into which another one folds has a name with a slash. -/
theorem FoldsInto.slash {s t : List Slot} (folds : FoldsInto s t) :
    ∃ name, .key name ∈ t ∧ '/' ∈ name.toList := by
  obtain ⟨before, name, further, s', t', rfl, rfl, spelled⟩ := folds
  refine ⟨name ++ "/" ++ further, List.mem_append_right _ List.mem_cons_self, ?_⟩
  simp

theorem toList_text_index (n : Nat) : (index n).text.toList = Nat.toDigits 10 n :=
  Nat.toList_repr

/-- The text of an index has no slash. -/
theorem slash_notMem_text_index (n : Nat) : '/' ∉ (index n).text.toList := by
  rw [toList_text_index]
  intro member
  exact absurd (Nat.isDigit_of_mem_toDigits (by decide) (by decide) member) (by decide)

/-- The parts of one collection have different texts. -/
theorem Alike.eq_of_text {x y : Slot} (alike : x.Alike y) (same : x.text = y.text) : x = y := by
  cases alike with
  | index m n =>
      have digits := congrArg String.toList same
      rw [toList_text_index, toList_text_index] at digits
      have read (n : Nat) : Nat.ofDigitChars 10 (Nat.toDigits 10 n) 0 = n :=
        Nat.ofDigitChars_toDigits (by decide) (by decide)
      rw [← read m, digits, read n]
  | key name other => exact congrArg Slot.key same

/-- If the text of an address goes on where that of another one ends, both are names, and the longer
one has a slash there. -/
theorem foldsInto_of_longer {x y : Slot} {s t : List Slot} {more : List Char}
    (distinct : x ≠ y) (alike : x.Alike y) (longer : y.text.toList = x.text.toList ++ more)
    (spelled : (pathOf s).toList = more ++ (pathOf t).toList) :
    FoldsInto (x :: s) (y :: t) := by
  cases more with
  | nil =>
      rw [List.append_nil] at longer
      exact absurd (alike.eq_of_text (String.toList_inj.mp longer.symm)) distinct
  | cons first further =>
      obtain rfl := head_of_pathOf spelled
      cases alike with
      | index m n =>
          exact absurd (longer ▸ List.mem_append_right _ List.mem_cons_self) (slash_notMem_text_index n)
      | key name other =>
          have split : other = name ++ "/" ++ String.ofList further := by
            rw [← String.toList_inj, String.toList_append, String.toList_append,
              String.toList_ofList]
            simpa [text] using longer
          have rest : pathOf s = "/" ++ String.ofList further ++ pathOf t := by
            rw [← String.toList_inj, String.toList_append, String.toList_append,
              String.toList_ofList]
            simpa using spelled
          exact ⟨[], name, String.ofList further, s, t, rfl, by rw [split]; rfl, rest⟩

/-- In one tree, positions have the same path exactly if they are the same or one folds into the
other. -/
theorem SharesTree.pathOf_eq_iff {s t : List Slot} (shared : SharesTree s t) :
    pathOf s = pathOf t ↔ s = t ∨ FoldsInto s t ∨ FoldsInto t s := by
  constructor
  · intro same
    induction shared with
    | left t =>
        cases t with
        | nil => exact .inl rfl
        | cons slot rest =>
            have spelled := congrArg String.toList same
            rw [toList_pathOf_cons] at spelled
            cases spelled
    | right s =>
        cases s with
        | nil => exact .inl rfl
        | cons slot rest =>
            have spelled := congrArg String.toList same
            rw [toList_pathOf_cons] at spelled
            cases spelled
    | along slot below ih =>
        rw [pathOf_cons, pathOf_cons, String.append_right_inj] at same
        rcases ih same with rfl | folds | folds
        · exact .inl rfl
        · exact .inr (.inl (folds.cons slot))
        · exact .inr (.inr (folds.cons slot))
    | @apart x y distinct alike s t =>
        -- One text ends first; there the path of that side goes on with a slash.
        have spelled := congrArg String.toList same
        rw [toList_pathOf_cons, toList_pathOf_cons] at spelled
        rcases List.append_eq_append_iff.mp (List.cons.inj spelled).2 with
          ⟨more, longer, rest⟩ | ⟨more, longer, rest⟩
        · exact .inr (.inl (foldsInto_of_longer distinct alike longer rest))
        · exact .inr (.inr (foldsInto_of_longer distinct.symm alike.symm longer rest))
  · rintro (rfl | folds | folds)
    · rfl
    · exact folds.pathOf_eq
    · exact folds.pathOf_eq.symm

end Slot

namespace Value

/-! ## The positions of a value -/

/-- The part of a value at an address, if there is one. -/
def part? (value : Value) : Slot → Option Value
  | .index n => value.itemsOrEmpty[n]?
  | .key name => value.recordOrEmpty.find? name

/-- The addresses lead from a value to one of its parts, a part of that and so on. -/
def HasPosition : Value → List Slot → Prop
  | _, [] => True
  | value, slot :: rest => ∃ part, value.part? slot = some part ∧ part.HasPosition rest

/-- All parts of a value have addresses of one sort. -/
theorem alike_of_parts {value part other : Value} {x y : Slot} (found : value.part? x = some part)
    (found' : value.part? y = some other) : x.Alike y := by
  cases x with
  | index m =>
      cases y with
      | index n => exact .index m n
      | key name =>
          cases value with
          | array items => cases found'
          | _ => cases found
  | key name =>
      cases y with
      | index n =>
          cases value with
          | array items => cases found
          | _ => cases found'
      | key other => exact .key name other

theorem HasPosition.sharesTree {value : Value} {s t : List Slot} (first : value.HasPosition s)
    (second : value.HasPosition t) : Slot.SharesTree s t := by
  induction s generalizing value t with
  | nil => exact .left t
  | cons x s ih =>
      cases t with
      | nil => exact .right (x :: s)
      | cons y t =>
          obtain ⟨part, found, below⟩ := first
          obtain ⟨part', found', below'⟩ := second
          by_cases same : x = y
          · subst same
            obtain rfl := Option.some.inj (found.symm.trans found')
            exact .along x (ih below below')
          · exact .apart same (alike_of_parts found found') s t

end Value

end SchemaValidation
