import SchemaValidation.Proofs.ValueTree
import SchemaValidation.Report
import SchemaValidation.Rule
import SchemaValidation.Schema.Basic

/-!
# Canonical forms of values

Equality of values does not see the sign of a zero, the bits of what is no number
and the class of an object.  The canonical form of a value leaves these out, at
every depth, so that values with one canonical form are equal, and equal values
have one canonical form as long as their callables are told apart by identity.
Everything that a walk reads off a value can be read off its canonical form,
except for the class of an object.
-/

namespace SchemaValidation

/-! ## Numbers -/

namespace Binary64

/-- The number without what equality does not see: there is one zero, and one that is no number. -/
def canonical (x : Binary64) : Binary64 :=
  if x.isNaN then ofMagnitude false (infinity + 1) else if x.isZero then zero else x

/-- What is read alike off all that is no number and off the two zeros can be read off the canonical
form. -/
theorem read_canonical {α : Type} {read : Binary64 → α}
    (unnumbered : ∀ x y, x.isNaN = true → y.isNaN = true → read x = read y)
    (zeros : ∀ x, x.magnitude.val = 0 → read x = read zero) (x : Binary64) :
    read x.canonical = read x := by
  unfold canonical
  split
  · rename_i left
    exact unnumbered _ x (by decide) left
  · split
    · rename_i zeroed
      exact (zeros x (by simpa [isZero] using zeroed)).symm
    · rfl

theorem place_of_zero {x : Binary64} (zeroed : x.magnitude.val = 0) : x.place = 0 := by
  unfold place
  rw [zeroed]
  simp

@[simp] theorem isNaN_canonical (x : Binary64) : x.canonical.isNaN = x.isNaN := by
  refine read_canonical (fun x y left left' => left.trans left'.symm) (fun x zeroed => ?_) x
  unfold isNaN
  rw [zeroed]
  decide

theorem place_canonical {x : Binary64} (numbered : x.isNaN = false) :
    x.canonical.place = x.place := by
  unfold canonical
  rw [if_neg (by simp [numbered])]
  split
  · rename_i zeroed
    rw [place_of_zero (x := x) (by simpa [isZero] using zeroed)]
    rfl
  · rfl

/-- Two numbers are equal exactly if they have one canonical form. -/
theorem equals_iff {x y : Binary64} : x.equals y = true ↔ x.canonical = y.canonical := by
  constructor
  · intro equal
    cases unnumbered : x.isNaN with
    | true =>
        have unnumbered' : y.isNaN = true := by simpa [equals, same, unnumbered] using equal
        unfold canonical
        rw [unnumbered, unnumbered']
        rfl
    | false =>
        have both : y.isNaN = false ∧ x.place = y.place := by
          simpa [equals, same, unnumbered] using equal
        by_cases zeroed : x.place = 0
        · have magnitude (z : Binary64) (at_zero : z.place = 0) : z.isZero = true := by
            unfold place at at_zero
            unfold isZero
            split at at_zero <;> simp <;> omega
          unfold canonical
          rw [unnumbered, both.1, magnitude x zeroed, magnitude y (both.2 ▸ zeroed)]
          rfl
        · have same : x = y := by
            obtain ⟨negative, magnitude⟩ := x
            obtain ⟨negative', magnitude'⟩ := y
            have places := both.2
            unfold place at places zeroed
            cases negative <;> cases negative' <;> simp at places zeroed ⊢ <;> omega
          rw [same]
  · intro forms
    have unnumbered : x.isNaN = y.isNaN := by
      rw [← isNaN_canonical x, forms, isNaN_canonical]
    unfold equals same
    cases left : y.isNaN with
    | true => simp [unnumbered, left]
    | false =>
        have places : x.place = y.place := by
          rw [← place_canonical (unnumbered.trans left), forms, place_canonical left]
        simp [unnumbered, left, places]

theorem keyText_canonical (x : Binary64) : x.canonical.keyText = x.keyText := by
  refine read_canonical (fun x y left left' => ?_) (fun x zeroed => ?_) x
  · simp [keyText, left, left']
  · simp [keyText, isNaN, isInfinite, isZero, zeroed, infinity, zero, ofMagnitude]

theorem isFinite_of_isNaN {x : Binary64} (unnumbered : x.isNaN = true) : x.isFinite = false :=
  decide_eq_false (Nat.lt_asymm (of_decide_eq_true unnumbered))

theorem integer?_of_isNaN {x : Binary64} (unnumbered : x.isNaN = true) : x.integer? = none := by
  simp [integer?, isFinite_of_isNaN unnumbered]

theorem integer?_of_zero {x : Binary64} (zeroed : x.magnitude.val = 0) : x.integer? = some 0 := by
  simp [integer?, isFinite, significand, zeroed, infinity, leadingOne]

theorem integer?_canonical (x : Binary64) : x.canonical.integer? = x.integer? :=
  read_canonical
    (fun _ _ left left' => (integer?_of_isNaN left).trans (integer?_of_isNaN left').symm)
    (fun _ zeroed => (integer?_of_zero zeroed).trans (integer?_of_zero rfl).symm) x

@[simp] theorem canonical_canonical (x : Binary64) : x.canonical.canonical = x.canonical := by
  refine read_canonical (fun x y left left' => ?_) (fun x zeroed => ?_) x
  · unfold canonical
    rw [left, left']
    rfl
  · simp [canonical, isNaN, isZero, zeroed, infinity, zero, ofMagnitude]

theorem equals_canonical (x y : Binary64) : x.equals y.canonical = x.equals y := by
  rw [Bool.eq_iff_iff, equals_iff, equals_iff, canonical_canonical]

theorem ofNumber_canonical (x : Binary64) : Json.ofNumber x.canonical = Json.ofNumber x := by
  have tree_of_isNaN (x : Binary64) (left : x.isNaN = true) : Json.ofNumber x = .null := by
    simp [Json.ofNumber, integer?_of_isNaN left, isFinite_of_isNaN left]
  have tree_of_zero (x : Binary64) (zeroed : x.magnitude.val = 0) : Json.ofNumber x = .integer 0 := by
    simp [Json.ofNumber, integer?_of_zero zeroed]
  exact read_canonical
    (fun x y left left' => (tree_of_isNaN x left).trans (tree_of_isNaN y left').symm)
    (fun x zeroed => (tree_of_zero x zeroed).trans (tree_of_zero zero rfl).symm) x

end Binary64

/-! ## Values -/

namespace Value

mutual

/-- The value without what equality does not see. -/
def canonical : Value → Value
  | number x => number x.canonical
  | array items => array (canonicalItems items)
  | object _ members => object none (canonicalMembers members)
  | value => value

/-- The canonical forms of items. -/
def canonicalItems : List Value → List Value
  | [] => []
  | item :: rest => canonical item :: canonicalItems rest

/-- The canonical forms of members. -/
def canonicalMembers : List (String × Value) → List (String × Value)
  | [] => []
  | (key, item) :: rest => (key, canonical item) :: canonicalMembers rest

end

theorem canonical_array (items : List Value) :
    canonical (array items) = array (items.map canonical) := by
  have each : canonicalItems items = items.map canonical := by
    induction items with
    | nil => rfl
    | cons item rest ih => rw [canonicalItems, ih, List.map_cons]
  rw [canonical, each]

theorem canonical_object (className : Option String) (members : List (String × Value)) :
    canonical (object className members) = object none (KeyMap.mapItems canonical members) := by
  have each : canonicalMembers members = KeyMap.mapItems canonical members := by
    induction members with
    | nil => rfl
    | cons entry rest ih =>
        rw [canonicalMembers, ih]
        rfl
  rw [canonical, each]

/-! ### Equality -/

theorem equalItems_canonical {candidates : List Value}
    (each : ∀ candidate ∈ candidates, ∀ value : Value,
      candidate.equals value.canonical = candidate.equals value) (items : List Value) :
    equalItems candidates (items.map canonical) = equalItems candidates items := by
  induction candidates generalizing items with
  | nil => cases items <;> rfl
  | cons candidate rest ih =>
      obtain ⟨first, others⟩ := List.forall_mem_cons.mp each
      cases items with
      | nil => rfl
      | cons item items => rw [List.map_cons, equalItems, equalItems, first, ih others]

theorem equalMembers_canonical {candidates : List (String × Value)}
    (each : ∀ entry ∈ candidates, ∀ value : Value,
      entry.2.equals value.canonical = entry.2.equals value) (members : List (String × Value)) :
    equalMembers candidates (KeyMap.mapItems canonical members) =
      equalMembers candidates members := by
  induction candidates generalizing members with
  | nil => cases members <;> rfl
  | cons entry rest ih =>
      obtain ⟨first, others⟩ := List.forall_mem_cons.mp each
      cases members with
      | nil => rfl
      | cons member members =>
          have mapped : KeyMap.mapItems canonical (member :: members) =
              (member.1, member.2.canonical) :: KeyMap.mapItems canonical members := rfl
          rw [mapped, equalMembers, equalMembers, first, ih others]

/-- A value equals just what its canonical form equals. -/
theorem equals_canonical (candidate value : Value) :
    candidate.equals value.canonical = candidate.equals value := by
  induction candidate using nestedInduction generalizing value with
  | leaf candidate plain =>
      cases candidate with
      | array items => cases plain
      | object className members => cases plain
      | number x =>
          cases value with
          | number y => exact x.equals_canonical y
          | _ => rfl
      | _ => cases value <;> rfl
  | array candidates ih =>
      cases value with
      | array items =>
          rw [canonical_array]
          exact equalItems_canonical ih items
      | _ => rfl
  | object className candidates ih =>
      cases value with
      | object className members =>
          rw [canonical_object]
          exact equalMembers_canonical ih members
      | _ => rfl

theorem equals_of_canonical_eq {first second : Value} (form : first.canonical = second.canonical) :
    first.equals second = true := by
  rw [← equals_canonical, ← form, equals_canonical, equals_self]

mutual

/-- The callables in a value. -/
def callables : Value → List Callable
  | array items => itemCallables items
  | object _ members => memberCallables members
  | function callable => [callable]
  | _ => []

/-- The callables in some items. -/
def itemCallables : List Value → List Callable
  | [] => []
  | item :: rest => callables item ++ itemCallables rest

/-- The callables in some members. -/
def memberCallables : List (String × Value) → List Callable
  | [] => []
  | (_, item) :: rest => callables item ++ memberCallables rest

end

/-- Callables of two lists with one identity are one callable. -/
def AgreeOn (first second : List Callable) : Prop :=
  ∀ f ∈ first, ∀ g ∈ second, f.identity = g.identity → f = g

theorem AgreeOn.of_append {first first' second second' : List Callable}
    (agree : AgreeOn (first ++ first') (second ++ second')) :
    AgreeOn first second ∧ AgreeOn first' second' :=
  ⟨fun f member g member' => agree f (List.mem_append_left _ member) g
      (List.mem_append_left _ member'),
    fun f member g member' => agree f (List.mem_append_right _ member) g
      (List.mem_append_right _ member')⟩

theorem canonicalItems_eq_of_equal {items items' : List Value}
    (each : ∀ item ∈ items, ∀ {other : Value}, item.equals other = true →
      AgreeOn item.callables other.callables → item.canonical = other.canonical)
    (equal : equalItems items items' = true)
    (agree : AgreeOn (itemCallables items) (itemCallables items')) :
    items.map canonical = items'.map canonical := by
  induction items generalizing items' with
  | nil =>
      cases items' with
      | nil => rfl
      | cons item rest => cases equal
  | cons item rest ih =>
      obtain ⟨first, others⟩ := List.forall_mem_cons.mp each
      cases items' with
      | nil => cases equal
      | cons item' rest' =>
          obtain ⟨here, there⟩ := Bool.and_eq_true_iff.mp equal
          obtain ⟨agree, agrees⟩ := AgreeOn.of_append agree
          rw [List.map_cons, List.map_cons, first here agree, ih others there agrees]

theorem canonicalMembers_eq_of_equal {members members' : List (String × Value)}
    (each : ∀ entry ∈ members, ∀ {other : Value}, entry.2.equals other = true →
      AgreeOn entry.2.callables other.callables → entry.2.canonical = other.canonical)
    (equal : equalMembers members members' = true)
    (agree : AgreeOn (memberCallables members) (memberCallables members')) :
    KeyMap.mapItems canonical members = KeyMap.mapItems canonical members' := by
  induction members generalizing members' with
  | nil =>
      cases members' with
      | nil => rfl
      | cons entry rest => cases equal
  | cons entry rest ih =>
      obtain ⟨first, others⟩ := List.forall_mem_cons.mp each
      cases members' with
      | nil => cases equal
      | cons entry' rest' =>
          obtain ⟨here, there⟩ := Bool.and_eq_true_iff.mp equal
          obtain ⟨names, items⟩ := Bool.and_eq_true_iff.mp here
          obtain ⟨agree, agrees⟩ := AgreeOn.of_append agree
          change (entry.1, entry.2.canonical) :: KeyMap.mapItems canonical rest =
            (entry'.1, entry'.2.canonical) :: KeyMap.mapItems canonical rest'
          rw [eq_of_beq names, first items agree, ih others there agrees]

/-- Equal values have one canonical form if their callables are told apart by identity. -/
theorem canonical_eq_of_equals {first second : Value} (equal : first.equals second = true)
    (agree : AgreeOn first.callables second.callables) : first.canonical = second.canonical := by
  induction first using nestedInduction generalizing second with
  | leaf value plain =>
      cases value with
      | array items => cases plain
      | object className members => cases plain
      | number x =>
          cases second with
          | number y => exact congrArg number (Binary64.equals_iff.mp equal)
          | _ => cases equal
      | function f =>
          cases second with
          | function g =>
              rw [agree f (List.mem_singleton_self f) g (List.mem_singleton_self g)
                (eq_of_beq equal)]
          | _ => cases equal
      | _ => cases second <;> first | rfl | cases equal | rw [eq_of_beq equal]
  | array items ih =>
      cases second with
      | array items' =>
          rw [canonical_array, canonical_array, canonicalItems_eq_of_equal ih equal agree]
      | _ => cases equal
  | object className members ih =>
      cases second with
      | object className' members' =>
          rw [canonical_object, canonical_object, canonicalMembers_eq_of_equal ih equal agree]
      | _ => cases equal

/-! ### Readings -/

/-- What can be read off the canonical form is read alike off values with one canonical form. -/
theorem reading_eq {α : Type} (read : Value → α)
    (reads : ∀ value, read value.canonical = read value) {first second : Value}
    (form : first.canonical = second.canonical) : read first = read second := by
  rw [← reads first, form, reads second]

@[simp] theorem shape_canonical (value : Value) : value.canonical.shape = value.shape := by
  cases value <;> rfl

@[simp] theorem isUndefined_canonical (value : Value) :
    value.canonical.isUndefined = value.isUndefined := by
  cases value <;> rfl

@[simp] theorem isNullish_canonical (value : Value) :
    value.canonical.isNullish = value.isNullish := by
  cases value <;> rfl

@[simp] theorem keyText?_canonical (value : Value) :
    value.canonical.keyText? = value.keyText? := by
  cases value with
  | number x => exact congrArg some x.keyText_canonical
  | _ => rfl

@[simp] theorem length?_canonical (value : Value) : value.canonical.length? = value.length? := by
  cases value with
  | array items => rw [canonical_array, length?, length?, List.length_map]
  | object className members =>
      rw [canonical_object, length?, length?, KeyMap.mapItems, List.length_map]
  | _ => rfl

@[simp] theorem isEmpty_canonical (value : Value) : value.canonical.isEmpty = value.isEmpty := by
  unfold isEmpty
  rw [isNullish_canonical, length?_canonical]

theorem isAmong_canonical (value : Value) (insensitive : Bool) (candidates : List Value) :
    value.canonical.isAmong insensitive candidates = value.isAmong insensitive candidates := by
  have ignoring (candidate : Value) :
      candidate.equalsIgnoringCase value.canonical = candidate.equalsIgnoringCase value := by
    have equal := candidate.equals_canonical value
    cases value with
    | string text => rfl
    | _ => cases candidate <;> exact equal
  unfold isAmong
  simp only [equals_canonical, ignoring]

/-- A value reads as a number in the same way as its canonical form, if the two zeros are not told
apart. -/
theorem readNumber_canonical {α : Type} {read : Binary64 → α} (otherwise : α)
    (reads : ∀ x, x.isNaN = false → read x.canonical = read x) (value : Value) :
    (match value.canonical.toNumber with | some x => read x | none => otherwise) =
      match value.toNumber with | some x => read x | none => otherwise := by
  cases value with
  | number x =>
      rw [canonical, toNumber, toNumber, Binary64.isNaN_canonical]
      cases numbered : x.isNaN with
      | true => rfl
      | false => exact reads x numbered
  | _ => rfl

theorem isNumeric_canonical (value : Value) : value.canonical.isNumeric = value.isNumeric := by
  have read (value : Value) : value.isNumeric =
      match value.toNumber with | some _ => true | none => false := by
    unfold isNumeric
    cases value.toNumber <;> rfl
  rw [read, read]
  exact readNumber_canonical false (fun _ _ => rfl) value

theorem isInteger_canonical (value : Value) : value.canonical.isInteger = value.isInteger :=
  readNumber_canonical false
    (fun x _ => by unfold Binary64.isIntegral; rw [x.integer?_canonical]) value

theorem itemsToJson_canonical {items : List Value}
    (each : ∀ item ∈ items, item.canonical.toJson = item.toJson) :
    itemsToJson (items.map canonical) = itemsToJson items := by
  induction items with
  | nil => rfl
  | cons item rest ih =>
      obtain ⟨first, others⟩ := List.forall_mem_cons.mp each
      rw [List.map_cons, itemsToJson, itemsToJson, first, ih others]

theorem membersToJson_canonical {members : List (String × Value)}
    (each : ∀ entry ∈ members, entry.2.canonical.toJson = entry.2.toJson) :
    membersToJson (KeyMap.mapItems canonical members) = membersToJson members := by
  induction members with
  | nil => rfl
  | cons entry rest ih =>
      obtain ⟨first, others⟩ := List.forall_mem_cons.mp each
      have mapped : KeyMap.mapItems canonical (entry :: rest) =
          (entry.1, entry.2.canonical) :: KeyMap.mapItems canonical rest := rfl
      rw [mapped, membersToJson, membersToJson, isUndefined_canonical, first, ih others]

/-- Data trees tell neither the two zeros nor the classes of objects apart. -/
@[simp] theorem toJson_canonical (value : Value) : value.canonical.toJson = value.toJson := by
  induction value using nestedInduction with
  | leaf value plain =>
      cases value with
      | number x => exact x.ofNumber_canonical
      | array items => cases plain
      | object className members => cases plain
      | _ => rfl
  | array items ih =>
      rw [canonical_array, toJson, toJson, itemsToJson_canonical ih]
  | object className members ih =>
      rw [canonical_object, toJson, toJson, membersToJson_canonical ih]

theorem subjectText_canonical (value : Value) :
    value.canonical.subjectText = value.subjectText := by
  have display : value.canonical.display = value.display := by
    have tree := value.toJson_canonical
    cases value with
    | undefined => rfl
    | function callable => rfl
    | _ => exact congrArg Json.render tree
  unfold subjectText
  rw [keyText?_canonical, display]

@[simp] theorem canonical_canonical (value : Value) :
    value.canonical.canonical = value.canonical := by
  induction value using nestedInduction with
  | leaf value plain =>
      cases value with
      | number x => exact congrArg number x.canonical_canonical
      | array items => cases plain
      | object className members => cases plain
      | _ => rfl
  | array items ih =>
      rw [canonical_array, canonical_array, List.map_map]
      exact congrArg array (List.map_congr_left ih)
  | object className members ih =>
      rw [canonical_object, canonical_object, KeyMap.mapItems, KeyMap.mapItems, List.map_map]
      exact congrArg (object none) (List.map_congr_left fun entry member =>
        Prod.ext rfl (ih entry member))

theorem castToString_canonical (value : Value) :
    value.canonical.castToString = value.castToString := by
  cases value with
  | number x => exact congrArg string x.keyText_canonical
  | _ => rfl

theorem castToNumber_canonical (value : Value) :
    value.canonical.castToNumber.canonical = value.castToNumber.canonical := by
  have read (value : Value) : value.castToNumber.canonical =
      match value.toNumber with | some x => (number x).canonical | none => undefined := by
    unfold castToNumber
    cases value.toNumber <;> rfl
  rw [read, read]
  exact readNumber_canonical undefined (fun x _ => (number x).canonical_canonical) value

theorem castToBoolean_canonical (value : Value) :
    value.canonical.castToBoolean = value.castToBoolean := by
  cases value with
  | number x =>
      refine readNumber_canonical (boolean false) (fun x numbered => ?_) (.number x)
      unfold Binary64.same
      rw [x.isNaN_canonical, Binary64.place_canonical numbered]
  | _ => rfl

/-- Values with one canonical form are converted to such values. -/
theorem cast_canonical (value : Value) (target : Shape) :
    (value.canonical.cast target).canonical = (value.cast target).canonical := by
  unfold cast
  rw [shape_canonical]
  split
  · exact value.canonical_canonical
  · cases target with
    | string => rw [castToString_canonical]
    | number => exact value.castToNumber_canonical
    | boolean => rw [castToBoolean_canonical]
    | _ => rfl

end Value

/-! ## Rules -/

namespace Rule

theorem distinctText?_canonical (value : Value) :
    distinctText? value.canonical = distinctText? value := by
  cases value with
  | number x => exact congrArg (fun text => some ("n:" ++ text)) x.keyText_canonical
  | _ => rfl

theorem lengthSatisfies_canonical (condition : Nat → Bool) (value : Value) :
    lengthSatisfies condition value.canonical = lengthSatisfies condition value := by
  unfold lengthSatisfies
  rw [value.length?_canonical]

/-- A comparison of numbers does not tell the two zeros apart. -/
theorem numberSatisfies_canonical {condition : Binary64 → Bool}
    (compares : ∀ x y, x.isNaN = y.isNaN → x.place = y.place → condition x = condition y)
    (value : Value) : numberSatisfies condition value.canonical = numberSatisfies condition value :=
  Value.readNumber_canonical false
    (fun x numbered => compares _ _ x.isNaN_canonical (Binary64.place_canonical numbered)) value

/-- A rule decides on the canonical form of a value, unless it asks for the class. -/
theorem holds_canonical {rule : Rule} (classless : ∀ className, rule ≠ .instanceOf className)
    (value : Value) : rule.holds value.canonical = rule.holds value := by
  cases rule with
  | notEmpty => exact congrArg (!·) value.isEmpty_canonical
  | minLength bound => exact lengthSatisfies_canonical _ value
  | maxLength bound => exact lengthSatisfies_canonical _ value
  | exactLength exact => exact lengthSatisfies_canonical _ value
  | min bound =>
      exact numberSatisfies_canonical
        (fun x y unnumbered places => by simp [Binary64.atMost, unnumbered, places]) value
  | max bound =>
      exact numberSatisfies_canonical
        (fun x y unnumbered places => by simp [Binary64.atMost, unnumbered, places]) value
  | greater bound =>
      exact numberSatisfies_canonical
        (fun x y unnumbered places => by simp [Binary64.less, unnumbered, places]) value
  | lesser bound =>
      exact numberSatisfies_canonical
        (fun x y unnumbered places => by simp [Binary64.less, unnumbered, places]) value
  | integer => exact value.isInteger_canonical
  | numeric => exact value.isNumeric_canonical
  | unique =>
      cases value with
      | array items =>
          rw [Value.canonical_array, holds, holds, List.filterMap_map]
          congr 2
          exact funext distinctText?_canonical
      | _ => rfl
  | instanceOf className => exact absurd rfl (classless className)
  | _ => unfold holds; rw [value.subjectText_canonical]

/-- The details of a rule on values with one canonical form have one canonical form. -/
theorem failure_canonical (rule : Rule) {value value' : Value}
    (form : value.canonical = value'.canonical) :
    (rule.failure value).toValue.canonical = (rule.failure value').toValue.canonical := by
  unfold Record.toValue
  rw [Value.canonical_object, Value.canonical_object]
  refine congrArg (Value.object none) ?_
  change KeyMap.mapItems _ (KeyMap.overlay [] _) = KeyMap.mapItems _ (KeyMap.overlay [] _)
  rw [KeyMap.mapItems_overlay, KeyMap.mapItems_overlay]
  simp [KeyMap.mapItems, form]

end Rule

/-! ## Reports -/

theorem Value.equalMembers_of_canonical_eq {members members' : List (String × Value)}
    (forms : KeyMap.mapItems canonical members = KeyMap.mapItems canonical members') :
    equalMembers members members' = true := by
  have objects : (object none members).canonical = (object none members').canonical := by
    rw [canonical_object, canonical_object, forms]
  exact equals_of_canonical_eq objects

namespace Report

/-- The report with the canonical forms of its values. -/
def canonical (report : Report) : Report :=
  { report with
    expected := report.expected.canonical
    actual := report.actual.canonical
    sourceValue := report.sourceValue.canonical
    extra := KeyMap.mapItems Value.canonical report.extra }

theorem equals_of_canonical_eq {report report' : Report}
    (form : report.canonical = report'.canonical) : report.equals report' = true := by
  obtain ⟨tag, expected, actual, path, source, extra⟩ := Report.mk.inj form
  simp [equals, tag, path, Value.equals_of_canonical_eq expected,
    Value.equals_of_canonical_eq actual, Value.equals_of_canonical_eq source,
    Value.equalMembers_of_canonical_eq extra]

theorem relatedItems_of_canonical_eq {reports reports' : List Report}
    (forms : reports.map canonical = reports'.map canonical) :
    relatedItems equals reports reports' = true := by
  induction reports generalizing reports' with
  | nil =>
      cases reports' with
      | nil => rfl
      | cons report rest => cases forms
  | cons report rest ih =>
      cases reports' with
      | nil => cases forms
      | cons report' rest' =>
          obtain ⟨first, others⟩ := List.cons.inj forms
          rw [relatedItems, equals_of_canonical_eq first, ih others]
          rfl

end Report

end SchemaValidation
