import AtomResolution.Lens.Get
import AtomResolution.Lens.Set

/-!
The way of a lens through a value: which field each step reads and where the steps lead. Reading through a
lens finds exactly where its steps lead, although it looks for named fields with open patterns.
-/

namespace AtomResolution

namespace Registry

variable {registry : Registry} {selector : Selector} {value next target : Value}

/-- The position of the field that a step asks for in the instances of an atom. -/
def PointsTo (registry : Registry) (atom : AtomId) (selector : Selector) (position : Nat) : Prop :=
  match selector with
  | .position index => index.toNat = position
  | .field name => registry.fieldIndex? atom name = some position
  | .guard _ => False

inductive Goes (registry : Registry) : Selector → Value → List Nat → Value → Prop
  | guard {tag : Name} {value : Value} (shows : registry.tagOf value = tag) :
      Goes registry (.guard tag) value [] value
  | field {selector : Selector} {head : Instance} {fields : List Value} {position : Nat} {current : Value}
      (points : registry.PointsTo head.atom selector position) (holds : fields[position]? = some current) :
      Goes registry selector (.atom head fields) [position] current

/-- Some steps lead from a value to a target, through field positions on the way. -/
inductive Leads (registry : Registry) : List Selector → Value → List Nat → Value → Prop
  | done {value : Value} : Leads registry [] value [] value
  | step {selector : Selector} {rest : List Selector} {value next target : Value} {first others : List Nat}
      (goes : registry.Goes selector value first next) (leads : Leads registry rest next others target) :
      Leads registry (selector :: rest) value (first ++ others) target

theorem PointsTo.isField {atom : AtomId} {position : Nat} (points : registry.PointsTo atom selector position) :
    selector.isField = true := by
  cases selector with
  | position _ => rfl
  | field _ => rfl
  | guard _ => cases points

theorem position?_eq_some_iff {head : Instance} {fields : List Value} {position : Nat} :
    selector.position? registry head fields = some position ↔
      registry.PointsTo head.atom selector position ∧ position < fields.length := by
  unfold Selector.position?
  cases selector with
  | position index =>
    simp only [Option.filter_eq_some_iff, Option.some.injEq, decide_eq_true_eq]
    exact Iff.rfl
  | field name =>
    simp only [Option.filter_eq_some_iff, decide_eq_true_eq]
    exact Iff.rfl
  | guard tag =>
    constructor
    · intro impossible
      cases impossible
    · intro impossible
      cases impossible.1

theorem field?_eq_some_iff {position : Nat} : value.field? position = some next ↔
    ∃ head fields, value = .atom head fields ∧ fields[position]? = some next := by
  constructor
  · intro found
    cases value with
    | atom head fields => exact ⟨head, fields, rfl, found⟩
    | _ => cases found
  · rintro ⟨head, fields, rfl, found⟩
    exact found

theorem read_field (registry : Registry) (value : Value) (name : Name) :
    Selector.read registry value (.field name) =
      (registry.fieldIndex? value.atomId name).bind value.field? := by
  unfold Selector.read Pattern.matchValue
  cases found : (registry.fieldIndex? value.atomId name).bind value.field? with
  | none => simp [Pattern.bindNames, Pattern.readField, NamedField.punned, layout, found]
  | some _ => simp [Pattern.bindNames, Pattern.readField, NamedField.punned, layout, found]

theorem read_eq_some_iff :
    selector.read registry value = some next ↔ ∃ way, registry.Goes selector value way next := by
  constructor
  · intro found
    cases selector with
    | position index =>
      obtain ⟨head, fields, rfl, holds⟩ := field?_eq_some_iff.1 found
      exact ⟨_, .field rfl holds⟩
    | field name =>
      rw [read_field, Option.bind_eq_some_iff] at found
      obtain ⟨position, points, found⟩ := found
      obtain ⟨head, fields, rfl, holds⟩ := field?_eq_some_iff.1 found
      exact ⟨_, .field points holds⟩
    | guard tag =>
      by_cases shows : registry.tagOf value = tag
      · have same : some value = some next := (if_pos shows).symm.trans found
        cases same
        exact ⟨_, .guard shows⟩
      · have nothing : none = some next := (if_neg shows).symm.trans found
        cases nothing
  · rintro ⟨way, goes⟩
    cases goes with
    | guard shows => exact if_pos shows
    | @field _ head fields position _ points holds =>
      cases selector with
      | position index =>
        cases points
        exact holds
      | field name =>
        rw [read_field]
        exact Option.bind_eq_some_iff.2 ⟨position, points, holds⟩
      | guard tag => cases points

theorem get_cons (registry : Registry) (selector : Selector) (rest : List Selector) (value : Value) :
    Lens.get registry ⟨selector :: rest⟩ value =
      (selector.read registry value).bind (Lens.get registry ⟨rest⟩) := by
  unfold Lens.get
  exact List.foldlM_cons

/-- Reading through a lens finds the end of its way. -/
theorem get_eq_some_iff {selectors : List Selector} :
    Lens.get registry ⟨selectors⟩ value = some target ↔ ∃ way, registry.Leads selectors value way target := by
  induction selectors generalizing value with
  | nil =>
    constructor
    · intro found
      cases found
      exact ⟨[], .done⟩
    · rintro ⟨way, leads⟩
      cases leads
      rfl
  | cons selector rest ih =>
    rw [get_cons, Option.bind_eq_some_iff]
    constructor
    · rintro ⟨next, found, later⟩
      obtain ⟨first, goes⟩ := read_eq_some_iff.1 found
      obtain ⟨others, leads⟩ := ih.1 later
      exact ⟨first ++ others, .step goes leads⟩
    · rintro ⟨way, leads⟩
      cases leads with
      | step goes leads => exact ⟨_, read_eq_some_iff.2 ⟨_, goes⟩, ih.2 ⟨_, leads⟩⟩

theorem leads_append_iff {before after : List Selector} {way : List Nat} :
    registry.Leads (before ++ after) value way target ↔
      ∃ first others middle, registry.Leads before value first middle ∧
        registry.Leads after middle others target ∧ way = first ++ others := by
  induction before generalizing value way with
  | nil =>
    constructor
    · intro leads
      exact ⟨[], way, value, .done, leads, rfl⟩
    · rintro ⟨first, others, middle, here, leads, rfl⟩
      cases here
      exact leads
  | cons selector rest ih =>
    constructor
    · intro whole
      cases whole with
      | step goes leads =>
        obtain ⟨first, others, middle, here, there, rfl⟩ := ih.1 leads
        exact ⟨_, others, middle, .step goes here, there, (List.append_assoc ..).symm⟩
    · rintro ⟨_, others, middle, here, there, rfl⟩
      cases here with
      | step goes leads =>
        rw [List.append_assoc]
        exact .step goes (ih.2 ⟨_, _, _, leads, there, rfl⟩)

end Registry

def Selector.positions (registry : Registry) (value : Value) : Selector → List Nat
  | .position index => [index.toNat]
  | .field name => (registry.fieldIndex? value.atomId name).toList
  | .guard _ => []

namespace Registry

variable {registry : Registry} {selector : Selector} {value next : Value}

/-- The positions of the fields that some steps read on their way through a value, if they lead anywhere. -/
def way? (registry : Registry) : List Selector → Value → Option (List Nat)
  | [], _ => some []
  | selector :: rest, value => do
    let next ← selector.read registry value
    let others ← registry.way? rest next
    return selector.positions registry value ++ others

theorem goes_iff {way : List Nat} : registry.Goes selector value way next ↔
    selector.read registry value = some next ∧ way = selector.positions registry value := by
  have along {first : List Nat} (goes : registry.Goes selector value first next) :
      first = selector.positions registry value := by
    cases goes with
    | guard _ => rfl
    | @field _ head fields position _ points _ =>
      cases selector with
      | position index => exact congrArg (fun raw => [raw]) points.symm
      | field name =>
        have found : registry.fieldIndex? head.atom name = some position := points
        change _ = (registry.fieldIndex? head.atom name).toList
        rw [found, Option.toList_some]
      | guard _ => cases points
  constructor
  · intro goes
    exact ⟨read_eq_some_iff.2 ⟨way, goes⟩, along goes⟩
  · rintro ⟨reads, rfl⟩
    obtain ⟨first, goes⟩ := read_eq_some_iff.1 reads
    exact along goes ▸ goes

theorem way?_eq_some_iff {selectors : List Selector} {way : List Nat} :
    registry.way? selectors value = some way ↔ ∃ target, registry.Leads selectors value way target := by
  induction selectors generalizing value way with
  | nil =>
    constructor
    · intro found
      cases found
      exact ⟨value, .done⟩
    · rintro ⟨_, leads⟩
      cases leads
      rfl
  | cons selector rest ih =>
    constructor
    · intro found
      obtain ⟨next, reads, later⟩ := Option.bind_eq_some_iff.1 found
      obtain ⟨others, along, same⟩ := Option.bind_eq_some_iff.1 later
      cases same
      obtain ⟨target, leads⟩ := ih.1 along
      exact ⟨target, .step (goes_iff.2 ⟨reads, rfl⟩) leads⟩
    · rintro ⟨target, leads⟩
      cases leads with
      | step goes leads =>
        obtain ⟨reads, rfl⟩ := goes_iff.1 goes
        have along := ih.2 ⟨target, leads⟩
        exact Option.bind_eq_some_iff.2 ⟨_, reads, Option.bind_eq_some_iff.2 ⟨_, along, rfl⟩⟩

end Registry

end AtomResolution
