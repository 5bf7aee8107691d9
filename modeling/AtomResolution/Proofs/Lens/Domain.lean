import AtomResolution.Builder.Freeze
import AtomResolution.Proofs.Lens.Locate

/-!
Where a strict update succeeds, and which error it ends with where it does not. What decides is the last
step that reads a field: the instance it reads from, whether a guard right before it says which variant that
is, the guards after it, and the type declared for the field.
-/

namespace AtomResolution

namespace Lens

/-- The last step of a lens that reads a field, with the steps before it and the guards after it. -/
structure EndsAt (lens : Lens) (before : List Selector) (last : Selector) (after : List Selector) : Prop where
  selectors : lens.selectors = before ++ last :: after
  isField : last.isField = true
  guards : ∀ selector ∈ after, selector.isField = false

/-- A replacement has the tags of all guards that no field is read after. -/
def Admits (lens : Lens) (registry : Registry) (new : Value) : Prop :=
  ∀ before tag after, lens.selectors = before ++ .guard tag :: after →
    (∀ selector ∈ after, selector.isField = false) → registry.tagOf new = tag

/-- The last field is one of an only variant, or of one that the step right before says. -/
def Closed (lens : Lens) (registry : Registry) (value : Value) : Prop :=
  ∀ before last after owner, lens.EndsAt before last after → Lens.get registry ⟨before⟩ value = some owner →
    registry.familyArity owner.atomId ≤ 1 ∨ ∃ earlier tag, before = earlier ++ [.guard tag]

def Declares (lens : Lens) (registry : Registry) (value : Value) (spec : FieldSpec) : Prop :=
  ∃ before last after owner position specs, lens.EndsAt before last after ∧
    Lens.get registry ⟨before⟩ value = some owner ∧ registry.PointsTo owner.atomId last position ∧
    registry.shape? owner.atomId = some specs ∧ specs[position]? = some spec

/-- A replacement has the declared type of the last field, if there is one. -/
def Fits (lens : Lens) (registry : Registry) (value new : Value) : Prop :=
  ∀ spec, lens.Declares registry value spec → registry.isSubtype new.typeTag spec.type = true

/-- What a strict update asks for beside the type of the replacement. -/
structure Allows (lens : Lens) (registry : Registry) (value new : Value) : Prop where
  reads : ∃ target, lens.get registry value = some target
  admits : lens.Admits registry new
  closed : lens.Closed registry value

variable {lens : Lens} {registry : Registry} {value new : Value} {last : Selector} {before after : List Selector}

theorem allows_iff : lens.Allows registry value new ↔
    (∃ target, lens.get registry value = some target) ∧ lens.Admits registry new ∧ lens.Closed registry value :=
  ⟨fun allows => ⟨allows.reads, allows.admits, allows.closed⟩, fun ⟨reads, admits, closed⟩ =>
    ⟨reads, admits, closed⟩⟩

theorem EndsAt.between_eq_nil {between otherAfter : List Selector} {otherLast : Selector}
    (ends : lens.EndsAt before last after) (other : lens.EndsAt (before ++ between) otherLast otherAfter) :
    between = [] := by
  have same := ends.selectors.symm.trans other.selectors
  rw [List.append_assoc, List.append_right_inj] at same
  cases between with
  | nil => rfl
  | cons first others =>
    cases same
    have isGuard := ends.guards otherLast (List.mem_append_right others List.mem_cons_self)
    rw [other.isField] at isGuard
    cases isGuard

theorem EndsAt.unique {otherBefore otherAfter : List Selector} {otherLast : Selector}
    (ends : lens.EndsAt before last after) (other : lens.EndsAt otherBefore otherLast otherAfter) :
    before = otherBefore ∧ last = otherLast ∧ after = otherAfter := by
  have sameBefore : before = otherBefore := by
    rcases List.append_eq_append_iff.1 (ends.selectors.symm.trans other.selectors) with
      ⟨between, rfl, _⟩ | ⟨between, rfl, _⟩
    · rw [ends.between_eq_nil other, List.append_nil]
    · rw [other.between_eq_nil ends, List.append_nil]
  subst sameBefore
  have same := ends.selectors.symm.trans other.selectors
  rw [List.append_right_inj] at same
  cases same
  exact ⟨rfl, rfl, rfl⟩

theorem exists_endsAt (selectors : List Selector) :
    (∃ before last after, EndsAt ⟨selectors⟩ before last after) ∨
      ∀ selector ∈ selectors, selector.isField = false := by
  induction selectors with
  | nil =>
    refine .inr fun selector impossible => ?_
    cases impossible
  | cons selector rest ih =>
    rcases ih with ⟨before, last, after, ends⟩ | guards
    · have whole := congrArg (selector :: ·) ends.selectors
      exact .inl ⟨selector :: before, last, after, whole, ends.isField, ends.guards⟩
    · cases isField : selector.isField with
      | true => exact .inl ⟨[], selector, rest, rfl, isField, guards⟩
      | false => exact .inr (List.forall_mem_cons.2 ⟨isField, guards⟩)

theorem EndsAt.admits_iff (ends : lens.EndsAt before last after) :
    lens.Admits registry new ↔ registry.Passes new after := by
  constructor
  · intro admits tag inside
    obtain ⟨earlier, later, rfl⟩ := List.append_of_mem inside
    refine admits (before ++ last :: earlier) tag later ?_ fun selector among =>
      ends.guards selector (List.mem_append_right earlier (List.mem_cons_of_mem _ among))
    rw [ends.selectors, List.append_assoc, List.cons_append]
  · intro same earlier tag later whole guards
    have whole := ends.selectors.symm.trans whole
    rcases List.append_eq_append_iff.1 whole with ⟨between, _, rest⟩ | ⟨between, _, rest⟩
    · cases between with
      | nil =>
        have isGuard := ends.isField
        cases rest
        cases isGuard
      | cons first others =>
        cases rest
        exact same tag (List.mem_append_right others List.mem_cons_self)
    · have isLater : last ∈ Selector.guard tag :: later :=
        rest ▸ List.mem_append_right between List.mem_cons_self
      rcases List.mem_cons.1 isLater with isGuard | among
      · have isField := ends.isField
        rw [isGuard] at isField
        cases isField
      · have notField := guards last among
        rw [ends.isField] at notField
        cases notField

theorem admits_iff_of_guards (guards : ∀ selector ∈ lens.selectors, selector.isField = false) :
    lens.Admits registry new ↔ registry.Passes new lens.selectors := by
  constructor
  · intro admits tag inside
    obtain ⟨earlier, later, whole⟩ := List.append_of_mem inside
    refine admits earlier tag later whole fun selector among => guards selector ?_
    rw [whole]
    exact List.mem_append_right earlier (List.mem_cons_of_mem _ among)
  · intro same earlier tag later whole _
    refine same tag ?_
    rw [whole]
    exact List.mem_append_right earlier List.mem_cons_self

theorem pointsTo_unique {atom : AtomId} {position other : Nat} (points : registry.PointsTo atom last position)
    (otherPoints : registry.PointsTo atom last other) : position = other := by
  cases last with
  | position _ => exact points.symm.trans otherPoints
  | field _ =>
    cases points.symm.trans otherPoints
    rfl
  | guard _ => cases points

theorem EndsAt.get_eq (ends : lens.EndsAt before last after) (registry : Registry) (value : Value) :
    lens.get registry value =
      ((Lens.get registry ⟨before⟩ value).bind fun owner => last.read registry owner).bind
        (Lens.get registry ⟨after⟩) := by
  have lastStep : Lens.get registry ⟨last :: after⟩ =
      fun owner => (last.read registry owner).bind (Lens.get registry ⟨after⟩) := by
    funext owner
    exact Registry.get_cons registry last after owner
  calc
    lens.get registry value = Lens.get registry ⟨before ++ last :: after⟩ value := by
      rw [← ends.selectors]
    _ = (Lens.get registry ⟨before⟩ value).bind (Lens.get registry ⟨last :: after⟩) := List.foldlM_append
    _ = _ := by rw [lastStep, Option.bind_assoc]

section LastField

variable {way : List Nat} {head : Instance} {fields : List Value} {position : Nat} {current : Value}

theorem getLast?_eq_guard_iff (leads : registry.Leads before value way (.atom head fields)) :
    before.getLast? = some (.guard head.tag) ↔ ∃ earlier tag, before = earlier ++ [.guard tag] := by
  constructor
  · intro pinned
    obtain ⟨earlier, rfl⟩ := List.getLast?_eq_some_iff.1 pinned
    exact ⟨earlier, head.tag, rfl⟩
  · rintro ⟨earlier, tag, rfl⟩
    obtain ⟨_, _, middle, _, last, _⟩ := Registry.leads_append_iff.1 leads
    cases last with
    | step goes done =>
      cases done
      cases goes with
      | guard shows =>
        rw [List.getLast?_concat, ← shows]
        rfl
      | field points _ => cases points

theorem EndsAt.closed_iff (ends : lens.EndsAt before last after)
    (leads : registry.Leads before value way (.atom head fields)) :
    lens.Closed registry value ↔
      registry.familyArity head.atom ≤ 1 ∨ before.getLast? = some (.guard head.tag) := by
  have owned := Registry.get_eq_some_iff.2 ⟨way, leads⟩
  rw [getLast?_eq_guard_iff leads]
  constructor
  · intro closed
    exact closed before last after _ ends owned
  · intro closed otherBefore otherLast otherAfter owner other otherOwned
    obtain ⟨rfl, -, -⟩ := ends.unique other
    cases owned.symm.trans otherOwned
    exact closed

theorem EndsAt.declares_iff (ends : lens.EndsAt before last after)
    (leads : registry.Leads before value way (.atom head fields))
    (points : registry.PointsTo head.atom last position) {spec : FieldSpec} :
    lens.Declares registry value spec ↔ (registry.shape? head.atom).bind (·[position]?) = some spec := by
  have owned := Registry.get_eq_some_iff.2 ⟨way, leads⟩
  rw [Option.bind_eq_some_iff]
  constructor
  · rintro ⟨_, _, _, owner, otherPosition, specs, other, otherOwned, otherPoints, shaped, here⟩
    obtain ⟨rfl, rfl, -⟩ := ends.unique other
    cases owned.symm.trans otherOwned
    cases pointsTo_unique points otherPoints
    exact ⟨specs, shaped, here⟩
  · rintro ⟨specs, shaped, here⟩
    exact ⟨before, last, after, _, position, specs, ends, owned, points, shaped, here⟩

theorem EndsAt.locate_field (ends : lens.EndsAt before last after) (new : Value)
    (leads : registry.Leads before value way (.atom head fields))
    (points : registry.PointsTo head.atom last position) (holds : fields[position]? = some current) :
    lens.Verdict registry new (lens.Allows registry value new) (lens.Declares registry value)
      (lens.locate registry new none lens.selectors value) := by
  have hasField : (last :: after).any Selector.isField = true := by
    rw [List.any_cons, ends.isField, Bool.true_or]
  have owned := Registry.get_eq_some_iff.2 ⟨way, leads⟩
  have next := Registry.read_eq_some_iff.2 ⟨_, Registry.Goes.field points holds⟩
  have reads : (∃ target, lens.get registry value = some target) ↔ registry.Passes current after := by
    rw [ends.get_eq, owned, Option.bind_some, next, Option.bind_some]
    exact get_guards_iff ends.guards
  rw [ends.selectors, locate_append leads hasField, Option.or_none]
  refine ((lens.locate_last new before.getLast? points holds ends.guards).map _).congr ?_ fun _ =>
    ends.declares_iff leads points
  rw [allows_iff, reads, ends.admits_iff, ends.closed_iff leads]

theorem EndsAt.locate_stuck (ends : lens.EndsAt before last after) (new : Value)
    (stuck : ((Lens.get registry ⟨before⟩ value).bind fun owner => last.read registry owner) = none) :
    lens.Verdict registry new (lens.Allows registry value new) (lens.Declares registry value)
      (lens.locate registry new none lens.selectors value) := by
  have hasField : (last :: after).any Selector.isField = true := by
    rw [List.any_cons, ends.isField, Bool.true_or]
  have refuses : ¬ lens.Allows registry value new := fun allows => by
    obtain ⟨target, reads⟩ := allows.reads
    rw [ends.get_eq, stuck] at reads
    cases reads
  rw [ends.selectors]
  cases owned : Lens.get registry ⟨before⟩ value with
  | none =>
    obtain ⟨_, _, failed⟩ := locate_append_stuck owned hasField
    rw [failed]
    exact .refused refuses
  | some owner =>
    obtain ⟨way, leads⟩ := Registry.get_eq_some_iff.1 owned
    rw [owned, Option.bind_some] at stuck
    obtain ⟨_, _, failed⟩ := lens.locate_stuck new before.getLast? after stuck
    rw [locate_append leads hasField, Option.or_none, failed]
    exact .refused refuses

end LastField

theorem locate_noField (guards : ∀ selector ∈ lens.selectors, selector.isField = false) (registry : Registry)
    (value new : Value) :
    lens.Verdict registry new (lens.Allows registry value new) (lens.Declares registry value)
      (lens.locate registry new none lens.selectors value) := by
  have noField (before : List Selector) (last : Selector) (after : List Selector) :
      ¬ lens.EndsAt before last after := fun ends => by
    have isGuard := guards last (ends.selectors ▸ List.mem_append_right before List.mem_cons_self)
    rw [ends.isField] at isGuard
    cases isGuard
  have closed : lens.Closed registry value := fun before last after _ ends =>
    absurd ends (noField before last after)
  refine (lens.locate_guards registry value new none guards).congr ?_ fun spec => iff_of_false ?_ not_false
  · rw [allows_iff, ← get_guards_iff guards, ← admits_iff_of_guards guards, and_iff_left closed]
  · rintro ⟨before, last, after, _, _, _, ends, _⟩
    exact noField before last after ends

/-- A strict update finds its positions exactly if all conditions hold; of its errors, the type of the
replacement is the last one to be found. -/
theorem locate_verdict (lens : Lens) (registry : Registry) (value new : Value) :
    lens.Verdict registry new (lens.Allows registry value new) (lens.Declares registry value)
      (lens.locate registry new none lens.selectors value) := by
  rcases exists_endsAt lens.selectors with ⟨before, last, after, ends⟩ | guards
  · have ends : lens.EndsAt before last after := ends
    cases next : (Lens.get registry ⟨before⟩ value).bind fun owner => last.read registry owner with
    | none => exact ends.locate_stuck new next
    | some current =>
      obtain ⟨owner, owned, reads⟩ := Option.bind_eq_some_iff.1 next
      obtain ⟨way, leads⟩ := Registry.get_eq_some_iff.1 owned
      obtain ⟨position, goes⟩ := Registry.read_eq_some_iff.1 reads
      cases goes with
      | guard _ => cases ends.isField
      | field points holds => exact ends.locate_field new leads points holds
  · exact locate_noField guards registry value new

/-- A strict update succeeds exactly if the lens leads somewhere, the replacement has the tags of the guards
that end the lens, the last field is closed and the replacement has the type declared for it. If only that
last condition fails, the error is one of types, and otherwise it is a mismatch at some value. -/
theorem setStrict_domain (registry : Registry) (lens : Lens) (value new : Value) (supply : Supply) :
    ((∃ updated, lens.setStrict registry value new supply = .ok updated) ↔
      lens.Allows registry value new ∧ lens.Fits registry value new) ∧
    ∀ error, lens.setStrict registry value new supply = .error error →
      ((∃ field expected found, error = .fieldTypeMismatch field expected found) ↔
        lens.Allows registry value new ∧ ¬ lens.Fits registry value new) ∧
      ((∃ found reason, error = .variantMismatch lens found reason) ↔ ¬ lens.Allows registry value new) := by
  have verdict := lens.locate_verdict registry value new
  unfold setStrict
  generalize lens.locate registry new none lens.selectors value = result at verdict
  cases verdict with
  | located allows fits =>
    refine ⟨⟨fun _ => ⟨allows, fits⟩, fun _ => ⟨_, rfl⟩⟩, fun error impossible => ?_⟩
    cases impossible
  | unfit allows asked differs =>
    have notFits : ¬ lens.Fits registry value new := fun fits => by
      have fit := fits _ asked
      rw [differs] at fit
      cases fit
    refine ⟨⟨fun ⟨_, impossible⟩ => ?_, fun both => absurd both.2 notFits⟩, fun error same => ?_⟩
    · cases impossible
    cases same
    refine ⟨⟨fun _ => ⟨allows, notFits⟩, fun _ => ⟨_, _, _, rfl⟩⟩, ?_, fun refuses => absurd allows refuses⟩
    rintro ⟨_, _, impossible⟩
    cases impossible
  | refused refuses =>
    refine ⟨⟨fun ⟨_, impossible⟩ => ?_, fun both => absurd both.1 refuses⟩, fun error same => ?_⟩
    · cases impossible
    cases same
    refine ⟨⟨?_, fun both => absurd both.1 refuses⟩, fun _ => refuses, fun _ => ⟨_, _, rfl⟩⟩
    rintro ⟨_, _, _, impossible⟩
    cases impossible

def numberOrNone : List Operation :=
  [.declareFamily ⟨0⟩ ⟨11⟩ [⟨⟨12⟩, .named, [⟨⟨13⟩, .atom AtomId.int⟩]⟩, ⟨⟨14⟩, .named, []⟩]]

def numberOf : Lens := ⟨[.guard ⟨12⟩, .field ⟨13⟩]⟩

def numbered : Value := .atom ⟨⟨5⟩, ⟨12⟩, .named, 0, 0⟩ [.int 1]

theorem setStrict_domain_guarded :
    (Builder.new.run numberOrNone).freeze = .ok (.ofLoad numberOrNone) ∧
    numberOf.Allows (.ofLoad numberOrNone) numbered (.int 2) ∧
    numberOf.Fits (.ofLoad numberOrNone) numbered (.int 2) ∧
    numberOf.Allows (.ofLoad numberOrNone) numbered (.bool true) ∧
    ¬ numberOf.Fits (.ofLoad numberOrNone) numbered (.bool true) := by
  obtain ⟨allows, fits⟩ :=
    (setStrict_domain (.ofLoad numberOrNone) numberOf numbered (.int 2) ⟨1, 1⟩).1.1 ⟨_, rfl⟩
  obtain ⟨typed, _⟩ := (setStrict_domain (.ofLoad numberOrNone) numberOf numbered (.bool true) ⟨1, 1⟩).2 _ rfl
  exact ⟨rfl, allows, fits, typed.1 ⟨_, _, _, rfl⟩⟩

end Lens

end AtomResolution
