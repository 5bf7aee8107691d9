import AtomResolution.Proofs.Lens.Way

/-!
Finding the positions for a strict update. As long as a field is still to be read, the search goes the way
of the reader and fails where the reader finds nothing; the last field and the guards after it come with the
checks, each of which is described here by what it asks for.
-/

namespace AtomResolution

/-- A value has the tags of all guards among some steps. -/
def Registry.Passes (registry : Registry) (value : Value) (selectors : List Selector) : Prop :=
  ∀ tag, .guard tag ∈ selectors → registry.tagOf value = tag

namespace Lens

/-- What a search for positions says where it should succeed if `allowed` holds and the replacement has the
`declared` type: that it should and does, that only the type is wrong, or that it should not. -/
inductive Verdict (lens : Lens) (registry : Registry) (new : Value) (allowed : Prop)
    (declared : FieldSpec → Prop) : Except LensError (List Nat) → Prop
  | located {positions : List Nat} (allows : allowed)
      (fits : ∀ spec, declared spec → registry.isSubtype new.typeTag spec.type = true) :
      Verdict lens registry new allowed declared (.ok positions)
  | unfit {spec : FieldSpec} (allows : allowed) (asked : declared spec)
      (differs : registry.isSubtype new.typeTag spec.type = false) :
      Verdict lens registry new allowed declared (.error (.fieldTypeMismatch spec.name spec.type new.typeTag))
  | refused {found : Name} {reason : MismatchReason} (refuses : ¬ allowed) :
      Verdict lens registry new allowed declared (.error (.variantMismatch lens found reason))

variable {lens : Lens} {registry : Registry} {value new owner current : Value} {previous : Option Selector}
  {selector last : Selector} {before after rest tail : List Selector} {way : List Nat} {head : Instance}
  {fields : List Value} {position : Nat}

theorem passes_nil : registry.Passes value [] := fun _ impossible => nomatch impossible

theorem passes_guard_cons {tag : Name} :
    registry.Passes value (.guard tag :: rest) ↔ registry.tagOf value = tag ∧ registry.Passes value rest := by
  constructor
  · intro passes
    exact ⟨passes tag List.mem_cons_self, fun other inside => passes other (List.mem_cons_of_mem _ inside)⟩
  · rintro ⟨shows, passes⟩ other inside
    cases inside with
    | head => exact shows
    | tail _ among => exact passes other among

theorem passes_field_cons (isField : selector.isField = true) :
    registry.Passes value (selector :: rest) ↔ registry.Passes value rest := by
  constructor
  · intro passes other inside
    exact passes other (List.mem_cons_of_mem _ inside)
  · intro passes other inside
    cases inside with
    | head => cases isField
    | tail _ among => exact passes other among

theorem get_guards_iff (guards : ∀ selector ∈ after, selector.isField = false) :
    (∃ target, Lens.get registry ⟨after⟩ value = some target) ↔ registry.Passes value after := by
  induction after with
  | nil => exact ⟨fun _ => passes_nil, fun _ => ⟨value, rfl⟩⟩
  | cons selector rest ih =>
    obtain ⟨isGuard, others⟩ := List.forall_mem_cons.1 guards
    cases selector with
    | position _ => cases isGuard
    | field _ => cases isGuard
    | guard tag =>
      rw [Registry.get_cons, passes_guard_cons, ← ih others]
      by_cases shows : registry.tagOf value = tag
      · have here : Selector.read registry value (.guard tag) = some value := if_pos shows
        rw [here, and_iff_right shows, Option.bind_some]
      · have stuck : Selector.read registry value (.guard tag) = none := if_neg shows
        rw [stuck]
        exact ⟨fun ⟨_, impossible⟩ => (by cases impossible), fun both => absurd both.1 shows⟩

theorem checkGuards_cases (lens : Lens) (registry : Registry) (value : Value) (reason : MismatchReason)
    (selectors : List Selector) :
    registry.Passes value selectors ∧ lens.checkGuards registry value reason selectors = .ok () ∨
    ¬ registry.Passes value selectors ∧
      lens.checkGuards registry value reason selectors = .error (lens.mismatch registry value reason) := by
  induction selectors with
  | nil => exact .inl ⟨passes_nil, rfl⟩
  | cons selector rest ih =>
    cases selector with
    | position _ =>
      rw [passes_field_cons rfl]
      exact ih
    | field _ =>
      rw [passes_field_cons rfl]
      exact ih
    | guard tag =>
      rw [passes_guard_cons, checkGuards]
      by_cases shows : registry.tagOf value = tag
      · rw [if_pos shows, and_iff_right shows]
        exact ih
      · rw [if_neg shows]
        exact .inr ⟨fun both => shows both.1, rfl⟩

theorem checkGuards_eq_ok_iff {reason : MismatchReason} {selectors : List Selector} :
    lens.checkGuards registry value reason selectors = .ok () ↔ registry.Passes value selectors := by
  rcases lens.checkGuards_cases registry value reason selectors with ⟨passes, checked⟩ | ⟨fails, failed⟩
  · exact iff_of_true checked passes
  · rw [failed]
    exact iff_of_false (fun impossible => nomatch impossible) fails

theorem checkClosed_cases (lens : Lens) (registry : Registry) (head : Instance) (fields : List Value)
    (previous : Option Selector) :
    (registry.familyArity head.atom ≤ 1 ∨ previous = some (.guard head.tag)) ∧
      lens.checkClosed registry head fields previous = .ok () ∨
    ¬ (registry.familyArity head.atom ≤ 1 ∨ previous = some (.guard head.tag)) ∧
      ∃ found reason,
        lens.checkClosed registry head fields previous = .error (.variantMismatch lens found reason) := by
  unfold checkClosed
  by_cases isOpen : 1 < registry.familyArity head.atom ∧ previous ≠ some (.guard head.tag)
  · refine .inr ⟨fun closed => ?_, _, _, if_pos isOpen⟩
    rcases closed with only | pinned
    · omega
    · exact isOpen.2 pinned
  · refine .inl ⟨?_, if_neg isOpen⟩
    rcases Nat.lt_or_ge 1 (registry.familyArity head.atom) with several | only
    · exact .inr (Decidable.byContradiction fun unpinned => isOpen ⟨several, unpinned⟩)
    · exact .inl only

theorem checkFieldType_cases (registry : Registry) (atom : AtomId) (position : Nat) (new : Value) :
    (∀ spec, (registry.shape? atom).bind (·[position]?) = some spec →
        registry.isSubtype new.typeTag spec.type = true) ∧
      checkFieldType registry atom position new = .ok () ∨
    ∃ spec, (registry.shape? atom).bind (·[position]?) = some spec ∧
      registry.isSubtype new.typeTag spec.type = false ∧
      checkFieldType registry atom position new =
        .error (.fieldTypeMismatch spec.name spec.type new.typeTag) := by
  unfold checkFieldType
  cases (registry.shape? atom).bind (·[position]?) with
  | none => exact .inl ⟨fun spec impossible => (by cases impossible), rfl⟩
  | some spec =>
    dsimp only
    cases fits : registry.isSubtype new.typeTag spec.type with
    | true =>
      refine .inl ⟨fun other same => ?_, rfl⟩
      cases same
      exact fits
    | false => exact .inr ⟨spec, rfl, fits, rfl⟩

theorem Verdict.map {allowed : Prop} {declared : FieldSpec → Prop} {result : Except LensError (List Nat)}
    (verdict : lens.Verdict registry new allowed declared result) (change : List Nat → List Nat) :
    lens.Verdict registry new allowed declared (result.map change) := by
  cases verdict with
  | located allows fits => exact .located allows fits
  | unfit allows asked differs => exact .unfit allows asked differs
  | refused refuses => exact .refused refuses

theorem Verdict.congr {allowed other : Prop} {declared otherDeclared : FieldSpec → Prop}
    {result : Except LensError (List Nat)} (verdict : lens.Verdict registry new allowed declared result)
    (sameAllowed : other ↔ allowed) (sameDeclared : ∀ spec, otherDeclared spec ↔ declared spec) :
    lens.Verdict registry new other otherDeclared result := by
  cases verdict with
  | located allows fits =>
    exact .located (sameAllowed.2 allows) fun spec asked => fits spec ((sameDeclared spec).1 asked)
  | unfit allows asked differs => exact .unfit (sameAllowed.2 allows) ((sameDeclared _).2 asked) differs
  | refused refuses => exact .refused fun allows => refuses (sameAllowed.1 allows)

theorem locate_guards (lens : Lens) (registry : Registry) (value new : Value) (previous : Option Selector)
    (guards : ∀ selector ∈ after, selector.isField = false) :
    lens.Verdict registry new (registry.Passes value after ∧ registry.Passes new after) (fun _ => False)
      (lens.locate registry new previous after value) := by
  induction after generalizing previous with
  | nil => exact .located ⟨passes_nil, passes_nil⟩ fun _ undeclared => undeclared.elim
  | cons selector rest ih =>
    obtain ⟨isGuard, others⟩ := List.forall_mem_cons.1 guards
    cases selector with
    | position _ => cases isGuard
    | field _ => cases isGuard
    | guard tag =>
      rw [locate]
      by_cases shows : registry.tagOf value = tag
      · rw [if_pos shows]
        cases rest with
        | nil =>
          have passes : registry.Passes value [.guard tag] := passes_guard_cons.2 ⟨shows, passes_nil⟩
          rcases lens.checkGuards_cases registry new .replacementFailsGuard [.guard tag] with
            ⟨newPasses, checked⟩ | ⟨fails, failed⟩
          · rw [List.isEmpty_nil, if_pos rfl, checked]
            exact .located ⟨passes, newPasses⟩ fun _ undeclared => undeclared.elim
          · rw [List.isEmpty_nil, if_pos rfl, failed]
            exact .refused fun both => fails both.2
        | cons second later =>
          refine (ih (some (.guard tag)) others).congr ?_ fun _ => Iff.rfl
          rw [passes_guard_cons, and_iff_right shows, passes_guard_cons]
          refine and_congr_right fun passes => and_iff_right_of_imp fun newPasses => ?_
          cases second with
          | position _ => cases others _ List.mem_cons_self
          | field _ => cases others _ List.mem_cons_self
          | guard next =>
            rw [← shows, passes next List.mem_cons_self]
            exact newPasses next List.mem_cons_self
      · rw [if_neg shows]
        exact .refused fun both => shows (both.1 tag List.mem_cons_self)

theorem locate_atom (isField : selector.isField = true) :
    lens.locate registry new previous (selector :: rest) (.atom head fields) =
      match selector.position? registry head fields with
      | none => .error (lens.mismatch registry (.atom head fields) .fieldMissing)
      | some position =>
        match fields[position]? with
        | none => .error (lens.mismatch registry (.atom head fields) .fieldMissing)
        | some current =>
          if rest.any Selector.isField then do
            let positions ← lens.locate registry new (some selector) rest current
            return position :: positions
          else do
            lens.checkClosed registry head fields previous
            lens.checkGuards registry current .guardFails rest
            lens.checkGuards registry new .replacementFailsGuard rest
            checkFieldType registry head.atom position new
            return [position] := by
  cases selector with
  | position _ => rfl
  | field _ => rfl
  | guard _ => cases isField

theorem position?_of_points (points : registry.PointsTo head.atom selector position)
    (holds : fields[position]? = some current) : selector.position? registry head fields = some position :=
  Registry.position?_eq_some_iff.2 ⟨points, (List.getElem?_eq_some_iff.1 holds).1⟩

/-- The search at the last field: its instance has to be closed, and the value that stands in it and the
replacement must pass the guards after it, before the declared type is looked at. -/
theorem locate_last (lens : Lens) (new : Value) (previous : Option Selector)
    (points : registry.PointsTo head.atom last position) (holds : fields[position]? = some current)
    (guards : ∀ selector ∈ after, selector.isField = false) :
    lens.Verdict registry new
      (registry.Passes current after ∧ registry.Passes new after ∧
        (registry.familyArity head.atom ≤ 1 ∨ previous = some (.guard head.tag)))
      (fun spec => (registry.shape? head.atom).bind (·[position]?) = some spec)
      (lens.locate registry new previous (last :: after) (.atom head fields)) := by
  have noField : after.any Selector.isField = false :=
    List.any_eq_false.2 fun selector inside isField => by
      rw [guards selector inside] at isField
      cases isField
  rw [locate_atom points.isField, position?_of_points points holds]
  dsimp only
  rw [holds, noField]
  dsimp only
  rw [if_neg Bool.false_ne_true]
  rcases lens.checkClosed_cases registry head fields previous with ⟨closed, checked⟩ | ⟨isOpen, _, _, failed⟩
  · rw [checked]
    rcases lens.checkGuards_cases registry current .guardFails after with ⟨passes, guarded⟩ | ⟨fails, failed⟩
    · rw [guarded]
      rcases lens.checkGuards_cases registry new .replacementFailsGuard after with
        ⟨newPasses, newGuarded⟩ | ⟨newFails, failed⟩
      · rw [newGuarded]
        rcases checkFieldType_cases registry head.atom position new with
          ⟨fits, typed⟩ | ⟨spec, declared, differs, failed⟩
        · rw [typed]
          exact .located ⟨passes, newPasses, closed⟩ fits
        · rw [failed]
          exact .unfit ⟨passes, newPasses, closed⟩ declared differs
      · rw [failed]
        exact .refused fun all => newFails all.2.1
    · rw [failed]
      exact .refused fun all => fails all.1
  · rw [failed]
    exact .refused fun all => isOpen all.2.2

theorem locate_goes (goes : registry.Goes selector value way owner) (later : rest.any Selector.isField = true) :
    lens.locate registry new previous (selector :: rest) value =
      (lens.locate registry new (some selector) rest owner).map (way ++ ·) := by
  cases goes with
  | @guard tag _ shows =>
    have nonempty : rest.isEmpty = false := by
      cases rest with
      | nil => cases later
      | cons _ _ => rfl
    rw [locate, if_pos shows, nonempty]
    cases lens.locate registry new (some (.guard tag)) rest value <;> rfl
  | field points holds =>
    rw [locate_atom points.isField, position?_of_points points holds]
    dsimp only
    rw [holds]
    dsimp only
    rw [if_pos later]
    cases lens.locate registry new (some selector) rest owner <;> rfl

theorem locate_stuck (lens : Lens) (new : Value) (previous : Option Selector) (rest : List Selector)
    (stuck : selector.read registry value = none) :
    ∃ found reason, lens.locate registry new previous (selector :: rest) value =
      .error (.variantMismatch lens found reason) := by
  have nowhere (way : List Nat) (next : Value) : ¬ registry.Goes selector value way next := fun goes => by
    have reads := Registry.read_eq_some_iff.2 ⟨way, goes⟩
    rw [stuck] at reads
    cases reads
  cases isField : selector.isField with
  | false =>
    cases selector with
    | position _ => cases isField
    | field _ => cases isField
    | guard tag =>
      rw [locate, if_neg fun shows => nowhere _ _ (.guard shows)]
      exact ⟨_, _, rfl⟩
  | true =>
    cases value with
    | atom head fields =>
      rw [locate_atom isField]
      cases found : selector.position? registry head fields with
      | none => exact ⟨_, _, rfl⟩
      | some position =>
        dsimp only
        cases holds : fields[position]? with
        | none => exact ⟨_, _, rfl⟩
        | some current => exact absurd (.field (Registry.position?_eq_some_iff.1 found).1 holds) (nowhere _ _)
    | _ =>
      cases selector with
      | position _ => exact ⟨_, _, rfl⟩
      | field _ => exact ⟨_, _, rfl⟩
      | guard _ => cases isField

/-- The search goes the way of the reader as long as a field is still to be read later. -/
theorem locate_append (leads : registry.Leads before value way owner)
    (later : tail.any Selector.isField = true) :
    lens.locate registry new previous (before ++ tail) value =
      (lens.locate registry new (before.getLast?.or previous) tail owner).map (way ++ ·) := by
  induction leads generalizing previous with
  | done =>
    rw [List.getLast?_nil, Option.none_or, List.nil_append]
    cases lens.locate registry new previous tail _ <;> rfl
  | @step selector rest value next target first others goes leads ih =>
    have stillLater : (rest ++ tail).any Selector.isField = true := by
      rw [List.any_append, later, Bool.or_true]
    have lastStep : (selector :: rest).getLast?.or previous = rest.getLast?.or (some selector) := by
      rw [List.getLast?_cons]
      cases rest.getLast? <;> rfl
    rw [List.cons_append, locate_goes goes stillLater, ih, lastStep]
    cases lens.locate registry new (rest.getLast?.or (some selector)) tail target with
    | error error => rfl
    | ok positions => exact congrArg Except.ok (List.append_assoc first others positions).symm

theorem locate_append_stuck (stuck : Lens.get registry ⟨before⟩ value = none)
    (later : tail.any Selector.isField = true) :
    ∃ found reason, lens.locate registry new previous (before ++ tail) value =
      .error (.variantMismatch lens found reason) := by
  induction before generalizing value previous with
  | nil => cases stuck
  | cons selector rest ih =>
    cases reads : selector.read registry value with
    | none => exact lens.locate_stuck new previous _ reads
    | some next =>
      rw [Registry.get_cons, reads] at stuck
      obtain ⟨way, goes⟩ := Registry.read_eq_some_iff.1 reads
      have stillLater : (rest ++ tail).any Selector.isField = true := by
        rw [List.any_append, later, Bool.or_true]
      obtain ⟨found, reason, failed⟩ := ih stuck
      rw [List.cons_append, locate_goes goes stillLater, failed]
      exact ⟨found, reason, rfl⟩

end Lens

end AtomResolution
