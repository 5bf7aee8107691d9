import AtomResolution.Proofs.Lens.Independence
import AtomResolution.Proofs.Pattern.Layout
import AtomResolution.Registry.Construct

/-!
Fields by name and by position. A name reads and writes the first field that has it, exactly as the position of that
field does. No declaration is asked for distinct names, so a field behind another one with its name is not to be had
by name.
-/

namespace AtomResolution

variable {registry : Registry} {atom : AtomId} {one other : Selector} {position : Nat} {value new : Value}

theorem Registry.PointsTo.read_eq (points : registry.PointsTo value.atomId one position) :
    one.read registry value = value.field? position := by
  cases one with
  | position index => exact congrArg value.field? points
  | field name =>
    rw [Registry.read_field]
    exact congrArg (·.bind value.field?) points
  | guard _ => cases points

theorem Lens.get_single (registry : Registry) (selector : Selector) (value : Value) :
    Lens.get registry ⟨[selector]⟩ value = selector.read registry value := by
  rw [Registry.get_cons]
  exact Option.bind_fun_some _

/-- Two updates come out alike: they write the same but for the tokens and cells of the instances on a way, or they
fail with the same kind of error. -/
inductive Lens.ComesOutAlike (way : List Nat) : Except LensError (Value × Supply) →
    Except LensError (Value × Supply) → Prop
  | written {updated again : Value} {later after : Supply} (alike : Value.AlikeAlong way updated again) :
      ComesOutAlike way (.ok (updated, later)) (.ok (again, after))
  | failed {error another : LensError} (same : error.code = another.code) :
      ComesOutAlike way (.error error) (.error another)

namespace Lens

theorem Verdict.agree {lens again : Lens} {allowed : Prop} {declared : FieldSpec → Prop}
    {result another : Except LensError (List Nat)} (verdict : lens.Verdict registry new allowed declared result)
    (second : again.Verdict registry new allowed declared another) :
    (∃ positions places, result = .ok positions ∧ another = .ok places) ∨
      ∃ failure other, result = .error failure ∧ another = .error other ∧ failure.code = other.code := by
  cases verdict with
  | located allows fits =>
    cases second with
    | located _ _ => exact .inl ⟨_, _, rfl, rfl⟩
    | unfit _ asked differs =>
      rw [fits _ asked] at differs
      cases differs
    | refused refuses => exact absurd allows refuses
  | unfit allows asked differs =>
    cases second with
    | located _ fits =>
      rw [fits _ asked] at differs
      cases differs
    | unfit _ _ _ => exact .inr ⟨_, _, rfl, rfl, rfl⟩
    | refused refuses => exact absurd allows refuses
  | refused refuses =>
    cases second with
    | located allows _ => exact absurd allows refuses
    | unfit allows _ _ => exact absurd allows refuses
    | refused _ => exact .inr ⟨_, _, rfl, rfl, rfl⟩

theorem setStrict_of_error {lens : Lens} {failure : LensError}
    (failed : lens.locate registry new none lens.selectors value = .error failure) (supply : Supply) :
    lens.setStrict registry value new supply = .error failure := by
  unfold setStrict
  rw [failed]

theorem comesOutAlike_of_points (points : registry.PointsTo value.atomId one position)
    (alsoPoints : registry.PointsTo value.atomId other position) (new : Value) (supply again : Supply) :
    ComesOutAlike [position] (Lens.setStrict registry ⟨[one]⟩ value new supply)
      (Lens.setStrict registry ⟨[other]⟩ value new again) := by
  cases holds : value.field? position with
  | none =>
    obtain ⟨_, _, failed⟩ := locate_stuck ⟨[one]⟩ new none [] (points.read_eq.trans holds)
    obtain ⟨_, _, alsoFailed⟩ := locate_stuck ⟨[other]⟩ new none [] (alsoPoints.read_eq.trans holds)
    rw [setStrict_of_error failed, setStrict_of_error alsoFailed]
    exact .failed rfl
  | some current =>
    obtain ⟨head, fields, rfl, held⟩ := Registry.field?_eq_some_iff.1 holds
    have noGuards : ∀ selector ∈ ([] : List Selector), selector.isField = false := List.forall_mem_nil _
    have verdict := locate_last ⟨[one]⟩ new none points held noGuards
    rcases verdict.agree (locate_last ⟨[other]⟩ new none alsoPoints held noGuards) with
      ⟨positions, places, located, alsoLocated⟩ | ⟨_, _, failed, alsoFailed, same⟩
    · obtain rfl := locate_of_last points held rfl located
      obtain rfl := locate_of_last alsoPoints held rfl alsoLocated
      rw [setStrict_of_locate located, setStrict_of_locate alsoLocated]
      have reaches : (Value.atom head fields).at? [position] = some current :=
        Value.at?_cons_eq_some_iff.2 ⟨head, fields, current, rfl, held, rfl⟩
      exact .written (Value.alikeAlong_supplies reaches new supply again)
    · rw [setStrict_of_error failed, setStrict_of_error alsoFailed]
      exact .failed same

end Lens

namespace Registry

variable {specs : List FieldSpec} {spec : FieldSpec} {index : UInt64}

theorem nodup_names_iff (declared : registry.shape? atom = some specs) :
    (specs.map FieldSpec.name).Nodup ↔ ∀ position spec, specs[position]? = some spec →
      registry.fieldIndex? atom spec.name = some position := by
  rw [← Catalog.fieldNames_of_shape? declared, registry.states_layout.nodup_iff]
  constructor
  · intro found position spec here
    exact found position spec.name ((Catalog.getElem?_fieldNames_iff declared).2 ⟨spec, here, rfl⟩)
  · intro found position name stands
    obtain ⟨spec, here, rfl⟩ := (Catalog.getElem?_fieldNames_iff declared).1 stands
    exact found position spec here

theorem exists_first_named (declared : registry.shape? atom = some specs) (here : specs[index.toNat]? = some spec) :
    ∃ first ≤ index, registry.fieldIndex? atom spec.name = some first.toNat ∧
      (first = index ↔
        ∀ earlier < index.toNat, ∀ before, specs[earlier]? = some before → before.name ≠ spec.name) := by
  have stands := (Catalog.getElem?_fieldNames_iff declared).2 ⟨spec, here, rfl⟩
  obtain ⟨place, bound, found, foremost⟩ := registry.states_layout.exists_first stands
  obtain ⟨first, rfl⟩ : ∃ first : UInt64, first.toNat = place :=
    ⟨.ofNat place, UInt64.toNat_ofNat_of_lt (Nat.lt_of_le_of_lt bound index.toNat_lt)⟩
  refine ⟨first, UInt64.le_iff_toNat_le.2 bound, found, ?_⟩
  rw [← UInt64.toNat_inj, foremost]
  refine forall₂_congr fun earlier _ => ?_
  rw [Ne, Catalog.getElem?_fieldNames_iff declared]
  exact not_exists.trans (forall_congr' fun before => not_and)

theorem name_eq_of_fieldIndex? (declared : registry.shape? atom = some specs) {position : Nat}
    (here : specs[position]? = some spec) {name : Name} (found : registry.fieldIndex? atom name = some position) :
    spec.name = name := by
  have stands := (registry.states_layout.eq_some_iff.1 found).1
  obtain ⟨again, there, rfl⟩ := (Catalog.getElem?_fieldNames_iff declared).1 stands
  rw [Option.some.inj (here.symm.trans there)]

/-- Fields by name and by position. The fields of an atom are all found by their names where they are declared
exactly if these are distinct. In any case a name leads to the first field that has it, reading and writing as the
position of that one does, and no name leads to a field behind another one of its name. -/
theorem byName_outcome (registry : Registry) (atom : AtomId) (specs : List FieldSpec)
    (declared : registry.shape? atom = some specs) :
    ((specs.map FieldSpec.name).Nodup ↔ ∀ position spec, specs[position]? = some spec →
      registry.fieldIndex? atom spec.name = some position) ∧
    ∀ (index : UInt64) (spec : FieldSpec), specs[index.toNat]? = some spec →
      ∃ first ≤ index, registry.fieldIndex? atom spec.name = some first.toNat ∧
        (first = index ↔ ∀ earlier < index.toNat, ∀ before, specs[earlier]? = some before → before.name ≠ spec.name) ∧
        (first = index ↔ ∃ name, registry.fieldIndex? atom name = some index.toNat) ∧
        ∀ value : Value, value.atomId = atom →
          Lens.get registry ⟨[.field spec.name]⟩ value = Lens.get registry ⟨[.position first]⟩ value ∧
          ∀ (new : Value) (supply again : Supply), Lens.ComesOutAlike [first.toNat]
            (Lens.setStrict registry ⟨[.field spec.name]⟩ value new supply)
            (Lens.setStrict registry ⟨[.position first]⟩ value new again) := by
  refine ⟨nodup_names_iff declared, fun index spec here => ?_⟩
  obtain ⟨first, bound, found, foremost⟩ := exists_first_named declared here
  refine ⟨first, bound, found, foremost, ?_, fun value ofAtom => ?_⟩
  · constructor
    · intro same
      exact ⟨spec.name, same ▸ found⟩
    · intro reached
      obtain ⟨name, reaches⟩ := reached
      rw [← name_eq_of_fieldIndex? declared here reaches, found] at reaches
      exact UInt64.toNat_inj.1 (Option.some.inj reaches)
  · subst ofAtom
    have points : registry.PointsTo value.atomId (.field spec.name) first.toNat := found
    have alsoPoints : registry.PointsTo value.atomId (.position first) first.toNat := rfl
    refine ⟨?_, Lens.comesOutAlike_of_points points alsoPoints⟩
    rw [Lens.get_single, Lens.get_single, points.read_eq, alsoPoints.read_eq]

end Registry

def twinFields : List Operation :=
  [.declareModule ⟨10⟩,
    .declareAtom ⟨1⟩ ⟨⟨11⟩, .named, [⟨⟨12⟩, .atom AtomId.int⟩, ⟨⟨12⟩, .atom AtomId.text⟩]⟩]

def twins : Value := .atom ⟨⟨5⟩, ⟨11⟩, .named, 0, 0⟩ [.int 1, .text "one"]

theorem Registry.byName_outcome_twins :
    (Builder.new.run twinFields).freeze = .ok (.ofLoad twinFields) ∧
    Lens.get (.ofLoad twinFields) ⟨[.field ⟨12⟩]⟩ twins = Lens.get (.ofLoad twinFields) ⟨[.position 0]⟩ twins ∧
    Lens.ComesOutAlike [0] (Lens.setStrict (.ofLoad twinFields) ⟨[.field ⟨12⟩]⟩ twins (.int 2) ⟨1, 1⟩)
      (Lens.setStrict (.ofLoad twinFields) ⟨[.position 0]⟩ twins (.int 2) ⟨2, 2⟩) := by
  obtain ⟨-, leads⟩ := byName_outcome (.ofLoad twinFields) ⟨5⟩ _ rfl
  obtain ⟨first, -, found, -, -, alike⟩ := leads 1 ⟨⟨12⟩, .atom AtomId.text⟩ rfl
  obtain rfl : first = 0 := UInt64.toNat_inj.1 (Option.some.inj (found.symm.trans rfl))
  obtain ⟨reads, writes⟩ := alike twins rfl
  exact ⟨rfl, reads, writes (.int 2) ⟨1, 1⟩ ⟨2, 2⟩⟩

/-- The second field of the pair is at hand by its position only: by its name another value is read, and a text for
it is refused. -/
theorem Registry.second_twin_out_of_reach :
    (Builder.new.run twinFields).freeze = .ok (.ofLoad twinFields) ∧
    (Registry.ofLoad twinFields).construct ⟨5⟩ [.int 1, .text "one"] ⟨0, 0⟩ = (.ok twins, ⟨1, 1⟩) ∧
    ((Registry.ofLoad twinFields).shape? ⟨5⟩).bind (·[1]?) = some ⟨⟨12⟩, .atom AtomId.text⟩ ∧
    (Registry.ofLoad twinFields).fieldIndex? ⟨5⟩ ⟨12⟩ ≠ some 1 ∧
    Lens.get (.ofLoad twinFields) ⟨[.field ⟨12⟩]⟩ twins ≠ Lens.get (.ofLoad twinFields) ⟨[.position 1]⟩ twins ∧
    Lens.setStrict (.ofLoad twinFields) ⟨[.field ⟨12⟩]⟩ twins (.text "two") ⟨1, 1⟩ =
      .error (.fieldTypeMismatch ⟨12⟩ (.atom AtomId.int) (.atom AtomId.text)) ∧
    Lens.setStrict (.ofLoad twinFields) ⟨[.position 1]⟩ twins (.text "two") ⟨1, 1⟩ =
      .ok (.atom ⟨⟨5⟩, ⟨11⟩, .named, 1, 1⟩ [.int 1, .text "two"], ⟨2, 2⟩) :=
  ⟨rfl, rfl, rfl, by decide, by decide, rfl, rfl⟩

end AtomResolution
