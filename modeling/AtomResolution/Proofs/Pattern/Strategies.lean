import Mathlib.Data.List.Forall2
import AtomResolution.Proofs.Lens.Readback
import AtomResolution.Proofs.Pattern.Layout

/-!
The three ways to match an instance. A pattern may look at the atom alone, count the fields or look up their names.
On a value that has as many fields as its atom declares all three come down to the atom, and the bindings by name,
where every field is listed, are those by position.
-/

namespace AtomResolution

namespace Pattern

variable {layout : FieldLayout} {declared : AtomId → List Name} {value : Value} {atom : AtomId}
  {pattern : Pattern}

/-- The patterns that test for an atom and ask for no more than it declares: they bind as many positions as it has
fields, or names that it declares. -/
inductive TestsFor (declared : AtomId → List Name) (atom : AtomId) : Pattern → Prop
  | constructor : TestsFor declared atom (.constructor atom)
  | positional {binders : List (Option Name)} (counted : binders.length = (declared atom).length) :
      TestsFor declared atom (.positional atom binders)
  | named {fields : List NamedField} (known : ∀ field ∈ fields, field.field ∈ declared atom) :
      TestsFor declared atom (.named (some atom) fields)

theorem TestsFor.constructor?_eq (tests : pattern.TestsFor declared atom) : pattern.constructor? = some atom := by
  cases tests <;> rfl

theorem matchValue_of_ne (names : pattern.constructor? = some atom) (differs : value.atomId ≠ atom) :
    pattern.matchValue layout value = none := by
  cases pattern with
  | catchAll => cases names
  | constructor other =>
    cases names
    exact if_neg differs
  | positional other binders =>
    cases names
    exact if_neg fun both => differs both.1
  | named other fields =>
    obtain rfl : other = some atom := names
    exact if_neg (by simpa using differs)

theorem matchValue_named {other : Option AtomId} {fields : List NamedField}
    (tested : other = none ∨ other = some value.atomId) :
    (Pattern.named other fields).matchValue layout value =
      (bindNames layout value fields).map fun bindings => ⟨other, bindings⟩ := by
  refine if_pos ?_
  obtain rfl | rfl := tested
  · rfl
  · exact decide_eq_true rfl

theorem matchValue_positional {binders : List (Option Name)} (counted : value.fields.length = binders.length) :
    (Pattern.positional value.atomId binders).matchValue layout value =
      some ⟨some value.atomId, bindPositions binders value.fields⟩ :=
  if_pos ⟨rfl, counted⟩

theorem isSome_readField_iff (states : layout.States declared)
    (counted : value.fields.length = (declared value.atomId).length) {field : Name} :
    (readField layout value field).isSome = true ↔ field ∈ declared value.atomId := by
  rw [← states.isSome_iff]
  unfold readField
  cases found : layout value.atomId field with
  | none => exact Iff.rfl
  | some position =>
    obtain ⟨here, -⟩ := states.eq_some_iff.1 found
    have inside := (List.getElem?_eq_some_iff.1 here).1
    have holds : value.field? position = some _ := List.getElem?_eq_getElem (counted ▸ inside)
    rw [Option.bind_some, holds]
    exact Iff.rfl

theorem isSome_bindNames_iff {fields : List NamedField} : (bindNames layout value fields).isSome = true ↔
    ∀ field ∈ fields, (readField layout value field.field).isSome = true := by
  induction fields with
  | nil => exact iff_of_true rfl (List.forall_mem_nil _)
  | cons field rest ih =>
    rw [List.forall_mem_cons, ← ih, bindNames]
    cases readField layout value field.field with
    | none => exact iff_of_false Bool.false_ne_true fun both => Bool.false_ne_true both.1
    | some found =>
      rw [and_iff_right Option.isSome_some]
      cases bindNames layout value rest <;> exact Iff.rfl

theorem refined_of_testsFor (states : layout.States declared)
    (counted : value.fields.length = (declared value.atomId).length) (tests : pattern.TestsFor declared atom) :
    (pattern.matchValue layout value).map MatchOutcome.refined =
      if value.atomId = atom then some (some atom) else none := by
  by_cases same : value.atomId = atom
  · subst same
    rw [if_pos rfl]
    cases tests with
    | constructor => exact congrArg (Option.map MatchOutcome.refined) (if_pos rfl)
    | positional fits =>
      rw [matchValue_positional (counted.trans fits.symm)]
      rfl
    | named known =>
      have readable := isSome_bindNames_iff.2 fun field inside =>
        (isSome_readField_iff states counted).2 (known field inside)
      obtain ⟨bindings, bound⟩ := Option.isSome_iff_exists.1 readable
      rw [matchValue_named (.inr rfl), bound]
      rfl
  · rw [if_neg same, matchValue_of_ne tests.constructor?_eq same]
    rfl

theorem forall₂_readField (states : layout.States declared)
    (counted : value.fields.length = (declared value.atomId).length) (distinct : (declared value.atomId).Nodup) :
    List.Forall₂ (fun name field => readField layout value name = some field) (declared value.atomId)
      value.fields := by
  refine List.forall₂_iff_get.2 ⟨counted.symm, fun position inside held => ?_⟩
  unfold readField
  have found := states.nodup_iff.1 distinct position _ (List.getElem?_eq_getElem inside)
  exact (congrArg (·.bind value.field?) found).trans (List.getElem?_eq_getElem held)

theorem bindNames_zipWith {names : List Name} {fields : List Value} {binders : List Name}
    (reads : List.Forall₂ (fun name field => readField layout value name = some field) names fields)
    (counted : binders.length = names.length) :
    bindNames layout value (List.zipWith NamedField.mk names binders) = some (binders.zip fields) := by
  induction reads generalizing binders with
  | nil =>
    rw [List.eq_nil_of_length_eq_zero counted]
    rfl
  | cons first _ ih =>
    cases binders with
    | nil => cases counted
    | cons binder binders =>
      rw [List.zipWith_cons_cons, bindNames, first, ih (Nat.succ.inj counted)]
      rfl

theorem bindPositions_map_some (binders : List Name) (fields : List Value) :
    bindPositions (binders.map some) fields = binders.zip fields := by
  unfold bindPositions
  induction binders generalizing fields with
  | nil => rfl
  | cons binder binders ih =>
    cases fields with
    | nil => rfl
    | cons field fields => exact congrArg ((binder, field) :: ·) (ih fields)

theorem matchValue_listing (states : layout.States declared)
    (counted : value.fields.length = (declared value.atomId).length) (distinct : (declared atom).Nodup)
    {binders : List Name} (fits : binders.length = (declared atom).length) :
    (Pattern.named (some atom) (List.zipWith NamedField.mk (declared atom) binders)).matchValue layout value =
      (Pattern.positional atom (binders.map some)).matchValue layout value := by
  by_cases same : value.atomId = atom
  · subst same
    have positions : value.fields.length = (binders.map some).length := by
      rw [List.length_map, counted, fits]
    rw [matchValue_named (.inr rfl), matchValue_positional positions, bindPositions_map_some,
      bindNames_zipWith (forall₂_readField states counted distinct) fits]
    rfl
  · rw [matchValue_of_ne rfl same, matchValue_of_ne rfl same]

theorem matchValue_open {fields : List NamedField} {outcome : MatchOutcome}
    (matched : (Pattern.named (some atom) fields).matchValue layout value = some outcome) :
    (Pattern.named none fields).matchValue layout value = some { outcome with refined := none } := by
  by_cases same : value.atomId = atom
  · subst same
    rw [matchValue_named (.inr rfl)] at matched
    obtain ⟨bindings, bound, rfl⟩ := Option.map_eq_some_iff.1 matched
    rw [matchValue_named (.inl rfl), bound]
    rfl
  · rw [matchValue_of_ne rfl same] at matched
    cases matched

/-- The three ways to match an instance agree. On a value with as many fields as declared, every pattern that tests
for an atom matches exactly its instances and refines them to it; where the names of its fields are distinct, naming
them all binds what binding all positions binds; and an open pattern matches wherever the one with the atom does, with
the same bindings and no refinement. -/
theorem strategies_agree (layout : FieldLayout) (declared : AtomId → List Name) (states : layout.States declared)
    (atom : AtomId) (value : Value) (counted : value.fields.length = (declared value.atomId).length) :
    (∀ pattern : Pattern, pattern.TestsFor declared atom →
      (pattern.matchValue layout value).map MatchOutcome.refined =
        if value.atomId = atom then some (some atom) else none) ∧
    ((declared atom).Nodup → ∀ binders : List Name, binders.length = (declared atom).length →
      (Pattern.named (some atom) (List.zipWith NamedField.mk (declared atom) binders)).matchValue layout value =
        (Pattern.positional atom (binders.map some)).matchValue layout value) ∧
    ∀ (fields : List NamedField) (outcome : MatchOutcome),
      (Pattern.named (some atom) fields).matchValue layout value = some outcome →
      (Pattern.named none fields).matchValue layout value = some { outcome with refined := none } :=
  ⟨fun _ tests => refined_of_testsFor states counted tests,
    fun distinct _ fits => matchValue_listing states counted distinct fits, fun _ _ => matchValue_open⟩

theorem strategies_agree_machine :
    (Builder.new.run machineOfParts).freeze = .ok (.ofLoad machineOfParts) ∧
    ((Pattern.named (some ⟨7⟩) [⟨⟨17⟩, ⟨1⟩⟩, ⟨⟨16⟩, ⟨2⟩⟩, ⟨⟨17⟩, ⟨2⟩⟩]).matchValue
      (Registry.ofLoad machineOfParts).layout machine).map MatchOutcome.refined = some (some ⟨7⟩) ∧
    (Pattern.named (some ⟨7⟩) [⟨⟨16⟩, ⟨1⟩⟩, ⟨⟨17⟩, ⟨2⟩⟩]).matchValue (Registry.ofLoad machineOfParts).layout machine =
      (Pattern.positional ⟨7⟩ [some ⟨1⟩, some ⟨2⟩]).matchValue (Registry.ofLoad machineOfParts).layout machine ∧
    (Pattern.named none [⟨⟨17⟩, ⟨1⟩⟩]).matchValue (Registry.ofLoad machineOfParts).layout machine =
      some ⟨none, [(⟨1⟩, .int 2)]⟩ := by
  obtain ⟨tested, listed, opened⟩ := strategies_agree (Registry.ofLoad machineOfParts).layout
    (Registry.ofLoad machineOfParts).fieldNames (Registry.states_layout _) ⟨7⟩ machine rfl
  exact ⟨rfl, tested _ (.named (by decide)), listed (by decide) [⟨1⟩, ⟨2⟩] rfl,
    opened [⟨⟨17⟩, ⟨1⟩⟩] ⟨some ⟨7⟩, [(⟨1⟩, .int 2)]⟩ (by decide)⟩

end Pattern

end AtomResolution
