import AtomResolution.Proofs.Lens.Frame
import AtomResolution.Proofs.Requests.Session

/-!
What requests give is well typed. Construction checks all fields of the new instance. An update checks only
the last field on its way; the instances around it still fit the fields they stand in, since each is built
anew as an instance of the same atom.
-/

namespace AtomResolution

namespace Registry

/-- Some values fill declared fields: they are as many, and each is of a type that its field accepts. -/
structure Fills (registry : Registry) (specs : List FieldSpec) (fields : List Value) : Prop where
  count : fields.length = specs.length
  accepted : ∀ (position : Nat) (spec : FieldSpec) (field : Value), specs[position]? = some spec →
    fields[position]? = some field → registry.isSubtype field.typeTag spec.type = true

/-- A primitive is well typed, and so is an instance of a declared atom that looks as its declaration says
and is made of well-typed values. -/
inductive WellTyped (registry : Registry) : Value → Prop
  | primitive {value : Value} (plain : value.head? = none) : WellTyped registry value
  | made {head : Instance} {fields : List Value} {decl : AtomDecl}
      (declared : registry.atoms.get? head.atom = some decl) (own : head.atom.isBuiltin = false)
      (tag : head.tag = decl.tag) (kind : head.kind = decl.kind) (fills : registry.Fills decl.fields fields)
      (parts : ∀ field ∈ fields, WellTyped registry field) : WellTyped registry (.atom head fields)

variable {registry : Registry} {supply : Supply} {value target new : Value} {head : Instance}
  {fields known : List Value} {specs : List FieldSpec} {position : Nat}

theorem fills_of_misfit? (count : fields.length = specs.length) (nothing : registry.misfit? specs fields = none) :
    registry.Fills specs fields := by
  refine ⟨count, fun position spec field specified holds => ?_⟩
  have paired : (specs.zip fields)[position]? = some (spec, field) :=
    List.getElem?_zip_eq_some.2 ⟨specified, holds⟩
  have fits := List.find?_eq_none.1 nothing _ (List.mem_of_getElem? paired)
  simpa using fits

theorem Fills.set (fills : registry.Fills specs fields)
    (fits : ∀ spec, specs[position]? = some spec → registry.isSubtype new.typeTag spec.type = true) :
    registry.Fills specs (fields.set position new) := by
  refine ⟨List.length_set.trans fills.count, fun other spec field specified holds => ?_⟩
  rw [List.getElem?_set] at holds
  split at holds
  next same =>
    subst same
    split at holds
    · cases holds
      exact fits spec specified
    · cases holds
  · exact fills.accepted other spec field specified holds

theorem WellTyped.rebuild (typed : registry.WellTyped (.atom head fields)) (newTyped : registry.WellTyped new)
    (fits : ∀ spec, (registry.shape? head.atom).bind (·[position]?) = some spec →
      registry.isSubtype new.typeTag spec.type = true) (supply : Supply) :
    registry.WellTyped (supply.rebuild head (fields.set position new)).1 := by
  cases typed with
  | primitive plain => cases plain
  | @made _ _ decl declared own tag kind fills parts =>
    have shaped : registry.shape? head.atom = some decl.fields := congrArg (Option.map AtomDecl.fields) declared
    rw [shaped] at fits
    refine .made declared own tag kind (fills.set fits) fun field inside => ?_
    rcases List.mem_or_eq_of_mem_set inside with among | rfl
    · exact parts field among
    · exact newTyped

theorem Fills.accepted_shape {decl : AtomDecl} (fills : registry.Fills decl.fields fields)
    (declared : registry.atoms.get? head.atom = some decl) (holds : fields[position]? = some value) {spec : FieldSpec}
    (asked : (registry.shape? head.atom).bind (·[position]?) = some spec) :
    registry.isSubtype value.typeTag spec.type = true := by
  have shaped : registry.shape? head.atom = some decl.fields := congrArg (Option.map AtomDecl.fields) declared
  rw [shaped] at asked
  exact fills.accepted position spec value asked holds

theorem WellTyped.accepted (typed : registry.WellTyped (.atom head fields))
    (holds : fields[position]? = some value)
    {spec : FieldSpec} (asked : (registry.shape? head.atom).bind (·[position]?) = some spec) :
    registry.isSubtype value.typeTag spec.type = true := by
  cases typed with
  | primitive plain => cases plain
  | made declared _ _ _ fills _ => exact fills.accepted_shape declared holds asked

theorem WellTyped.part (typed : registry.WellTyped (.atom head fields)) (holds : fields[position]? = some value) :
    registry.WellTyped value := by
  cases typed with
  | primitive plain => cases plain
  | made _ _ _ _ _ parts => exact parts value (List.mem_of_getElem? holds)

theorem WellTyped.of_leads {selectors : List Selector} {way : List Nat}
    (leads : registry.Leads selectors value way target) (typed : registry.WellTyped value) :
    registry.WellTyped target := by
  induction leads with
  | done => exact typed
  | step goes _ ih =>
    cases goes with
    | guard _ => exact ih typed
    | field _ holds => exact ih (typed.part holds)

theorem typeTag_replaceAt (value new : Value) (supply : Supply) {way : List Nat} (inside : way ≠ []) :
    (value.replaceAt new supply way).1.typeTag = value.typeTag := by
  cases way with
  | nil => exact absurd rfl inside
  | cons position others =>
    cases found : value.field? position with
    | none => rw [Value.replaceAt_of_none found]
    | some current =>
      obtain ⟨head, fields, rfl, holds⟩ := field?_eq_some_iff.1 found
      rw [Value.replaceAt_cons holds]
      rfl

theorem WellTyped.replaceAt {lens : Lens} {selectors : List Selector} {previous : Option Selector}
    {way : List Nat} (typed : registry.WellTyped value) (newTyped : registry.WellTyped new)
    (leads : registry.Leads selectors value way target)
    (located : lens.locate registry new previous selectors value = .ok way) (supply : Supply) :
    registry.WellTyped (value.replaceAt new supply way).1 := by
  induction leads generalizing previous with
  | done => exact newTyped
  | @step selector rest value next target first others goes leads ih =>
    cases goes with
    | guard _ => exact ih typed (Lens.locate_of_guard located)
    | @field _ head fields position _ points holds =>
      rw [List.singleton_append, Value.replaceAt_cons holds]
      cases later : rest.any Selector.isField with
      | true =>
        rw [Lens.locate_goes (.field points holds) later] at located
        obtain ⟨positions, found, same⟩ := map_eq_ok_iff.1 located
        rw [List.append_cancel_left same] at found
        have inside : others ≠ [] := fun nowhere => by
          obtain ⟨field, among, isField⟩ := List.any_eq_true.1 later
          rw [leads.way_eq_nil_iff.1 nowhere field among] at isField
          cases isField
        refine typed.rebuild (ih (typed.part holds) found) (fun spec asked => ?_) _
        rw [typeTag_replaceAt next new supply inside]
        exact typed.accepted holds asked
      | false =>
        have guards : ∀ selector ∈ rest, selector.isField = false := fun selector among => by
          simpa using List.any_eq_false.1 later selector among
        obtain rfl := leads.way_eq_nil_iff.2 guards
        have verdict := lens.locate_last new previous points holds guards
        rw [located] at verdict
        cases verdict with
        | located _ fits => exact typed.rebuild newTyped fits supply

theorem checkFields_eq_ok {atom : AtomId} {decl : AtomDecl}
    (checked : registry.checkFields atom fields = .ok decl) :
    registry.atoms.get? atom = some decl ∧ (atom.isBuiltin = false → registry.Fills decl.fields fields) := by
  unfold checkFields at checked
  cases declared : registry.atoms.get? atom with
  | none =>
    rw [declared] at checked
    cases checked
  | some found =>
    rw [declared] at checked
    dsimp only at checked
    cases builtin : atom.isBuiltin with
    | true =>
      rw [builtin, if_pos rfl] at checked
      split at checked
      · cases checked
        exact ⟨rfl, fun impossible => (by cases impossible)⟩
      · cases checked
    | false =>
      rw [builtin, if_neg Bool.false_ne_true] at checked
      split at checked
      · cases checked
      next count =>
        cases nothing : registry.misfit? found.fields fields with
        | some misfit =>
          rw [nothing] at checked
          cases checked
        | none =>
          rw [nothing] at checked
          cases checked
          exact ⟨rfl, fun _ => fills_of_misfit? (Decidable.not_not.1 count) nothing⟩

theorem wellTyped_of_construct {atom : AtomId} {later : Supply}
    (parts : ∀ field ∈ fields, registry.WellTyped field)
    (succeeds : registry.construct atom fields supply = (.ok value, later)) : registry.WellTyped value := by
  obtain ⟨decl, checked, ⟨_, made⟩ | ⟨own, made⟩⟩ := construct_eq_ok_iff.1 succeeds
  · cases made
    exact .primitive rfl
  · obtain ⟨declared, fills⟩ := checkFields_eq_ok checked
    cases made
    exact .made declared own rfl rfl (fills own) parts

theorem wellTyped_of_setStrict {lens : Lens} {later : Supply} {updated : Value} (typed : registry.WellTyped value)
    (newTyped : registry.WellTyped new)
    (succeeds : lens.setStrict registry value new supply = .ok (updated, later)) : registry.WellTyped updated := by
  obtain ⟨way, target, leads, located, replaced⟩ := Lens.exists_leads_of_setStrict succeeds
  have rebuilt := typed.replaceAt newTyped leads located supply
  rw [replaced] at rebuilt
  exact rebuilt

theorem wellTyped_answer (registry : Registry) (supply : Supply) (request : Request)
    (typed : ∀ input ∈ request.inputs, registry.WellTyped input) :
    ∀ result ∈ (registry.answer supply request).1.value?, registry.WellTyped result := by
  intro result given
  cases request with
  | construct atom fields =>
    unfold answer at given
    dsimp only at given
    split at given
    next succeeds =>
      cases given
      exact wellTyped_of_construct typed succeeds
    · cases given
  | get lens value =>
    unfold answer at given
    dsimp only at given
    split at given
    next found =>
      cases given
      obtain ⟨way, leads⟩ := get_eq_some_iff.1 found
      exact .of_leads leads (typed value List.mem_cons_self)
    · cases given
  | setStrict lens value new =>
    obtain ⟨valueTyped, newTyped⟩ := List.forall_mem_cons.1 typed
    rw [answer_setStrict] at given
    split at given
    next succeeds =>
      cases given
      exact wellTyped_of_setStrict valueTyped (newTyped new List.mem_cons_self) succeeds
    · cases given
  | setSafe lens value new =>
    obtain ⟨valueTyped, newTyped⟩ := List.forall_mem_cons.1 typed
    rw [answer_setSafe] at given
    unfold Lens.setSafe at given
    split at given
    next succeeds =>
      cases given
      exact wellTyped_of_setStrict valueTyped (newTyped new List.mem_cons_self) succeeds
    · cases given
      exact valueTyped

theorem wellTyped_of_fedBack {requests : List Request} (knownTyped : ∀ value ∈ known, registry.WellTyped value)
    (fedBack : FedBack known (registry.serve supply requests).1) :
    ∀ request result, (request, .given result) ∈ (registry.serve supply requests).1 → registry.WellTyped result := by
  induction requests generalizing known supply with
  | nil =>
    intro request result impossible
    cases impossible
  | cons first requests ih =>
    intro request result inside
    rw [serve_cons] at fedBack inside
    obtain ⟨asked, later⟩ := fedBack
    have typed : ∀ input ∈ first.inputs, registry.WellTyped input := fun input among =>
      (asked input among).elim .primitive (knownTyped input)
    have answerTyped := registry.wellTyped_answer supply first typed
    rcases List.mem_cons.1 inside with here | there
    · apply answerTyped result
      rw [← (Prod.mk.inj here).2]
      rfl
    · refine ih (fun value knows => ?_) later request result there
      rcases List.mem_append.1 knows with new | old
      · exact answerTyped value (Option.mem_toList.1 new)
      · exact knownTyped value old

/-- Whatever requests a registry serves, a client that begins with primitives and asks on about what it is
told is given well-typed values only. -/
theorem serve_wellTyped (registry : Registry) (supply : Supply) (requests : List Request)
    (fedBack : FedBack [] (registry.serve supply requests).1) :
    ∀ request result, (request, .given result) ∈ (registry.serve supply requests).1 → registry.WellTyped result :=
  wellTyped_of_fedBack (fun _ impossible => (by cases impossible)) fedBack

end Registry

theorem Registry.serve_wellTyped_assembly :
    (Builder.new.run machineOfParts).freeze = .ok (.ofLoad machineOfParts) ∧
    FedBack [] ((Registry.ofLoad machineOfParts).serve .new assembly).1 ∧
    ∀ request result, (request, .given result) ∈ ((Registry.ofLoad machineOfParts).serve .new assembly).1 →
      (Registry.ofLoad machineOfParts).WellTyped result :=
  have fedBack : FedBack [] ((Registry.ofLoad machineOfParts).serve .new assembly).1 := by decide
  ⟨rfl, fedBack, serve_wellTyped _ .new assembly fedBack⟩

end AtomResolution
