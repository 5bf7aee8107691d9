import AtomResolution.Proofs.Freeze.Outcome
import AtomResolution.Proofs.Store.Refinement

/-!
Freezing in place. Default bodies are inserted one by one beside their indexes, and the frozen store holds
the registry.
-/

namespace AtomResolution

variable {store : Store}

theorem Store.Agrees.methodsNamed_eq (agrees : store.Agrees) (name : Name) :
    store.methodsNamed name = store.builder.methodsNamed name := by
  unfold methodsNamed Catalog.methodsNamed
  rw [agrees.methodsByName name]
  exact Table.filterMap_get? _ (List.filter_subset_self _)

theorem Store.Agrees.conversionsFrom_eq (agrees : store.Agrees) (source : AtomId) :
    store.conversionsFrom source = store.builder.conversionsFrom source := by
  unfold conversionsFrom Catalog.conversionsFrom
  rw [agrees.conversionsBySource source]
  exact Table.filterMap_get? _ (List.filter_subset_self _)

theorem Store.Agrees.addMethods (agrees : store.Agrees) (decls : List MethodDecl) :
    (decls.foldl (fun store decl => (store.insertMethod decl).2) store).Holds
      { store.builder with toCatalog := decls.foldl Catalog.addMethod store.builder.toCatalog } := by
  induction decls generalizing store with
  | nil => exact ⟨rfl, agrees⟩
  | cons decl decls ih =>
    have first : (store.insertMethod decl).2.Holds
        { store.builder with toCatalog := store.builder.toCatalog.addMethod decl } := by
      have inserts := agrees.inserts_insertMethod decl
      unfold Catalog.addMethod
      split
      next taken =>
        rw [inserts.taken taken]
        exact ⟨rfl, agrees⟩
      next free =>
        obtain ⟨after, inserted, holds⟩ := inserts.free (by simpa using free)
        rw [inserted]
        exact holds
    obtain ⟨tables, indexed⟩ := ih first.agrees
    refine ⟨tables.trans ?_, indexed⟩
    rw [first.tables]
    rfl

namespace Loading

theorem defines_eq (agrees : store.Agrees) (atom : AtomId) (requirement : Requirement) :
    defines store atom requirement = store.builder.defines atom requirement := by
  unfold defines Catalog.defines
  rw [agrees.methodsNamed_eq]

theorem reads_synthesise (agrees : store.Agrees) (atom : AtomId) (interface : InterfaceId) (owner : ModuleId)
    (requirements : List Requirement) :
    (synthesise atom interface owner requirements).Reads store
      (match requirements.find? fun requirement =>
          !store.builder.defines atom requirement && requirement.defaultBody.isNone with
        | some requirement => .error (.incompleteConformance atom interface requirement.name)
        | none => .ok ((requirements.filter fun requirement => !store.builder.defines atom requirement).filterMap
            fun requirement =>
              requirement.defaultBody.map (Catalog.defaultMethod atom interface owner requirement))) := by
  induction requirements with
  | nil => rfl
  | cons requirement requirements ih =>
    unfold synthesise
    refine .get ?_
    rw [defines_eq agrees, List.find?_cons, List.filter_cons]
    cases store.builder.defines atom requirement with
    | true => exact ih
    | false =>
      cases given : requirement.defaultBody with
      | none => rfl
      | some body =>
        have rest := ih.map (Catalog.defaultMethod atom interface owner requirement body :: ·)
        rw [if_neg Bool.false_ne_true, Bool.not_false, if_pos rfl, List.filterMap_cons, given]
        change Reads _ store (match requirements.find? _ with | some _ => _ | none => _)
        generalize requirements.find? _ = lacking at rest ⊢
        cases lacking with
        | some _ => exact rest
        | none => exact rest

theorem carries_materialise (agrees : store.Agrees) (atom : AtomId) (interface : InterfaceId) :
    (materialise atom interface).Carries store
      (do let catalog ← store.builder.materialise atom interface
          return ((), { store.builder with toCatalog := catalog })) := by
  unfold materialise Catalog.materialise
  refine .get ?_
  have sameInterfaces : store.interfaces.table = store.builder.interfaces := rfl
  rw [sameInterfaces]
  cases store.builder.interfaces.get? interface with
  | none => exact .done rfl ⟨rfl, agrees⟩
  | some decl =>
    have reads := reads_synthesise agrees atom interface decl.owner decl.requirements
    dsimp only
    generalize decl.requirements.find? _ = lacking at reads ⊢
    cases lacking with
    | some _ => exact .failed (by rw [EStateM.run_bind, reads])
    | none => exact .done (by rw [EStateM.run_bind, reads]; rfl) (agrees.addMethods _)

theorem run_materialiseAll {builder : Builder} (holds : store.Holds builder)
    (claims : List (AtomId × InterfaceId)) :
    match builder.materialiseAll claims with
    | .error error => ∃ after, (materialiseAll claims).run store = .error error after
    | .ok catalog =>
      ∃ after, (materialiseAll claims).run store = .ok () after ∧ after.Holds { builder with toCatalog := catalog } := by
  induction claims generalizing store builder with
  | nil => exact ⟨store, rfl, holds⟩
  | cons claim claims ih =>
    obtain ⟨atom, interface⟩ := claim
    have first := carries_materialise holds.agrees atom interface
    rw [holds.tables] at first
    unfold materialiseAll Catalog.materialiseAll
    rw [EStateM.run_bind]
    cases made : builder.materialise atom interface with
    | error error =>
      rw [made] at first
      cases first with
      | failed run => exact ⟨store, by rw [run]⟩
    | ok catalog =>
      rw [made] at first
      cases first with
      | done run later =>
        rw [run]
        exact ih later

end Loading

structure FrozenStore.Holds (frozen : FrozenStore) (registry : Registry) : Prop where
  tables : frozen.builder.toCatalog = registry.toCatalog
  satisfied : frozen.satisfied = registry.satisfied
  agrees : frozen.Agrees

/-- Freezing in place fails as it does on builders or leads to a store that holds the registry. -/
theorem Store.Holds.freeze {builder : Builder} (holds : store.Holds builder) :
    (∃ error, builder.freeze = .error error ∧ store.freeze = .error error) ∨
      ∃ registry frozen, builder.freeze = .ok registry ∧ store.freeze = .ok frozen ∧ frozen.Holds registry := by
  have outcome := Loading.run_materialiseAll holds builder.confirmed
  have sameClaims : store.confirmed = builder.confirmed := congrArg Builder.confirmed holds.tables
  unfold Store.freeze
  rw [sameClaims]
  cases made : builder.materialiseAll builder.confirmed with
  | error error =>
    rw [made] at outcome
    obtain ⟨after, run⟩ := outcome
    exact .inl ⟨error, Builder.freeze_eq_error_iff.2 made, by rw [run]⟩
  | ok catalog =>
    rw [made] at outcome
    obtain ⟨after, run, tables, agrees⟩ := outcome
    have sameCatalog : after.builder.toCatalog = catalog := congrArg Builder.toCatalog tables
    refine .inr ⟨_, _, Builder.freeze_eq_ok_iff.2 ⟨catalog, made, rfl⟩, by rw [run], sameCatalog, ?_, agrees⟩
    change after.builder.satisfaction = catalog.satisfaction
    rw [sameCatalog]

end AtomResolution
