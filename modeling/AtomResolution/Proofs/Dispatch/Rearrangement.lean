import AtomResolution.Proofs.Dispatch.Winner
import AtomResolution.Proofs.Freeze.Rearrangement

/-!
Calls where methods and imports were declared in another order. Ranking looks at what candidates are and not
at where they stand, so a call resolves to the same method with the same conversions, or fails the same way.
-/

namespace AtomResolution

def Candidate.content (candidate : Candidate) : MethodDecl × List PlannedConversion :=
  (candidate.decl, candidate.conversions)

theorem exists_eq_singleton_of_perm {α β : Type} {content : α → β} {list other : List α} {only : α}
    (same : (list.map content).Perm (other.map content)) (alone : list = [only]) :
    ∃ partner, other = [partner] ∧ content partner = content only := by
  subst alone
  exact List.map_eq_singleton_iff.1 (List.singleton_perm.1 same).symm

namespace Candidate

variable {arity : Nat} {calling : ModuleId} {candidates others : List Candidate}

theorem undominated_perm (arity : Nat) (same : (candidates.map content).Perm (others.map content)) :
    ((undominated arity candidates).map content).Perm ((undominated arity others).map content) := by
  have contents (list : List Candidate) : (undominated arity list).map content =
      (list.map content).filter fun entry => !(list.map content).any fun above => above.1.dominates arity entry.1 := by
    simp only [List.filter_map, List.any_map]
    rfl
  have sameTest (entry : MethodDecl × List PlannedConversion) :
      (!(candidates.map content).any fun above => above.1.dominates arity entry.1) =
        !(others.map content).any fun above => above.1.dominates arity entry.1 := by
    rw [same.any_eq]
  rw [contents, contents, List.filter_congr fun entry _ => sameTest entry]
  exact same.filter _

theorem select_ok_of_perm (same : (candidates.map content).Perm (others.map content)) {winner : Candidate}
    (selected : select arity calling candidates = .ok winner) :
    ∃ partner, select arity calling others = .ok partner ∧ partner.content = winner.content := by
  have highest := undominated_perm arity same
  rcases select_eq_ok_iff.1 selected with single | ⟨notSingle, own⟩
  · obtain ⟨partner, alone, alike⟩ := exists_eq_singleton_of_perm highest single
    exact ⟨partner, select_eq_ok_iff.2 (.inl alone), alike⟩
  · have owned (list : List Candidate) :
        (list.filter fun candidate => candidate.decl.owner = calling).map content =
          (list.map content).filter fun entry => entry.1.owner = calling := by
      rw [List.filter_map]
      rfl
    have sameOwn := highest.filter fun entry => decide (entry.1.owner = calling)
    rw [← owned, ← owned] at sameOwn
    obtain ⟨partner, alone, alike⟩ := exists_eq_singleton_of_perm sameOwn own
    refine ⟨partner, select_eq_ok_iff.2 (.inr ⟨fun only single => ?_, alone⟩), alike⟩
    obtain ⟨other, single, -⟩ := exists_eq_singleton_of_perm highest.symm single
    exact notSingle other single

theorem select_error_of_perm (same : (candidates.map content).Perm (others.map content)) {tied : List Candidate}
    (failed : select arity calling candidates = .error tied) :
    ∃ partners, select arity calling others = .error partners ∧
      (tied.map content).Perm (partners.map content) := by
  cases outcome : select arity calling others with
  | ok partner =>
    obtain ⟨winner, selected, -⟩ := select_ok_of_perm same.symm outcome
    rw [selected] at failed
    cases failed
  | error partners =>
    refine ⟨partners, rfl, ?_⟩
    rw [(select_eq_error failed).1, (select_eq_error outcome).1]
    exact undominated_perm arity same

end Candidate

namespace Registry

/-- What two registries answer to a call is the same but for the handles of methods: methods with the same
declaration and the same conversions, a tie among methods with the same declarations, or an error of the same
kind. -/
inductive Agree (registry again : Registry) :
    Except DispatchError Resolution → Except DispatchError Resolution → Prop
  | resolved {resolution other : Resolution} {decl : MethodDecl}
      (declared : registry.methods.get? resolution.method = some decl)
      (declaredAgain : again.methods.get? other.method = some decl) (owner : resolution.owner = other.owner)
      (body : resolution.body = other.body) (conversions : resolution.conversions = other.conversions) :
      Agree registry again (.ok resolution) (.ok other)
  | ambiguous {method : Name} {tied others : List MethodId} {decls otherDecls : List MethodDecl}
      (declared : tied.map registry.methods.get? = decls.map some)
      (declaredAgain : others.map again.methods.get? = otherDecls.map some) (same : decls.Perm otherDecls) :
      Agree registry again (.error (.ambiguousMethod method tied)) (.error (.ambiguousMethod method others))
  | competing {source other : AtomId} {target otherTarget : TypeTag} {candidates others : List AtomId} :
      Agree registry again (.error (.conversion (.ambiguousConversion source target candidates)))
        (.error (.conversion (.ambiguousConversion other otherTarget others)))
  | unmatched {site : CallSite} : Agree registry again (.error site.unmatched) (.error site.unmatched)
  | unknown {id : ModuleId} : Agree registry again (.error (.unknownModule id)) (.error (.unknownModule id))
  | disabled {id : ModuleId} :
      Agree registry again (.error (.explicitModuleDisabled id)) (.error (.explicitModuleDisabled id))

inductive SameScope : Except DispatchError (List ModuleId) → Except DispatchError (List ModuleId) → Prop
  | seen {scope other : List ModuleId} (same : ∀ owner, owner ∈ scope ↔ owner ∈ other) :
      SameScope (.ok scope) (.ok other)
  | unknown (id : ModuleId) : SameScope (.error (.unknownModule id)) (.error (.unknownModule id))
  | disabled (id : ModuleId) :
      SameScope (.error (.explicitModuleDisabled id)) (.error (.explicitModuleDisabled id))

variable {registry again : Registry} {mode : DispatchMode} {site : CallSite} {scope otherScope : List ModuleId}

theorem map_methodsInScope (registry : Registry) (site : CallSite) (scope : List ModuleId) :
    (registry.methodsInScope site scope).map Prod.snd = registry.methods.entries.filter fun decl =>
      decl.name = site.method && (scope.contains decl.owner && decl.acceptsArity site.args.length) := by
  rw [← registry.methods.map_enum, List.filter_map]
  unfold methodsInScope Catalog.methodsNamed
  rw [List.filter_filter]
  refine congrArg _ (List.filter_congr fun entry _ => ?_)
  exact Bool.and_comm _ _

theorem map_directCandidates (registry : Registry) (site : CallSite) (scope : List ModuleId) :
    (registry.directCandidates site scope).map Candidate.content =
      (((registry.methodsInScope site scope).map Prod.snd).filter (registry.acceptsCall site)).map
        fun decl => (decl, []) := by
  unfold directCandidates
  rw [List.filter_map, List.map_map, List.map_map]
  rfl

theorem map_convertedCandidates (registry : Registry) (site : CallSite) (scope : List ModuleId) :
    (registry.convertedCandidates site scope).map Candidate.content =
      ((registry.methodsInScope site scope).map Prod.snd).filterMap fun decl =>
        match registry.plan site decl with
        | .ok conversions => some (decl, conversions)
        | .error _ => none := by
  unfold convertedCandidates
  rw [List.map_filterMap, List.filterMap_map]
  congr 1
  funext entry
  dsimp only [Function.comp]
  cases registry.plan site entry.2 <;> rfl

theorem firstAmbiguity?_eq (registry : Registry) (site : CallSite) (scope : List ModuleId) :
    registry.firstAmbiguity? site scope = ((registry.methodsInScope site scope).map Prod.snd).findSome? fun decl =>
      match registry.plan site decl with
      | .error (.ambiguousConversion source target candidates) =>
        some (.ambiguousConversion source target candidates)
      | _ => none := by
  rw [List.findSome?_map]
  rfl

theorem ambiguous_of_firstAmbiguity? {error : ConversionError}
    (found : registry.firstAmbiguity? site scope = some error) :
    ∃ source target candidates, error = .ambiguousConversion source target candidates := by
  rw [firstAmbiguity?_eq] at found
  obtain ⟨decl, -, made⟩ := List.exists_of_findSome?_eq_some found
  split at made
  · cases made
    exact ⟨_, _, _, rfl⟩
  · cases made

theorem map_get?_tied {tied : List Candidate} (visible : registry.callScope mode site = .ok scope)
    (failed : Candidate.select site.args.length site.calling (registry.candidates site scope) = .error tied) :
    (tied.map Candidate.id).map registry.methods.get? = (tied.map Candidate.decl).map some := by
  rw [List.map_map, List.map_map]
  refine List.map_congr_left fun candidate inside => ?_
  rw [(Candidate.select_eq_error failed).1] at inside
  exact ((mem_candidates visible).1 (List.mem_filter.1 inside).1).1.declared

namespace Rearranges

variable (rearranged : registry.Rearranges again)

include rearranged

theorem ownsMethod_eq (name : Name) : registry.ownsMethod name = again.ownsMethod name := by
  have owns (registry : Registry) (owner : ModuleId) :
      registry.Owns owner name ↔ ∃ decl ∈ registry.methods.entries, decl.owner = owner ∧ decl.name = name := by
    unfold Owns
    rw [exists_comm]
    simp only [Table.mem_entries_iff, exists_and_right]
  funext owner
  rw [Bool.eq_iff_iff, ownsMethod_iff, ownsMethod_iff, owns, owns]
  simp only [rearranged.methods.mem_iff]

variable (sameScope : ∀ owner, owner ∈ scope ↔ owner ∈ otherScope)

include sameScope

theorem methodsInScope_perm (site : CallSite) : ((registry.methodsInScope site scope).map Prod.snd).Perm
    ((again.methodsInScope site otherScope).map Prod.snd) := by
  have sameTest (decl : MethodDecl) :
      (decl.name = site.method && (scope.contains decl.owner && decl.acceptsArity site.args.length)) =
        (decl.name = site.method && (otherScope.contains decl.owner && decl.acceptsArity site.args.length)) := by
    have sameOwner : scope.contains decl.owner = otherScope.contains decl.owner := by
      rw [Bool.eq_iff_iff, List.contains_iff_mem, List.contains_iff_mem]
      exact sameScope decl.owner
    rw [sameOwner]
  rw [map_methodsInScope, map_methodsInScope, List.filter_congr fun decl _ => sameTest decl]
  exact rearranged.methods.filter _

theorem candidates_perm (site : CallSite) : ((registry.candidates site scope).map Candidate.content).Perm
    ((again.candidates site otherScope).map Candidate.content) := by
  have inScope := rearranged.methodsInScope_perm sameScope site
  have direct : ((registry.directCandidates site scope).map Candidate.content).Perm
      ((again.directCandidates site otherScope).map Candidate.content) := by
    rw [map_directCandidates, map_directCandidates, acceptsCall_congr rearranged.satisfied]
    exact (inScope.filter _).map _
  have converted : ((registry.convertedCandidates site scope).map Candidate.content).Perm
      ((again.convertedCandidates site otherScope).map Candidate.content) := by
    rw [map_convertedCandidates, map_convertedCandidates, plan_congr rearranged.satisfied rearranged.conversions]
    exact inScope.filterMap _
  have sameLength := direct.length_eq
  rw [List.length_map, List.length_map] at sameLength
  unfold candidates
  cases found : registry.directCandidates site scope with
  | nil =>
    rw [found, List.length_nil] at sameLength
    rw [List.length_eq_zero_iff.1 sameLength.symm]
    exact converted
  | cons first rest =>
    cases foundAgain : again.directCandidates site otherScope with
    | nil =>
      rw [found, foundAgain] at sameLength
      cases sameLength
    | cons _ _ =>
      rw [found, foundAgain] at direct
      exact direct

theorem isSome_firstAmbiguity? (site : CallSite) :
    (registry.firstAmbiguity? site scope).isSome = (again.firstAmbiguity? site otherScope).isSome := by
  have inScope := rearranged.methodsInScope_perm sameScope site
  rw [Bool.eq_iff_iff, firstAmbiguity?_eq, firstAmbiguity?_eq, List.findSome?_isSome_iff,
    List.findSome?_isSome_iff, plan_congr rearranged.satisfied rearranged.conversions]
  simp only [inScope.mem_iff]

theorem agree_resolveIn (visible : registry.callScope mode site = .ok scope)
    (visibleAgain : again.callScope mode site = .ok otherScope) :
    registry.Agree again (registry.resolveIn site scope) (again.resolveIn site otherScope) := by
  have sameCandidates := rearranged.candidates_perm sameScope site
  by_cases none : registry.candidates site scope = []
  · have noneAgain : again.candidates site otherScope = [] := by
      rw [none] at sameCandidates
      exact List.map_eq_nil_iff.1 (List.nil_perm.1 sameCandidates)
    rw [resolveIn_of_no_candidates none, resolveIn_of_no_candidates noneAgain]
    have sameKind := rearranged.isSome_firstAmbiguity? sameScope site
    cases first : registry.firstAmbiguity? site scope with
    | none =>
      cases firstAgain : again.firstAmbiguity? site otherScope with
      | none => exact .unmatched
      | some _ =>
        rw [first, firstAgain] at sameKind
        cases sameKind
    | some error =>
      cases firstAgain : again.firstAmbiguity? site otherScope with
      | none =>
        rw [first, firstAgain] at sameKind
        cases sameKind
      | some otherError =>
        obtain ⟨_, _, _, rfl⟩ := ambiguous_of_firstAmbiguity? first
        obtain ⟨_, _, _, rfl⟩ := ambiguous_of_firstAmbiguity? firstAgain
        exact .competing
  · have someAgain : again.candidates site otherScope ≠ [] := fun noneAgain => none <| by
      rw [noneAgain] at sameCandidates
      exact List.map_eq_nil_iff.1 (List.perm_nil.1 sameCandidates)
    rw [resolveIn_of_candidates none, resolveIn_of_candidates someAgain]
    unfold CallSite.pick
    cases selected : Candidate.select site.args.length site.calling (registry.candidates site scope) with
    | ok winner =>
      obtain ⟨partner, selectedAgain, alike⟩ := Candidate.select_ok_of_perm sameCandidates selected
      rw [selectedAgain]
      obtain ⟨sameDecl, sameConversions⟩ := Prod.mk.inj alike
      have declared := ((mem_candidates visible).1 (Candidate.mem_of_select selected)).1.declared
      have declaredAgain := ((mem_candidates visibleAgain).1 (Candidate.mem_of_select selectedAgain)).1.declared
      rw [sameDecl] at declaredAgain
      exact .resolved declared declaredAgain (congrArg MethodDecl.owner sameDecl).symm
        (congrArg MethodDecl.body sameDecl).symm sameConversions.symm
    | error tied =>
      obtain ⟨others, failedAgain, alike⟩ := Candidate.select_error_of_perm sameCandidates selected
      rw [failedAgain]
      refine .ambiguous (map_get?_tied visible selected) (map_get?_tied visibleAgain failedAgain) ?_
      have sameDecls := alike.map Prod.fst
      rw [List.map_map, List.map_map] at sameDecls
      exact sameDecls

omit sameScope

theorem sameScope_callScope (declared : ∀ id, registry.modules.contains id = again.modules.contains id)
    (seen : ∀ calling owner, owner ∈ registry.scope calling ↔ owner ∈ again.scope calling)
    (ordered : mode = .staticModule → ∀ calling, registry.scope calling = again.scope calling) (site : CallSite) :
    SameScope (registry.callScope mode site) (again.callScope mode site) := by
  unfold callScope
  cases site.explicit with
  | some explicit =>
    cases mode with
    | staticModule => exact .disabled explicit
    | twoKey =>
      dsimp only
      rw [declared]
      split
      · exact .seen fun _ => Iff.rfl
      · exact .unknown explicit
  | none =>
    dsimp only
    rw [declared]
    split
    · cases mode with
      | twoKey => exact .seen (seen site.calling)
      | staticModule =>
        rw [ordered rfl, rearranged.ownsMethod_eq]
        cases (again.scope site.calling).find? (again.ownsMethod site.method) with
        | none => exact .seen fun _ => Iff.rfl
        | some first => exact .seen fun _ => Iff.rfl
    · exact .unknown site.calling

theorem agree_resolve (declared : ∀ id, registry.modules.contains id = again.modules.contains id)
    (seen : ∀ calling owner, owner ∈ registry.scope calling ↔ owner ∈ again.scope calling)
    (ordered : mode = .staticModule → ∀ calling, registry.scope calling = again.scope calling) (site : CallSite) :
    registry.Agree again (registry.resolve mode site) (again.resolve mode site) := by
  have scopes := rearranged.sameScope_callScope declared seen ordered site
  unfold resolve
  generalize visible : registry.callScope mode site = outcome,
    visibleAgain : again.callScope mode site = otherOutcome at scopes ⊢
  cases scopes with
  | seen same => exact rearranged.agree_resolveIn same visible visibleAgain
  | unknown id => exact .unknown
  | disabled id => exact .disabled

end Rearranges

end Registry

/-- The order in which methods and imports are declared does not matter. Load sequences that differ only in it
both fail to freeze, for the same reason, or both freeze and answer every call alike; in the static mode, which
looks for the first module in scope, this holds where only methods stand in another order. -/
theorem Builder.freeze_of_methodsReordered {first second : List Operation}
    (reordered : MethodsReordered first second) :
    (∃ error, (new.run first).freeze = .error error ∧ (new.run second).freeze = .error error) ∨
    ∃ registry again, (new.run first).freeze = .ok registry ∧ (new.run second).freeze = .ok again ∧
      (∀ site, registry.Agree again (registry.resolve .twoKey site) (again.resolve .twoKey site)) ∧
      ((first.filter fun operation => !operation.isMethod) = (second.filter fun operation => !operation.isMethod) →
        ∀ mode site, registry.Agree again (registry.resolve mode site) (again.resolve mode site)) := by
  rcases reordered.freeze with failed | ⟨registry, again, frozen, frozenAgain, rearranged⟩
  · exact .inl failed
  · have modules := modules_of_freeze frozen
    have modulesAgain := modules_of_freeze frozenAgain
    have declared (id : ModuleId) : registry.modules.contains id = again.modules.contains id := by
      rw [modules, modulesAgain]
      exact reordered.contains_modules id
    have seen (calling owner : ModuleId) : owner ∈ registry.scope calling ↔ owner ∈ again.scope calling := by
      have inLoad := reordered.mem_scope_iff calling owner
      unfold Catalog.scope at inLoad ⊢
      rw [modules, modulesAgain]
      exact inLoad
    refine .inr ⟨registry, again, frozen, frozenAgain, fun site => ?_, fun sameImports mode site => ?_⟩
    · exact rearranged.agree_resolve declared seen (fun impossible => by cases impossible) site
    · refine rearranged.agree_resolve declared seen (fun _ calling => ?_) site
      unfold Catalog.scope
      rw [modules, modulesAgain, reordered.modules_eq sameImports]

def rivalMethodsReversed : List Operation :=
  [.declareModule ⟨10⟩, .declareModule ⟨11⟩, .declareModule ⟨12⟩, .declareMethod ⟨3⟩ ⟨13⟩ (.interfaces .empty) [] ⟨9⟩,
    .importModule ⟨1⟩ ⟨3⟩, .declareMethod ⟨1⟩ ⟨13⟩ .dynamic [] ⟨8⟩, .importModule ⟨1⟩ ⟨2⟩,
    .declareMethod ⟨2⟩ ⟨13⟩ .any [] ⟨7⟩]

theorem Builder.freeze_of_methodsReordered_rivals :
    MethodsReordered Registry.rivalMethods rivalMethodsReversed ∧
    (Registry.ofLoad Registry.rivalMethods).resolve .twoKey Registry.rivalCall = .ok ⟨⟨1⟩, ⟨1⟩, ⟨8⟩, []⟩ ∧
    ∃ again, (new.run rivalMethodsReversed).freeze = .ok again ∧
      ∀ site, (Registry.ofLoad Registry.rivalMethods).Agree again
        ((Registry.ofLoad Registry.rivalMethods).resolve .twoKey site) (again.resolve .twoKey site) := by
  have reordered : MethodsReordered Registry.rivalMethods rivalMethodsReversed := ⟨rfl, rfl, by decide, rfl⟩
  have frozen : (new.run Registry.rivalMethods).freeze = .ok (.ofLoad Registry.rivalMethods) := rfl
  refine ⟨reordered, rfl, ?_⟩
  rcases freeze_of_methodsReordered reordered with ⟨error, failed, -⟩ | ⟨registry, again, made, madeAgain, agree, -⟩
  · rw [frozen] at failed
    cases failed
  · rw [frozen] at made
    cases made
    exact ⟨again, madeAgain, agree⟩

end AtomResolution
