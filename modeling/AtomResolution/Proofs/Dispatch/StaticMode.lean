import AtomResolution.Proofs.Dispatch.Candidacy
import AtomResolution.Proofs.Store.Sound

/-!
The static mode against the two-key mode. A call that names no module resolves in the static mode as if it
named the first module in its scope that owns a method of the called name; where there is no such module the
mode makes no difference, since either way nothing matches.
-/

namespace AtomResolution

theorem Catalog.Sound.contains_of_mem_scope {catalog : Catalog} (sound : catalog.Sound) {calling owner : ModuleId}
    (declared : catalog.modules.contains calling = true) (inside : owner ∈ catalog.scope calling) :
    catalog.modules.contains owner = true := by
  obtain ⟨decl, found⟩ := Table.contains_iff.1 declared
  unfold Catalog.scope at inside
  rw [found, Option.map_some, Option.getD_some] at inside
  rcases List.mem_cons.1 inside with rfl | imported
  · exact declared
  · obtain ⟨-, -, known⟩ := sound.imports calling decl found
    exact known owner imported

namespace CallSite

def naming (site : CallSite) (owner : ModuleId) : CallSite := { site with explicit := some owner }

end CallSite

namespace Registry

variable {registry : Registry} {site : CallSite}

/-- Among the methods of a given scope a call resolves alike whichever module it names. In particular the
calling module, which breaks ties, stays the same. -/
theorem resolveIn_naming (registry : Registry) (site : CallSite) (owner : ModuleId) (scope : List ModuleId) :
    registry.resolveIn (site.naming owner) scope = registry.resolveIn site scope := rfl

theorem callScope_naming {owner : ModuleId} (declared : registry.modules.contains owner = true) :
    registry.callScope .twoKey (site.naming owner) = .ok [owner] :=
  if_pos declared

theorem exists_first_owner {name : Name} {scope : List ModuleId}
    (owned : ∃ owner ∈ scope, registry.Owns owner name) :
    ∃ before first after, scope = before ++ first :: after ∧ registry.Owns first name ∧
      (∀ earlier ∈ before, ¬ registry.Owns earlier name) ∧
      scope.find? (registry.ownsMethod name) = some first := by
  obtain ⟨owner, inside, owns⟩ := owned
  cases found : scope.find? (registry.ownsMethod name) with
  | none => exact absurd (ownsMethod_iff.2 owns) (List.find?_eq_none.1 found owner inside)
  | some first =>
    obtain ⟨firstOwns, before, after, order, earliest⟩ := find?_ownsMethod_iff.1 found
    exact ⟨before, first, after, order, firstOwns, earliest, rfl⟩

theorem callScope_static_of_first {first : ModuleId} (unnamed : site.explicit = none)
    (declared : registry.modules.contains site.calling = true)
    (found : (registry.scope site.calling).find? (registry.ownsMethod site.method) = some first) :
    registry.callScope .staticModule site = .ok [first] := by
  unfold callScope
  rw [unnamed]
  dsimp only
  rw [if_pos declared, found]

theorem callScope_of_no_owner (mode : DispatchMode) (unnamed : site.explicit = none)
    (declared : registry.modules.contains site.calling = true)
    (nobody : ∀ owner ∈ registry.scope site.calling, ¬ registry.Owns owner site.method) :
    registry.callScope mode site = .ok (registry.scope site.calling) := by
  have none : (registry.scope site.calling).find? (registry.ownsMethod site.method) = none := by
    rw [List.find?_eq_none]
    intro owner inside
    rw [ownsMethod_iff]
    exact nobody owner inside
  unfold callScope
  rw [unnamed]
  dsimp only
  rw [if_pos declared, none]
  cases mode <;> rfl

theorem resolveIn_of_no_owner {scope : List ModuleId}
    (nobody : ∀ owner ∈ scope, ¬ registry.Owns owner site.method) :
    registry.resolveIn site scope = .error site.unmatched := by
  have none : registry.methodsInScope site scope = [] := by
    rw [List.eq_nil_iff_forall_not_mem]
    rintro ⟨id, decl⟩ inside
    obtain ⟨named, fits⟩ := List.mem_filter.1 inside
    obtain ⟨held, called⟩ := mem_methodsNamed.1 named
    have visible : decl.owner ∈ scope := by
      rw [Bool.and_eq_true, List.contains_iff_mem] at fits
      exact fits.1
    exact nobody decl.owner visible ⟨id, decl, held, rfl, called⟩
  unfold resolveIn directCandidates convertedCandidates firstAmbiguity?
  rw [none]
  rfl

/-- The static mode is explicit dispatch on the first module that owns a method of the called name, whatever
that method accepts. Without such a module nothing matches in either mode, and a call that does name a module
is refused, whether or not the module exists. -/
theorem resolve_staticModule {operations : List Operation}
    (frozen : (Builder.new.run operations).freeze = .ok registry) (site : CallSite) :
    (site.explicit = none → registry.modules.contains site.calling = true →
      ((∃ owner ∈ registry.scope site.calling, registry.Owns owner site.method) →
        ∃ before first after, registry.scope site.calling = before ++ first :: after ∧
          registry.Owns first site.method ∧ (∀ earlier ∈ before, ¬ registry.Owns earlier site.method) ∧
          registry.resolve .staticModule site = registry.resolve .twoKey (site.naming first)) ∧
      ((∀ owner ∈ registry.scope site.calling, ¬ registry.Owns owner site.method) →
        ∀ mode, registry.resolve mode site = .error site.unmatched)) ∧
    ∀ explicit, site.explicit = some explicit →
      registry.resolve .staticModule site = .error (.explicitModuleDisabled explicit) := by
  have sound : registry.Sound := Builder.sound_of_freeze (Builder.sound_run Builder.sound_new operations) frozen
  refine ⟨fun unnamed declared => ⟨fun owned => ?_, fun nobody mode => ?_⟩, fun explicit named => ?_⟩
  · obtain ⟨before, first, after, order, owns, earliest, found⟩ := exists_first_owner owned
    refine ⟨before, first, after, order, owns, earliest, ?_⟩
    have known : registry.modules.contains first = true := by
      apply sound.contains_of_mem_scope declared
      rw [order]
      exact List.mem_append_right _ List.mem_cons_self
    unfold resolve
    rw [callScope_static_of_first unnamed declared found, callScope_naming known]
    exact (resolveIn_naming registry site first [first]).symm
  · unfold resolve
    rw [callScope_of_no_owner mode unnamed declared nobody]
    exact resolveIn_of_no_owner nobody
  · unfold resolve callScope
    rw [named]

def twoOwners : List Operation :=
  [.declareModule ⟨10⟩, .declareModule ⟨11⟩, .declareModule ⟨12⟩, .importModule ⟨1⟩ ⟨2⟩, .importModule ⟨1⟩ ⟨3⟩,
    .declareMethod ⟨3⟩ ⟨13⟩ .any [] ⟨7⟩, .declareMethod ⟨2⟩ ⟨13⟩ .any [⟨⟨14⟩, .any, false⟩] ⟨8⟩]

def twoOwnersCall : CallSite := ⟨⟨1⟩, none, .int 1, ⟨13⟩, []⟩

/-- The first import owns the name and so hides the second, though only the second has a method that the call
fits: the static mode fails where the two-key mode finds it. -/
theorem resolve_staticModule_twoOwners :
    (Builder.new.run twoOwners).freeze = .ok (ofLoad twoOwners) ∧
    (ofLoad twoOwners).resolve .twoKey twoOwnersCall = .ok ⟨⟨0⟩, ⟨3⟩, ⟨7⟩, []⟩ ∧
    (ofLoad twoOwners).resolve .staticModule twoOwnersCall = .error twoOwnersCall.unmatched ∧
    ∃ before first after, (ofLoad twoOwners).scope twoOwnersCall.calling = before ++ first :: after ∧
      (ofLoad twoOwners).Owns first twoOwnersCall.method ∧
      (∀ earlier ∈ before, ¬ (ofLoad twoOwners).Owns earlier twoOwnersCall.method) ∧
      (ofLoad twoOwners).resolve .staticModule twoOwnersCall =
        (ofLoad twoOwners).resolve .twoKey (twoOwnersCall.naming first) := by
  have frozen : (Builder.new.run twoOwners).freeze = .ok (ofLoad twoOwners) := rfl
  have owned : ∃ owner ∈ (ofLoad twoOwners).scope twoOwnersCall.calling,
      (ofLoad twoOwners).Owns owner twoOwnersCall.method :=
    ⟨⟨2⟩, by decide, ⟨1⟩, _, rfl, rfl, rfl⟩
  exact ⟨frozen, rfl, rfl, ((resolve_staticModule frozen twoOwnersCall).1 rfl rfl).1 owned⟩

end Registry

end AtomResolution
