import AtomResolution.Proofs.Freeze.Outcome

/-!
Claims are honoured. Satisfaction is computed from scratch after the default bodies were handed out, yet no
claim is lost: if freezing succeeds an atom satisfies all it claims, and if it fails the error names a claim
that its atom does not make good by itself.
-/

namespace AtomResolution

namespace Ledger

variable {ledger : Ledger} {builder : Builder} {registry : Registry} {atom : AtomId} {interface : InterfaceId}

theorem Claims.of_extends {super : InterfaceId} (claims : ledger.Claims atom interface)
    (reaches : ledger.Extends interface super) : ledger.Claims atom super := by
  obtain ⟨claimed, confirms, before⟩ := claims
  exact ⟨claimed, confirms, before.trans reaches⟩

theorem Loads.satisfies_of_claims (loads : ledger.Loads builder) (frozen : builder.freeze = .ok registry)
    (claims : ledger.Claims atom interface) : registry.satisfies atom interface = true := by
  have declared : ∃ decl, ledger.DeclaresInterface interface decl := by
    obtain ⟨claimed, confirms, reaches⟩ := claims
    exact loads.declaresInterface_of_extends
      (loads.contains_interfaces_iff.1 (loads.contains_of_confirms confirms)) reaches
  obtain ⟨claimed, confirms, _⟩ := id claims
  refine (loads.satisfies_iff frozen atom interface).2 ⟨loads.declaresAtom_of_confirms confirms, declared, ?_⟩
  intro other reaches requirement requires
  exact loads.provides_of_claims frozen (claims.of_extends reaches) requires

end Ledger

namespace Builder

/-- If freezing succeeds, an atom satisfies what it claims and may stand where any set of such interfaces is
asked for. If it fails, the error names an atom, an interface it claims, directly or by one that extends it,
and a requirement without a default body that the atom does not meet itself. -/
theorem freeze_honours_claims (operations : List Operation) :
    (∀ registry, (new.run operations).freeze = .ok registry → ∀ atom,
      (∀ interface, (new.ledger operations).Claims atom interface → registry.satisfies atom interface = true) ∧
      ∀ set : InterfaceSet, (∀ interface ∈ set, (new.ledger operations).Claims atom interface) →
        registry.isSubtype (.atom atom) (.interfaces set) = true) ∧
    ∀ error, (new.run operations).freeze = .error error → ∃ atom interface requirement,
      error = .incompleteConformance atom interface requirement.name ∧
      (new.ledger operations).Claims atom interface ∧ (new.ledger operations).Requires interface requirement ∧
      requirement.defaultBody = none ∧ ¬(new.ledger operations).Defines atom requirement := by
  have loads := loads_ledger operations
  refine ⟨fun registry frozen atom => ⟨fun interface => loads.satisfies_of_claims frozen, fun set claims => ?_⟩, ?_⟩
  · change set.members.all (registry.satisfies atom) = true
    exact List.all_eq_true.2 fun interface inside => loads.satisfies_of_claims frozen (claims interface inside)
  · exact fun error failed => loads.broken_of_freeze failed

/-- An interface asks for something without a default body, and a second one, which extends nothing, has a
default body for it; an atom claims the second one and then the first. -/
def offerFirst : List Operation :=
  [.declareModule ⟨10⟩, .declareAtom ⟨1⟩ ⟨⟨11⟩, .named, []⟩, .declareInterface ⟨1⟩ ⟨12⟩ [] [⟨⟨14⟩, [], none⟩],
    .declareInterface ⟨1⟩ ⟨13⟩ [] [⟨⟨14⟩, [], some ⟨7⟩⟩], .confirm ⟨5⟩ ⟨1⟩, .confirm ⟨5⟩ ⟨0⟩]

def offerLast : List Operation :=
  [.declareModule ⟨10⟩, .declareAtom ⟨1⟩ ⟨⟨11⟩, .named, []⟩, .declareInterface ⟨1⟩ ⟨12⟩ [] [⟨⟨14⟩, [], none⟩],
    .declareInterface ⟨1⟩ ⟨13⟩ [] [⟨⟨14⟩, [], some ⟨7⟩⟩], .confirm ⟨5⟩ ⟨0⟩, .confirm ⟨5⟩ ⟨1⟩]

theorem freeze_honours_claims_offered :
    (new.run offerFirst).freeze = .ok (Registry.ofLoad offerFirst) ∧
    (Registry.ofLoad offerFirst).satisfies ⟨5⟩ ⟨0⟩ = true ∧
    (Registry.ofLoad offerFirst).isSubtype (.atom ⟨5⟩) (.interfaces (.ofList [⟨0⟩, ⟨1⟩])) = true ∧
    (new.run offerLast).freeze = .error (.incompleteConformance ⟨5⟩ ⟨0⟩ ⟨14⟩) ∧
    ∃ atom interface requirement,
      RegistryError.incompleteConformance ⟨5⟩ ⟨0⟩ ⟨14⟩ = .incompleteConformance atom interface requirement.name ∧
      (new.ledger offerLast).Claims atom interface ∧ (new.ledger offerLast).Requires interface requirement ∧
      requirement.defaultBody = none ∧ ¬(new.ledger offerLast).Defines atom requirement := by
  have claimsOffered : (new.ledger offerFirst).Claims ⟨5⟩ ⟨1⟩ := ⟨⟨1⟩, by decide, .refl⟩
  have claimsBare : (new.ledger offerFirst).Claims ⟨5⟩ ⟨0⟩ := ⟨⟨0⟩, by decide, .refl⟩
  obtain ⟨satisfies, subtype⟩ := (freeze_honours_claims offerFirst).1 _ rfl ⟨5⟩
  refine ⟨rfl, satisfies _ claimsBare, subtype _ fun interface inside => ?_, rfl,
    (freeze_honours_claims offerLast).2 _ rfl⟩
  rcases List.mem_pair.1 (InterfaceSet.mem_ofList.1 inside) with rfl | rfl
  · exact claimsBare
  · exact claimsOffered

end Builder

end AtomResolution
