import AtomResolution.Proofs.Freeze.Agreement
import AtomResolution.Proofs.Freeze.Outcome
import AtomResolution.Proofs.Load.Rearrangement

/-!
Freezing where methods and imports come in another order. Requirements are met alike whatever the order of the
methods, so the claims are made good or broken alike, with the same default bodies in the same order.
-/

namespace AtomResolution

namespace Catalog

/-- Claims were made good on both sides, with methods in another order at most, or the same claim is broken. -/
inductive SameOutcome : Except RegistryError Catalog → Except RegistryError Catalog → Prop
  | made {catalog other : Catalog} (rearranged : catalog.Rearranges other) : SameOutcome (.ok catalog) (.ok other)
  | broken (error : RegistryError) : SameOutcome (.error error) (.error error)

namespace Rearranges

variable {catalog other : Catalog} (rearranged : catalog.Rearranges other)

include rearranged

theorem meetsAlike : catalog.MeetsAlike other where
  atoms := rearranged.atoms
  interfaces := rearranged.interfaces
  methods _ _ _ := rearranged.methods.filter _

theorem materialiseAll (claims : List (AtomId × InterfaceId)) :
    SameOutcome (catalog.materialiseAll claims) (other.materialiseAll claims) := by
  have additions := rearranged.meetsAlike.materialiseAll claims
  generalize catalog.materialiseAll claims = outcome, other.materialiseAll claims = otherOutcome at additions ⊢
  cases additions with
  | made added => exact .made { rearranged with methods := rearranged.methods.append_right added }
  | broken error => exact .broken error

end Rearranges

end Catalog

/-- Two frozen registries differ in their modules and in the order of their methods at most. -/
structure Registry.Rearranges (registry again : Registry) : Prop extends
    registry.toCatalog.Rearranges again.toCatalog where
  satisfied : registry.satisfied = again.satisfied

theorem Builder.toCatalog_of_freeze {builder : Builder} {registry : Registry}
    (frozen : builder.freeze = .ok registry) :
    registry.toCatalog = { builder.toCatalog with methods := registry.methods } := by
  obtain ⟨catalog, made, rfl⟩ := Builder.freeze_eq_ok_iff.1 frozen
  have outcome := builder.materialiseAll_outcome builder.confirmed
  rw [made] at outcome
  cases outcome with
  | complete _ _ => rfl

theorem Builder.modules_of_freeze {builder : Builder} {registry : Registry}
    (frozen : builder.freeze = .ok registry) : registry.modules = builder.modules := by
  rw [toCatalog_of_freeze frozen]

theorem Builder.conversions_of_freeze {builder : Builder} {registry : Registry}
    (frozen : builder.freeze = .ok registry) : registry.conversions = builder.conversions := by
  rw [toCatalog_of_freeze frozen]

theorem Builder.MethodsReordered.freeze {first second : List Operation}
    (reordered : MethodsReordered first second) :
    (∃ error, (new.run first).freeze = .error error ∧ (new.run second).freeze = .error error) ∨
    ∃ registry again, (new.run first).freeze = .ok registry ∧ (new.run second).freeze = .ok again ∧
      registry.Rearranges again := by
  have outcomes := reordered.rearranges.materialiseAll (new.run first).confirmed
  unfold Builder.freeze
  rw [← reordered.confirmed_eq]
  generalize (new.run first).toCatalog.materialiseAll (new.run first).confirmed = outcome,
    (new.run second).toCatalog.materialiseAll (new.run first).confirmed = otherOutcome at outcomes ⊢
  cases outcomes with
  | made rearranged => exact .inr ⟨_, _, rfl, rfl, rearranged, rearranged.meetsAlike.satisfaction_eq⟩
  | broken error => exact .inl ⟨error, rfl, rfl⟩

end AtomResolution
