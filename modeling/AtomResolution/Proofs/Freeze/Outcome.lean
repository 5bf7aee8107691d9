import AtomResolution.Proofs.Freeze.Satisfaction
import AtomResolution.Proofs.Load.Ledger

/-!
What freezing makes of a load sequence, said of its ledger: who satisfies what if it succeeds, and which claim
was broken if it fails.
-/

namespace AtomResolution

namespace Ledger

variable {ledger : Ledger} {atom : AtomId} {interface : InterfaceId} {requirement : Requirement}

def HasField (ledger : Ledger) (atom : AtomId) (name : Name) : Prop :=
  ∃ fields, ledger.DeclaresAtom atom fields ∧ ∃ spec ∈ fields, spec.name = name

/-- An atom meets a requirement itself: a method for exactly this atom is declared in some module, or a field
is if there are no parameters. -/
def Defines (ledger : Ledger) (atom : AtomId) (requirement : Requirement) : Prop :=
  (∃ decl, ledger.DeclaresMethod decl ∧ decl.Answers atom requirement) ∨
    requirement.params = [] ∧ ledger.HasField atom requirement.name

/-- An atom claims an interface or one that extends it. -/
def Claims (ledger : Ledger) (atom : AtomId) (interface : InterfaceId) : Prop :=
  ∃ claimed, ledger.Confirms atom claimed ∧ ledger.Extends claimed interface

def Offers (ledger : Ledger) (interface : InterfaceId) (requirement : Requirement) : Prop :=
  ∃ offered, ledger.Requires interface offered ∧ offered.Alike requirement ∧ offered.defaultBody.isSome = true

/-- An atom meets a requirement itself or by the default body of an interface it claims. -/
def Provides (ledger : Ledger) (atom : AtomId) (requirement : Requirement) : Prop :=
  ledger.Defines atom requirement ∨
    ∃ interface, ledger.Claims atom interface ∧ ledger.Offers interface requirement

/-- An atom has whatever an interface and those it extends ask for. -/
def Satisfies (ledger : Ledger) (atom : AtomId) (interface : InterfaceId) : Prop :=
  (∃ fields, ledger.DeclaresAtom atom fields) ∧ (∃ decl, ledger.DeclaresInterface interface decl) ∧
    ∀ other, ledger.Extends interface other → ∀ requirement, ledger.Requires other requirement →
      ledger.Provides atom requirement

theorem Satisfies.of_extends {other : InterfaceId} (satisfies : ledger.Satisfies atom interface)
    (reaches : ledger.Extends interface other) (declared : ∃ decl, ledger.DeclaresInterface other decl) :
    ledger.Satisfies atom other :=
  ⟨satisfies.1, declared, fun last further => satisfies.2.2 last (reaches.trans further)⟩

section SameEntries

/-! What is said of a ledger depends on its entries only, not on their order. -/

variable {other : Ledger} (same : ∀ entry, entry ∈ ledger ↔ entry ∈ other)
include same

theorem extends_congr {super : InterfaceId} : ledger.Extends interface super ↔ other.Extends interface super := by
  unfold Extends DeclaresInterface
  simp only [same]

theorem claims_congr : ledger.Claims atom interface ↔ other.Claims atom interface := by
  unfold Claims Confirms
  simp only [same, extends_congr same]

theorem requires_congr : ledger.Requires interface requirement ↔ other.Requires interface requirement := by
  unfold Requires DeclaresInterface
  simp only [same]

theorem defines_congr : ledger.Defines atom requirement ↔ other.Defines atom requirement := by
  unfold Defines HasField DeclaresMethod DeclaresAtom
  simp only [same]

theorem offers_congr : ledger.Offers interface requirement ↔ other.Offers interface requirement := by
  unfold Offers
  simp only [requires_congr same]

theorem provides_congr : ledger.Provides atom requirement ↔ other.Provides atom requirement := by
  unfold Provides
  simp only [defines_congr same, claims_congr same, offers_congr same]

theorem satisfies_congr : ledger.Satisfies atom interface ↔ other.Satisfies atom interface := by
  unfold Satisfies DeclaresAtom DeclaresInterface
  simp only [same, extends_congr same, requires_congr same, provides_congr same]

end SameEntries

section Loads

variable {builder : Builder}

theorem Loads.requires_iff (loads : ledger.Loads builder) :
    builder.Requires interface requirement ↔ ledger.Requires interface requirement := by
  unfold Catalog.Requires Requires
  simp only [loads.get?_interfaces_iff]

theorem Loads.offers_iff (loads : ledger.Loads builder) :
    builder.Offers interface requirement ↔ ledger.Offers interface requirement := by
  unfold Catalog.Offers Offers
  simp only [loads.requires_iff]

theorem Loads.defines_iff (loads : ledger.Loads builder) :
    builder.defines atom requirement = true ↔ ledger.Defines atom requirement := by
  rw [Catalog.defines_iff]
  unfold Catalog.HasField Defines HasField
  simp only [loads.mem_methods_iff, loads.shape?_iff]

theorem Loads.provides_iff (loads : ledger.Loads builder) :
    builder.Provides builder.confirmed atom requirement ↔ ledger.Provides atom requirement := by
  unfold Catalog.Provides Provides Claims
  simp only [loads.defines_iff, loads.offers_iff, loads.mem_confirmed_iff]

theorem Loads.declaresInterface_of_extends (loads : ledger.Loads builder) {other : InterfaceId}
    (declared : ∃ decl, ledger.DeclaresInterface interface decl) (reaches : ledger.Extends interface other) :
    ∃ decl, ledger.DeclaresInterface other decl :=
  loads.contains_interfaces_iff.1 <|
    loads.supersBelow.contains_of_extends (loads.contains_interfaces_iff.2 declared) (loads.extends_iff.2 reaches)

end Loads

end Ledger

namespace Builder

variable {builder : Builder} {registry : Registry} {error : RegistryError}

theorem freeze_eq_ok_iff : builder.freeze = .ok registry ↔
    ∃ catalog, builder.materialiseAll builder.confirmed = .ok catalog ∧
      { catalog with satisfied := catalog.satisfaction } = registry := by
  unfold freeze
  rw [bind_eq_ok_iff]
  exact exists_congr fun catalog => and_congr_right fun _ => ⟨Except.ok.inj, congrArg Except.ok⟩

theorem freeze_eq_error_iff : builder.freeze = .error error ↔
    builder.materialiseAll builder.confirmed = .error error := by
  unfold freeze
  cases builder.materialiseAll builder.confirmed with
  | ok _ => exact iff_of_false (fun impossible => nomatch impossible) fun impossible => nomatch impossible
  | error _ => exact ⟨fun same => by cases same; rfl, fun same => by cases same; rfl⟩

end Builder

namespace Ledger

variable {ledger : Ledger} {builder : Builder} {registry : Registry}

theorem Loads.satisfies_iff (loads : ledger.Loads builder) (frozen : builder.freeze = .ok registry)
    (atom : AtomId) (interface : InterfaceId) :
    registry.satisfies atom interface = true ↔ ledger.Satisfies atom interface := by
  obtain ⟨catalog, made, rfl⟩ := Builder.freeze_eq_ok_iff.1 frozen
  have outcome := builder.materialiseAll_outcome builder.confirmed
  rw [made] at outcome
  cases outcome with
  | @complete methods met defines =>
    have below : ({ builder.toCatalog with methods := methods } : Catalog).SupersBelow := loads.supersBelow
    change List.contains _ _ = true ↔ _
    rw [List.contains_iff_mem, below.mem_satisfaction_iff]
    refine and_congr loads.contains_atoms_iff (and_congr loads.contains_interfaces_iff ?_)
    refine forall_congr' fun other => imp_congr loads.extends_iff (forall_congr' fun requirement => ?_)
    exact imp_congr loads.requires_iff ((defines atom requirement).trans loads.provides_iff)

/-- If a load sequence freezes, an atom has whatever the interfaces it claims ask for: what has no default body
was met when the claim had its turn, and what has one is offered by the interface itself. -/
theorem Loads.provides_of_claims (loads : ledger.Loads builder) (frozen : builder.freeze = .ok registry)
    {atom : AtomId} {interface : InterfaceId} {requirement : Requirement}
    (claims : ledger.Claims atom interface) (requires : ledger.Requires interface requirement) :
    ledger.Provides atom requirement := by
  obtain ⟨catalog, made, rfl⟩ := Builder.freeze_eq_ok_iff.1 frozen
  have outcome := builder.materialiseAll_outcome builder.confirmed
  rw [made] at outcome
  cases outcome with
  | complete met _ =>
    cases default : requirement.defaultBody with
    | some body =>
      have offers : ledger.Offers interface requirement := ⟨requirement, requires, ⟨rfl, rfl⟩, by rw [default]; rfl⟩
      exact .inr ⟨interface, claims, offers⟩
    | none =>
      obtain ⟨before, later, turn⟩ := List.append_of_mem (loads.mem_confirmed_iff.2 claims)
      have provided := met before atom interface later turn requirement (loads.requires_iff.2 requires) default
      refine loads.provides_iff.1 (provided.imp_right ?_)
      rintro ⟨offering, earlier, offers⟩
      exact ⟨offering, by rw [turn]; exact List.mem_append_left _ earlier, offers⟩

/-- If a load sequence does not freeze, some claim is broken: the atom lacks what the interface asks for and has
no default body for. -/
theorem Loads.broken_of_freeze {error : RegistryError} (loads : ledger.Loads builder)
    (failed : builder.freeze = .error error) :
    ∃ atom interface requirement, error = .incompleteConformance atom interface requirement.name ∧
      ledger.Claims atom interface ∧ ledger.Requires interface requirement ∧ requirement.defaultBody = none ∧
      ¬ledger.Defines atom requirement := by
  have outcome := builder.materialiseAll_outcome builder.confirmed
  rw [Builder.freeze_eq_error_iff.1 failed] at outcome
  cases outcome with
  | @broken before later atom interface requirement turn requires bare lacking =>
    have claimed : (atom, interface) ∈ builder.confirmed := by
      rw [turn]
      exact List.mem_append_right _ List.mem_cons_self
    refine ⟨atom, interface, requirement, rfl, loads.mem_confirmed_iff.1 claimed,
      loads.requires_iff.1 requires, bare, fun defines => lacking (.inl (loads.defines_iff.2 defines))⟩

end Ledger

end AtomResolution
