import Mathlib.Logic.Equiv.Basic
import AtomResolution.Proofs.Freeze.Outcome
import AtomResolution.Proofs.Load.Relocation

/-!
Satisfaction in closed form. Who satisfies what after freezing can be read off the ledger of the load sequence,
as a statement about what is in it; so it does not matter in which order the declarations were made.
-/

namespace AtomResolution

namespace Relocation

variable {relocation : Relocation} {ledger : Ledger} {atom : AtomId} {interface : InterfaceId}
  {requirement : Requirement}

theorem answers_iff {decl : MethodDecl} :
    (relocation.method decl).Answers (relocation.on .atom atom) (relocation.requirement requirement) ↔
      decl.Answers atom requirement := by
  unfold MethodDecl.Answers
  change _ ∧ relocation.tag decl.receiver = _ ∧ (decl.params.map _).length = (requirement.params.map _).length ↔ _
  rw [tag_eq_atom_iff, List.length_map, List.length_map]
  rfl

theorem alike_iff {offered : Requirement} :
    (relocation.requirement offered).Alike (relocation.requirement requirement) ↔ offered.Alike requirement := by
  unfold Requirement.Alike
  change _ ∧ (offered.params.map _).length = (requirement.params.map _).length ↔ _
  rw [List.length_map, List.length_map]
  rfl

theorem hasField_iff {name : Name} :
    (relocation.ledger ledger).HasField (relocation.on .atom atom) name ↔ ledger.HasField atom name := by
  unfold Ledger.HasField
  simp only [declaresAtom_iff]
  constructor
  · rintro ⟨_, ⟨fields, declares, rfl⟩, _, mapped, named⟩
    obtain ⟨spec, inside, rfl⟩ := List.mem_map.1 mapped
    exact ⟨fields, declares, spec, inside, named⟩
  · rintro ⟨fields, declares, spec, inside, named⟩
    exact ⟨_, ⟨fields, declares, rfl⟩, _, List.mem_map_of_mem inside, named⟩

theorem requires_iff {asked : Requirement} :
    (relocation.ledger ledger).Requires (relocation.on .interface interface) asked ↔
      ∃ before, ledger.Requires interface before ∧ relocation.requirement before = asked := by
  unfold Ledger.Requires
  simp only [declaresInterface_iff]
  constructor
  · rintro ⟨_, ⟨decl, declares, rfl⟩, mapped⟩
    obtain ⟨before, inside, rfl⟩ := List.mem_map.1 mapped
    exact ⟨before, ⟨decl, declares, inside⟩, rfl⟩
  · rintro ⟨before, ⟨decl, declares, inside⟩, rfl⟩
    exact ⟨_, ⟨decl, declares, rfl⟩, List.mem_map_of_mem inside⟩

theorem defines_iff :
    (relocation.ledger ledger).Defines (relocation.on .atom atom) (relocation.requirement requirement) ↔
      ledger.Defines atom requirement := by
  unfold Ledger.Defines
  refine or_congr ?_ (and_congr List.map_eq_nil_iff hasField_iff)
  simp only [declaresMethod_iff]
  constructor
  · rintro ⟨_, ⟨decl, declares, rfl⟩, answers⟩
    exact ⟨decl, declares, answers_iff.1 answers⟩
  · rintro ⟨decl, declares, answers⟩
    exact ⟨_, ⟨decl, declares, rfl⟩, answers_iff.2 answers⟩

theorem claims_iff {claimed : InterfaceId} :
    (relocation.ledger ledger).Claims (relocation.on .atom atom) claimed ↔
      ∃ before, ledger.Claims atom before ∧ relocation.on .interface before = claimed := by
  unfold Ledger.Claims
  simp only [confirms_iff]
  constructor
  · rintro ⟨_, ⟨confirmed, confirms, rfl⟩, extended⟩
    obtain ⟨before, reaches, rfl⟩ := extends_iff.1 extended
    exact ⟨before, ⟨confirmed, confirms, reaches⟩, rfl⟩
  · rintro ⟨before, ⟨confirmed, confirms, reaches⟩, rfl⟩
    exact ⟨_, ⟨confirmed, confirms, rfl⟩, extends_iff.2 ⟨before, reaches, rfl⟩⟩

theorem offers_iff :
    (relocation.ledger ledger).Offers (relocation.on .interface interface) (relocation.requirement requirement) ↔
      ledger.Offers interface requirement := by
  unfold Ledger.Offers
  simp only [requires_iff]
  constructor
  · rintro ⟨_, ⟨offered, requires, rfl⟩, alike, has⟩
    exact ⟨offered, requires, alike_iff.1 alike, Option.isSome_map.symm.trans has⟩
  · rintro ⟨offered, requires, alike, has⟩
    exact ⟨_, ⟨offered, requires, rfl⟩, alike_iff.2 alike, Option.isSome_map.trans has⟩

theorem provides_iff :
    (relocation.ledger ledger).Provides (relocation.on .atom atom) (relocation.requirement requirement) ↔
      ledger.Provides atom requirement := by
  unfold Ledger.Provides
  refine or_congr defines_iff ?_
  simp only [claims_iff]
  constructor
  · rintro ⟨_, ⟨interface, claims, rfl⟩, offers⟩
    exact ⟨interface, claims, offers_iff.1 offers⟩
  · rintro ⟨interface, claims, offers⟩
    exact ⟨_, ⟨interface, claims, rfl⟩, offers_iff.2 offers⟩

theorem satisfies_iff :
    (relocation.ledger ledger).Satisfies (relocation.on .atom atom) (relocation.on .interface interface) ↔
      ledger.Satisfies atom interface := by
  unfold Ledger.Satisfies
  simp only [declaresAtom_iff, declaresInterface_iff, exists_comm, exists_and_left, exists_eq', and_true]
  refine and_congr_right fun _ => and_congr_right fun _ => ?_
  simp only [extends_iff, forall_exists_index, and_imp]
  constructor
  · intro meets other reaches requirement requires
    exact provides_iff.1 (meets _ other reaches rfl _ (requires_iff.2 ⟨requirement, requires, rfl⟩))
  · rintro meets _ other reaches rfl _ asked
    obtain ⟨requirement, requires, rfl⟩ := requires_iff.1 asked
    exact provides_iff.2 (meets other reaches requirement requires)

end Relocation

namespace Registry

/-- After freezing an atom satisfies an interface if both are declared and the atom has whatever the interface
and those it extends ask for, by a method or field of its own or by a default body of what it claims. So
whoever satisfies an interface satisfies all it extends, and the same declarations in another order lead to
the same relation, up to the handles they get there. -/
theorem satisfies_iff_of_freeze {operations : List Operation} {registry : Registry}
    (frozen : (Builder.new.run operations).freeze = .ok registry) :
    (∀ atom interface, registry.satisfies atom interface = true ↔
      (Builder.new.ledger operations).Satisfies atom interface) ∧
    (∀ atom interface super, registry.satisfies atom interface = true →
      (Builder.new.ledger operations).Extends interface super → registry.satisfies atom super = true) ∧
    ∀ (relocation : Relocation) (reordered : List Operation) (again : Registry),
      (Builder.new.run reordered).freeze = .ok again →
      (Builder.new.ledger reordered).Perm (relocation.ledger (Builder.new.ledger operations)) →
      ∀ atom interface, again.satisfies (relocation.on .atom atom) (relocation.on .interface interface) =
        registry.satisfies atom interface := by
  have loads := Builder.loads_ledger operations
  have closedForm := loads.satisfies_iff frozen
  refine ⟨closedForm, fun atom interface super satisfies reaches => ?_, ?_⟩
  · have holds := (closedForm atom interface).1 satisfies
    exact (closedForm atom super).2 (holds.of_extends reaches (loads.declaresInterface_of_extends holds.2.1 reaches))
  · intro relocation reordered again frozenAgain permuted atom interface
    rw [Bool.eq_iff_iff, closedForm, (Builder.loads_ledger reordered).satisfies_iff frozenAgain,
      Ledger.satisfies_congr fun entry => permuted.mem_iff, Relocation.satisfies_iff]

def boxBeforeTag : List Operation :=
  [.declareModule ⟨10⟩, .declareAtom ⟨1⟩ ⟨⟨11⟩, .named, [⟨⟨13⟩, .any⟩]⟩, .declareAtom ⟨1⟩ ⟨⟨12⟩, .named, []⟩,
    .declareInterface ⟨1⟩ ⟨20⟩ [] [⟨⟨13⟩, [], none⟩], .declareInterface ⟨1⟩ ⟨21⟩ [⟨0⟩] [⟨⟨14⟩, [], some ⟨7⟩⟩],
    .declareMethod ⟨1⟩ ⟨13⟩ (.atom ⟨6⟩) [] ⟨8⟩, .confirm ⟨6⟩ ⟨1⟩]

def tagBeforeBox : List Operation :=
  [.declareModule ⟨10⟩, .declareAtom ⟨1⟩ ⟨⟨12⟩, .named, []⟩, .declareAtom ⟨1⟩ ⟨⟨11⟩, .named, [⟨⟨13⟩, .any⟩]⟩,
    .declareInterface ⟨1⟩ ⟨20⟩ [] [⟨⟨13⟩, [], none⟩], .declareInterface ⟨1⟩ ⟨21⟩ [⟨0⟩] [⟨⟨14⟩, [], some ⟨7⟩⟩],
    .confirm ⟨5⟩ ⟨1⟩, .declareMethod ⟨1⟩ ⟨13⟩ (.atom ⟨5⟩) [] ⟨8⟩]

def boxForTag : Relocation where
  on
    | .atom => Equiv.swap ⟨5⟩ ⟨6⟩
    | _ => id
  injective
    | .atom => Equiv.injective _
    | .module | .family | .interface | .method | .conversion | .body => Function.injective_id
  builtin := fun atom primitive => by
    have small : atom.raw ≤ 4 := of_decide_eq_true primitive
    refine Equiv.swap_apply_of_ne_of_ne ?_ ?_
    · rintro rfl
      exact absurd small (by decide)
    · rintro rfl
      exact absurd small (by decide)

theorem satisfies_iff_of_freeze_reordered :
    (Builder.new.run boxBeforeTag).freeze = .ok (ofLoad boxBeforeTag) ∧
    (Builder.new.run tagBeforeBox).freeze = .ok (ofLoad tagBeforeBox) ∧
    (Builder.new.ledger tagBeforeBox).Perm (boxForTag.ledger (Builder.new.ledger boxBeforeTag)) ∧
    (Builder.new.ledger boxBeforeTag).Satisfies ⟨6⟩ ⟨1⟩ ∧ ¬(Builder.new.ledger boxBeforeTag).Satisfies ⟨5⟩ ⟨1⟩ ∧
    (ofLoad tagBeforeBox).satisfies ⟨5⟩ ⟨1⟩ = (ofLoad boxBeforeTag).satisfies ⟨6⟩ ⟨1⟩ := by
  have permuted : (Builder.new.ledger tagBeforeBox).Perm (boxForTag.ledger (Builder.new.ledger boxBeforeTag)) := by
    decide
  obtain ⟨closedForm, -, orderFree⟩ := satisfies_iff_of_freeze (rfl : (Builder.new.run boxBeforeTag).freeze = _)
  refine ⟨rfl, rfl, permuted, (closedForm _ _).1 (by decide), fun satisfies => ?_, ?_⟩
  · exact absurd ((closedForm _ _).2 satisfies) (by decide)
  · exact orderFree boxForTag tagBeforeBox _ rfl permuted ⟨6⟩ ⟨1⟩

end Registry

end AtomResolution
