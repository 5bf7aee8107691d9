import Mathlib.Data.List.Basic
import AtomResolution.Proofs.Freeze.Defaults

/-!
Freezing catalogs that meet requirements alike. The claims are made good in view of the methods that are named
like something an interface asks for; catalogs that agree on these, in any order, get the same default bodies or
fail for the same reason, whatever other methods there are.
-/

namespace AtomResolution.Catalog

variable {catalog other : Catalog} {interface : InterfaceId} {requirement : Requirement}

structure MeetsAlike (catalog other : Catalog) : Prop where
  atoms : catalog.atoms = other.atoms
  interfaces : catalog.interfaces = other.interfaces
  methods : ∀ interface requirement, catalog.Requires interface requirement →
    (catalog.methods.entries.filter fun decl => decl.name = requirement.name).Perm
      (other.methods.entries.filter fun decl => decl.name = requirement.name)

/-- The claims of two catalogs are made good by the same methods, or they fail for the same reason. -/
inductive SameAdditions (catalog other : Catalog) :
    Except RegistryError Catalog → Except RegistryError Catalog → Prop
  | made (added : List MethodDecl) :
      SameAdditions catalog other (.ok { catalog with methods := catalog.methods.append added })
        (.ok { other with methods := other.methods.append added })
  | broken (error : RegistryError) : SameAdditions catalog other (.error error) (.error error)

theorem SameAdditions.after {added : List MethodDecl} {result otherResult : Except RegistryError Catalog}
    (rest : SameAdditions { catalog with methods := catalog.methods.append added }
      { other with methods := other.methods.append added } result otherResult) :
    SameAdditions catalog other result otherResult := by
  cases rest with
  | broken error => exact .broken error
  | made more =>
    rw [Table.append_append, Table.append_append]
    exact .made _

theorem SameAdditions.none (catalog other : Catalog) : SameAdditions catalog other (.ok catalog) (.ok other) := by
  have unchanged : SameAdditions catalog other _ _ := .made []
  rw [Table.append_nil, Table.append_nil] at unchanged
  exact unchanged

namespace MeetsAlike

variable (alike : catalog.MeetsAlike other)

include alike

theorem exists_method_iff (requires : catalog.Requires interface requirement) {property : MethodDecl → Prop}
    (named : ∀ decl, property decl → decl.name = requirement.name) :
    (∃ decl ∈ catalog.methods.entries, property decl) ↔ ∃ decl ∈ other.methods.entries, property decl := by
  have listed (catalog : Catalog) : (∃ decl ∈ catalog.methods.entries, property decl) ↔
      ∃ decl ∈ catalog.methods.entries.filter fun decl => decl.name = requirement.name, property decl := by
    refine exists_congr fun decl => and_congr_left fun holds => ?_
    rw [List.mem_filter, and_iff_left (decide_eq_true (named decl holds))]
  rw [listed, listed other]
  simp only [(alike.methods interface requirement requires).mem_iff]

theorem defines_eq (requires : catalog.Requires interface requirement) (atom : AtomId) :
    catalog.defines atom requirement = other.defines atom requirement := by
  rw [Bool.eq_iff_iff, defines_iff, defines_iff, alike.exists_method_iff requires fun _ answers => answers.1]
  unfold HasField shape?
  rw [alike.atoms]

theorem isSome_methodKeyed? (requires : catalog.Requires interface requirement) {key : MethodKey}
    (named : key.name = requirement.name) :
    (catalog.methodKeyed? key).isSome = (other.methodKeyed? key).isSome := by
  unfold methodKeyed? Table.find?
  rw [Bool.eq_iff_iff, Option.isSome_map, Option.isSome_map, List.findIdx?_isSome, List.findIdx?_isSome,
    List.any_eq_true, List.any_eq_true]
  apply alike.exists_method_iff requires
  intro decl same
  rw [← named, ← of_decide_eq_true same]
  rfl

theorem append (added : List MethodDecl) :
    ({ catalog with methods := catalog.methods.append added } : Catalog).MeetsAlike
      { other with methods := other.methods.append added } where
  atoms := alike.atoms
  interfaces := alike.interfaces
  methods interface requirement requires := by
    unfold Table.append
    rw [List.filter_append, List.filter_append]
    exact (alike.methods interface requirement requires).append_right _

theorem addable_eq {decls : List MethodDecl} (asked : ∀ decl ∈ decls,
      ∃ interface requirement, catalog.Requires interface requirement ∧ decl.name = requirement.name) :
    catalog.addable decls = other.addable decls := by
  induction decls generalizing catalog other with
  | nil => rfl
  | cons decl decls ih =>
    obtain ⟨⟨interface, requirement, requires, named⟩, laterAsked⟩ := List.forall_mem_cons.1 asked
    have sameKey : (catalog.methodKeyed? decl.key).isSome = (other.methodKeyed? decl.key).isSome :=
      alike.isSome_methodKeyed? requires named
    unfold addable addMethod
    rw [sameKey]
    split
    · exact ih alike laterAsked
    · exact congrArg _ (ih (alike.append [decl]) laterAsked)

theorem defaultsFor_eq {decl : InterfaceDecl} (found : catalog.interfaces.get? interface = some decl)
    (atom : AtomId) : catalog.defaultsFor atom interface decl = other.defaultsFor atom interface decl := by
  unfold defaultsFor
  refine congrArg _ (List.filter_congr fun requirement asked => ?_)
  rw [alike.defines_eq ⟨decl, found, asked⟩]

theorem materialise (atom : AtomId) (interface : InterfaceId) :
    SameAdditions catalog other (catalog.materialise atom interface) (other.materialise atom interface) := by
  unfold Catalog.materialise
  rw [← alike.interfaces]
  cases found : catalog.interfaces.get? interface with
  | none => exact .none catalog other
  | some decl =>
    have sameGaps : (decl.requirements.find? fun requirement =>
          !catalog.defines atom requirement && requirement.defaultBody.isNone) =
        decl.requirements.find? fun requirement =>
          !other.defines atom requirement && requirement.defaultBody.isNone := by
      rw [← List.head?_filter, ← List.head?_filter]
      refine congrArg _ (List.filter_congr fun requirement asked => ?_)
      rw [alike.defines_eq ⟨decl, found, asked⟩]
    have asked : ∀ method ∈ catalog.defaultsFor atom interface decl,
        ∃ interface requirement, catalog.Requires interface requirement ∧ method.name = requirement.name := by
      intro method inside
      obtain ⟨requirement, asked, -, body, -, rfl⟩ := mem_defaultsFor_iff.1 inside
      exact ⟨interface, requirement, ⟨decl, found, asked⟩, rfl⟩
    dsimp only
    rw [sameGaps, ← alike.defaultsFor_eq found, foldl_addMethod_eq, foldl_addMethod_eq, ← alike.addable_eq asked]
    split
    · exact .broken _
    · exact .made _

theorem materialiseAll (claims : List (AtomId × InterfaceId)) :
    SameAdditions catalog other (catalog.materialiseAll claims) (other.materialiseAll claims) := by
  induction claims generalizing catalog other with
  | nil => exact .none catalog other
  | cons claim claims ih =>
    obtain ⟨atom, interface⟩ := claim
    unfold Catalog.materialiseAll
    have first := alike.materialise atom interface
    generalize catalog.materialise atom interface = outcome, other.materialise atom interface = otherOutcome
      at first ⊢
    cases first with
    | broken error => exact .broken error
    | made added => exact (ih (alike.append added)).after

theorem satisfaction_eq : catalog.satisfaction = other.satisfaction := by
  unfold satisfaction
  rw [← alike.interfaces]
  apply List.foldl_ext
  rintro satisfied ⟨interface, decl⟩ inside
  have sameSatisfiers : catalog.satisfiers satisfied decl = other.satisfiers satisfied decl := by
    unfold satisfiers
    rw [alike.atoms]
    refine List.filter_congr fun atom _ => ?_
    rw [Bool.eq_iff_iff, Bool.and_eq_true, Bool.and_eq_true, List.all_eq_true, List.all_eq_true, List.all_eq_true]
    refine and_congr_right fun _ => forall₂_congr fun requirement asked => ?_
    rw [alike.defines_eq ⟨decl, Table.mem_enum.1 inside, asked⟩]
  dsimp only
  rw [sameSatisfiers]

end MeetsAlike

end AtomResolution.Catalog
