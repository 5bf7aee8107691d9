import Mathlib.Data.List.Induction
import AtomResolution.Proofs.Freeze.Defaults
import AtomResolution.Proofs.Load.Supers

/-!
The relation between atoms and interfaces in closed form. The pass over the interfaces reads what it found for
earlier ones. Since supers stand before what extends them, the result is a fixed point of one step, and from
it follows that an atom satisfies an interface if it meets whatever the interface and its supers ask for.
-/

namespace AtomResolution.Catalog

variable {catalog : Catalog} {atom : AtomId} {interface other : InterfaceId} {decl : InterfaceDecl}
  {satisfied : List (AtomId × InterfaceId)} {visited : List (InterfaceId × InterfaceDecl)}

theorem mem_satisfiers_iff : atom ∈ catalog.satisfiers satisfied decl ↔
    catalog.atoms.contains atom = true ∧ (∀ super ∈ decl.supers, (atom, super) ∈ satisfied) ∧
      ∀ requirement ∈ decl.requirements, catalog.defines atom requirement = true := by
  unfold satisfiers
  rw [List.mem_filter, Table.mem_handles_iff, Bool.and_eq_true, List.all_eq_true, List.all_eq_true]
  simp only [List.contains_iff_mem]

def visit (catalog : Catalog) (visited : List (InterfaceId × InterfaceDecl)) : List (AtomId × InterfaceId) :=
  visited.foldl
    (fun satisfied (interface, decl) =>
      satisfied ++ (catalog.satisfiers satisfied decl).map fun atom => (atom, interface))
    []

theorem satisfaction_eq_visit (catalog : Catalog) :
    catalog.satisfaction = catalog.visit catalog.interfaces.enum := rfl

theorem mem_visit_concat {last : InterfaceId} :
    (atom, interface) ∈ catalog.visit (visited ++ [(last, decl)]) ↔
      (atom, interface) ∈ catalog.visit visited ∨
        interface = last ∧ atom ∈ catalog.satisfiers (catalog.visit visited) decl := by
  unfold visit
  rw [List.foldl_concat, List.mem_append, List.mem_map]
  refine or_congr_right ⟨?_, ?_⟩
  · rintro ⟨_, inside, same⟩
    cases same
    exact ⟨rfl, inside⟩
  · rintro ⟨rfl, inside⟩
    exact ⟨atom, inside, rfl⟩

/-- What the pass has found after some interfaces is a fixed point for these. -/
theorem mem_visit_iff (ascending : visited.Pairwise fun earlier later => earlier.1.raw < later.1.raw)
    (below : ∀ interface decl, (interface, decl) ∈ visited → ∀ super ∈ decl.supers, super.raw < interface.raw) :
    (atom, interface) ∈ catalog.visit visited ↔
      ∃ decl, (interface, decl) ∈ visited ∧ atom ∈ catalog.satisfiers (catalog.visit visited) decl := by
  induction visited using List.reverseRecOn generalizing interface with
  | nil => exact iff_of_false (fun impossible => nomatch impossible) fun ⟨_, impossible, _⟩ => nomatch impossible
  | append_singleton visited last ih =>
    obtain ⟨last, lastDecl⟩ := last
    obtain ⟨earlierAscending, -, across⟩ := List.pairwise_append.1 ascending
    have before (interface : InterfaceId) (decl : InterfaceDecl) (inside : (interface, decl) ∈ visited) :
        interface.raw < last.raw := across _ inside _ (List.mem_singleton_self _)
    have unchanged (decl : InterfaceDecl) (lower : ∀ super ∈ decl.supers, super.raw < last.raw) :
        atom ∈ catalog.satisfiers (catalog.visit (visited ++ [(last, lastDecl)])) decl ↔
          atom ∈ catalog.satisfiers (catalog.visit visited) decl := by
      rw [mem_satisfiers_iff, mem_satisfiers_iff]
      refine and_congr_right fun _ => and_congr_left fun _ => forall₂_congr fun super above => ?_
      rw [mem_visit_concat, or_iff_left]
      rintro ⟨rfl, -⟩
      exact absurd (lower _ above) (Nat.lt_irrefl _)
    have earlierBelow (interface : InterfaceId) (decl : InterfaceDecl) (inside : (interface, decl) ∈ visited) :=
      below interface decl (List.mem_append_left _ inside)
    rw [mem_visit_concat, ih earlierAscending earlierBelow]
    constructor
    · rintro (⟨decl, inside, satisfies⟩ | ⟨rfl, satisfies⟩)
      · refine ⟨decl, List.mem_append_left _ inside, (unchanged decl fun super above => ?_).2 satisfies⟩
        exact Nat.lt_trans (earlierBelow interface decl inside super above) (before interface decl inside)
      · have inside := List.mem_append_right visited (List.mem_singleton_self (interface, lastDecl))
        exact ⟨lastDecl, inside, (unchanged lastDecl (below _ _ inside)).2 satisfies⟩
    · rintro ⟨decl, inside, satisfies⟩
      rcases List.mem_append.1 inside with earlier | new
      · refine .inl ⟨decl, earlier, (unchanged decl fun super above => ?_).1 satisfies⟩
        exact Nat.lt_trans (earlierBelow interface decl earlier super above) (before interface decl earlier)
      · cases List.mem_singleton.1 new
        exact .inr ⟨rfl, (unchanged lastDecl (below _ _ inside)).1 satisfies⟩

theorem SupersBelow.mem_satisfaction_step_iff (below : catalog.SupersBelow) :
    (atom, interface) ∈ catalog.satisfaction ↔
      ∃ decl, catalog.interfaces.get? interface = some decl ∧
        atom ∈ catalog.satisfiers catalog.satisfaction decl := by
  have fixed := @mem_visit_iff catalog atom interface catalog.interfaces.enum catalog.interfaces.enum_ascending
    fun interface decl inside => below interface decl (Table.mem_enum.1 inside)
  simp only [Table.mem_enum, ← satisfaction_eq_visit] at fixed
  exact fixed

theorem SupersBelow.mem_satisfaction_of_extends (below : catalog.SupersBelow)
    (satisfies : (atom, interface) ∈ catalog.satisfaction) (reaches : catalog.Extends interface other) :
    (atom, other) ∈ catalog.satisfaction := by
  induction reaches with
  | refl => exact satisfies
  | tail _ above ih =>
    obtain ⟨decl, found, inside⟩ := below.mem_satisfaction_step_iff.1 ih
    obtain ⟨_, same, named⟩ := mem_supersOf_iff.1 above
    cases found.symm.trans same
    exact (mem_satisfiers_iff.1 inside).2.1 _ named

theorem SupersBelow.mem_satisfaction_iff (below : catalog.SupersBelow) :
    (atom, interface) ∈ catalog.satisfaction ↔
      catalog.atoms.contains atom = true ∧ catalog.interfaces.contains interface = true ∧
        ∀ other, catalog.Extends interface other → ∀ requirement, catalog.Requires other requirement →
          catalog.defines atom requirement = true := by
  constructor
  · intro satisfies
    obtain ⟨decl, found, inside⟩ := below.mem_satisfaction_step_iff.1 satisfies
    refine ⟨(mem_satisfiers_iff.1 inside).1, Table.contains_iff.2 ⟨decl, found⟩, ?_⟩
    rintro other reaches requirement ⟨otherDecl, otherFound, asked⟩
    obtain ⟨_, same, otherInside⟩ :=
      below.mem_satisfaction_step_iff.1 (below.mem_satisfaction_of_extends satisfies reaches)
    cases otherFound.symm.trans same
    exact (mem_satisfiers_iff.1 otherInside).2.2 requirement asked
  · rintro ⟨known, declared, meets⟩
    -- Induction on the handle: the supers of an interface stand before it.
    induction bound : interface.raw using Nat.strongRecOn generalizing interface with
    | ind raw ih =>
      subst bound
      obtain ⟨decl, found⟩ := Table.contains_iff.1 declared
      refine below.mem_satisfaction_step_iff.2 ⟨decl, found, mem_satisfiers_iff.2 ⟨known, ?_, ?_⟩⟩
      · intro super above
        have step : catalog.Extends interface super := .single (mem_supersOf_iff.2 ⟨decl, found, above⟩)
        exact ih super.raw (below interface decl found super above) (below.contains_of_extends declared step)
          (fun other reaches => meets other (step.trans reaches)) rfl
      · intro requirement asked
        exact meets interface .refl requirement ⟨decl, found, asked⟩

end AtomResolution.Catalog
