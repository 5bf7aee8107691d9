import Mathlib.Data.List.Nodup
import Mathlib.Logic.Relation
import AtomResolution.Catalog.Supers

/-!
The closure of supers. The list that is scanned while it grows ends up with exactly the interfaces that can
be reached through supers, each once, also where the supers run in circles or name what is not declared.
-/

namespace AtomResolution.Catalog

variable {catalog : Catalog} {interface other super : InterfaceId} {listed more : List InterfaceId} {next : Nat}

def Extends (catalog : Catalog) : InterfaceId → InterfaceId → Prop :=
  Relation.ReflTransGen fun interface super => super ∈ catalog.supersOf interface

theorem mem_supersOf_iff : super ∈ catalog.supersOf interface ↔
    ∃ decl, catalog.interfaces.get? interface = some decl ∧ super ∈ decl.supers := by
  unfold supersOf
  cases catalog.interfaces.get? interface with
  | none => simp
  | some decl => simp

theorem addMissing_cons (listed more : List InterfaceId) (first : InterfaceId) :
    addMissing listed (first :: more) =
      addMissing (if listed.contains first then listed else listed ++ [first]) more := rfl

theorem mem_addMissing : other ∈ addMissing listed more ↔ other ∈ listed ∨ other ∈ more := by
  induction more generalizing listed with
  | nil => simp [addMissing]
  | cons first more ih =>
    rw [addMissing_cons, ih, List.mem_cons]
    split
    next known =>
      have inside := List.contains_iff_mem.1 known
      constructor
      · exact Or.imp_right Or.inr
      · rintro (old | rfl | new)
        · exact .inl old
        · exact .inl inside
        · exact .inr new
    next => rw [List.mem_append, List.mem_singleton, or_assoc]

theorem nodup_addMissing (once : listed.Nodup) : (addMissing listed more).Nodup := by
  induction more generalizing listed with
  | nil => exact once
  | cons first more ih =>
    rw [addMissing_cons]
    split
    next => exact ih once
    next unknown =>
      have outside : first ∉ listed := fun inside => unknown (List.contains_iff_mem.2 inside)
      refine ih ?_
      rw [List.nodup_append_comm]
      exact List.nodup_cons.2 ⟨outside, once⟩

theorem prefix_addMissing (listed more : List InterfaceId) : listed <+: addMissing listed more := by
  induction more generalizing listed with
  | nil => exact List.prefix_rfl
  | cons first more ih =>
    rw [addMissing_cons]
    split
    next => exact ih listed
    next => exact (List.prefix_append listed [first]).trans (ih _)

/-- The list after its members before position `next` were expanded. -/
structure Expanding (catalog : Catalog) (interface : InterfaceId) (next : Nat) (listed : List InterfaceId) :
    Prop where
  starts : listed.head? = some interface
  once : listed.Nodup
  reached : ∀ other ∈ listed, catalog.Extends interface other
  expanded : ∀ position other, position < next → listed[position]? = some other →
    ∀ super ∈ catalog.supersOf other, super ∈ listed

theorem Expanding.initial (catalog : Catalog) (interface : InterfaceId) :
    catalog.Expanding interface 0 [interface] where
  starts := rfl
  once := List.nodup_singleton interface
  reached := fun other inside => by
    rw [List.mem_singleton.1 inside]
    exact .refl
  expanded := fun position _ impossible => absurd impossible (Nat.not_lt_zero position)

theorem Expanding.step {current : InterfaceId} (expanding : catalog.Expanding interface next listed)
    (here : listed[next]? = some current) :
    catalog.Expanding interface (next + 1) (addMissing listed (catalog.supersOf current)) where
  starts := by
    obtain ⟨rest, grown⟩ := prefix_addMissing listed (catalog.supersOf current)
    rw [← grown, List.head?_append, expanding.starts]
    rfl
  once := nodup_addMissing expanding.once
  reached := fun other inside => by
    rcases mem_addMissing.1 inside with old | new
    · exact expanding.reached other old
    · exact (expanding.reached current (List.mem_of_getElem? here)).tail new
  expanded := fun position other before found super above => by
    obtain ⟨rest, grown⟩ := prefix_addMissing listed (catalog.supersOf current)
    have bound := (List.getElem?_eq_some_iff.1 here).1
    rw [← grown, List.getElem?_append_left (by omega)] at found
    rcases Nat.lt_succ_iff_lt_or_eq.1 before with earlier | rfl
    · exact mem_addMissing.2 (.inl (expanding.expanded position other earlier found super above))
    · cases here.symm.trans found
      exact mem_addMissing.2 (.inr above)

theorem Extends.mem_allSupers (reaches : catalog.Extends interface other) :
    other ∈ interface :: catalog.allSupers := by
  rcases Relation.ReflTransGen.cases_tail reaches with rfl | ⟨last, _, above⟩
  · exact List.mem_cons_self
  · obtain ⟨decl, found, inside⟩ := mem_supersOf_iff.1 above
    exact List.mem_cons_of_mem _ (List.mem_flatMap.2 ⟨decl, List.mem_of_getElem? found, inside⟩)

theorem Expanding.length_le (expanding : catalog.Expanding interface next listed) :
    listed.length ≤ catalog.allSupers.length + 1 :=
  expanding.once.length_le_of_subset fun other inside => (expanding.reached other inside).mem_allSupers

theorem Expanding.expand {steps : Nat} (expanding : catalog.Expanding interface next listed)
    (enough : catalog.allSupers.length + 1 ≤ steps + next) :
    ∃ last, (catalog.expand steps next listed).length ≤ last ∧
      catalog.Expanding interface last (catalog.expand steps next listed) := by
  induction steps generalizing next listed with
  | zero =>
    have bound := expanding.length_le
    exact ⟨next, by rw [Catalog.expand]; omega, expanding⟩
  | succ steps ih =>
    rw [Catalog.expand]
    split
    next past => exact ⟨next, List.getElem?_eq_none_iff.1 past, expanding⟩
    next current here => exact ih (expanding.step here) (by omega)

theorem Expanding.expand_add {steps : Nat} (expanding : catalog.Expanding interface next listed)
    (enough : catalog.allSupers.length + 1 ≤ steps + next) (extra : Nat) :
    catalog.expand (steps + extra) next listed = catalog.expand steps next listed := by
  induction steps generalizing next listed with
  | zero =>
    have past : listed[next]? = none := by
      have bound := expanding.length_le
      exact List.getElem?_eq_none_iff.2 (by omega)
    cases extra with
    | zero => rfl
    | succ extra => rw [Nat.zero_add, Catalog.expand, Catalog.expand, past]
  | succ steps ih =>
    rw [Nat.succ_add, Catalog.expand, Catalog.expand]
    split
    next => rfl
    next current here => exact ih (expanding.step here) (by omega)

theorem withSupers_expanding (catalog : Catalog) (interface : InterfaceId) :
    ∃ last, (catalog.withSupers interface).length ≤ last ∧
      catalog.Expanding interface last (catalog.withSupers interface) :=
  (Expanding.initial catalog interface).expand (Nat.le_refl _)

theorem withSupers_congr {later : Catalog} (same : later.interfaces = catalog.interfaces) :
    later.withSupers interface = catalog.withSupers interface := by
  have expanded (steps next : Nat) (listed : List InterfaceId) :
      later.expand steps next listed = catalog.expand steps next listed := by
    induction steps generalizing next listed with
    | zero => rfl
    | succ steps ih =>
      unfold expand supersOf
      simp only [same, ih]
  unfold withSupers allSupers
  rw [same, expanded]

/-- The closure of supers lists the interfaces that an interface extends. -/
theorem mem_withSupers_iff : other ∈ catalog.withSupers interface ↔ catalog.Extends interface other := by
  obtain ⟨last, whole, expanding⟩ := catalog.withSupers_expanding interface
  refine ⟨expanding.reached other, fun reaches => ?_⟩
  induction reaches with
  | refl => exact List.mem_of_mem_head? expanding.starts
  | @tail middle super _ above inside =>
    obtain ⟨position, found⟩ := List.mem_iff_getElem?.1 inside
    have bound := (List.getElem?_eq_some_iff.1 found).1
    exact expanding.expanded position middle (by omega) found super above

/-- Supers stand before what extends them. -/
def SupersBelow (catalog : Catalog) : Prop :=
  ∀ interface decl, catalog.interfaces.get? interface = some decl →
    ∀ super ∈ decl.supers, super.raw < interface.raw

theorem SupersBelow.le_of_extends (below : catalog.SupersBelow) (reaches : catalog.Extends interface other) :
    other.raw ≤ interface.raw := by
  induction reaches with
  | refl => exact Nat.le_refl _
  | tail _ above ih =>
    obtain ⟨decl, found, inside⟩ := mem_supersOf_iff.1 above
    exact Nat.le_trans (Nat.le_of_lt (below _ decl found _ inside)) ih

theorem SupersBelow.contains_of_extends (below : catalog.SupersBelow)
    (declared : catalog.interfaces.contains interface = true) (reaches : catalog.Extends interface other) :
    catalog.interfaces.contains other = true := by
  have bound : interface.raw < catalog.interfaces.size := of_decide_eq_true declared
  exact decide_eq_true (Nat.lt_of_le_of_lt (below.le_of_extends reaches) bound)

section Later

/-! However many interfaces are declared later, a declared interface extends the same ones in the same order. -/

variable {later : Catalog} (below : catalog.SupersBelow)
  (kept : ∀ interface decl, catalog.interfaces.get? interface = some decl →
    later.interfaces.get? interface = some decl)
  (declared : catalog.interfaces.contains interface = true)
include below kept declared

theorem SupersBelow.supersOf_eq (reaches : catalog.Extends interface other) :
    later.supersOf other = catalog.supersOf other := by
  obtain ⟨decl, found⟩ := Table.contains_iff.1 (below.contains_of_extends declared reaches)
  unfold supersOf
  rw [found, kept other decl found]

theorem SupersBelow.extends_iff : later.Extends interface other ↔ catalog.Extends interface other := by
  constructor
  · intro reaches
    induction reaches with
    | refl => exact .refl
    | tail _ above ih => exact ih.tail (below.supersOf_eq kept declared ih ▸ above)
  · intro reaches
    induction reaches with
    | refl => exact .refl
    | tail before above ih => exact ih.tail ((below.supersOf_eq kept declared before).symm ▸ above)

theorem SupersBelow.expand_eq (steps : Nat) (expanding : catalog.Expanding interface next listed) :
    later.expand steps next listed = catalog.expand steps next listed := by
  induction steps generalizing next listed with
  | zero => rfl
  | succ steps ih =>
    rw [expand, expand]
    split
    next => rfl
    next current here =>
      have reached := expanding.reached current (List.mem_of_getElem? here)
      rw [below.supersOf_eq kept declared reached]
      exact ih (expanding.step here)

theorem SupersBelow.withSupers_eq : later.withSupers interface = catalog.withSupers interface := by
  have started := Expanding.initial catalog interface
  have startedLater := Expanding.initial later interface
  unfold withSupers
  -- Either catalog has enough fuel for itself, so both get the fuel of the two together.
  rw [← started.expand_add (Nat.le_refl _) (later.allSupers.length + 1),
    ← startedLater.expand_add (Nat.le_refl _) (catalog.allSupers.length + 1),
    below.expand_eq kept declared _ started, Nat.add_comm]

end Later

end AtomResolution.Catalog
