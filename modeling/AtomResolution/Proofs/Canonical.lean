import Mathlib.Data.List.Destutter
import AtomResolution.Proofs.Specificity

/-!
Interface sets are canonical: lists with the same members make the same set, however often and in which order they
name them. Its members are the sorted list without what repeats its neighbour, which is what binary search needs.
-/

namespace AtomResolution.InterfaceSet

variable {interfaces left right : List InterfaceId} {interface : InterfaceId} {set other : InterfaceSet}

/-- Sorts a list and drops every member that repeats the one before it. -/
def sortedOnce (interfaces : List InterfaceId) : List InterfaceId :=
  (interfaces.mergeSort fun lower upper => lower.raw ≤ upper.raw).destutter (· ≠ ·)

instance : Std.Antisymm fun lower upper : InterfaceId => lower.raw ≤ upper.raw :=
  ⟨fun _ _ below above => congrArg Handle.mk (Nat.le_antisymm below above)⟩

theorem mergeSort_sorted (interfaces : List InterfaceId) :
    (interfaces.mergeSort fun lower upper => lower.raw ≤ upper.raw).Pairwise
      fun lower upper => lower.raw ≤ upper.raw := by
  have transitive (lower middle upper : InterfaceId) (below : decide (lower.raw ≤ middle.raw) = true)
      (above : decide (middle.raw ≤ upper.raw) = true) : decide (lower.raw ≤ upper.raw) = true :=
    decide_eq_true (Nat.le_trans (of_decide_eq_true below) (of_decide_eq_true above))
  have total (left right : InterfaceId) :
      (decide (left.raw ≤ right.raw) || decide (right.raw ≤ left.raw)) = true := by
    simpa using Nat.le_total left.raw right.raw
  exact (List.pairwise_mergeSort transitive total interfaces).imp of_decide_eq_true

theorem sortedOnce_eq_dedup (interfaces : List InterfaceId) :
    sortedOnce interfaces = (interfaces.mergeSort fun lower upper => lower.raw ≤ upper.raw).dedup :=
  (mergeSort_sorted interfaces).destutter_eq_dedup

theorem mem_sortedOnce : interface ∈ sortedOnce interfaces ↔ interface ∈ interfaces := by
  rw [sortedOnce_eq_dedup, List.mem_dedup, List.mem_mergeSort]

theorem sortedOnce_ascending (interfaces : List InterfaceId) :
    (sortedOnce interfaces).Pairwise fun lower upper => lower.raw < upper.raw := by
  have sorted : (sortedOnce interfaces).Pairwise fun lower upper => lower.raw ≤ upper.raw :=
    (mergeSort_sorted interfaces).sublist (List.destutter_sublist _ _)
  have once : (sortedOnce interfaces).Nodup := by
    rw [sortedOnce_eq_dedup]
    exact List.nodup_dedup _
  apply sorted.imp₂ _ once
  intro lower upper below different
  exact Nat.lt_of_le_of_ne below fun same => different (congrArg Handle.mk same)

/-- Placing members one by one makes what sorting them and dropping repeats makes. -/
theorem members_ofList (interfaces : List InterfaceId) : (ofList interfaces).members = sortedOnce interfaces := by
  have same : ofList interfaces = ⟨sortedOnce interfaces, sortedOnce_ascending interfaces⟩ := by
    apply eq_of_mem_iff
    intro interface
    rw [mem_ofList]
    exact mem_sortedOnce.symm
  exact congrArg members same

theorem ofList_members (set : InterfaceSet) : ofList set.members = set := by
  apply eq_of_mem_iff
  intro interface
  exact mem_ofList

theorem ofList_eq_iff : ofList left = ofList right ↔ ∀ interface, interface ∈ left ↔ interface ∈ right := by
  constructor
  · intro same interface
    rw [← mem_ofList, same, mem_ofList]
  · intro same
    apply eq_of_mem_iff
    intro interface
    rw [mem_ofList, mem_ofList]
    exact same interface

theorem eq_of_isSupersetOf (larger : set.isSupersetOf other = true) (smaller : other.isSupersetOf set = true) :
    set = other := by
  apply eq_of_mem_iff
  intro interface
  exact ⟨isSupersetOf_iff.1 smaller interface, isSupersetOf_iff.1 larger interface⟩

/-- What is known of a set that a list makes. -/
structure Canonical (interfaces : List InterfaceId) : Prop where
  members : (ofList interfaces).members = sortedOnce interfaces
  ascending : (sortedOnce interfaces).Pairwise fun lower upper => lower.raw < upper.raw
  exact : ∀ interface, interface ∈ sortedOnce interfaces ↔ interface ∈ interfaces
  searched : ∀ interface, (ofList interfaces).contains interface = true ↔ interface ∈ interfaces

theorem canonical_ofList (interfaces : List InterfaceId) : Canonical interfaces where
  members := members_ofList interfaces
  ascending := sortedOnce_ascending interfaces
  exact _ := mem_sortedOnce
  searched _ := contains_iff.trans mem_ofList

structure Comparable (left right : List InterfaceId) : Prop where
  equal : ofList left = ofList right ↔ ∀ interface, interface ∈ left ↔ interface ∈ right
  superset : (ofList left).isSupersetOf (ofList right) = true ↔ right ⊆ left
  antisymmetric : (ofList left).isSupersetOf (ofList right) = true →
    (ofList right).isSupersetOf (ofList left) = true → ofList left = ofList right

theorem comparable_ofList (left right : List InterfaceId) : Comparable left right where
  equal := ofList_eq_iff
  superset := by
    rw [isSupersetOf_iff]
    simp only [mem_ofList]
    rfl
  antisymmetric := eq_of_isSupersetOf

end AtomResolution.InterfaceSet
