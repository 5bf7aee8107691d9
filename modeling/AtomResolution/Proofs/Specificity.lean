import AtomResolution.TypeTag

/-!
The order of patterns by how much they say. Saying at least as much is reflexive and transitive, and saying
more is its strict part; so a chain of comparisons with one strict step in it is strict as a whole.
-/

namespace AtomResolution

theorem InterfaceSet.isSupersetOf_iff {set other : InterfaceSet} :
    set.isSupersetOf other = true ↔ ∀ interface ∈ other, interface ∈ set := by
  unfold isSupersetOf
  rw [List.all_eq_true]
  exact forall₂_congr fun interface inside => contains_iff

theorem InterfaceSet.eq_of_mem_iff {set other : InterfaceSet}
    (same : ∀ interface, interface ∈ set ↔ interface ∈ other) : set = other := by
  have nodup (set : InterfaceSet) : set.members.Nodup := by
    apply set.ascending.imp
    intro lower upper below equal
    exact absurd below (equal ▸ Nat.lt_irrefl _)
  have permuted : set.members.Perm other.members :=
    (List.perm_ext_iff_of_nodup (nodup set) (nodup other)).2 same
  have sameList : set.members = other.members := by
    apply permuted.eq_of_pairwise _ set.ascending other.ascending
    intro lower upper _ _ below above
    exact absurd above (Nat.lt_asymm below)
  cases set
  cases other
  cases sameList
  rfl

namespace TypeTag

/-- One pattern says at least as much as another one. -/
def AtLeast (left right : TypeTag) : Prop :=
  left.compareSpecificity right = some .eq ∨ left.compareSpecificity right = some .gt

/-- One pattern says more than another one. -/
def More (left right : TypeTag) : Prop := left.compareSpecificity right = some .gt

/-- What saying at least as much comes to: atoms are the same, sets compare by inclusion, and patterns of
different forms by rank. -/
def Covers : (left right : TypeTag) → Prop
  | .atom left, .atom right => left = right
  | .interfaces left, .interfaces right => left.isSupersetOf right = true
  | left, right => right.specificity.rank ≤ left.specificity.rank

theorem compare_ranks (left right : Specificity) :
    (some (compare left right) = some .eq ↔ right.rank ≤ left.rank ∧ left.rank ≤ right.rank) ∧
    (some (compare left right) = some .gt ↔ right.rank ≤ left.rank ∧ ¬ left.rank ≤ right.rank) := by
  simp only [Option.some.injEq]
  change (compare left.rank right.rank = .eq ↔ _) ∧ (compare left.rank right.rank = .gt ↔ _)
  rw [Nat.compare_eq_eq, Nat.compare_eq_gt]
  omega

theorem compareSpecificity_iff (left right : TypeTag) :
    (left.compareSpecificity right = some .eq ↔ left.Covers right ∧ right.Covers left) ∧
    (left.compareSpecificity right = some .gt ↔ left.Covers right ∧ ¬ right.Covers left) := by
  cases left with
  | atom left =>
    cases right with
    | atom right => by_cases same : left = right <;> simp [compareSpecificity, Covers, same]
    | interfaces _ | dynamic | any => exact compare_ranks _ _
  | interfaces left =>
    cases right with
    | interfaces right =>
      simp only [compareSpecificity, Covers]
      cases left.isSupersetOf right <;> cases right.isSupersetOf left <;> simp
    | atom _ | dynamic | any => exact compare_ranks _ _
  | dynamic | any => cases right <;> exact compare_ranks _ _

theorem atLeast_iff {left right : TypeTag} : left.AtLeast right ↔ left.Covers right := by
  unfold AtLeast
  rw [(compareSpecificity_iff left right).1, (compareSpecificity_iff left right).2]
  by_cases back : right.Covers left <;> simp [back]

theorem more_iff {left right : TypeTag} : left.More right ↔ left.AtLeast right ∧ ¬ right.AtLeast left := by
  rw [atLeast_iff, atLeast_iff]
  exact (compareSpecificity_iff left right).2

theorem atLeast_refl (pattern : TypeTag) : pattern.AtLeast pattern := by
  rw [atLeast_iff]
  cases pattern with
  | atom id => rfl
  | interfaces set => exact InterfaceSet.isSupersetOf_iff.2 fun _ inside => inside
  | dynamic | any => exact Nat.le_refl _

theorem not_more_self (pattern : TypeTag) : ¬ pattern.More pattern :=
  fun more => (more_iff.1 more).2 (atLeast_refl pattern)

theorem rank_interfaces (set : InterfaceSet) :
    (interfaces set).specificity.rank = if set.members = [] then 0 else 1 := by
  simp only [specificity, InterfaceSet.isEmpty, List.isEmpty_iff]
  split <;> rfl

theorem Covers.rank_le {left right : TypeTag} (covers : left.Covers right) :
    right.specificity.rank ≤ left.specificity.rank := by
  cases left with
  | atom left =>
    cases right with
    | atom right => exact Nat.le_refl _
    | interfaces _ | dynamic | any => exact covers
  | interfaces left =>
    cases right with
    | interfaces right =>
      have larger := InterfaceSet.isSupersetOf_iff.1 covers
      rw [rank_interfaces, rank_interfaces]
      by_cases none : left.members = []
      · have noneBelow : right.members = [] :=
          List.eq_nil_iff_forall_not_mem.2 fun interface inside => by
            have above : interface ∈ left.members := larger interface inside
            simp [none] at above
        exact Nat.le_of_eq (by rw [if_pos none, if_pos noneBelow])
      · rw [if_neg none]
        split <;> decide
    | atom _ | dynamic | any => exact covers
  | dynamic | any => cases right <;> exact covers

/-- Between two patterns of one form the ranks force the form of a third, or leave the last one without
members. -/
theorem Covers.trans {left middle right : TypeTag} (first : left.Covers middle) (second : middle.Covers right) :
    left.Covers right := by
  have upper := first.rank_le
  have lower := second.rank_le
  cases left with
  | atom left =>
    cases right with
    | atom right =>
      cases middle with
      | atom middle => exact Eq.trans first second
      | interfaces set =>
        rw [rank_interfaces] at lower
        split at lower <;> exact absurd lower (by simp [specificity, Specificity.rank])
      | dynamic | any => exact absurd lower (by simp [specificity, Specificity.rank])
    | interfaces _ | dynamic | any => exact Nat.le_trans lower upper
  | interfaces left =>
    cases right with
    | interfaces right =>
      cases middle with
      | interfaces middle =>
        have larger := InterfaceSet.isSupersetOf_iff.1 first
        have smaller := InterfaceSet.isSupersetOf_iff.1 second
        exact InterfaceSet.isSupersetOf_iff.2 fun interface inside =>
          larger interface (smaller interface inside)
      | atom _ =>
        rw [rank_interfaces] at upper
        split at upper <;> exact absurd upper (by simp [specificity, Specificity.rank])
      | dynamic | any =>
        have none : right.members = [] := by
          rw [rank_interfaces] at lower
          split at lower
          · assumption
          · exact absurd lower (by simp [specificity, Specificity.rank])
        refine InterfaceSet.isSupersetOf_iff.2 fun interface inside => ?_
        have absurdity : interface ∈ right.members := inside
        simp [none] at absurdity
    | atom _ | dynamic | any => exact Nat.le_trans lower upper
  | dynamic | any => cases right <;> exact Nat.le_trans lower upper

theorem AtLeast.trans {left middle right : TypeTag} (first : left.AtLeast middle)
    (second : middle.AtLeast right) : left.AtLeast right := by
  rw [atLeast_iff] at first second ⊢
  exact first.trans second

theorem More.trans_atLeast {left middle right : TypeTag} (first : left.More middle)
    (second : middle.AtLeast right) : left.More right := by
  obtain ⟨above, notBelow⟩ := more_iff.1 first
  exact more_iff.2 ⟨above.trans second, fun back => notBelow (second.trans back)⟩

end TypeTag

end AtomResolution
