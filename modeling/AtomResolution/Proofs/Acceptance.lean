import AtomResolution.Proofs.Specificity

/-!
What patterns accept, beside how much they say. Acceptance orders types, whichever atoms satisfy which
interfaces, and of two patterns that share an atom the one that says more accepts fewer. Patterns that say
equally much accept the same types but for one corner: the empty set of interfaces ranks with the top and yet
rejects it.
-/

namespace AtomResolution.TypeTag

section Order

variable {left middle right first : TypeTag} {rest : List TypeTag}

theorem compareSpecificity_swap (left right : TypeTag) :
    left.compareSpecificity right = (right.compareSpecificity left).map Ordering.swap := by
  have ranks (left right : Specificity) : some (compare left right) = (some (compare right left)).map Ordering.swap :=
    congrArg some (Nat.compare_swap right.rank left.rank).symm
  cases left with
  | atom left =>
    cases right with
    | atom right => by_cases same : left = right <;> simp [compareSpecificity, same, eq_comm]
    | interfaces _ | dynamic | any => exact ranks _ _
  | interfaces left =>
    cases right with
    | interfaces right =>
      simp only [compareSpecificity]
      cases left.isSupersetOf right <;> cases right.isSupersetOf left <;> rfl
    | atom _ | dynamic | any => exact ranks _ _
  | dynamic | any => cases right <;> exact ranks _ _

theorem AtLeast.more_or_back (atLeast : left.AtLeast right) : left.More right ∨ right.AtLeast left := by
  by_cases back : right.AtLeast left
  · exact .inr back
  · exact .inl (more_iff.2 ⟨atLeast, back⟩)

theorem more_through_iff (above : left.AtLeast middle) (below : middle.AtLeast right) :
    left.More right ↔ left.More middle ∨ middle.More right := by
  constructor
  · intro more
    rcases above.more_or_back with here | back
    · exact .inl here
    · rcases below.more_or_back with there | further
      · exact .inr there
      · exact absurd (further.trans back) (more_iff.1 more).2
  · intro some
    rcases some with here | there
    · exact here.trans_atLeast below
    · refine more_iff.2 ⟨above.trans below, fun back => ?_⟩
      exact (more_iff.1 there).2 (back.trans above)

theorem atLeast_getLastD (steps : ∀ step ∈ (first :: rest).zip rest, step.1.AtLeast step.2) :
    first.AtLeast (rest.getLastD first) := by
  induction rest generalizing first with
  | nil => exact atLeast_refl first
  | cons next others ih =>
    rw [List.zip_cons_cons, List.forall_mem_cons] at steps
    rw [List.getLastD_cons]
    exact steps.1.trans (ih steps.2)

theorem more_getLastD_iff (steps : ∀ step ∈ (first :: rest).zip rest, step.1.AtLeast step.2) :
    first.More (rest.getLastD first) ↔ ∃ step ∈ (first :: rest).zip rest, step.1.More step.2 := by
  induction rest generalizing first with
  | nil => exact iff_of_false (not_more_self first) (by simp)
  | cons next others ih =>
    rw [List.zip_cons_cons, List.forall_mem_cons] at steps
    obtain ⟨here, later⟩ := steps
    rw [List.getLastD_cons, List.zip_cons_cons, more_through_iff here (atLeast_getLastD later), ih later]
    simp only [List.mem_cons, exists_eq_or_imp]

end Order

section Acceptance

variable {satisfies : AtomId → InterfaceId → Bool} {left middle right actual : TypeTag} {atom found : AtomId}
  {required known : InterfaceSet}

theorem accepts_atom_iff : (TypeTag.atom atom).acceptsWith satisfies actual = true ↔ actual = .atom atom := by
  cases actual with
  | atom found => simp [acceptsWith, eq_comm]
  | interfaces _ | dynamic | any => simp [acceptsWith]

theorem interfaces_accept_atom_iff : (interfaces required).acceptsWith satisfies (.atom found) = true ↔
    ∀ interface ∈ required, satisfies found interface = true := List.all_eq_true

theorem interfaces_accept_interfaces_iff :
    (interfaces required).acceptsWith satisfies (.interfaces known) = true ↔
      ∀ interface ∈ required, interface ∈ known := InterfaceSet.isSupersetOf_iff

theorem top_accepts (top : left.isTop = true) : left.acceptsWith satisfies actual = true := by
  cases left with
  | dynamic | any => rfl
  | atom _ | interfaces _ => cases top

theorem accepts_top_iff (top : actual.isTop = true) :
    left.acceptsWith satisfies actual = true ↔ left.isTop = true := by
  cases actual with
  | dynamic | any => cases left <;> simp [acceptsWith, isTop]
  | atom _ | interfaces _ => cases top

theorem accepts_refl (satisfies : AtomId → InterfaceId → Bool) (pattern : TypeTag) :
    pattern.acceptsWith satisfies pattern = true := by
  cases pattern with
  | atom _ => exact accepts_atom_iff.2 rfl
  | interfaces set => exact interfaces_accept_interfaces_iff.2 fun _ inside => inside
  | dynamic | any => rfl

theorem accepts_trans (above : left.acceptsWith satisfies middle = true)
    (below : middle.acceptsWith satisfies right = true) : left.acceptsWith satisfies right = true := by
  cases left with
  | dynamic | any => rfl
  | atom _ =>
    cases accepts_atom_iff.1 above
    exact below
  | interfaces required =>
    cases middle with
    | dynamic | any => cases (accepts_top_iff rfl).1 above
    | atom _ =>
      cases accepts_atom_iff.1 below
      exact above
    | interfaces known =>
      have wider := interfaces_accept_interfaces_iff.1 above
      cases right with
      | dynamic | any => cases (accepts_top_iff rfl).1 below
      | atom _ =>
        have satisfied := interfaces_accept_atom_iff.1 below
        exact interfaces_accept_atom_iff.2 fun interface inside => satisfied interface (wider interface inside)
      | interfaces _ =>
        have further := interfaces_accept_interfaces_iff.1 below
        exact interfaces_accept_interfaces_iff.2 fun interface inside => further interface (wider interface inside)

theorem rank_eq_zero_iff : left.specificity.rank = 0 ↔ left.isTop = true ∨ left = .interfaces .empty := by
  cases left with
  | atom _ | dynamic | any => simp [specificity, Specificity.rank, isTop]
  | interfaces set =>
    obtain ⟨members, ascending⟩ := set
    rw [rank_interfaces]
    simp [isTop, InterfaceSet.empty]

theorem lowest_accepts_iff (lowest : left.specificity.rank = 0) :
    left.acceptsWith satisfies actual = true ↔ (actual.isTop = true → left ≠ .interfaces .empty) := by
  rcases rank_eq_zero_iff.1 lowest with top | rfl
  · refine iff_of_true (top_accepts top) fun _ isEmpty => ?_
    rw [isEmpty] at top
    cases top
  · cases actual with
    | atom _ => exact iff_of_true rfl fun top => by cases top
    | interfaces _ => exact iff_of_true rfl fun top => by cases top
    | dynamic | any => exact iff_of_false Bool.false_ne_true fun nonempty => nonempty rfl rfl

theorem rank_interfaces_lt (set : InterfaceSet) (atom : AtomId) :
    (interfaces set).specificity.rank < (TypeTag.atom atom).specificity.rank := by
  rw [rank_interfaces]
  split
  · exact Nat.zero_lt_two
  · exact Nat.one_lt_two

/-- Of two patterns that share an atom, the one that says at least as much accepts no other atoms than the other
one. Without a shared atom this fails: an atom says more than a set that it does not satisfy. -/
theorem Covers.accepts_atom (covers : left.Covers right) (here : left.acceptsWith satisfies (.atom found) = true)
    (there : right.acceptsWith satisfies (.atom found) = true)
    (accepted : left.acceptsWith satisfies (.atom atom) = true) :
    right.acceptsWith satisfies (.atom atom) = true := by
  have lowest (low : right.specificity.rank = 0) : right.acceptsWith satisfies (.atom atom) = true :=
    (lowest_accepts_iff low).2 fun top => by cases top
  cases left with
  | atom _ =>
    cases accepts_atom_iff.1 here
    cases accepts_atom_iff.1 accepted
    exact there
  | dynamic | any => exact lowest (Nat.le_zero.1 covers.rank_le)
  | interfaces larger =>
    cases right with
    | dynamic | any => rfl
    | atom other => exact absurd covers.rank_le (Nat.not_le_of_lt (rank_interfaces_lt larger other))
    | interfaces smaller =>
      have inclusion := InterfaceSet.isSupersetOf_iff.1 covers
      have satisfied := interfaces_accept_atom_iff.1 accepted
      exact interfaces_accept_atom_iff.2 fun interface inside => satisfied interface (inclusion interface inside)

theorem eq_or_lowest_of_equal (equal : left.compareSpecificity right = some .eq) :
    left = right ∨ left.specificity.rank = 0 ∧ right.specificity.rank = 0 := by
  obtain ⟨covers, back⟩ := (compareSpecificity_iff left right).1.1 equal
  have ranks := Nat.le_antisymm back.rank_le covers.rank_le
  by_cases lowest : left.specificity.rank = 0
  · exact .inr ⟨lowest, ranks ▸ lowest⟩
  · left
    cases left with
    | dynamic | any => exact absurd rfl lowest
    | atom atom =>
      cases right with
      | dynamic | any => cases ranks
      | atom _ => exact congrArg TypeTag.atom covers
      | interfaces set => exact absurd ranks (Nat.ne_of_gt (rank_interfaces_lt set atom))
    | interfaces larger =>
      cases right with
      | dynamic | any => exact absurd ranks lowest
      | atom atom => exact absurd ranks (Nat.ne_of_lt (rank_interfaces_lt larger atom))
      | interfaces smaller =>
        have inclusion := InterfaceSet.isSupersetOf_iff.1 covers
        have backwards := InterfaceSet.isSupersetOf_iff.1 back
        exact congrArg interfaces
          (InterfaceSet.eq_of_mem_iff fun interface => ⟨backwards interface, inclusion interface⟩)

end Acceptance

/-- Acceptance is reflexive and transitive, whichever atoms satisfy which interfaces. So is saying at least as
much; a chain of patterns that never say less says more as a whole exactly if some step does, and comparing the
other way round turns the outcome around. The two orders agree on the atoms: of two patterns that share one, the
pattern that says at least as much accepts nothing that the other one rejects. -/
theorem specificity_sound (satisfies : AtomId → InterfaceId → Bool) :
    (∀ pattern : TypeTag, pattern.acceptsWith satisfies pattern = true) ∧
    (∀ left middle right : TypeTag, left.acceptsWith satisfies middle = true →
      middle.acceptsWith satisfies right = true → left.acceptsWith satisfies right = true) ∧
    (∀ left right : TypeTag, left.compareSpecificity right = (right.compareSpecificity left).map Ordering.swap) ∧
    (∀ pattern : TypeTag, pattern.AtLeast pattern) ∧
    (∀ left middle right : TypeTag, left.AtLeast middle → middle.AtLeast right → left.AtLeast right) ∧
    (∀ (first : TypeTag) (rest : List TypeTag), (∀ step ∈ (first :: rest).zip rest, step.1.AtLeast step.2) →
      (first.More (rest.getLastD first) ↔ ∃ step ∈ (first :: rest).zip rest, step.1.More step.2)) ∧
    ∀ (left right : TypeTag) (found : AtomId), left.acceptsWith satisfies (.atom found) = true →
      right.acceptsWith satisfies (.atom found) = true → left.AtLeast right →
      ∀ atom, left.acceptsWith satisfies (.atom atom) = true → right.acceptsWith satisfies (.atom atom) = true := by
  refine ⟨accepts_refl satisfies, ?_, compareSpecificity_swap, atLeast_refl, ?_, ?_, ?_⟩
  · intro left middle right above below
    exact accepts_trans above below
  · intro left middle right above below
    exact above.trans below
  · intro first rest steps
    exact more_getLastD_iff steps
  · intro left right found here there atLeast atom accepted
    exact (atLeast_iff.1 atLeast).accepts_atom here there accepted

def downward : List TypeTag :=
  [.interfaces (.ofList [⟨1⟩, ⟨0⟩, ⟨1⟩]), .interfaces (.ofList [⟨1⟩]), .interfaces .empty, .dynamic, .any]

theorem specificity_sound_downward :
    (∀ step ∈ (.atom ⟨5⟩ :: downward).zip downward, step.1.AtLeast step.2) ∧
    (TypeTag.atom ⟨5⟩).More .any ∧
    (TypeTag.interfaces (.ofList [⟨1⟩])).acceptsWith (fun atom _ => 5 ≤ atom.raw) (.atom ⟨6⟩) = true := by
  have ⟨_, _, _, _, _, chain, atoms⟩ := specificity_sound fun atom _ => 5 ≤ atom.raw
  have steps : ∀ step ∈ (.atom ⟨5⟩ :: downward).zip downward, step.1.AtLeast step.2 := by
    unfold AtLeast
    decide
  have larger : (TypeTag.interfaces (.ofList [⟨1⟩, ⟨0⟩, ⟨1⟩])).AtLeast (.interfaces (.ofList [⟨1⟩])) := .inr rfl
  exact ⟨steps, (chain _ downward steps).2 ⟨_, List.mem_cons_self, rfl⟩,
    atoms _ _ ⟨5⟩ rfl rfl larger ⟨6⟩ rfl⟩

/-- Patterns that say equally much accept the same types, unless just one of them is the empty set of interfaces:
then they differ on the top and on nothing else. -/
theorem equal_accepts_alike_iff {left right : TypeTag} (equal : left.compareSpecificity right = some .eq)
    (satisfies : AtomId → InterfaceId → Bool) (actual : TypeTag) :
    left.acceptsWith satisfies actual = right.acceptsWith satisfies actual ↔
      (actual.isTop = true → (left = .interfaces .empty ↔ right = .interfaces .empty)) := by
  rcases eq_or_lowest_of_equal equal with rfl | ⟨lowest, alsoLowest⟩
  · exact iff_of_true rfl fun _ => Iff.rfl
  · rw [Bool.eq_iff_iff, lowest_accepts_iff lowest, lowest_accepts_iff alsoLowest]
    by_cases top : actual.isTop = true
    · simp only [top, forall_const]
      exact Decidable.not_iff_not
    · exact iff_of_true (by simp [top]) fun isTop => absurd isTop top

theorem equal_accepts_alike_iff_reordered :
    (TypeTag.interfaces (.ofList [⟨1⟩, ⟨0⟩, ⟨1⟩])).compareSpecificity (.interfaces (.ofList [⟨0⟩, ⟨1⟩])) = some .eq ∧
    (TypeTag.interfaces (.ofList [⟨1⟩, ⟨0⟩, ⟨1⟩])).acceptsWith (fun _ _ => false) .any =
      (TypeTag.interfaces (.ofList [⟨0⟩, ⟨1⟩])).acceptsWith (fun _ _ => false) .any ∧
    TypeTag.dynamic.compareSpecificity .any = some .eq ∧
    TypeTag.dynamic.acceptsWith (fun _ _ => false) .any = TypeTag.any.acceptsWith (fun _ _ => false) .any :=
  ⟨rfl, (equal_accepts_alike_iff rfl _ _).2 fun _ => by decide,
    rfl, (equal_accepts_alike_iff rfl _ _).2 fun _ => by decide⟩

/-- The empty set of interfaces says as much as the top, but does not accept it. -/
theorem empty_rejects_top :
    (TypeTag.interfaces .empty).compareSpecificity .any = some .eq ∧
    TypeTag.any.acceptsWith (fun _ _ => true) .any = true ∧
    (TypeTag.interfaces .empty).acceptsWith (fun _ _ => true) .any = false := ⟨rfl, rfl, rfl⟩

end AtomResolution.TypeTag
