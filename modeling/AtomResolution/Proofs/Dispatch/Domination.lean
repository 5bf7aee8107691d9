import AtomResolution.Proofs.Dispatch.Places
import AtomResolution.Proofs.Specificity

/-!
Domination among the methods that compete for a call, place by place. It is a strict order, so in a finite
list every method that is dominated at all is dominated by one that nothing dominates.
-/

namespace AtomResolution

def MethodDecl.RelatesAt (relation : TypeTag → TypeTag → Prop) (position : Position)
    (decl other : MethodDecl) : Prop :=
  ∃ pattern otherPattern, decl.patternAt? position = some pattern ∧
    other.patternAt? position = some otherPattern ∧ relation pattern otherPattern

/-- For a call, one method dominates another: it says at least as much at every place that the call fills,
and more at one of them. -/
structure CallSite.Dominates (site : CallSite) (decl other : MethodDecl) : Prop where
  everywhere : ∀ position value, site.valueAt? position = some value →
    decl.RelatesAt TypeTag.AtLeast position other
  somewhere : ∃ position value, site.valueAt? position = some value ∧ decl.RelatesAt TypeTag.More position other

namespace MethodDecl

variable {first second third : MethodDecl} {position : Position}

theorem RelatesAt.trans {relation before after : TypeTag → TypeTag → Prop}
    (chain : ∀ left middle right, before left middle → after middle right → relation left right)
    (left : RelatesAt before position first second) (right : RelatesAt after position second third) :
    RelatesAt relation position first third := by
  obtain ⟨pattern, middle, here, between, above⟩ := left
  obtain ⟨_, other, again, there, below⟩ := right
  cases between.symm.trans again
  exact ⟨pattern, other, here, there, chain _ _ _ above below⟩

end MethodDecl

namespace CallSite

variable {site : CallSite}

theorem not_dominates_self (site : CallSite) (decl : MethodDecl) : ¬ site.Dominates decl decl := by
  intro dominates
  obtain ⟨position, value, _, pattern, other, here, there, more⟩ := dominates.somewhere
  cases here.symm.trans there
  exact pattern.not_more_self more

theorem Dominates.trans {first second third : MethodDecl} (above : site.Dominates first second)
    (below : site.Dominates second third) : site.Dominates first third where
  everywhere position value filled :=
    (above.everywhere position value filled).trans (fun _ _ _ left right => left.trans right)
      (below.everywhere position value filled)
  somewhere := by
    obtain ⟨position, value, filled, more⟩ := above.somewhere
    exact ⟨position, value, filled, more.trans (fun _ _ _ left right => left.trans_atLeast right)
      (below.everywhere position value filled)⟩

end CallSite

theorem forall_atLeast_iff (pairs : List (TypeTag × TypeTag)) :
    (∀ pair ∈ pairs, pair.1.AtLeast pair.2) ↔
      (∀ pair ∈ pairs, pair.1.compareSpecificity pair.2 = some .eq) ∨
        (∀ pair ∈ pairs, pair.1.AtLeast pair.2) ∧ ∃ pair ∈ pairs, pair.1.More pair.2 := by
  constructor
  · intro atLeast
    by_cases some : ∃ pair ∈ pairs, pair.1.More pair.2
    · exact .inr ⟨atLeast, some⟩
    · refine .inl fun pair inside => (atLeast pair inside).resolve_right fun more => some ⟨pair, inside, more⟩
  · rintro (even | ⟨atLeast, _⟩)
    · exact fun pair inside => .inl (even pair inside)
    · exact atLeast

theorem comparePatterns_cons_eq_iff {left right : TypeTag} {lefts rights : List TypeTag} :
    comparePatterns (left :: lefts) (right :: rights) = some .eq ↔
      left.compareSpecificity right = some .eq ∧ comparePatterns lefts rights = some .eq := by
  rw [comparePatterns]
  cases left.compareSpecificity right with
  | none => simp
  | some here =>
    cases comparePatterns lefts rights with
    | none => simp
    | some rest => cases here <;> cases rest <;> simp [joinOrdering]

theorem comparePatterns_cons_gt_iff {left right : TypeTag} {lefts rights : List TypeTag} :
    comparePatterns (left :: lefts) (right :: rights) = some .gt ↔
      left.AtLeast right ∧ (comparePatterns lefts rights = some .eq ∨ comparePatterns lefts rights = some .gt) ∧
        (left.More right ∨ comparePatterns lefts rights = some .gt) := by
  unfold TypeTag.AtLeast TypeTag.More
  rw [comparePatterns]
  cases left.compareSpecificity right with
  | none => simp
  | some here =>
    cases comparePatterns lefts rights with
    | none => simp
    | some rest => cases here <;> cases rest <;> simp [joinOrdering]

/-- Two lists of patterns are even if they are so place by place. The first one is ahead if it says at least
as much everywhere and more somewhere. -/
theorem comparePatterns_iff (lefts rights : List TypeTag) :
    (comparePatterns lefts rights = some .eq ↔
      ∀ pair ∈ lefts.zip rights, pair.1.compareSpecificity pair.2 = some .eq) ∧
    (comparePatterns lefts rights = some .gt ↔
      (∀ pair ∈ lefts.zip rights, pair.1.AtLeast pair.2) ∧ ∃ pair ∈ lefts.zip rights, pair.1.More pair.2) := by
  induction lefts generalizing rights with
  | nil => simp [comparePatterns]
  | cons left lefts ih =>
    cases rights with
    | nil => simp [comparePatterns]
    | cons right rights =>
      obtain ⟨even, ahead⟩ := ih rights
      have atLeast := forall_atLeast_iff (lefts.zip rights)
      rw [comparePatterns_cons_eq_iff, comparePatterns_cons_gt_iff, List.zip_cons_cons, List.forall_mem_cons,
        List.forall_mem_cons]
      refine ⟨and_congr_right fun _ => even, ?_, ?_⟩
      · rintro ⟨here, later, more | more⟩
        · exact ⟨⟨here, atLeast.2 (later.imp even.1 ahead.1)⟩, (left, right), List.mem_cons_self, more⟩
        · obtain ⟨rest, pair, inside, beyond⟩ := ahead.1 more
          exact ⟨⟨here, rest⟩, pair, List.mem_cons_of_mem _ inside, beyond⟩
      · rintro ⟨⟨here, rest⟩, pair, inside, more⟩
        refine ⟨here, (atLeast.1 rest).imp even.2 ahead.2, ?_⟩
        rcases List.mem_cons.1 inside with rfl | inside
        · exact .inl more
        · exact .inr (ahead.2 ⟨rest, pair, inside, more⟩)

namespace MethodDecl

theorem getElem?_patterns {decl : MethodDecl} {arity : Nat} {position : Position}
    (within : position.ordinal ≤ arity) :
    (decl.patterns arity)[position.ordinal]? = decl.patternAt? position := by
  cases position with
  | receiver => rfl
  | arg index =>
    have bound : index < arity := within
    rw [patterns, Position.ordinal, List.getElem?_cons_succ, List.getElem?_map, List.getElem?_take_of_lt bound]
    rfl

theorem mem_zip_patterns {site : CallSite} {decl other : MethodDecl} {pair : TypeTag × TypeTag} :
    pair ∈ (decl.patterns site.args.length).zip (other.patterns site.args.length) ↔
      ∃ position value, site.valueAt? position = some value ∧ decl.patternAt? position = some pair.1 ∧
        other.patternAt? position = some pair.2 := by
  rw [List.mem_iff_getElem?]
  constructor
  · rintro ⟨index, found⟩
    obtain ⟨here, there⟩ := List.getElem?_zip_eq_some.1 found
    obtain ⟨position, rfl⟩ := Position.exists_ordinal index
    have bound := (List.getElem?_eq_some_iff.1 here).1
    have within : position.ordinal ≤ site.args.length := by
      simp only [patterns, List.length_cons, List.length_map, List.length_take] at bound
      omega
    obtain ⟨value, filled⟩ := CallSite.exists_valueAt_iff.2 within
    rw [getElem?_patterns within] at here there
    exact ⟨position, value, filled, here, there⟩
  · rintro ⟨position, value, filled, here, there⟩
    have within := CallSite.exists_valueAt_iff.1 ⟨value, filled⟩
    refine ⟨position.ordinal, List.getElem?_zip_eq_some.2 ⟨?_, ?_⟩⟩
    · rw [getElem?_patterns within, here]
    · rw [getElem?_patterns within, there]

theorem dominates_iff {site : CallSite} {decl other : MethodDecl} (fits : site.args.length ≤ decl.params.length)
    (otherFits : site.args.length ≤ other.params.length) :
    decl.dominates site.args.length other = true ↔ site.Dominates decl other := by
  unfold dominates
  rw [decide_eq_true_iff, (comparePatterns_iff _ _).2]
  constructor
  · rintro ⟨atLeast, pair, inside, more⟩
    constructor
    · intro position value filled
      have within := CallSite.exists_valueAt_iff.1 ⟨value, filled⟩
      obtain ⟨pattern, here⟩ := decl.exists_patternAt (Nat.le_trans within fits)
      obtain ⟨otherPattern, there⟩ := other.exists_patternAt (Nat.le_trans within otherFits)
      have relates :=
        atLeast (pattern, otherPattern) (mem_zip_patterns.2 ⟨position, value, filled, here, there⟩)
      exact ⟨pattern, otherPattern, here, there, relates⟩
    · obtain ⟨position, value, filled, here, there⟩ := mem_zip_patterns.1 inside
      exact ⟨position, value, filled, pair.1, pair.2, here, there, more⟩
  · intro dominates
    constructor
    · intro pair inside
      obtain ⟨position, value, filled, here, there⟩ := mem_zip_patterns.1 inside
      obtain ⟨pattern, otherPattern, isHere, isThere, atLeast⟩ := dominates.everywhere position value filled
      cases here.symm.trans isHere
      cases there.symm.trans isThere
      exact atLeast
    · obtain ⟨position, value, filled, pattern, otherPattern, here, there, more⟩ := dominates.somewhere
      exact ⟨(pattern, otherPattern), mem_zip_patterns.2 ⟨position, value, filled, here, there⟩, more⟩

end MethodDecl

end AtomResolution
