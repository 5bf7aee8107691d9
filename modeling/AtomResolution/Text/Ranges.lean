/-!
Sets of characters as ascending lists of closed ranges of code points. The search in such a list stops at the
first range above the code point, and finds exactly what lies in one of the ranges.
-/

namespace AtomResolution.Text

def inRanges : List (Nat × Nat) → Nat → Bool
  | [], _ => false
  | (first, last) :: rest, code =>
    if code < first then false
    else if code ≤ last then true
    else inRanges rest code

def ascending : List (Nat × Nat) → Bool
  | [] => true
  | [range] => range.1 ≤ range.2
  | range :: next :: rest => range.1 ≤ range.2 && range.2 < next.1 && ascending (next :: rest)

theorem ascending_cons {range : Nat × Nat} {rest : List (Nat × Nat)} (ordered : ascending (range :: rest) = true) :
    range.1 ≤ range.2 ∧ ascending rest = true ∧ ∀ other ∈ rest, range.2 < other.1 := by
  induction rest generalizing range with
  | nil => exact ⟨of_decide_eq_true ordered, rfl, fun _ impossible => nomatch impossible⟩
  | cons next rest ih =>
    simp only [ascending, Bool.and_eq_true, decide_eq_true_eq] at ordered
    obtain ⟨⟨nonempty, apart⟩, tail⟩ := ordered
    obtain ⟨nextNonempty, _, above⟩ := ih tail
    refine ⟨nonempty, tail, fun other inside => ?_⟩
    cases inside with
    | head => exact apart
    | tail _ later =>
      have beyond := above other later
      omega

theorem inRanges_iff {ranges : List (Nat × Nat)} {code : Nat} (ordered : ascending ranges = true) :
    inRanges ranges code = true ↔ ∃ range ∈ ranges, range.1 ≤ code ∧ code ≤ range.2 := by
  induction ranges with
  | nil => simp [inRanges]
  | cons range rest ih =>
    obtain ⟨nonempty, tail, above⟩ := ascending_cons ordered
    simp only [List.mem_cons, or_and_right, exists_or, exists_eq_left, ← ih tail]
    rw [inRanges]
    split
    next before =>
      have notLater : inRanges rest code = false := by
        rw [Bool.eq_false_iff, Ne, ih tail]
        intro found
        obtain ⟨other, inside, lower, _⟩ := found
        have beyond := above other inside
        omega
      rw [notLater]
      simp only [Bool.false_eq_true, or_false, false_iff]
      omega
    next after =>
      split
      next within => exact iff_of_true rfl (.inl ⟨Nat.le_of_not_lt after, within⟩)
      next beyond => exact (or_iff_right fun here => beyond here.2).symm

end AtomResolution.Text
