import Mathlib.Data.List.TakeWhile
import AtomResolution.Proofs.Path.Grammar

/-!
The scanner against the grammar. It reads a step exactly where a complete one stands, so it reads the longest
sequence of complete steps that a text begins with, and no text is composed of steps in two ways.
-/

namespace AtomResolution

section Characters

variable {char : Char} {word rest input name : List Char} {test : Char → Bool}

theorem span_iff : input.takeWhile test = word ∧ input.dropWhile test = rest ↔
    (∀ char ∈ word, test char = true) ∧ (∀ char ∈ rest.head?, test char = false) ∧ input = word ++ rest := by
  constructor
  · intro split
    obtain ⟨rfl, rfl⟩ := split
    have stops : ∀ char ∈ (input.dropWhile test).head?, test char = false := by
      intro char leads
      have none := List.head?_dropWhile_not test input
      rw [Option.mem_def.1 leads] at none
      exact none
    exact ⟨fun char => List.mem_takeWhile_imp, stops, List.takeWhile_append_dropWhile.symm⟩
  · intro split
    obtain ⟨inside, stops, rfl⟩ := split
    rw [List.takeWhile_append_of_pos inside, List.dropWhile_append_of_pos inside]
    cases rest with
    | nil => simp
    | cons first rest =>
      have out : test first = false := stops first rfl
      simp [out]

theorem Text.isAlphabetic_of_lt (small : char.toNat < 0x41) : Text.isAlphabetic char = false := if_pos small

theorem Step.isDigit_eq (char : Char) : Step.isDigit char = char.isDigit :=
  Bool.decide_and _ _

theorem Text.startsIdentifier_of_isDigit (digit : char.isDigit = true) : Text.startsIdentifier char = false := by
  have small : char.toNat ≤ '9'.toNat := of_decide_eq_true (Bool.and_eq_true_iff.1 digit).2
  have other : char ≠ '_' := by
    intro same
    rw [same] at digit
    cases digit
  unfold startsIdentifier
  rw [isAlphabetic_of_lt (Nat.lt_of_le_of_lt small (by decide)), Bool.false_or]
  exact decide_eq_false other

theorem Text.continuesIdentifier_of_isIdentifier (identifier : Text.isIdentifier name = true) :
    ∀ char ∈ name, Text.continuesIdentifier char = true := by
  cases name with
  | nil => cases identifier
  | cons first rest =>
    obtain ⟨starts, continues⟩ := Bool.and_eq_true_iff.1 identifier
    exact List.forall_mem_cons.2 ⟨continuesIdentifier_of_starts starts, List.all_eq_true.1 continues⟩

theorem Text.splitIdentifier_eq_some_iff : Text.splitIdentifier input = some (name, rest) ↔
    Text.isIdentifier name = true ∧ (∀ char ∈ rest.head?, Text.continuesIdentifier char = false) ∧
      input = name ++ rest := by
  constructor
  · intro cut
    cases input with
    | nil => cases cut
    | cons first tail =>
      rw [splitIdentifier] at cut
      split at cut
      next starts =>
        cases cut
        obtain ⟨inside, stops, whole⟩ := span_iff.1 ⟨@rfl _ (tail.takeWhile continuesIdentifier), rfl⟩
        have identifier : isIdentifier (first :: tail.takeWhile continuesIdentifier) = true :=
          Bool.and_eq_true_iff.2 ⟨starts, List.all_eq_true.2 inside⟩
        exact ⟨identifier, stops, congrArg (first :: ·) whole⟩
      next => cases cut
  · intro cut
    obtain ⟨identifier, stops, rfl⟩ := cut
    cases name with
    | nil => cases identifier
    | cons first tail =>
      obtain ⟨starts, continues⟩ := Bool.and_eq_true_iff.1 identifier
      obtain ⟨taken, dropped⟩ := span_iff.2 ⟨List.all_eq_true.1 continues, stops, rfl⟩
      rw [List.cons_append, splitIdentifier, if_pos starts, taken, dropped]

end Characters

namespace Step

variable {input rest : List Char} {step : Step} {first : Char}

theorem scanStep_of_digit (digit : first.isDigit = true) : scanStep (first :: rest) = scanPosition (first :: rest) := by
  unfold scanStep
  split
  next nothing => cases nothing
  next same =>
    cases same
    cases digit
  next same =>
    cases same
    cases digit
  next same =>
    cases same
    rw [isDigit_eq, digit, if_pos rfl]

theorem scanStep_of_starts (starts : Text.startsIdentifier first = true) :
    scanStep (first :: rest) = scanName (first :: rest) := by
  unfold scanStep
  split
  next nothing => cases nothing
  next same =>
    cases same
    cases starts
  next same =>
    cases same
    cases starts
  next same =>
    cases same
    have noDigit : first.isDigit ≠ true := by
      intro digit
      rw [Text.startsIdentifier_of_isDigit digit] at starts
      cases starts
    rw [isDigit_eq, if_neg noDigit]

theorem scanPosition_eq_ok_iff : scanPosition input = .ok (step, rest) ↔
    ∃ digits, (∀ digit ∈ digits, digit.isDigit = true) ∧ Nat.ofDigitChars 10 digits 0 < UInt64.size ∧
      (∀ char ∈ rest.head?, char.isDigit = false) ∧
      step = .position (UInt64.ofNat (Nat.ofDigitChars 10 digits 0)) ∧ input = digits ++ rest := by
  unfold scanPosition
  constructor
  · intro found
    dsimp only at found
    split at found
    next small =>
      cases found
      obtain ⟨inside, stops, whole⟩ := span_iff.1 ⟨@rfl _ (input.takeWhile isDigit), rfl⟩
      simp only [isDigit_eq] at inside stops
      exact ⟨_, inside, small, stops, rfl, whole⟩
    next => cases found
  · intro standing
    obtain ⟨digits, inside, small, stops, rfl, whole⟩ := standing
    simp only [← isDigit_eq] at inside stops
    obtain ⟨taken, dropped⟩ := span_iff.2 ⟨inside, stops, whole⟩
    dsimp only
    rw [taken, dropped]
    exact if_pos small

theorem scanQuoted_eq_ok_iff : scanQuoted input = .ok (step, rest) ↔
    ∃ name, name ≠ [] ∧ '"' ∉ name ∧ step = .field name ∧ input = name ++ '"' :: rest := by
  have free (name : List Char) : '"' ∉ name ↔ ∀ char ∈ name, decide (char ≠ '"') = true := by
    simp only [decide_eq_true_eq]
    exact ⟨fun absent char inside same => absent (same ▸ inside), fun all inside => all _ inside rfl⟩
  unfold scanQuoted
  constructor
  · intro found
    split at found
    · cases found
    next closing after dropped =>
      obtain ⟨inside, stops, whole⟩ := span_iff.1 ⟨@rfl _ (input.takeWhile (· ≠ '"')), dropped⟩
      have quote : closing = '"' := by simpa using stops closing rfl
      split at found
      · cases found
      next filled =>
        cases found
        exact ⟨input.takeWhile (· ≠ '"'), filled, (free _).2 inside, rfl, quote ▸ whole⟩
  · intro standing
    obtain ⟨name, filled, absent, rfl, whole⟩ := standing
    have stops : ∀ char ∈ ('"' :: rest).head?, decide (char ≠ '"') = false := by
      intro char leads
      cases leads
      rfl
    obtain ⟨taken, dropped⟩ := span_iff.2 ⟨(free name).1 absent, stops, whole⟩
    rw [taken, dropped]
    cases name with
    | nil => exact absurd rfl filled
    | cons _ _ => rfl

theorem scanName_eq_ok_iff : scanName input = .ok (step, rest) ↔
    ∃ name, Text.isIdentifier name = true ∧ (∀ char ∈ rest.head?, Text.continuesIdentifier char = false) ∧
      step = .field name ∧ input = name ++ rest := by
  unfold scanName
  constructor
  · intro found
    split at found
    · cases found
    next name after cut =>
      cases found
      obtain ⟨identifier, stops, whole⟩ := Text.splitIdentifier_eq_some_iff.1 cut
      exact ⟨name, identifier, stops, rfl, whole⟩
  · intro standing
    obtain ⟨name, identifier, stops, rfl, whole⟩ := standing
    rw [Text.splitIdentifier_eq_some_iff.2 ⟨identifier, stops, whole⟩]

theorem scanGuard_eq_ok_iff : scanGuard input = .ok (step, rest) ↔
    ∃ tag, Text.isIdentifier tag = true ∧ step = .guard tag ∧ input = tag ++ ')' :: rest := by
  unfold scanGuard
  constructor
  · intro found
    split at found
    · cases found
    next tag after cut =>
      cases found
      obtain ⟨identifier, -, whole⟩ := Text.splitIdentifier_eq_some_iff.1 cut
      exact ⟨tag, identifier, rfl, whole⟩
    · cases found
  · intro standing
    obtain ⟨tag, identifier, rfl, whole⟩ := standing
    have stops : ∀ char ∈ (')' :: rest).head?, Text.continuesIdentifier char = false := by
      intro char leads
      cases leads
      decide
    rw [Text.splitIdentifier_eq_some_iff.2 ⟨identifier, stops, whole⟩]
    rfl

/-- What is read is a step as the grammar writes it. -/
theorem exists_heads_of_scanStep (found : scanStep input = .ok (step, rest)) :
    ∃ written : Written, written.Heads ('.' :: input) rest ∧ written.step = step := by
  unfold scanStep at found
  split at found
  next => cases found
  next tail =>
    obtain ⟨name, filled, free, rfl, rfl⟩ := scanQuoted_eq_ok_iff.1 found
    have whole : '.' :: '"' :: (name ++ '"' :: rest) = (Written.quoted name).text ++ rest := by simp [Written.text]
    exact ⟨.quoted name, ⟨⟨filled, free⟩, trivial, whole⟩, rfl⟩
  next tail =>
    obtain ⟨tag, identifier, rfl, rfl⟩ := scanGuard_eq_ok_iff.1 found
    have whole : '.' :: '(' :: (tag ++ ')' :: rest) = (Written.guard tag).text ++ rest := by simp [Written.text]
    exact ⟨.guard tag, ⟨identifier, trivial, whole⟩, rfl⟩
  next first tail _ _ =>
    split at found
    next digit =>
      obtain ⟨digits, inside, small, stops, rfl, whole⟩ := scanPosition_eq_ok_iff.1 found
      rw [isDigit_eq] at digit
      have filled : digits ≠ [] := by
        intro nothing
        rw [nothing, List.nil_append] at whole
        have none : first.isDigit = false := stops first (by rw [← whole]; rfl)
        rw [none] at digit
        cases digit
      exact ⟨.number digits, ⟨⟨filled, inside, small⟩, stops, congrArg ('.' :: ·) whole⟩, rfl⟩
    next =>
      obtain ⟨name, identifier, stops, rfl, whole⟩ := scanName_eq_ok_iff.1 found
      exact ⟨.identifier name, ⟨identifier, stops, congrArg ('.' :: ·) whole⟩, rfl⟩

theorem scanStep_of_heads {written : Written} (head : written.Heads ('.' :: input) rest) :
    scanStep input = .ok (written.step, rest) := by
  obtain ⟨wellFormed, ends, whole⟩ := head
  cases written with
  | identifier name =>
    obtain rfl : input = name ++ rest := (List.cons.inj whole).2
    cases name with
    | nil => cases wellFormed
    | cons first tail =>
      have starts := (Bool.and_eq_true_iff.1 wellFormed).1
      rw [List.cons_append, scanStep_of_starts starts]
      exact scanName_eq_ok_iff.2 ⟨_, wellFormed, ends, rfl, rfl⟩
  | quoted name =>
    have same : input = '"' :: (name ++ '"' :: rest) := by simpa [Written.text] using whole
    rw [same]
    exact scanQuoted_eq_ok_iff.2 ⟨name, wellFormed.1, wellFormed.2, rfl, rfl⟩
  | number digits =>
    obtain rfl : input = digits ++ rest := (List.cons.inj whole).2
    obtain ⟨filled, inside, small⟩ := wellFormed
    cases digits with
    | nil => exact absurd rfl filled
    | cons first tail =>
      rw [List.cons_append, scanStep_of_digit (inside first List.mem_cons_self)]
      exact scanPosition_eq_ok_iff.2 ⟨_, inside, small, ends, rfl, rfl⟩
  | guard tag =>
    have same : input = '(' :: (tag ++ ')' :: rest) := by simpa [Written.text] using whole
    rw [same]
    exact scanGuard_eq_ok_iff.2 ⟨tag, wellFormed, rfl, rfl⟩

theorem scan_step (found : scanStep input = .ok (step, rest)) :
    scan ('.' :: input) = (step :: (scan rest).1, (scan rest).2) := by
  rw [scan]
  split
  next fault same => cases found.symm.trans same
  next same =>
    cases found.symm.trans same
    rfl

theorem scan_begins {text : List Char} {steps : List Written} (begins : Written.Begins text steps rest) :
    scan text = (steps.map Written.step ++ (scan rest).1, (scan rest).2) := by
  induction begins with
  | stop => rfl
  | @step first steps text later rest head onward ih =>
    obtain ⟨input, rfl⟩ := head.dotted
    rw [scan_step (scanStep_of_heads head), ih]
    rfl

/-- Where no complete step stands nothing is read, and it is a fault unless the text is at its end. -/
theorem scan_stuck {text : List Char} (stuck : Written.Stuck text) :
    (scan text).1 = [] ∧ ((scan text).2 = none ↔ text = []) := by
  unfold scan
  split
  next => exact ⟨rfl, iff_of_true rfl rfl⟩
  next rest =>
    split
    next fault _ => exact ⟨rfl, iff_of_false (Option.some_ne_none _) (List.cons_ne_nil _ _)⟩
    next step after found =>
      obtain ⟨first, head, -⟩ := exists_heads_of_scanStep found
      exact absurd head (stuck first after)
  next filled _ => exact ⟨rfl, iff_of_false (Option.some_ne_none _) filled⟩

end Step

namespace Written

variable {first other : Written} {steps others : List Written} {text rest after path : List Char}

theorem Heads.unique (left : first.Heads text rest) (right : other.Heads text after) :
    first = other ∧ rest = after := by
  obtain ⟨input, rfl⟩ := left.dotted
  have once := (Step.scanStep_of_heads left).symm.trans (Step.scanStep_of_heads right)
  obtain ⟨sameStep, rfl⟩ := Prod.mk.inj (Except.ok.inj once)
  have sameText := List.append_cancel_right (left.whole.symm.trans right.whole)
  exact ⟨eq_of_text left.wellFormed right.wellFormed sameStep sameText, rfl⟩

theorem exists_begins (text : List Char) : ∃ steps rest, Begins text steps rest ∧ Stuck rest := by
  by_cases stuck : Stuck text
  · exact ⟨[], text, .stop text, stuck⟩
  · simp only [Stuck, not_forall, not_not] at stuck
    obtain ⟨first, later, head⟩ := stuck
    have shorter := head.length_lt
    obtain ⟨steps, rest, begins, ended⟩ := exists_begins later
    exact ⟨first :: steps, rest, .step head begins, ended⟩
termination_by text.length

/-- Whatever complete steps a text begins with are the first of those up to the place where none stands. -/
theorem Begins.prefix_of_stuck (whole : Begins text steps rest) (stuck : Stuck rest)
    (begins : Begins text others after) : others <+: steps := by
  induction whole generalizing others with
  | stop =>
    cases begins with
    | stop => exact List.prefix_rfl
    | step head _ => exact absurd head (stuck _ _)
  | step head _ ih =>
    cases begins with
    | stop => exact List.nil_prefix
    | step otherHead onward =>
      obtain ⟨rfl, rfl⟩ := head.unique otherHead
      exact List.cons_prefix_cons.2 ⟨rfl, ih stuck onward⟩

theorem Composes.unique (composes : Composes steps path) (again : Composes others path) : others = steps := by
  have begins := (composes_iff.1 composes).2
  have beginsAgain := (composes_iff.1 again).2
  apply (begins.prefix_of_stuck stuck_nil beginsAgain).eq_of_length_le
  exact (beginsAgain.prefix_of_stuck stuck_nil begins).length_le

end Written

end AtomResolution
