import AtomResolution.Lens.Step

/-!
The grammar of paths, apart from the scanner. A path is a sequence of steps, each written in one of four forms
after a dot. A step is complete where what follows does not go on with it; before another step and at the end it
always is.
-/

namespace AtomResolution

inductive Written where
  | identifier (name : List Char)
  | quoted (name : List Char)
  | number (digits : List Char)
  | guard (tag : List Char)
  deriving DecidableEq

namespace Written

def text : Written → List Char
  | .identifier name => '.' :: name
  | .quoted name => '.' :: '"' :: (name ++ ['"'])
  | .number digits => '.' :: digits
  | .guard tag => '.' :: '(' :: (tag ++ [')'])

def textOf (steps : List Written) : List Char := steps.flatMap text

/-- What the grammar asks of a step. A position may have leading zeros and fits in 64 bits. -/
def WellFormed : Written → Prop
  | .identifier name => Text.isIdentifier name = true
  | .quoted name => name ≠ [] ∧ '"' ∉ name
  | .number digits =>
    digits ≠ [] ∧ (∀ digit ∈ digits, digit.isDigit = true) ∧ Nat.ofDigitChars 10 digits 0 < UInt64.size
  | .guard tag => Text.isIdentifier tag = true

instance : (written : Written) → Decidable written.WellFormed
  | .identifier name | .guard name => inferInstanceAs (Decidable (Text.isIdentifier name = true))
  | .quoted name => inferInstanceAs (Decidable (name ≠ [] ∧ '"' ∉ name))
  | .number digits =>
    have : Decidable (∀ digit ∈ digits, digit.isDigit = true) := List.decidableBAll _ digits
    inferInstanceAs (Decidable (digits ≠ [] ∧ (∀ digit ∈ digits, digit.isDigit = true) ∧
      Nat.ofDigitChars 10 digits 0 < UInt64.size))

/-- What follows a step does not go on with it. -/
def Ends (follow : List Char) : Written → Prop
  | .identifier _ => ∀ char ∈ follow.head?, Text.continuesIdentifier char = false
  | .number _ => ∀ char ∈ follow.head?, char.isDigit = false
  | .quoted _ | .guard _ => True

def step : Written → Step
  | .identifier name | .quoted name => .field name
  | .number digits => .position (UInt64.ofNat (Nat.ofDigitChars 10 digits 0))
  | .guard tag => .guard tag

/-- The steps of a whole path, of which there is at least one. -/
structure Composes (steps : List Written) (path : List Char) : Prop where
  some : steps ≠ []
  wellFormed : ∀ step ∈ steps, step.WellFormed
  whole : textOf steps = path

/-- A complete step stands at the beginning of a text. -/
structure Heads (first : Written) (text rest : List Char) : Prop where
  wellFormed : first.WellFormed
  ends : first.Ends rest
  whole : text = first.text ++ rest

/-- A text begins with some steps, each complete where it stands, and goes on with a rest. -/
inductive Begins : List Char → List Written → List Char → Prop
  | stop (rest : List Char) : Begins rest [] rest
  | step {first : Written} {steps : List Written} {text later rest : List Char} (head : first.Heads text later)
      (onward : Begins later steps rest) : Begins text (first :: steps) rest

/-- No complete step stands at the beginning of a text. -/
def Stuck (text : List Char) : Prop := ∀ (first : Written) rest, ¬first.Heads text rest

variable {first other : Written} {steps : List Written} {text rest path : List Char}

theorem Heads.length_lt (head : first.Heads text rest) : rest.length < text.length := by
  rw [head.whole, List.length_append]
  cases first <;> simp [Written.text]

theorem Heads.dotted (head : first.Heads text rest) : ∃ input, text = '.' :: input := by
  rw [head.whole]
  cases first <;> exact ⟨_, rfl⟩

theorem eq_of_text (left : first.WellFormed) (right : other.WellFormed) (sameStep : first.step = other.step)
    (sameText : first.text = other.text) : first = other := by
  have unquoted (name body : List Char) (identifier : Text.isIdentifier name = true) : name ≠ '"' :: body := by
    intro quote
    rw [quote] at identifier
    cases identifier
  cases first <;> cases other
  case identifier.identifier => exact congrArg identifier (List.cons.inj sameText).2
  case identifier.quoted => exact absurd (List.cons.inj sameText).2 (unquoted _ _ left)
  case quoted.identifier => exact absurd (List.cons.inj sameText).2.symm (unquoted _ _ right)
  case quoted.quoted => exact congrArg quoted (Step.field.inj sameStep)
  case number.number => exact congrArg number (List.cons.inj sameText).2
  case guard.guard => exact congrArg guard (Step.guard.inj sameStep)
  all_goals cases sameStep

theorem Begins.wellFormed (begins : Begins text steps rest) : ∀ step ∈ steps, step.WellFormed := by
  induction begins with
  | stop => exact List.forall_mem_nil _
  | step head _ ih => exact List.forall_mem_cons.2 ⟨head.wellFormed, ih⟩

theorem Begins.whole (begins : Begins text steps rest) : text = textOf steps ++ rest := by
  induction begins with
  | stop => rfl
  | @step first steps _ _ _ head _ ih =>
    change _ = (first.text ++ textOf steps) ++ _
    rw [head.whole, ih, List.append_assoc]

theorem stuck_nil : Stuck [] := fun _ _ head => absurd head.length_lt (Nat.not_lt_zero _)

/-- Every step is complete before another one and at the end, for no step goes on with a dot. -/
theorem ends_textOf (first : Written) (steps : List Written) : first.Ends (textOf steps) := by
  have dot : ∀ char ∈ (textOf steps).head?, char = '.' := by
    intro char leads
    cases steps with
    | nil => cases leads
    | cons next steps => cases next <;> exact (Option.some.inj leads).symm
  cases first with
  | identifier _ =>
    intro char leads
    rw [dot char leads]
    decide
  | number _ =>
    intro char leads
    rw [dot char leads]
    decide
  | _ => trivial

theorem begins_textOf (wellFormed : ∀ step ∈ steps, step.WellFormed) : Begins (textOf steps) steps [] := by
  induction steps with
  | nil => exact .stop []
  | cons first steps ih =>
    obtain ⟨leads, follow⟩ := List.forall_mem_cons.1 wellFormed
    exact .step ⟨leads, ends_textOf first steps, List.flatMap_cons⟩ (ih follow)

theorem composes_iff : Composes steps path ↔ steps ≠ [] ∧ Begins path steps [] := by
  constructor
  · intro composes
    exact ⟨composes.some, composes.whole ▸ begins_textOf composes.wellFormed⟩
  · intro both
    obtain ⟨some, begins⟩ := both
    have whole : textOf steps = path := by rw [begins.whole, List.append_nil]
    exact ⟨some, begins.wellFormed, whole⟩

end Written

end AtomResolution
