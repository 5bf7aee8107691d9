import Mathlib.Data.List.Forall2
import AtomResolution.Lens.Compile
import AtomResolution.Proofs.Path.Scan

/-!
What compiling a path leads to. It accepts exactly the texts that are composed of steps and gives what the steps
stand for; and it interns the names of the complete steps that the text begins with, also where it fails.
-/

namespace AtomResolution

def Interner.internAll (names : Interner) (strings : List String) : Interner :=
  strings.foldl (fun names string => (names.intern string).2) names

namespace Written

def name? : Written → Option String
  | .identifier name | .quoted name | .guard name => some (String.ofList name)
  | .number _ => none

/-- A selector is what a step stands for: the position it says, or the name that its text was interned as. -/
inductive Denotes (names : Interner) : Written → Selector → Prop
  | identifier {text : List Char} {name : Name} (known : names.get? (String.ofList text) = some name) :
      Denotes names (.identifier text) (.field name)
  | quoted {text : List Char} {name : Name} (known : names.get? (String.ofList text) = some name) :
      Denotes names (.quoted text) (.field name)
  | number {digits : List Char} {index : UInt64} (value : index.toNat = Nat.ofDigitChars 10 digits 0) :
      Denotes names (.number digits) (.position index)
  | guard {text : List Char} {tag : Name} (known : names.get? (String.ofList text) = some tag) :
      Denotes names (.guard text) (.guard tag)

end Written

namespace Interner

variable {names : Interner} {string : String} {name : Name}

theorem get?_internAll_of_get? (known : names.get? string = some name) (strings : List String) :
    (names.internAll strings).get? string = some name := by
  induction strings generalizing names with
  | nil => exact known
  | cons first strings ih => exact ih (get?_intern_of_get? known)

end Interner

namespace Written

variable {names : Interner} {written : Written} {steps : List Written} {selector : Selector}

theorem Denotes.later (denotes : written.Denotes names selector) (strings : List String) :
    written.Denotes (names.internAll strings) selector := by
  cases denotes with
  | identifier known => exact .identifier (Interner.get?_internAll_of_get? known strings)
  | quoted known => exact .quoted (Interner.get?_internAll_of_get? known strings)
  | number value => exact .number value
  | guard known => exact .guard (Interner.get?_internAll_of_get? known strings)

theorem intern_step (wellFormed : written.WellFormed) (names : Interner) :
    ∃ selector, written.step.intern names = (selector, names.internAll written.name?.toList) ∧
      written.Denotes (names.internAll written.name?.toList) selector := by
  cases written with
  | number digits => exact ⟨_, rfl, .number (UInt64.toNat_ofNat_of_lt' wellFormed.2.2)⟩
  | identifier text => exact ⟨_, rfl, .identifier (names.get?_intern _)⟩
  | quoted text => exact ⟨_, rfl, .quoted (names.get?_intern _)⟩
  | guard text => exact ⟨_, rfl, .guard (names.get?_intern _)⟩

theorem internAll_steps (wellFormed : ∀ step ∈ steps, step.WellFormed) (names : Interner) :
    ∃ selectors, Step.internAll names (steps.map step) = (selectors, names.internAll (steps.filterMap name?)) ∧
      List.Forall₂ (Denotes (names.internAll (steps.filterMap name?))) steps selectors := by
  induction steps generalizing names with
  | nil => exact ⟨[], rfl, .nil⟩
  | cons first steps ih =>
    obtain ⟨leads, follow⟩ := List.forall_mem_cons.1 wellFormed
    obtain ⟨selector, interned, denotes⟩ := intern_step leads names
    obtain ⟨selectors, others, denoted⟩ := ih follow (names.internAll first.name?.toList)
    have onward : names.internAll ((first :: steps).filterMap name?) =
        (names.internAll first.name?.toList).internAll (steps.filterMap name?) := by
      cases first <;> rfl
    rw [onward]
    refine ⟨selector :: selectors, ?_, .cons (denotes.later _) denoted⟩
    rw [List.map_cons, Step.internAll, interned]
    dsimp only
    rw [others]

end Written

namespace Lens

variable {names : Interner} {path : String} {lens : Lens} {steps : List Written}

/-- What compiling a path leads to: the lens of its steps, or a fault where the steps that it begins with leave
a rest. The names of these steps are interned either way, and no others. -/
inductive Compiled (path : String) (names : Interner) : Except LensError Lens × Interner → Prop
  | path {steps : List Written} {selectors : List Selector} (composes : Written.Composes steps path.toList)
      (denoted : List.Forall₂ (Written.Denotes (names.internAll (steps.filterMap Written.name?))) steps selectors) :
      Compiled path names (.ok ⟨selectors⟩, names.internAll (steps.filterMap Written.name?))
  | fault {steps : List Written} {rest : List Char} {fault : PathFault} (begins : Written.Begins path.toList steps rest)
      (stuck : Written.Stuck rest) (incomplete : ∀ others, ¬Written.Composes others path.toList) :
      Compiled path names (.error (.invalidPath path fault), names.internAll (steps.filterMap Written.name?))

theorem scanPath_begins {text rest : List Char} (begins : Written.Begins text steps rest)
    (stuck : Written.Stuck rest) : (Step.scanPath text).1 = steps.map Written.step ∧
      ((Step.scanPath text).2 = none ↔ steps ≠ [] ∧ rest = []) := by
  obtain ⟨nothing, ended⟩ := Step.scan_stuck stuck
  cases text with
  | nil =>
    cases begins with
    | stop => exact ⟨rfl, iff_of_false (Option.some_ne_none _) fun both => both.1 rfl⟩
    | step head _ => exact absurd head (Written.stuck_nil _ _)
  | cons first input =>
    change (Step.scan (first :: input)).1 = _ ∧ ((Step.scan (first :: input)).2 = none ↔ _)
    rw [Step.scan_begins begins, nothing, List.append_nil]
    have filled : rest = [] → steps ≠ [] := by
      intro whole none
      subst whole none
      cases begins
    exact ⟨rfl, ended.trans (iff_and_self.2 filled)⟩

theorem compile_outcome (path : String) (names : Interner) : Compiled path names (Lens.compile path names) := by
  obtain ⟨steps, rest, begins, stuck⟩ := Written.exists_begins path.toList
  obtain ⟨selectors, interned, denoted⟩ := Written.internAll_steps begins.wellFormed names
  obtain ⟨read, whole⟩ := scanPath_begins begins stuck
  unfold Lens.compile
  dsimp only
  rw [read, interned]
  cases scanned : (Step.scanPath path.toList).2 with
  | none =>
    obtain ⟨some, rfl⟩ := whole.1 scanned
    exact .path (Written.composes_iff.2 ⟨some, begins⟩) denoted
  | some fault =>
    apply Compiled.fault begins stuck
    intro others composes
    obtain ⟨some, onward⟩ := Written.composes_iff.1 composes
    have all := (scanPath_begins onward Written.stuck_nil).2.2 ⟨some, rfl⟩
    rw [scanned] at all
    cases all

theorem exists_compile_iff {names : Interner} {path : String} :
    (∃ lens, (Lens.compile path names).1 = .ok lens) ↔ ∃ steps, Written.Composes steps path.toList := by
  have outcome := compile_outcome path names
  generalize Lens.compile path names = result at outcome
  cases outcome with
  | path composes _ => exact iff_of_true ⟨_, rfl⟩ ⟨_, composes⟩
  | fault _ _ incomplete =>
    apply iff_of_false
    · intro succeeds
      obtain ⟨lens, impossible⟩ := succeeds
      cases impossible
    · exact not_exists.2 incomplete

theorem compile_composes (composes : Written.Composes steps path.toList) (names : Interner) :
    ∃ selectors, Lens.compile path names = (.ok ⟨selectors⟩, names.internAll (steps.filterMap Written.name?)) ∧
      List.Forall₂ (Written.Denotes (names.internAll (steps.filterMap Written.name?))) steps selectors := by
  have outcome := compile_outcome path names
  generalize Lens.compile path names = result at outcome
  cases outcome with
  | path again denoted =>
    obtain rfl := composes.unique again
    exact ⟨_, rfl, denoted⟩
  | fault _ _ incomplete => exact absurd composes (incomplete steps)

/-- The interned names are those of the longest sequence of complete steps that a path begins with. -/
theorem names_compile (path : String) (names : Interner) :
    ∃ steps rest, Written.Begins path.toList steps rest ∧
      (∀ others after, Written.Begins path.toList others after → others <+: steps) ∧
      (Lens.compile path names).2 = names.internAll (steps.filterMap Written.name?) := by
  have outcome := compile_outcome path names
  generalize Lens.compile path names = result at outcome
  cases outcome with
  | path composes _ =>
    have begins := (Written.composes_iff.1 composes).2
    exact ⟨_, [], begins, fun _ _ => begins.prefix_of_stuck Written.stuck_nil, rfl⟩
  | fault begins stuck _ => exact ⟨_, _, begins, fun _ _ => begins.prefix_of_stuck stuck, rfl⟩

theorem compile_eq_error (incomplete : ¬∃ steps, Written.Composes steps path.toList) (names : Interner) :
    ∃ fault, (Lens.compile path names).1 = .error (.invalidPath path fault) := by
  have outcome := compile_outcome path names
  generalize Lens.compile path names = result at outcome
  cases outcome with
  | path composes _ => exact absurd ⟨_, composes⟩ incomplete
  | fault _ _ _ => exact ⟨_, rfl⟩

/-- Compiling accepts exactly the grammar of paths. It succeeds if the text is composed of steps, which can be done
in one way only, and then gives what these steps stand for in their order. In any case the names that are interned
are those of the longest sequence of complete steps that the text begins with, and the text of every fault is one
that no steps compose. -/
theorem compile_grammar (path : String) (names : Interner) :
    ((∃ lens, (Lens.compile path names).1 = .ok lens) ↔ ∃ steps, Written.Composes steps path.toList) ∧
    (∀ steps, Written.Composes steps path.toList →
      (∀ others, Written.Composes others path.toList → others = steps) ∧
      ∃ lens, (Lens.compile path names).1 = .ok lens ∧
        List.Forall₂ (Written.Denotes (Lens.compile path names).2) steps lens.selectors) ∧
    (∃ steps rest, Written.Begins path.toList steps rest ∧
      (∀ others after, Written.Begins path.toList others after → others <+: steps) ∧
      (Lens.compile path names).2 = names.internAll (steps.filterMap Written.name?)) ∧
    ((¬∃ steps, Written.Composes steps path.toList) →
      ∃ fault, (Lens.compile path names).1 = .error (.invalidPath path fault)) := by
  refine ⟨exists_compile_iff, ?_, names_compile path names, fun incomplete => compile_eq_error incomplete names⟩
  intro steps composes
  have unique (others : List Written) (again : Written.Composes others path.toList) : others = steps :=
    composes.unique again
  obtain ⟨selectors, compiled, denoted⟩ := compile_composes composes names
  rw [compiled]
  exact ⟨unique, ⟨selectors⟩, rfl, denoted⟩

theorem compile_grammar_engine :
    (∃ lens, (Lens.compile ".engine.(Combustion).\"max power\".007" .new).1 = .ok lens ∧
      List.Forall₂ (Written.Denotes (Lens.compile ".engine.(Combustion).\"max power\".007" .new).2)
        [.identifier "engine".toList, .guard "Combustion".toList, .quoted "max power".toList, .number "007".toList]
        lens.selectors) ∧
    (¬∃ steps, Written.Composes steps "engine".toList) ∧
    ∃ fault, (Lens.compile "engine" .new).1 = .error (.invalidPath "engine" fault) := by
  have composes : Written.Composes
      [.identifier "engine".toList, .guard "Combustion".toList, .quoted "max power".toList, .number "007".toList]
      ".engine.(Combustion).\"max power\".007".toList := ⟨by decide, by decide, by decide⟩
  have dotless : ¬∃ steps, Written.Composes steps "engine".toList := by
    intro composed
    obtain ⟨steps, composes⟩ := composed
    cases (Written.composes_iff.1 composes).2 with
    | @step first _ _ _ _ head _ =>
      have whole := head.whole
      cases first <;> cases whole
  exact ⟨((compile_grammar _ _).2.1 _ composes).2, dotless, (compile_grammar _ _).2.2.2 dotless⟩

end Lens

end AtomResolution
