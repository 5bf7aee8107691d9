import AtomResolution.Lens.Render
import AtomResolution.Proofs.Path.Compile

/-!
Rendering and compiling. A lens is rendered as the steps that stand for its selectors, so it compiles to itself
exactly if these are well formed: then they are the only steps of their text, and otherwise nothing compiles to
the lens at all, for whatever compiles stands for well-formed steps.
-/

namespace AtomResolution

def Selector.name? : Selector → Option Name
  | .position _ => none
  | .field name | .guard name => some name

/-- All names of a lens are interned. -/
def Lens.Interned (names : Interner) (lens : Lens) : Prop :=
  ∀ selector ∈ lens.selectors, ∀ name ∈ selector.name?, name.raw < names.size

/-- The text of a selector's name can be written: quotes hold any name that has no quote in it and is not empty,
and parentheses hold identifiers. -/
def Selector.Writable (names : Interner) : Selector → Prop
  | .position _ => True
  | .field name => names.lookup name ≠ "" ∧ '"' ∉ (names.lookup name).toList
  | .guard tag => Text.isIdentifier (names.lookup tag).toList = true

instance (names : Interner) (lens : Lens) : Decidable (lens.Interned names) :=
  inferInstanceAs (Decidable (∀ selector ∈ lens.selectors, ∀ name ∈ selector.name?, name.raw < names.size))

instance (names : Interner) : DecidablePred (Selector.Writable names)
  | .position _ => inferInstanceAs (Decidable True)
  | .field name => inferInstanceAs (Decidable (names.lookup name ≠ "" ∧ '"' ∉ (names.lookup name).toList))
  | .guard tag => inferInstanceAs (Decidable (Text.isIdentifier (names.lookup tag).toList = true))

def Selector.written (names : Interner) : Selector → Written
  | .position index => .number (Nat.toDigits 10 index.toNat)
  | .field name =>
    if Text.isIdentifier (names.lookup name).toList then .identifier (names.lookup name).toList
    else .quoted (names.lookup name).toList
  | .guard tag => .guard (names.lookup tag).toList

variable {names : Interner} {lens : Lens} {selector : Selector} {written : Written}

theorem Selector.toList_render (names : Interner) (selector : Selector) :
    (selector.render names).toList = (selector.written names).text := by
  cases selector with
  | position index => simp [render, Selector.written, Written.text]
  | field name =>
    unfold render Selector.written
    dsimp only
    split
    next => simp [Written.text]
    next => simp [Written.text]
  | guard tag => simp [render, Selector.written, Written.text]

theorem Lens.toList_render (names : Interner) (lens : Lens) :
    (lens.render names).toList = Written.textOf (lens.selectors.map (Selector.written names)) := by
  unfold Lens.render Written.textOf
  rw [String.toList_join, List.flatMap_map, List.flatMap_map]
  congr 1
  funext selector
  exact selector.toList_render names

theorem Text.quote_not_mem {name : List Char} (identifier : Text.isIdentifier name = true) : '"' ∉ name := by
  intro inside
  cases Text.continuesIdentifier_of_isIdentifier identifier '"' inside

theorem Text.ne_nil_of_isIdentifier {name : List Char} (identifier : Text.isIdentifier name = true) : name ≠ [] := by
  intro nothing
  rw [nothing] at identifier
  cases identifier

theorem Selector.wellFormed_written_iff :
    (selector.written names).WellFormed ↔ selector.Writable names := by
  cases selector with
  | position index =>
    have digits : ∀ digit ∈ Nat.toDigits 10 index.toNat, digit.isDigit = true := by
      intro digit inside
      exact Nat.isDigit_of_mem_toDigits (by decide) (by decide) inside
    have small : Nat.ofDigitChars 10 (Nat.toDigits 10 index.toNat) 0 < UInt64.size := by
      rw [Nat.ofDigitChars_ten_toDigits]
      exact index.toNat_lt
    exact iff_of_true ⟨Nat.toDigits_ne_nil, digits, small⟩ trivial
  | field name =>
    have empty : (names.lookup name).toList = [] ↔ names.lookup name = "" := String.toList_eq_nil_iff
    unfold Selector.written
    dsimp only
    split
    next identifier =>
      have filled : names.lookup name ≠ "" := mt empty.2 (Text.ne_nil_of_isIdentifier identifier)
      exact iff_of_true identifier ⟨filled, Text.quote_not_mem identifier⟩
    next => exact and_congr_left' (not_congr empty)
  | guard tag => exact Iff.rfl

namespace Interner

variable {strings : List String} {name : Name}

theorem internAll_of_known (known : ∀ string ∈ strings, ∃ name, names.get? string = some name) :
    names.internAll strings = names := by
  induction strings with
  | nil => rfl
  | cons first strings ih =>
    obtain ⟨⟨name, found⟩, later⟩ := List.forall_mem_cons.1 known
    change (names.intern first).2.internAll strings = names
    rw [intern_of_get? found, ih later]

theorem lookup_internAll (inside : name.raw < names.size) (strings : List String) :
    (names.internAll strings).lookup name = names.lookup name :=
  lookup_of_get? (get?_internAll_of_get? (get?_lookup inside) strings)

end Interner

namespace Written

theorem denotes_rightUnique (names : Interner) : Relator.RightUnique (Denotes names) := by
  intro written first second left right
  cases left with
  | identifier known | quoted known | guard known =>
    cases right with
    | _ again => rw [Option.some.inj (known.symm.trans again)]
  | number value =>
    cases right with
    | number again => rw [UInt64.toNat_inj.1 (value.trans again.symm)]

theorem Denotes.interned (denotes : written.Denotes names selector) :
    ∀ name ∈ selector.name?, name.raw < names.size := by
  intro name named
  cases denotes with
  | number _ => cases named
  | identifier known | quoted known | guard known =>
    cases named
    exact Interner.lt_size_of_get? known

theorem Denotes.known (denotes : written.Denotes names selector) :
    ∀ string ∈ written.name?, ∃ name, names.get? string = some name := by
  intro string named
  cases denotes with
  | number _ => cases named
  | identifier known | quoted known | guard known =>
    cases named
    exact ⟨_, known⟩

theorem Denotes.writable (denotes : written.Denotes names selector) (wellFormed : written.WellFormed) :
    selector.Writable names := by
  have empty (text : List Char) (filled : text ≠ []) : String.ofList text ≠ "" := by
    intro nothing
    exact filled (String.toList_ofList.symm.trans (congrArg String.toList nothing))
  cases denotes with
  | number _ => trivial
  | identifier known =>
    rw [Selector.Writable, Interner.lookup_of_get? known, String.toList_ofList]
    exact ⟨empty _ (Text.ne_nil_of_isIdentifier wellFormed), Text.quote_not_mem wellFormed⟩
  | quoted known =>
    rw [Selector.Writable, Interner.lookup_of_get? known, String.toList_ofList]
    exact ⟨empty _ wellFormed.1, wellFormed.2⟩
  | guard known =>
    rw [Selector.Writable, Interner.lookup_of_get? known, String.toList_ofList]
    exact wellFormed

end Written

theorem Selector.denotes_written (interned : ∀ name ∈ selector.name?, name.raw < names.size) :
    (selector.written names).Denotes names selector := by
  have known (name : Name) (inside : name.raw < names.size) :
      names.get? (String.ofList (names.lookup name).toList) = some name := by
    rw [String.ofList_toList]
    exact Interner.get?_lookup inside
  cases selector with
  | position index => exact .number Nat.ofDigitChars_ten_toDigits.symm
  | field name =>
    unfold Selector.written
    dsimp only
    split
    next => exact .identifier (known name (interned name rfl))
    next => exact .quoted (known name (interned name rfl))
  | guard tag => exact .guard (known tag (interned tag rfl))

theorem Selector.writable_congr {later : Interner} (same : ∀ name ∈ selector.name?, later.lookup name = names.lookup name) :
    selector.Writable later ↔ selector.Writable names := by
  cases selector with
  | position _ => exact Iff.rfl
  | field name | guard name =>
    rw [Writable, Writable, same name rfl]

namespace Lens

theorem forall₂_written (interned : lens.Interned names) :
    List.Forall₂ (Written.Denotes names) (lens.selectors.map (Selector.written names)) lens.selectors := by
  rw [List.forall₂_map_left_iff, List.forall₂_same]
  intro selector inside
  exact Selector.denotes_written (interned selector inside)

theorem compile_render_of_writable (interned : lens.Interned names) (some : lens.selectors ≠ [])
    (writable : ∀ selector ∈ lens.selectors, selector.Writable names) :
    Lens.compile (lens.render names) names = (.ok lens, names) := by
  have wellFormed : ∀ step ∈ lens.selectors.map (Selector.written names), step.WellFormed := by
    intro step rendered
    obtain ⟨selector, inside, rfl⟩ := List.mem_map.1 rendered
    exact Selector.wellFormed_written_iff.2 (writable selector inside)
  have composes : Written.Composes (lens.selectors.map (Selector.written names)) (lens.render names).toList :=
    ⟨List.map_eq_nil_iff.not.2 some, wellFormed, (lens.toList_render names).symm⟩
  have expected := forall₂_written interned
  have known : ∀ string ∈ (lens.selectors.map (Selector.written names)).filterMap Written.name?,
      ∃ name, names.get? string = Option.some name := by
    intro string mentioned
    obtain ⟨written, rendered, named⟩ := List.mem_filterMap.1 mentioned
    obtain ⟨selector, inside, rfl⟩ := List.mem_map.1 rendered
    exact (Selector.denotes_written (interned selector inside)).known string named
  obtain ⟨selectors, compiled, denoted⟩ := compile_composes composes names
  rw [Interner.internAll_of_known known] at compiled denoted
  rw [compiled, List.right_unique_forall₂' (Written.denotes_rightUnique names) denoted expected]

theorem lookup_compile {name : Name} (inside : name.raw < names.size) (path : String) :
    (Lens.compile path names).2.lookup name = names.lookup name := by
  obtain ⟨steps, rest, -, -, interned⟩ := names_compile path names
  rw [interned]
  exact Interner.lookup_internAll inside _

theorem writable_of_compile {path : String} {later : Interner}
    (compiled : Lens.compile path names = (.ok lens, later)) :
    lens.selectors ≠ [] ∧ lens.Interned later ∧ ∀ selector ∈ lens.selectors, selector.Writable later := by
  have outcome := compile_outcome path names
  rw [compiled] at outcome
  cases outcome with
  | @path steps selectors composes denoted =>
    have stepOf (selector : Selector) (inside : selector ∈ selectors) :
        ∃ written : Written, written.WellFormed ∧
          written.Denotes (names.internAll (steps.filterMap Written.name?)) selector := by
      obtain ⟨place, here, rfl⟩ := List.mem_iff_getElem.1 inside
      have bound : place < steps.length := denoted.length_eq.symm ▸ here
      exact ⟨steps[place], composes.wellFormed _ (List.getElem_mem bound), denoted.get bound here⟩
    have some : selectors ≠ [] := by
      intro nothing
      apply composes.some
      apply List.eq_nil_of_length_eq_zero
      exact denoted.length_eq.trans (congrArg List.length nothing)
    refine ⟨some, ?_, ?_⟩
    · intro selector inside
      obtain ⟨written, -, denotes⟩ := stepOf selector inside
      exact denotes.interned
    · intro selector inside
      obtain ⟨written, wellFormed, denotes⟩ := stepOf selector inside
      exact denotes.writable wellFormed

/-- Rendering and compiling are inverse where they can be. A lens with interned names is what its text compiles to
exactly if it has a selector and all its names can be written: none of a field is empty or has a quote in it, and
every tag is an identifier. Whatever was compiled is such a lens, so its text compiles to it again. -/
theorem compile_render (names : Interner) :
    (∀ lens : Lens, lens.Interned names →
      ((Lens.compile (lens.render names) names).1 = .ok lens ↔
        lens.selectors ≠ [] ∧ ∀ selector ∈ lens.selectors, selector.Writable names)) ∧
    ∀ (path : String) (lens : Lens) (later : Interner), Lens.compile path names = (.ok lens, later) →
      Lens.compile (lens.render later) later = (.ok lens, later) := by
  constructor
  · intro lens interned
    constructor
    · intro same
      obtain ⟨some, -, writable⟩ := writable_of_compile (Prod.ext same rfl)
      refine ⟨some, ?_⟩
      intro selector inside
      have kept : ∀ name ∈ selector.name?,
          (Lens.compile (lens.render names) names).2.lookup name = names.lookup name := by
        intro name named
        exact lookup_compile (interned selector inside name named) _
      exact (Selector.writable_congr kept).1 (writable selector inside)
    · intro both
      rw [compile_render_of_writable interned both.1 both.2]
  · intro path lens later compiled
    obtain ⟨some, interned, writable⟩ := writable_of_compile compiled
    exact compile_render_of_writable interned some writable

def engineNames : Interner := ⟨["", "Combustion", "max power"], by decide⟩

def enginePower : Lens := ⟨[.position 7, .guard ⟨1⟩, .field ⟨2⟩]⟩

theorem compile_render_engine :
    (enginePower.Interned engineNames ∧
      (Lens.compile (enginePower.render engineNames) engineNames).1 = .ok enginePower ∧
      ∃ path, Lens.compile path engineNames = (.ok enginePower, engineNames) ∧
        Lens.compile (enginePower.render engineNames) engineNames = (.ok enginePower, engineNames)) ∧
    (Lens.mk [.field ⟨0⟩]).Interned engineNames ∧
      (Lens.compile ((Lens.mk [.field ⟨0⟩]).render engineNames) engineNames).1 ≠ .ok (.mk [.field ⟨0⟩]) := by
  have interned : enginePower.Interned engineNames := by decide
  have nameless : (Lens.mk [.field ⟨0⟩]).Interned engineNames := by decide
  have written := compile_render_of_writable interned (by decide) (by decide)
  have unwritable : ¬(Selector.field ⟨0⟩).Writable engineNames := by decide
  refine ⟨⟨interned, ?_, _, written, (compile_render engineNames).2 _ _ _ written⟩, nameless, ?_⟩
  · exact ((compile_render engineNames).1 enginePower interned).2 ⟨by decide, by decide⟩
  · intro same
    exact unwritable ((((compile_render engineNames).1 _ nameless).1 same).2 _ List.mem_cons_self)

end Lens

end AtomResolution
