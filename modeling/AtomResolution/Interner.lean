import AtomResolution.Handle

/-!
Names and the interner that hands them out. The interner is the list of its strings without repeats, and
a name is a position in that list: `get?` finds the position of a string, `lookup` the string at a
position, and `intern` appends a string that is not there yet. It has no bound.
-/

namespace AtomResolution

structure Name where
  raw : Nat
  deriving DecidableEq, Repr

namespace Name

def empty : Name := ⟨0⟩
def builtins : Name := ⟨1⟩
def int : Name := ⟨2⟩
def float : Name := ⟨3⟩
def bool : Name := ⟨4⟩
def text : Name := ⟨5⟩
def nothing : Name := ⟨6⟩

def debugText (name : Name) : String :=
  "Name(" ++ toString name.raw ++ ")"

end Name

structure Interner where
  strings : List String
  distinct : strings.Nodup
  deriving DecidableEq

namespace Interner

def prelude : List String :=
  ["", "Builtins", "Int", "Float", "Bool", "Text", "Nothing", "Any", "into", "self"]

def new : Interner := ⟨prelude, by decide⟩

def size (names : Interner) : Nat := names.strings.length

def isEmpty (names : Interner) : Bool := names.size ≤ prelude.length

def get? (names : Interner) (string : String) : Option Name :=
  (names.strings.idxOf? string).map Name.mk

def unknown : String := "<unknown>"

/-- The string of a name; a name of another interner has none and shows as a placeholder. -/
def lookup (names : Interner) (name : Name) : String :=
  names.strings[name.raw]?.getD unknown

theorem get?_eq_some_iff {names : Interner} {string : String} {name : Name} :
    names.get? string = some name ↔ names.strings[name.raw]? = some string := by
  simp only [get?, Option.map_eq_some_iff, List.idxOf?, List.findIdx?_eq_some_iff_getElem, beq_iff_eq]
  constructor
  · rintro ⟨raw, ⟨bound, here, _⟩, rfl⟩
    exact List.getElem?_eq_some_iff.2 ⟨bound, here⟩
  · intro found
    obtain ⟨bound, here⟩ := List.getElem?_eq_some_iff.1 found
    refine ⟨name.raw, ⟨bound, here, fun earlier before same => ?_⟩, rfl⟩
    have apart := List.pairwise_iff_getElem.1 names.distinct earlier name.raw (by omega) bound before
    exact apart (by simpa using same.trans here.symm)

theorem not_mem_of_get?_eq_none {names : Interner} {string : String} (absent : names.get? string = none) :
    string ∉ names.strings := by
  simpa [get?] using absent

def intern (names : Interner) (string : String) : Name × Interner :=
  match found : names.get? string with
  | some name => (name, names)
  | none => (⟨names.size⟩, ⟨names.strings ++ [string], by
      have fresh := not_mem_of_get?_eq_none found
      simp only [List.nodup_append, names.distinct, true_and]
      exact ⟨by simp, fun left inside right same => by
        simp only [List.mem_singleton] at same
        exact fun equal => fresh (same ▸ equal ▸ inside)⟩⟩)

theorem lookup_intern (names : Interner) (string : String) :
    (names.intern string).2.lookup (names.intern string).1 = string := by
  unfold intern
  split
  next name found => simp [lookup, get?_eq_some_iff.1 found]
  next => simp [lookup, size]

theorem strings_intern (names : Interner) (string : String) :
    names.strings <+: (names.intern string).2.strings := by
  unfold intern
  split
  · exact List.prefix_rfl
  · exact List.prefix_append _ _

theorem get?_intern (names : Interner) (string : String) :
    (names.intern string).2.get? string = some (names.intern string).1 := by
  unfold intern
  split
  next name known => exact known
  next => simp [get?_eq_some_iff, size]

section

variable {names : Interner} {string other : String} {name : Name}

theorem get?_intern_of_get? (known : names.get? string = some name) :
    (names.intern other).2.get? string = some name := by
  rw [get?_eq_some_iff] at known ⊢
  obtain ⟨new, grown⟩ := names.strings_intern other
  have inside := (List.getElem?_eq_some_iff.1 known).1
  rw [← grown, List.getElem?_append_left inside]
  exact known

theorem intern_of_get? (known : names.get? string = some name) : names.intern string = (name, names) := by
  unfold intern
  split
  next other present =>
    cases known.symm.trans present
    rfl
  next absent => cases known.symm.trans absent

theorem intern_of_absent (absent : names.get? string = none) :
    (names.intern string).1 = ⟨names.size⟩ ∧ (names.intern string).2.strings = names.strings ++ [string] := by
  unfold intern
  split
  next other present => cases absent.symm.trans present
  next => exact ⟨rfl, rfl⟩

theorem get?_lookup (inside : name.raw < names.size) : names.get? (names.lookup name) = some name := by
  rw [get?_eq_some_iff, lookup, List.getElem?_eq_getElem inside]
  rfl

theorem lookup_of_get? (known : names.get? string = some name) : names.lookup name = string := by
  rw [lookup, get?_eq_some_iff.1 known]
  rfl

theorem lt_size_of_get? (known : names.get? string = some name) : name.raw < names.size :=
  (List.getElem?_eq_some_iff.1 (get?_eq_some_iff.1 known)).1

end

def debugText (names : Interner) : String :=
  "StringInterner(" ++ toString names.size ++ " strings)"

end Interner

end AtomResolution
