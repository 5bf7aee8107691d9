import AtomResolution.Error.Lens

/-!
Compilation of paths to lenses. The names of all complete steps are interned from left to right, also where
a later step is malformed.
-/

namespace AtomResolution

def Step.intern (names : Interner) : Step → Selector × Interner
  | .position index => (.position index, names)
  | .field name =>
    let (name, names) := names.intern (String.ofList name)
    (.field name, names)
  | .guard tag =>
    let (tag, names) := names.intern (String.ofList tag)
    (.guard tag, names)

def Step.internAll (names : Interner) : List Step → List Selector × Interner
  | [] => ([], names)
  | step :: steps =>
    let (selector, names) := step.intern names
    let (selectors, names) := internAll names steps
    (selector :: selectors, names)

def Lens.compile (path : String) (names : Interner) : Except LensError Lens × Interner :=
  let (steps, fault) := Step.scanPath path.toList
  let (selectors, names) := Step.internAll names steps
  match fault with
  | none => (.ok ⟨selectors⟩, names)
  | some fault => (.error (.invalidPath path fault), names)

end AtomResolution
