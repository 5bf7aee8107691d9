import AtomResolution.Proofs.Lens.OnePass
import AtomResolution.Registry.Construct

/-!
What a client asks of a registry about values, one request after another, and what it is told. All requests
draw on one supply, and each passes on what it has left of it, whether it succeeds or fails.
-/

namespace AtomResolution

inductive Request where
  | construct (atom : AtomId) (fields : List Value)
  | get (lens : Lens) (value : Value)
  | setStrict (lens : Lens) (value new : Value)
  | setSafe (lens : Lens) (value new : Value)
  deriving DecidableEq

inductive Answer where
  | given (value : Value)
  | nothing
  | refused (error : RegistryError)
  | failed (error : LensError)
  deriving DecidableEq

def Request.inputs : Request → List Value
  | .construct _ fields => fields
  | .get _ value => [value]
  | .setStrict _ value new | .setSafe _ value new => [value, new]

def Answer.value? : Answer → Option Value
  | .given value => some value
  | .nothing | .refused _ | .failed _ => none

namespace Registry

def answer (registry : Registry) (supply : Supply) : Request → Answer × Supply
  | .construct atom fields =>
    match registry.construct atom fields supply with
    | (.ok value, later) => (.given value, later)
    | (.error error, later) => (.refused error, later)
  | .get lens value =>
    match lens.get registry value with
    | some target => (.given target, supply)
    | none => (.nothing, supply)
  | .setStrict lens value new =>
    match lens.update registry new none lens.selectors value supply with
    | (.ok updated, later) => (.given updated, later)
    | (.error error, later) => (.failed error, later)
  | .setSafe lens value new =>
    match lens.update registry new none lens.selectors value supply with
    | (.ok updated, later) => (.given updated, later)
    | (.error _, later) => (.given value, later)

def serve (registry : Registry) (supply : Supply) : List Request → List (Request × Answer) × Supply
  | [] => ([], supply)
  | request :: requests =>
    let (answer, supply) := registry.answer supply request
    let (session, supply) := registry.serve supply requests
    ((request, answer) :: session, supply)

theorem answer_setStrict (registry : Registry) (supply : Supply) (lens : Lens) (value new : Value) :
    registry.answer supply (.setStrict lens value new) =
      match lens.setStrict registry value new supply with
      | .ok (updated, later) => (.given updated, later)
      | .error error => (.failed error, supply) := by
  unfold answer
  dsimp only
  rw [Lens.update_eq_setStrict]
  cases lens.setStrict registry value new supply with
  | ok _ => rfl
  | error _ => rfl

theorem answer_setSafe (registry : Registry) (supply : Supply) (lens : Lens) (value new : Value) :
    registry.answer supply (.setSafe lens value new) =
      (.given (lens.setSafe registry value new supply).1, (lens.setSafe registry value new supply).2) := by
  unfold answer Lens.setSafe
  dsimp only
  rw [Lens.update_eq_setStrict]
  cases lens.setStrict registry value new supply with
  | ok _ => rfl
  | error _ => rfl

theorem serve_cons (registry : Registry) (supply : Supply) (request : Request) (requests : List Request) :
    registry.serve supply (request :: requests) =
      ((request, (registry.answer supply request).1) ::
          (registry.serve (registry.answer supply request).2 requests).1,
        (registry.serve (registry.answer supply request).2 requests).2) := rfl

end Registry

/-- A client knows primitives, the values in `known` and what it was told, and asks about nothing else. -/
def FedBack : (known : List Value) → List (Request × Answer) → Prop
  | _, [] => True
  | known, (request, answer) :: session =>
    (∀ input ∈ request.inputs, input.head? = none ∨ input ∈ known) ∧
      FedBack (answer.value?.toList ++ known) session

def FedBack.decide :
    (known : List Value) → (session : List (Request × Answer)) → Decidable (FedBack known session)
  | _, [] => isTrue trivial
  | known, (_, answer) :: session =>
    have := FedBack.decide (answer.value?.toList ++ known) session
    instDecidableAnd

instance (known : List Value) (session : List (Request × Answer)) : Decidable (FedBack known session) :=
  FedBack.decide known session

/-- A part and its machine are made, the part is exchanged for a broken one, a number is refused in its place,
and the part is taken out again. -/
def assembly : List Request :=
  let part := .atom ⟨⟨5⟩, ⟨12⟩, .named, 0, 0⟩ [.int 1]
  let broken := .atom ⟨⟨5⟩, ⟨12⟩, .named, 2, 2⟩ [.float ⟨0x7ff8000000000000⟩]
  let repaired := .atom ⟨⟨7⟩, ⟨15⟩, .anonymous, 3, 3⟩ [broken, .int 2]
  [.construct ⟨5⟩ [.int 1], .construct ⟨7⟩ [part, .int 2], .construct ⟨5⟩ [.float ⟨0x7ff8000000000000⟩],
    .setStrict partOf machine broken, .setSafe partOf repaired (.int 3), .construct ⟨7⟩ [part, broken],
    .get partOf repaired]

end AtomResolution
