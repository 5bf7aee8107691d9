import AtomResolution.Value.Basic

/-!
The host runs method bodies. To this library it is an arbitrary function of the invocation and of a state of
its own, and nothing is known of what it returns.
-/

namespace AtomResolution

structure Invocation where
  body : BodyId
  receiver : Value
  args : List Value
  deriving DecidableEq

/-- Runs bodies in a state of type `σ`; an error is a text. -/
abbrev Host (σ : Type) := Invocation → σ → Except String Value × σ

abbrev Exchange := Invocation × Except String Value

/-- A host that also keeps all its exchanges, in their order. -/
def Host.transcribing {σ : Type} (host : Host σ) : Host (σ × List Exchange) :=
  fun invocation (state, transcript) =>
  let (answer, state) := host invocation state
  (answer, (state, transcript ++ [(invocation, answer)]))

end AtomResolution
