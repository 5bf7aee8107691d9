import AtomResolution.Conversion.Host
import AtomResolution.Registry.Construct

/-!
Hosts given by a table: each row says what the body with a given handle does, and the first row for a body
counts. Such a host takes construction tokens from the supply, which is its state.
-/

namespace AtomResolution

inductive BodyAction where
  | wrap (atom : AtomId)
  | const (value : Value)
  | fail (message : String)
  | field (position : Nat)
  | same
  deriving DecidableEq

abbrev Script := List (BodyId × BodyAction)

namespace Script

def perform (registry : Registry) (names : Interner) (receiver : Value) (supply : Supply) :
    BodyAction → Except String Value × Supply
  | .wrap atom =>
    match registry.construct atom [receiver] supply with
    | (.ok value, supply) => (.ok value, supply)
    | (.error error, supply) => (.error (error.message names registry.toCatalog), supply)
  | .const value => (.ok value, supply)
  | .fail message => (.error message, supply)
  | .field position =>
    match receiver.field? position with
    | some value => (.ok value, supply)
    | none => (.error ("no field " ++ toString position), supply)
  | .same => (.ok receiver, supply)

def host (script : Script) (registry : Registry) (names : Interner) : Host Supply :=
  fun invocation supply =>
    match script.find? fun (body, _) => body = invocation.body with
    | some (_, action) => perform registry names invocation.receiver supply action
    | none => (.error ("no body " ++ toString invocation.body.raw), supply)

end Script

end AtomResolution
