import AtomResolution.Conversion.Convert
import AtomResolution.Dispatch.Resolve

/-!
Preparing a call: the planned conversions are run in their order, each on the value of its own place, and
the first that fails ends the preparation.
-/

namespace AtomResolution

structure PreparedCall where
  body : BodyId
  receiver : Value
  args : List Value
  deriving DecidableEq

namespace PreparedCall

/-- The value at a place of a call to a method; a resolution made for another call may ask for an argument
that this one does not have. -/
def valueAt (call : PreparedCall) (method : MethodId) : Position → Except DispatchError Value
  | .receiver => .ok call.receiver
  | .arg index =>
    match call.args[index]? with
    | some value => .ok value
    | none => .error (.argumentsMismatch method index call.args.length)

def set (call : PreparedCall) (position : Position) (value : Value) : PreparedCall :=
  match position with
  | .receiver => { call with receiver := value }
  | .arg index => { call with args := call.args.set index value }

end PreparedCall

variable {σ : Type}

namespace Registry

/-- Runs planned conversions on a call from left to right. -/
def runPlan (registry : Registry) (host : Host σ) (method : MethodId) :
    List PlannedConversion → PreparedCall → σ → Except DispatchError PreparedCall × σ
  | [], call, state => (.ok call, state)
  | planned :: rest, call, state =>
    match call.valueAt method planned.position with
    | .error error => (.error error, state)
    | .ok value =>
      match registry.runConversion host planned.conversion value state with
      | (.error error, state) => (.error (.conversion error), state)
      | (.ok converted, state) => registry.runPlan host method rest (call.set planned.position converted) state

def applyResolution (registry : Registry) (host : Host σ) (resolution : Resolution) (receiver : Value)
    (args : List Value) (state : σ) : Except DispatchError PreparedCall × σ :=
  registry.runPlan host resolution.method resolution.conversions ⟨resolution.body, receiver, args⟩ state

def prepare (registry : Registry) (mode : DispatchMode) (host : Host σ) (site : CallSite) (state : σ) :
    Except DispatchError PreparedCall × σ :=
  match registry.resolve mode site with
  | .error error => (.error error, state)
  | .ok resolution => registry.applyResolution host resolution site.receiver site.args state

end Registry

end AtomResolution
