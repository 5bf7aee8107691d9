import AtomResolution.Conversion.Host
import AtomResolution.Registry.Basic

/-!
Running conversions. The host runs the body of a conversion on the value with no arguments, and what it
returns is checked: a conversion delivers an instance of its declared target or fails.
-/

namespace AtomResolution.Registry

variable {σ : Type}

def runConversion (registry : Registry) (host : Host σ) (id : ConversionId) (value : Value) (state : σ) :
    Except ConversionError Value × σ :=
  match registry.conversions.get? id with
  | none => (.error (.unknownConversion value.atomId id), state)
  | some decl =>
    match host ⟨decl.body, value, []⟩ state with
    | (.error message, state) => (.error (.converterFailed decl.source decl.target (.raised message)), state)
    | (.ok converted, state) =>
      if registry.isSubtype converted.typeTag (.atom decl.target) then (.ok converted, state)
      else (.error (.converterFailed decl.source decl.target (.returned converted.atomId)), state)

/-- Makes of a value something that a pattern accepts, by at most one conversion. A value that the pattern
accepts already is returned as it is. -/
def convert (registry : Registry) (host : Host σ) (value : Value) (target : TypeTag) (state : σ) :
    Except ConversionError Value × σ :=
  if registry.isSubtype value.typeTag target then (.ok value, state)
  else
    match registry.findConversion value.atomId target with
    | .error error => (.error error, state)
    | .ok id => registry.runConversion host id value state

end AtomResolution.Registry
