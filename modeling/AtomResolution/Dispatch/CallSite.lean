import AtomResolution.Error.Dispatch
import AtomResolution.Registry.Basic

/-!
Calls and the modules they may resolve to. A call names a method, and perhaps a module; without one it sees
the module it is written in and the imports of that.
-/

namespace AtomResolution

structure CallSite where
  calling : ModuleId
  explicit : Option ModuleId
  receiver : Value
  method : Name
  args : List Value
  deriving DecidableEq

inductive DispatchMode where
  /-- A call may name a module, and otherwise sees all modules in scope. -/
  | twoKey
  /-- A call may not name a module, and sees only the first one in scope that owns a method of the name. -/
  | staticModule
  deriving DecidableEq, Repr

namespace Registry

def ownsMethod (registry : Registry) (name : Name) (owner : ModuleId) : Bool :=
  (registry.methodsNamed name).any fun (_, decl) => decl.owner = owner

def callScope (registry : Registry) (mode : DispatchMode) (site : CallSite) :
    Except DispatchError (List ModuleId) :=
  match site.explicit, mode with
  | some explicit, .staticModule => .error (.explicitModuleDisabled explicit)
  | some explicit, .twoKey =>
    if registry.modules.contains explicit then .ok [explicit] else .error (.unknownModule explicit)
  | none, mode =>
    if registry.modules.contains site.calling then
      let scope := registry.scope site.calling
      match mode, scope.find? (registry.ownsMethod site.method) with
      | .staticModule, some first => .ok [first]
      | _, _ => .ok scope
    else .error (.unknownModule site.calling)

end Registry

end AtomResolution
