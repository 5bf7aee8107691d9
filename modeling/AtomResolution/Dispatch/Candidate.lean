import AtomResolution.Dispatch.CallSite

/-!
Candidates for a call: the methods in its scope that take as many arguments, with the conversions that each
needs. A position of the call that the method's pattern accepts needs none.
-/

namespace AtomResolution

inductive Position where
  | receiver
  | arg (index : Nat)
  deriving DecidableEq, Repr

structure PlannedConversion where
  position : Position
  conversion : ConversionId
  deriving DecidableEq

structure Slot where
  position : Position
  actual : AtomId
  pattern : TypeTag
  deriving DecidableEq

structure Candidate where
  id : MethodId
  decl : MethodDecl
  conversions : List PlannedConversion
  deriving DecidableEq

def CallSite.slots (site : CallSite) (decl : MethodDecl) : List Slot :=
  ⟨.receiver, site.receiver.atomId, decl.receiver⟩ ::
    (site.args.zip decl.params).zipIdx.map fun ((value, param), index) =>
      ⟨.arg index, value.atomId, param.pattern⟩

namespace Registry

/-- The methods of the name that a scope owns and that take as many arguments, in declaration order. -/
def methodsInScope (registry : Registry) (site : CallSite) (scope : List ModuleId) :
    List (MethodId × MethodDecl) :=
  (registry.methodsNamed site.method).filter fun (_, decl) =>
    scope.contains decl.owner && decl.acceptsArity site.args.length

def fits (registry : Registry) (slot : Slot) : Bool := registry.accepts slot.pattern slot.actual

def acceptsCall (registry : Registry) (site : CallSite) (decl : MethodDecl) : Bool :=
  (site.slots decl).all registry.fits

/-- One conversion for each place that does not fit, or the error of the first one that has none. -/
def planSlots (registry : Registry) : List Slot → Except ConversionError (List PlannedConversion)
  | [] => .ok []
  | slot :: slots =>
    if registry.fits slot then registry.planSlots slots
    else do
      let id ← registry.findConversion slot.actual slot.pattern
      let rest ← registry.planSlots slots
      return ⟨slot.position, id⟩ :: rest

def plan (registry : Registry) (site : CallSite) (decl : MethodDecl) :
    Except ConversionError (List PlannedConversion) :=
  registry.planSlots (site.slots decl)

def directCandidates (registry : Registry) (site : CallSite) (scope : List ModuleId) : List Candidate :=
  ((registry.methodsInScope site scope).filter fun (_, decl) => registry.acceptsCall site decl).map
    fun (id, decl) => ⟨id, decl, []⟩

def convertedCandidates (registry : Registry) (site : CallSite) (scope : List ModuleId) : List Candidate :=
  (registry.methodsInScope site scope).filterMap fun (id, decl) =>
    match registry.plan site decl with
    | .ok conversions => some ⟨id, decl, conversions⟩
    | .error _ => none

/-- The first method, in declaration order, that is out because conversions compete, with the error that
says so. -/
def firstAmbiguity? (registry : Registry) (site : CallSite) (scope : List ModuleId) : Option ConversionError :=
  (registry.methodsInScope site scope).findSome? fun (_, decl) =>
    match registry.plan site decl with
    | .error (.ambiguousConversion source target candidates) =>
      some (.ambiguousConversion source target candidates)
    | _ => none

end Registry

end AtomResolution
