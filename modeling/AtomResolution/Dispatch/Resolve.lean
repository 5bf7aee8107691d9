import AtomResolution.Dispatch.Rank

/-!
Resolution of calls. The methods that accept a call as it is are ranked; only where there is none are those
ranked that accept it after conversions.
-/

namespace AtomResolution

/-- The method that a call resolves to and the conversions to run before it, at most one for each place. -/
structure Resolution where
  method : MethodId
  owner : ModuleId
  body : BodyId
  conversions : List PlannedConversion
  deriving DecidableEq

namespace Resolution

def ofCandidate (candidate : Candidate) : Resolution :=
  ⟨candidate.id, candidate.decl.owner, candidate.decl.body, candidate.conversions⟩

def isDirect (resolution : Resolution) : Bool := resolution.conversions.isEmpty

end Resolution

namespace CallSite

def pick (site : CallSite) (candidates : List Candidate) : Except DispatchError Resolution :=
  match Candidate.select site.args.length site.calling candidates with
  | .ok winner => .ok (.ofCandidate winner)
  | .error tied => .error (.ambiguousMethod site.method (tied.map Candidate.id))

def unmatched (site : CallSite) : DispatchError :=
  .noMatchingMethod site.method site.receiver.atomId (site.args.map Value.atomId)

end CallSite

namespace Registry

def resolveIn (registry : Registry) (site : CallSite) (scope : List ModuleId) :
    Except DispatchError Resolution :=
  match registry.directCandidates site scope with
  | [] =>
    match registry.convertedCandidates site scope with
    | [] =>
      match registry.firstAmbiguity? site scope with
      | some error => .error (.conversion error)
      | none => .error site.unmatched
    | candidates => site.pick candidates
  | candidates => site.pick candidates

def resolve (registry : Registry) (mode : DispatchMode) (site : CallSite) : Except DispatchError Resolution :=
  match registry.callScope mode site with
  | .error error => .error error
  | .ok scope => registry.resolveIn site scope

end Registry

end AtomResolution
