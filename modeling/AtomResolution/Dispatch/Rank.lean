import AtomResolution.Dispatch.Candidate

/-!
Ranking of candidates. One method dominates another if its patterns say at least as much place by place and
more at some place. The candidate that nothing dominates wins; if there are several, the calling module's
own wins, provided it has just one of them.
-/

namespace AtomResolution

def joinOrdering : Ordering → Ordering → Option Ordering
  | .eq, right => some right
  | left, .eq => some left
  | left, right => if left = right then some left else none

/-- Compares two lists of patterns place by place: nothing if two places disagree or one is undecided. -/
def comparePatterns : List TypeTag → List TypeTag → Option Ordering
  | left :: lefts, right :: rights => do
    let here ← left.compareSpecificity right
    let rest ← comparePatterns lefts rights
    joinOrdering here rest
  | _, _ => some .eq

def MethodDecl.dominates (arity : Nat) (decl other : MethodDecl) : Bool :=
  comparePatterns (decl.patterns arity) (other.patterns arity) = some .gt

namespace Candidate

def undominated (arity : Nat) (candidates : List Candidate) : List Candidate :=
  candidates.filter fun candidate =>
    !candidates.any fun other => other.decl.dominates arity candidate.decl

def select (arity : Nat) (calling : ModuleId) (candidates : List Candidate) :
    Except (List Candidate) Candidate :=
  match undominated arity candidates with
  | [winner] => .ok winner
  | several =>
    match several.filter fun candidate => candidate.decl.owner = calling with
    | [winner] => .ok winner
    | _ => .error several

end Candidate

end AtomResolution
