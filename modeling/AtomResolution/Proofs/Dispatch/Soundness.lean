import AtomResolution.Builder.Freeze
import AtomResolution.Proofs.Dispatch.Plan

/-!
Soundness of resolution. A call that resolves does so to one of its viable candidates: to a method that suits
it and accepts its values, or, where no such method accepts them, one for which every rejected value has a
conversion. The resolution carries that method's module and body and a plan that the call needs.
-/

namespace AtomResolution

namespace Registry

variable {registry : Registry} {mode : DispatchMode} {site : CallSite}

def HasDirect (registry : Registry) (mode : DispatchMode) (site : CallSite) : Prop :=
  ∃ id decl, registry.Suits mode site id decl ∧ registry.AcceptsAsIs site decl

/-- The methods that compete for a call: those that accept it as it is, or, if there is none, those that
accept it after conversions. -/
structure Viable (registry : Registry) (mode : DispatchMode) (site : CallSite) (id : MethodId)
    (decl : MethodDecl) : Prop where
  suits : registry.Suits mode site id decl
  accepts : registry.AcceptsAsIs site decl ∨ ¬ registry.HasDirect mode site ∧ registry.Convertible site decl

theorem Viable.plan_eq_nil {id : MethodId} {decl : MethodDecl} {conversions : List PlannedConversion}
    (viable : registry.Viable mode site id decl) (direct : registry.HasDirect mode site)
    (planned : registry.plan site decl = .ok conversions) : conversions = [] := by
  have accepts := viable.accepts.resolve_right fun converted => converted.1 direct
  rw [plan_of_acceptsAsIs accepts, Except.ok.injEq] at planned
  exact planned.symm

def candidates (registry : Registry) (site : CallSite) (scope : List ModuleId) : List Candidate :=
  match registry.directCandidates site scope with
  | [] => registry.convertedCandidates site scope
  | direct => direct

theorem mem_directCandidates {scope : List ModuleId} {candidate : Candidate}
    (visible : registry.callScope mode site = .ok scope) :
    candidate ∈ registry.directCandidates site scope ↔
      registry.Suits mode site candidate.id candidate.decl ∧ registry.AcceptsAsIs site candidate.decl ∧
        candidate.conversions = [] := by
  obtain ⟨id, decl, conversions⟩ := candidate
  unfold directCandidates
  simp only [List.mem_map, List.mem_filter, Prod.exists, Candidate.mk.injEq, mem_methodsInScope visible,
    acceptsCall_iff]
  constructor
  · rintro ⟨_, _, ⟨suits, accepts⟩, rfl, rfl, rfl⟩
    exact ⟨suits, accepts, rfl⟩
  · rintro ⟨suits, accepts, rfl⟩
    exact ⟨id, decl, ⟨suits, accepts⟩, rfl, rfl, rfl⟩

theorem mem_convertedCandidates {scope : List ModuleId} {candidate : Candidate}
    (visible : registry.callScope mode site = .ok scope) :
    candidate ∈ registry.convertedCandidates site scope ↔
      registry.Suits mode site candidate.id candidate.decl ∧
        registry.plan site candidate.decl = .ok candidate.conversions := by
  unfold convertedCandidates
  simp only [List.mem_filterMap, Prod.exists, mem_methodsInScope visible]
  constructor
  · rintro ⟨id, decl, suits, made⟩
    split at made
    next conversions planned =>
      cases made
      exact ⟨suits, planned⟩
    next => cases made
  · rintro ⟨suits, planned⟩
    exact ⟨candidate.id, candidate.decl, suits, by rw [planned]⟩

theorem hasDirect_iff {scope : List ModuleId} (visible : registry.callScope mode site = .ok scope) :
    registry.HasDirect mode site ↔ registry.directCandidates site scope ≠ [] := by
  constructor
  · rintro ⟨id, decl, suits, accepts⟩
    have inside : ⟨id, decl, []⟩ ∈ registry.directCandidates site scope :=
      (mem_directCandidates visible).2 ⟨suits, accepts, rfl⟩
    exact List.ne_nil_of_mem inside
  · intro some
    obtain ⟨candidate, inside⟩ := List.exists_mem_of_ne_nil _ some
    obtain ⟨suits, accepts, _⟩ := (mem_directCandidates visible).1 inside
    exact ⟨candidate.id, candidate.decl, suits, accepts⟩

/-- The ranked candidates are the viable ones, each with its plan. -/
theorem mem_candidates {scope : List ModuleId} {candidate : Candidate}
    (visible : registry.callScope mode site = .ok scope) :
    candidate ∈ registry.candidates site scope ↔
      registry.Viable mode site candidate.id candidate.decl ∧
        registry.plan site candidate.decl = .ok candidate.conversions := by
  unfold candidates
  split
  next none =>
    have noDirect : ¬ registry.HasDirect mode site := fun direct => (hasDirect_iff visible).1 direct none
    rw [mem_convertedCandidates visible]
    constructor
    · rintro ⟨suits, planned⟩
      exact ⟨⟨suits, .inr ⟨noDirect, exists_plan_iff.1 ⟨_, planned⟩⟩⟩, planned⟩
    · rintro ⟨⟨suits, _⟩, planned⟩
      exact ⟨suits, planned⟩
  next some =>
    have direct : registry.HasDirect mode site := (hasDirect_iff visible).2 some
    rw [mem_directCandidates visible]
    constructor
    · rintro ⟨suits, accepts, none⟩
      exact ⟨⟨suits, .inl accepts⟩, none ▸ plan_of_acceptsAsIs accepts⟩
    · rintro ⟨viable, planned⟩
      have accepts := viable.accepts.resolve_right fun converted => converted.1 direct
      exact ⟨viable.suits, accepts, viable.plan_eq_nil direct planned⟩

theorem candidates_ascending (registry : Registry) (site : CallSite) (scope : List ModuleId) :
    (registry.candidates site scope).Pairwise fun earlier later => earlier.id.raw < later.id.raw := by
  have ascending := registry.methodsInScope_ascending site scope
  unfold candidates
  split
  next =>
    unfold convertedCandidates
    rw [List.pairwise_filterMap]
    apply ascending.imp
    rintro ⟨earlier, decl⟩ ⟨later, other⟩ before first made second alsoMade
    cases plan : registry.plan site decl with
    | error error => simp [plan] at made
    | ok conversions =>
      cases otherPlan : registry.plan site other with
      | error error => simp [otherPlan] at alsoMade
      | ok otherConversions =>
        simp only [plan, otherPlan, Option.some.injEq] at made alsoMade
        rw [← made, ← alsoMade]
        exact before
  next =>
    unfold directCandidates
    rw [List.pairwise_map]
    exact ascending.filter _

theorem resolveIn_of_candidates {scope : List ModuleId} (some : registry.candidates site scope ≠ []) :
    registry.resolveIn site scope = site.pick (registry.candidates site scope) := by
  unfold resolveIn
  unfold candidates at some ⊢
  cases direct : registry.directCandidates site scope with
  | nil =>
    cases converted : registry.convertedCandidates site scope with
    | nil => simp [direct, converted] at some
    | cons candidate others => rfl
  | cons candidate others => rfl

theorem resolveIn_of_no_candidates {scope : List ModuleId} (none : registry.candidates site scope = []) :
    registry.resolveIn site scope =
      .error (((registry.firstAmbiguity? site scope).map DispatchError.conversion).getD site.unmatched) := by
  unfold resolveIn
  unfold candidates at none
  cases direct : registry.directCandidates site scope with
  | nil =>
    simp only [direct] at none
    rw [none]
    dsimp only
    cases registry.firstAmbiguity? site scope with
    | none => rfl
    | some _ => rfl
  | cons candidate others => simp [direct] at none

end Registry

theorem Candidate.mem_of_select {arity : Nat} {calling : ModuleId} {candidates : List Candidate}
    {winner : Candidate} (selected : select arity calling candidates = .ok winner) : winner ∈ candidates := by
  unfold select at selected
  split at selected
  next only single =>
    cases selected
    have inside : winner ∈ undominated arity candidates := by simp [single]
    exact (List.mem_filter.1 inside).1
  next =>
    split at selected
    next only single =>
      cases selected
      have inside : winner ∈
          (undominated arity candidates).filter fun candidate => candidate.decl.owner = calling := by
        simp [single]
      exact (List.mem_filter.1 (List.mem_filter.1 inside).1).1
    next => cases selected

namespace Registry

variable {registry : Registry} {mode : DispatchMode} {site : CallSite}

theorem exists_viable_of_resolve {resolution : Resolution}
    (resolved : registry.resolve mode site = .ok resolution) :
    ∃ decl, registry.Viable mode site resolution.method decl ∧ resolution.owner = decl.owner ∧
      resolution.body = decl.body ∧ registry.plan site decl = .ok resolution.conversions := by
  unfold resolve at resolved
  split at resolved
  next => cases resolved
  next scope visible =>
    by_cases none : registry.candidates site scope = []
    · rw [resolveIn_of_no_candidates none] at resolved
      cases resolved
    · rw [resolveIn_of_candidates none] at resolved
      unfold CallSite.pick at resolved
      split at resolved
      next winner selected =>
        cases resolved
        obtain ⟨viable, planned⟩ := (mem_candidates visible).1 (Candidate.mem_of_select selected)
        exact ⟨winner.decl, viable, rfl, rfl, planned⟩
      next => cases resolved

/-- A call that resolves does so to a declared method that suits it, with that method's module and body and
the conversions it needs, which are none if any method that suits accepts the call as it is. -/
theorem resolve_sound {resolution : Resolution} (resolved : registry.resolve mode site = .ok resolution) :
    ∃ decl, registry.Suits mode site resolution.method decl ∧
      resolution.owner = decl.owner ∧ resolution.body = decl.body ∧
      registry.Plans site decl resolution.conversions ∧
      (registry.HasDirect mode site → resolution.conversions = []) := by
  obtain ⟨decl, viable, owner, body, planned⟩ := exists_viable_of_resolve resolved
  exact ⟨decl, viable.suits, owner, body, plan_sound planned, fun direct => viable.plan_eq_nil direct planned⟩

/-- A module that imports another one, whose method takes a text, a float and something more that may be
left out, and conversions from integers to both. -/
def importedMethod : List Operation :=
  [.declareModule ⟨10⟩, .declareModule ⟨11⟩, .importModule ⟨1⟩ ⟨2⟩,
    .declareMethod ⟨2⟩ ⟨12⟩ (.atom AtomId.text) [⟨⟨13⟩, .atom AtomId.float, false⟩, ⟨⟨14⟩, .any, true⟩] ⟨7⟩,
    .declareConversion ⟨1⟩ AtomId.int AtomId.text [] ⟨8⟩, .declareConversion ⟨1⟩ AtomId.int AtomId.float [] ⟨9⟩]

def importedCall : CallSite := ⟨⟨1⟩, none, .int 1, ⟨12⟩, [.int 2]⟩

def importedResolution : Resolution := ⟨⟨0⟩, ⟨2⟩, ⟨7⟩, [⟨.receiver, ⟨0⟩⟩, ⟨.arg 0, ⟨1⟩⟩]⟩

theorem resolve_sound_imported :
    (Builder.new.run importedMethod).freeze = .ok (ofLoad importedMethod) ∧
    (ofLoad importedMethod).resolve .staticModule importedCall = .ok importedResolution ∧
    ∃ decl, (ofLoad importedMethod).Suits .staticModule importedCall importedResolution.method decl ∧
      importedResolution.owner = decl.owner ∧ importedResolution.body = decl.body ∧
      (ofLoad importedMethod).Plans importedCall decl importedResolution.conversions ∧
      ((ofLoad importedMethod).HasDirect .staticModule importedCall → importedResolution.conversions = []) :=
  ⟨rfl, rfl, resolve_sound rfl⟩

end Registry

end AtomResolution
