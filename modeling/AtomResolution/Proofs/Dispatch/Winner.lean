import AtomResolution.Proofs.Dispatch.Domination
import AtomResolution.Proofs.Dispatch.Soundness

/-!
The winner of a call. With at least one viable candidate, resolution returns the one that dominates all
others, or the only undominated one of the calling module where several are undominated. In all other cases
the undominated candidates tie.
-/

namespace AtomResolution

/-- In a finite list with a strict order, every entry either has nothing above it or something with nothing
above it. -/
theorem exists_top {α : Type} (above : α → α → Prop) (irreflexive : ∀ entry, ¬ above entry entry)
    (transitive : ∀ first second third, above first second → above second third → above first third)
    (list : List α) :
    ∀ entry ∈ list, ∃ top ∈ list, (top = entry ∨ above top entry) ∧ ∀ other ∈ list, ¬ above other top := by
  induction list with
  | nil => exact fun _ inside => absurd inside List.not_mem_nil
  | cons first rest ih =>
    -- What tops an entry of the rest still does unless `first` is above it, and then `first` does.
    have lift (entry top : α) (inside : top ∈ rest) (tops : top = entry ∨ above top entry)
        (highest : ∀ other ∈ rest, ¬ above other top) :
        ∃ top ∈ first :: rest,
          (top = entry ∨ above top entry) ∧ ∀ other ∈ first :: rest, ¬ above other top := by
      by_cases beyond : above first top
      · refine ⟨first, List.mem_cons_self, .inr ?_, ?_⟩
        · rcases tops with rfl | tops
          · exact beyond
          · exact transitive _ _ _ beyond tops
        · rw [List.forall_mem_cons]
          refine ⟨irreflexive first, fun other among higher => ?_⟩
          exact highest other among (transitive _ _ _ higher beyond)
      · exact ⟨top, List.mem_cons_of_mem _ inside, tops, List.forall_mem_cons.2 ⟨beyond, highest⟩⟩
    intro entry inside
    rcases List.mem_cons.1 inside with rfl | inside
    · by_cases topped : ∃ other ∈ rest, above other entry
      · obtain ⟨other, among, higher⟩ := topped
        obtain ⟨top, topInside, tops, highest⟩ := ih other among
        refine lift entry top topInside (.inr ?_) highest
        rcases tops with rfl | tops
        · exact higher
        · exact transitive _ _ _ tops higher
      · refine ⟨entry, List.mem_cons_self, .inl rfl, List.forall_mem_cons.2 ⟨irreflexive entry, ?_⟩⟩
        exact fun other among higher => topped ⟨other, among, higher⟩
    · obtain ⟨top, topInside, tops, highest⟩ := ih entry inside
      exact lift entry top topInside tops highest

theorem exists_two {α : Type} {list : List α} (some : list ≠ []) (notOne : ∀ only, list ≠ [only]) :
    ∃ first second rest, list = first :: second :: rest := by
  cases list with
  | nil => exact absurd rfl some
  | cons first tail =>
    cases tail with
    | nil => exact absurd rfl (notOne first)
    | cons second rest => exact ⟨first, second, rest, rfl⟩

namespace Candidate

variable {arity : Nat} {calling : ModuleId} {candidates : List Candidate}

theorem eq_of_id_eq (ascending : candidates.Pairwise fun earlier later => earlier.id.raw < later.id.raw)
    {left right : Candidate} (here : left ∈ candidates) (there : right ∈ candidates)
    (same : left.id = right.id) :
    left = right := by
  induction candidates with
  | nil => cases here
  | cons first rest ih =>
    obtain ⟨above, tail⟩ := List.pairwise_cons.1 ascending
    rcases List.mem_cons.1 here with isLeft | inside <;> rcases List.mem_cons.1 there with isRight | among
    · rw [isLeft, isRight]
    · have before := above right among
      rw [← isLeft, same] at before
      exact absurd before (Nat.lt_irrefl _)
    · have before := above left inside
      rw [← isRight, same] at before
      exact absurd before (Nat.lt_irrefl _)
    · exact ih tail inside among

theorem eq_singleton_iff (ascending : candidates.Pairwise fun earlier later => earlier.id.raw < later.id.raw)
    {only : Candidate} :
    candidates = [only] ↔ only ∈ candidates ∧ ∀ other ∈ candidates, other.id = only.id := by
  constructor
  · rintro rfl
    simp
  · rintro ⟨inside, same⟩
    cases candidates with
    | nil => cases inside
    | cons first rest =>
      have isFirst := eq_of_id_eq ascending inside List.mem_cons_self (same first List.mem_cons_self).symm
      cases rest with
      | nil => rw [isFirst]
      | cons second others =>
        have before := (List.pairwise_cons.1 ascending).1 second List.mem_cons_self
        have alike := same second (List.mem_cons_of_mem _ List.mem_cons_self)
        rw [alike, isFirst] at before
        exact absurd before (Nat.lt_irrefl _)

theorem select_eq_ok_iff {winner : Candidate} :
    select arity calling candidates = .ok winner ↔
      undominated arity candidates = [winner] ∨
        (∀ only, undominated arity candidates ≠ [only]) ∧
          ((undominated arity candidates).filter fun candidate => candidate.decl.owner = calling) = [winner] := by
  unfold select
  split
  next only single => simp [single]
  next several =>
    have notSingle (only : Candidate) : undominated arity candidates ≠ [only] := several only
    split
    next only own => simp [notSingle, own]
    next none =>
      have notOwn (only : Candidate) :
          ((undominated arity candidates).filter fun candidate => candidate.decl.owner = calling) ≠ [only] := none only
      simp [notSingle, notOwn]

theorem select_eq_error {tied : List Candidate} (failed : select arity calling candidates = .error tied) :
    tied = undominated arity candidates ∧ (∀ only, tied ≠ [only]) ∧
      ∀ only, (tied.filter fun candidate => candidate.decl.owner = calling) ≠ [only] := by
  unfold select at failed
  split at failed
  next => cases failed
  next several =>
    split at failed
    next => cases failed
    next none =>
      cases failed
      exact ⟨rfl, several, none⟩

end Candidate

namespace Registry

variable {registry : Registry} {mode : DispatchMode} {site : CallSite}

/-- A viable candidate that no viable candidate dominates. -/
structure Undominated (registry : Registry) (mode : DispatchMode) (site : CallSite) (id : MethodId)
    (decl : MethodDecl) : Prop where
  viable : registry.Viable mode site id decl
  highest : ∀ other otherDecl, registry.Viable mode site other otherDecl → ¬ site.Dominates otherDecl decl

/-- A viable candidate dominates every other one. -/
def IsBest (registry : Registry) (mode : DispatchMode) (site : CallSite) (id : MethodId)
    (decl : MethodDecl) : Prop :=
  ∀ other otherDecl, registry.Viable mode site other otherDecl → other ≠ id → site.Dominates decl otherDecl

/-- Several candidates are undominated, and this is the only one of them in the calling module. -/
structure IsOwnBest (registry : Registry) (mode : DispatchMode) (site : CallSite) (id : MethodId)
    (decl : MethodDecl) : Prop where
  undominated : registry.Undominated mode site id decl
  several : ∃ other otherDecl, other ≠ id ∧ registry.Undominated mode site other otherDecl
  own : decl.owner = site.calling
  alone : ∀ other otherDecl, registry.Undominated mode site other otherDecl → otherDecl.owner = site.calling →
    other = id

def IsOwn (registry : Registry) (site : CallSite) (id : MethodId) : Prop :=
  ∃ decl, registry.methods.get? id = some decl ∧ decl.owner = site.calling

/-- Candidates among which nothing decides. -/
structure Tied (registry : Registry) (mode : DispatchMode) (site : CallSite) (tied : List MethodId) : Prop where
  ascending : tied.Pairwise fun earlier later => earlier.raw < later.raw
  members : ∀ id, id ∈ tied ↔ ∃ decl, registry.Undominated mode site id decl
  several : 2 ≤ tied.length
  apart : ∀ id ∈ tied, ∀ other ∈ tied, ∀ decl otherDecl, registry.methods.get? id = some decl →
    registry.methods.get? other = some otherDecl → ¬ site.Dominates decl otherDecl
  own : (∀ id ∈ tied, ¬ registry.IsOwn site id) ∨
    ∃ id ∈ tied, ∃ other ∈ tied, id ≠ other ∧ registry.IsOwn site id ∧ registry.IsOwn site other

theorem Viable.declared {id : MethodId} {decl : MethodDecl} (viable : registry.Viable mode site id decl) :
    registry.methods.get? id = some decl := viable.suits.declared

theorem Viable.exists_plan {id : MethodId} {decl : MethodDecl} (viable : registry.Viable mode site id decl) :
    ∃ conversions, registry.plan site decl = .ok conversions := by
  rcases viable.accepts with accepts | ⟨_, convertible⟩
  · exact ⟨[], plan_of_acceptsAsIs accepts⟩
  · exact exists_plan_iff.2 convertible

section Ranking

variable {scope : List ModuleId} (visible : registry.callScope mode site = .ok scope)

include visible

theorem viable_iff {id : MethodId} {decl : MethodDecl} :
    registry.Viable mode site id decl ↔
      ∃ candidate ∈ registry.candidates site scope, candidate.id = id ∧ candidate.decl = decl := by
  constructor
  · intro viable
    obtain ⟨conversions, planned⟩ := viable.exists_plan
    exact ⟨⟨id, decl, conversions⟩, (mem_candidates visible).2 ⟨viable, planned⟩, rfl, rfl⟩
  · rintro ⟨candidate, inside, rfl, rfl⟩
    exact ((mem_candidates visible).1 inside).1

theorem mem_undominated {candidate : Candidate} :
    candidate ∈ Candidate.undominated site.args.length (registry.candidates site scope) ↔
      candidate ∈ registry.candidates site scope ∧
        ∀ other ∈ registry.candidates site scope, ¬ site.Dominates other.decl candidate.decl := by
  have supplied (candidate : Candidate) (inside : candidate ∈ registry.candidates site scope) :
      site.args.length ≤ candidate.decl.params.length := ((mem_candidates visible).1 inside).1.suits.supplied
  unfold Candidate.undominated
  rw [List.mem_filter, Bool.not_eq_true', List.any_eq_false]
  refine and_congr_right fun inside => forall₂_congr fun other among => ?_
  rw [MethodDecl.dominates_iff (supplied other among) (supplied candidate inside)]

theorem undominated_iff {id : MethodId} {decl : MethodDecl} :
    registry.Undominated mode site id decl ↔
      ∃ candidate ∈ Candidate.undominated site.args.length (registry.candidates site scope),
        candidate.id = id ∧ candidate.decl = decl := by
  constructor
  · rintro ⟨viable, highest⟩
    obtain ⟨candidate, inside, rfl, rfl⟩ := (viable_iff visible).1 viable
    refine ⟨candidate, (mem_undominated visible).2 ⟨inside, fun other among => ?_⟩, rfl, rfl⟩
    exact highest other.id other.decl ((viable_iff visible).2 ⟨other, among, rfl, rfl⟩)
  · rintro ⟨candidate, undominated, rfl, rfl⟩
    obtain ⟨inside, highest⟩ := (mem_undominated visible).1 undominated
    refine ⟨(viable_iff visible).2 ⟨candidate, inside, rfl, rfl⟩, fun other otherDecl viable => ?_⟩
    obtain ⟨otherCandidate, among, rfl, rfl⟩ := (viable_iff visible).1 viable
    exact highest otherCandidate among

omit visible in
theorem undominated_ascending (registry : Registry) (site : CallSite) (scope : List ModuleId) :
    (Candidate.undominated site.args.length (registry.candidates site scope)).Pairwise
      fun earlier later => earlier.id.raw < later.id.raw :=
  (registry.candidates_ascending site scope).filter _

theorem exists_undominated {candidate : Candidate} (inside : candidate ∈ registry.candidates site scope) :
    ∃ top ∈ Candidate.undominated site.args.length (registry.candidates site scope),
      top = candidate ∨ site.Dominates top.decl candidate.decl := by
  obtain ⟨top, among, tops, highest⟩ :=
    exists_top (fun entry other : Candidate => site.Dominates entry.decl other.decl)
      (fun entry => site.not_dominates_self entry.decl) (fun _ _ _ above below => above.trans below)
      (registry.candidates site scope) candidate inside
  exact ⟨top, (mem_undominated visible).2 ⟨among, highest⟩, tops⟩

theorem undominated_eq_singleton_iff {candidate : Candidate}
    (inside : candidate ∈ registry.candidates site scope) :
    Candidate.undominated site.args.length (registry.candidates site scope) = [candidate] ↔
      registry.IsBest mode site candidate.id candidate.decl := by
  rw [Candidate.eq_singleton_iff (registry.undominated_ascending site scope)]
  constructor
  · rintro ⟨undominated, alone⟩ other otherDecl viable different
    obtain ⟨loser, among, rfl, rfl⟩ := (viable_iff visible).1 viable
    obtain ⟨top, highest, same | dominates⟩ := exists_undominated visible among
    · exact absurd (same ▸ alone top highest) different
    · have isCandidate := Candidate.eq_of_id_eq (registry.undominated_ascending site scope) highest undominated
        (alone top highest)
      exact isCandidate ▸ dominates
  · intro best
    constructor
    · refine (mem_undominated visible).2 ⟨inside, fun other among dominates => ?_⟩
      by_cases same : other.id = candidate.id
      · have isCandidate := Candidate.eq_of_id_eq (registry.candidates_ascending site scope) among inside same
        exact site.not_dominates_self _ (isCandidate ▸ dominates)
      · have back := best other.id other.decl ((viable_iff visible).2 ⟨other, among, rfl, rfl⟩) same
        exact site.not_dominates_self _ (dominates.trans back)
    · intro other undominated
      obtain ⟨among, highest⟩ := (mem_undominated visible).1 undominated
      refine Decidable.byContradiction fun different => highest candidate inside ?_
      exact (best other.id other.decl ((viable_iff visible).2 ⟨other, among, rfl, rfl⟩) different)

theorem own_eq_singleton_iff {candidate : Candidate} :
    ((∀ only, Candidate.undominated site.args.length (registry.candidates site scope) ≠ [only]) ∧
      ((Candidate.undominated site.args.length (registry.candidates site scope)).filter
        fun candidate => candidate.decl.owner = site.calling) = [candidate]) ↔
      candidate ∈ registry.candidates site scope ∧
        registry.IsOwnBest mode site candidate.id candidate.decl := by
  have ascending := registry.undominated_ascending site scope
  rw [Candidate.eq_singleton_iff (ascending.filter _)]
  simp only [List.mem_filter, decide_eq_true_iff]
  constructor
  · rintro ⟨several, ⟨undominated, own⟩, alone⟩
    refine ⟨((mem_undominated visible).1 undominated).1, ?_⟩
    constructor
    · exact (undominated_iff visible).2 ⟨candidate, undominated, rfl, rfl⟩
    · refine Classical.byContradiction fun none => several candidate ?_
      refine (Candidate.eq_singleton_iff ascending).2 ⟨undominated, fun other among => ?_⟩
      refine Decidable.byContradiction fun different => none ?_
      exact ⟨other.id, other.decl, different, (undominated_iff visible).2 ⟨other, among, rfl, rfl⟩⟩
    · exact own
    · intro other otherDecl otherUndominated otherOwn
      obtain ⟨rival, among, rfl, rfl⟩ := (undominated_iff visible).1 otherUndominated
      exact alone rival ⟨among, otherOwn⟩
  · rintro ⟨inside, best⟩
    obtain ⟨_, undominated, sameId, _⟩ := (undominated_iff visible).1 best.undominated
    have isCandidate := Candidate.eq_of_id_eq (registry.candidates_ascending site scope)
      ((mem_undominated visible).1 undominated).1 inside sameId
    subst isCandidate
    refine ⟨fun only single => ?_, ⟨undominated, best.own⟩, fun other among => ?_⟩
    · obtain ⟨other, otherDecl, different, otherUndominated⟩ := best.several
      obtain ⟨rival, among, rfl, rfl⟩ := (undominated_iff visible).1 otherUndominated
      obtain ⟨_, alone⟩ := (Candidate.eq_singleton_iff ascending).1 single
      exact different ((alone rival among).trans (alone _ undominated).symm)
    · exact best.alone other.id other.decl ((undominated_iff visible).2 ⟨other, among.1, rfl, rfl⟩) among.2

theorem tied_of_select {tied : List Candidate} (some : registry.candidates site scope ≠ [])
    (failed : Candidate.select site.args.length site.calling (registry.candidates site scope) = .error tied) :
    registry.Tied mode site (tied.map Candidate.id) := by
  obtain ⟨rfl, several, notOwn⟩ := Candidate.select_eq_error failed
  have ascending := registry.undominated_ascending site scope
  have members (id : MethodId) :
      id ∈ (Candidate.undominated site.args.length (registry.candidates site scope)).map Candidate.id ↔
        ∃ decl, registry.Undominated mode site id decl := by
    rw [List.mem_map]
    constructor
    · rintro ⟨candidate, inside, rfl⟩
      exact ⟨candidate.decl, (undominated_iff visible).2 ⟨candidate, inside, rfl, rfl⟩⟩
    · rintro ⟨decl, undominated⟩
      obtain ⟨candidate, inside, same, _⟩ := (undominated_iff visible).1 undominated
      exact ⟨candidate, inside, same⟩
  constructor
  · exact List.pairwise_map.2 ascending
  · exact members
  · obtain ⟨candidate, inside⟩ := List.exists_mem_of_ne_nil _ some
    obtain ⟨top, among, _⟩ := exists_undominated visible inside
    obtain ⟨first, second, rest, whole⟩ := exists_two (List.ne_nil_of_mem among) several
    rw [whole, List.map_cons, List.map_cons, List.length_cons, List.length_cons]
    omega
  · intro id inside other among decl otherDecl declared otherDeclared dominates
    obtain ⟨found, undominated⟩ := (members id).1 inside
    obtain ⟨otherFound, otherUndominated⟩ := (members other).1 among
    cases declared.symm.trans undominated.viable.declared
    cases otherDeclared.symm.trans otherUndominated.viable.declared
    exact otherUndominated.highest id decl undominated.viable dominates
  · by_cases none : (Candidate.undominated site.args.length (registry.candidates site scope)).filter
        (fun candidate => candidate.decl.owner = site.calling) = []
    · refine .inl fun id inside => ?_
      rintro ⟨decl, declared, own⟩
      obtain ⟨candidate, among, rfl⟩ := List.mem_map.1 inside
      have isDeclared := ((undominated_iff visible).2 ⟨candidate, among, rfl, rfl⟩).viable.declared
      cases declared.symm.trans isDeclared
      exact List.filter_eq_nil_iff.1 none candidate among (decide_eq_true own)
    · obtain ⟨first, second, rest, whole⟩ := exists_two none notOwn
      have inOrder := whole ▸ ascending.filter fun candidate : Candidate => candidate.decl.owner = site.calling
      have before := (List.pairwise_cons.1 inOrder).1 second List.mem_cons_self
      have isOwn (candidate : Candidate) (inside : candidate ∈ first :: second :: rest) :
          candidate.id ∈
              (Candidate.undominated site.args.length (registry.candidates site scope)).map Candidate.id ∧
            registry.IsOwn site candidate.id := by
        obtain ⟨among, own⟩ := List.mem_filter.1 (whole ▸ inside)
        have isDeclared := ((undominated_iff visible).2 ⟨candidate, among, rfl, rfl⟩).viable.declared
        exact ⟨List.mem_map.2 ⟨candidate, among, rfl⟩, candidate.decl, isDeclared, decide_eq_true_iff.1 own⟩
      obtain ⟨firstInside, firstOwn⟩ := isOwn first List.mem_cons_self
      obtain ⟨secondInside, secondOwn⟩ := isOwn second (List.mem_cons_of_mem _ List.mem_cons_self)
      refine .inr ⟨first.id, firstInside, second.id, secondInside, fun same => ?_, firstOwn, secondOwn⟩
      rw [same] at before
      exact Nat.lt_irrefl _ before

end Ranking

/-- With at least one viable candidate, a call resolves to a viable candidate exactly if that dominates all
others or is the calling module's own best; if there is no such candidate, the undominated ones tie. -/
theorem resolve_winner_or_tie (competing : ∃ id decl, registry.Viable mode site id decl) :
    (∀ id decl, registry.Viable mode site id decl →
      ((∃ resolution, registry.resolve mode site = .ok resolution ∧ resolution.method = id) ↔
        registry.IsBest mode site id decl ∨ registry.IsOwnBest mode site id decl)) ∧
    ((∀ id decl, registry.Viable mode site id decl →
        ¬ registry.IsBest mode site id decl ∧ ¬ registry.IsOwnBest mode site id decl) →
      ∃ tied, registry.resolve mode site = .error (.ambiguousMethod site.method tied) ∧
        registry.Tied mode site tied) := by
  obtain ⟨id, decl, viable⟩ := competing
  obtain ⟨scope, visible⟩ := viable.suits.seen.exists_scope
  have some : registry.candidates site scope ≠ [] := by
    obtain ⟨candidate, inside, _⟩ := (viable_iff visible).1 viable
    exact List.ne_nil_of_mem inside
  have picked : registry.resolve mode site = site.pick (registry.candidates site scope) := by
    unfold resolve
    rw [visible]
    exact resolveIn_of_candidates some
  have selected (candidate : Candidate) (inside : candidate ∈ registry.candidates site scope) :
      Candidate.select site.args.length site.calling (registry.candidates site scope) = .ok candidate ↔
        registry.IsBest mode site candidate.id candidate.decl ∨
          registry.IsOwnBest mode site candidate.id candidate.decl := by
    rw [Candidate.select_eq_ok_iff, undominated_eq_singleton_iff visible inside, own_eq_singleton_iff visible,
      and_iff_right inside]
  rw [picked]
  unfold CallSite.pick
  constructor
  · intro id decl viable
    obtain ⟨candidate, inside, rfl, rfl⟩ := (viable_iff visible).1 viable
    rw [← selected candidate inside]
    constructor
    · rintro ⟨resolution, resolved, same⟩
      split at resolved
      next winner isWinner =>
        cases resolved
        have among := Candidate.mem_of_select isWinner
        rw [isWinner, Candidate.eq_of_id_eq (registry.candidates_ascending site scope) among inside same]
      next => cases resolved
    · intro isWinner
      rw [isWinner]
      exact ⟨.ofCandidate candidate, rfl, rfl⟩
  · intro noWinner
    cases failed : Candidate.select site.args.length site.calling (registry.candidates site scope) with
    | ok winner =>
      have inside := Candidate.mem_of_select failed
      have viable := (viable_iff visible).2 ⟨winner, inside, rfl, rfl⟩
      obtain ⟨notBest, notOwnBest⟩ := noWinner winner.id winner.decl viable
      exact absurd ((selected winner inside).1 failed) (not_or.2 ⟨notBest, notOwnBest⟩)
    | error tied => exact ⟨tied.map Candidate.id, rfl, tied_of_select visible some failed⟩

def rivalMethods : List Operation :=
  [.declareModule ⟨10⟩, .declareModule ⟨11⟩, .declareModule ⟨12⟩, .importModule ⟨1⟩ ⟨2⟩, .importModule ⟨1⟩ ⟨3⟩,
    .declareMethod ⟨2⟩ ⟨13⟩ .any [] ⟨7⟩, .declareMethod ⟨1⟩ ⟨13⟩ .dynamic [] ⟨8⟩,
    .declareMethod ⟨3⟩ ⟨13⟩ (.interfaces .empty) [] ⟨9⟩]

def rivalCall : CallSite := ⟨⟨1⟩, none, .bool true, ⟨13⟩, []⟩

def ownRival : MethodDecl := ⟨⟨1⟩, ⟨13⟩, .dynamic, [], ⟨8⟩, .declared⟩

theorem resolve_winner_or_tie_rivals :
    (ofLoad rivalMethods).Viable .twoKey rivalCall ⟨1⟩ ownRival ∧
    (ofLoad rivalMethods).resolve .twoKey rivalCall = .ok ⟨⟨1⟩, ⟨1⟩, ⟨8⟩, []⟩ ∧
    ((ofLoad rivalMethods).IsBest .twoKey rivalCall ⟨1⟩ ownRival ∨
      (ofLoad rivalMethods).IsOwnBest .twoKey rivalCall ⟨1⟩ ownRival) := by
  have visible : (ofLoad rivalMethods).callScope .twoKey rivalCall = .ok [⟨1⟩, ⟨2⟩, ⟨3⟩] := rfl
  have inside : ⟨⟨1⟩, ownRival, []⟩ ∈ (ofLoad rivalMethods).candidates rivalCall [⟨1⟩, ⟨2⟩, ⟨3⟩] := by decide
  have viable := (viable_iff visible).2 ⟨_, inside, rfl, rfl⟩
  exact ⟨viable, rfl, ((resolve_winner_or_tie ⟨_, _, viable⟩).1 _ _ viable).1 ⟨_, rfl, rfl⟩⟩

end Registry

end AtomResolution
