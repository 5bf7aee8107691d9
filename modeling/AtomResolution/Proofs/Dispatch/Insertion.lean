import AtomResolution.Proofs.Dispatch.Winner
import AtomResolution.Proofs.Freeze.Rearrangement
import AtomResolution.Proofs.Load.Insertion

/-!
Calls where further declarations were inserted. Methods that nobody asks for take no part in freezing and methods
of other names none in a call; conversions are looked at only where nothing accepts a call as it is. So such a
call comes to the same, but for the handles of methods, whatever was inserted; and if only methods were, so does
every call.
-/

namespace AtomResolution

def Candidate.moved (move : MethodId → MethodId) (candidate : Candidate) : Candidate :=
  { candidate with id := move candidate.id }

def movedOutcome (move : MethodId → MethodId) :
    Except DispatchError Resolution → Except DispatchError Resolution
  | .ok resolution => .ok { resolution with method := move resolution.method }
  | .error (.ambiguousMethod method candidates) => .error (.ambiguousMethod method (candidates.map move))
  | .error error => .error error

namespace Candidate

variable {arity : Nat} {calling : ModuleId} {move : MethodId → MethodId}

theorem undominated_moved (arity : Nat) (candidates : List Candidate) :
    undominated arity (candidates.map (moved move)) = (undominated arity candidates).map (moved move) := by
  unfold undominated
  rw [List.filter_map]
  simp only [List.any_map]
  rfl

theorem select_moved (candidates : List Candidate) : select arity calling (candidates.map (moved move)) =
    match select arity calling candidates with
    | .ok winner => .ok (winner.moved move)
    | .error tied => .error (tied.map (moved move)) := by
  have owned (highest : List Candidate) : ((highest.map (moved move)).filter fun candidate =>
      candidate.decl.owner = calling) =
        (highest.filter fun candidate => candidate.decl.owner = calling).map (moved move) := by
    rw [List.filter_map]
    rfl
  unfold select
  rw [undominated_moved]
  generalize undominated arity candidates = highest
  rcases highest with _ | ⟨first, _ | ⟨second, rest⟩⟩
  · rfl
  · rfl
  · have own := owned (first :: second :: rest)
    rw [List.map_cons, List.map_cons] at own ⊢
    dsimp only
    rw [own]
    generalize List.filter _ (first :: second :: rest) = among
    rcases among with _ | ⟨only, _ | ⟨other, others⟩⟩ <;> rfl

end Candidate

theorem CallSite.pick_moved (site : CallSite) (move : MethodId → MethodId) (candidates : List Candidate) :
    site.pick (candidates.map (Candidate.moved move)) = movedOutcome move (site.pick candidates) := by
  unfold pick
  rw [Candidate.select_moved]
  cases Candidate.select site.args.length site.calling candidates with
  | ok winner => rfl
  | error tied =>
    dsimp only [movedOutcome]
    rw [List.map_map, List.map_map]
    rfl

namespace Registry

variable {registry again : Registry} {mode : DispatchMode} {site : CallSite} {called : Name}
  {move : MethodId → MethodId}

/-- Another registry has the same modules and the same relation, and the methods of some name in the same order
under handles of its own. -/
structure Retains (registry again : Registry) (called : Name) (move : MethodId → MethodId) : Prop where
  modules : registry.modules = again.modules
  satisfied : registry.satisfied = again.satisfied
  named : again.methodsNamed called = (registry.methodsNamed called).map fun (id, decl) => (move id, decl)

/-- What a call comes to is settled by methods that accept it as it is. -/
inductive AnswersDirectly (registry : Registry) (mode : DispatchMode) (site : CallSite) : Prop
  | resolved {resolution : Resolution} (resolved : registry.resolve mode site = .ok resolution)
      (unconverted : resolution.conversions = []) : AnswersDirectly registry mode site
  | ambiguous {method : Name} {tied : List MethodId}
      (failed : registry.resolve mode site = .error (.ambiguousMethod method tied))
      (accept : ∀ id ∈ tied, ∃ decl, registry.methods.get? id = some decl ∧ registry.AcceptsAsIs site decl) :
      AnswersDirectly registry mode site

theorem tied_of_resolve {method : Name} {tied : List MethodId}
    (failed : registry.resolve mode site = .error (.ambiguousMethod method tied)) :
    registry.Tied mode site tied := by
  unfold resolve at failed
  split at failed
  next error invisible =>
    cases failed
    unfold callScope at invisible
    grind
  next scope visible =>
    by_cases none : registry.candidates site scope = []
    · rw [resolveIn_of_no_candidates none] at failed
      cases first : registry.firstAmbiguity? site scope with
      | none =>
        rw [first] at failed
        cases failed
      | some error =>
        rw [first] at failed
        cases failed
    · rw [resolveIn_of_candidates none] at failed
      unfold CallSite.pick at failed
      split at failed
      next => cases failed
      next partners unselected =>
        cases failed
        exact tied_of_select visible none unselected

theorem AnswersDirectly.hasDirect (answers : registry.AnswersDirectly mode site) :
    registry.HasDirect mode site := by
  cases answers with
  | resolved resolved unconverted =>
    obtain ⟨decl, viable, -, -, planned⟩ := exists_viable_of_resolve resolved
    refine ⟨_, decl, viable.suits, fun position value pattern meets => ?_⟩
    cases accepts : registry.accepts pattern value.atomId with
    | true => rfl
    | false =>
      have converted := ((plan_sound planned).rejected position).2 ⟨value, pattern, meets, accepts⟩
      rw [unconverted] at converted
      cases converted
  | @ambiguous method tied failed accept =>
    have ties := tied_of_resolve failed
    have nonempty : 0 < tied.length := Nat.lt_of_lt_of_le Nat.zero_lt_two ties.several
    obtain ⟨id, inside⟩ := List.exists_mem_of_length_pos nonempty
    obtain ⟨decl, undominated⟩ := (ties.members id).1 inside
    obtain ⟨other, declared, accepts⟩ := accept id inside
    cases declared.symm.trans undominated.viable.declared
    exact ⟨id, _, undominated.viable.suits, accepts⟩

namespace Retains

variable (retains : registry.Retains again called move)

include retains

theorem callScope_eq (mode : DispatchMode) (calls : site.method = called) :
    again.callScope mode site = registry.callScope mode site := by
  have owns : again.ownsMethod called = registry.ownsMethod called := by
    funext owner
    unfold ownsMethod
    rw [retains.named, List.any_map]
    rfl
  unfold callScope Catalog.scope
  rw [← retains.modules, calls, owns]

theorem methodsInScope_eq (calls : site.method = called) (scope : List ModuleId) :
    again.methodsInScope site scope =
      (registry.methodsInScope site scope).map fun (id, decl) => (move id, decl) := by
  unfold methodsInScope
  rw [calls, retains.named, List.filter_map]
  rfl

theorem directCandidates_eq (calls : site.method = called) (scope : List ModuleId) :
    again.directCandidates site scope = (registry.directCandidates site scope).map (Candidate.moved move) := by
  unfold directCandidates
  rw [retains.methodsInScope_eq calls, ← acceptsCall_congr retains.satisfied, List.filter_map, List.map_map,
    List.map_map]
  rfl

theorem resolve_eq_of_hasDirect (calls : site.method = called) (direct : registry.HasDirect mode site) :
    again.resolve mode site = movedOutcome move (registry.resolve mode site) := by
  obtain ⟨id, decl, suits, accepts⟩ := id direct
  obtain ⟨scope, visible⟩ := suits.seen.exists_scope
  have some := (hasDirect_iff visible).1 direct
  unfold resolve resolveIn
  rw [retains.callScope_eq mode calls, visible]
  dsimp only
  rw [retains.directCandidates_eq calls]
  generalize registry.directCandidates site scope = candidates at some ⊢
  cases candidates with
  | nil => exact absurd rfl some
  | cons first rest => exact site.pick_moved move (first :: rest)

variable (sameConversions : registry.conversions = again.conversions)

include sameConversions

theorem convertedCandidates_eq (calls : site.method = called) (scope : List ModuleId) :
    again.convertedCandidates site scope =
      (registry.convertedCandidates site scope).map (Candidate.moved move) := by
  unfold convertedCandidates
  rw [retains.methodsInScope_eq calls, ← plan_congr retains.satisfied sameConversions, List.filterMap_map,
    List.map_filterMap]
  congr 1
  funext entry
  dsimp only [Function.comp]
  cases registry.plan site entry.2 <;> rfl

theorem firstAmbiguity?_eq (calls : site.method = called) (scope : List ModuleId) :
    again.firstAmbiguity? site scope = registry.firstAmbiguity? site scope := by
  unfold firstAmbiguity?
  rw [retains.methodsInScope_eq calls, ← plan_congr retains.satisfied sameConversions, List.findSome?_map]
  rfl

theorem resolve_eq (mode : DispatchMode) (calls : site.method = called) :
    again.resolve mode site = movedOutcome move (registry.resolve mode site) := by
  have unmoved (error : DispatchError) (visible : registry.callScope mode site = .error error) :
      movedOutcome move (.error error) = .error error := by
    unfold callScope at visible
    grind [movedOutcome]
  unfold resolve resolveIn
  rw [retains.callScope_eq mode calls]
  cases visible : registry.callScope mode site with
  | error error => exact (unmoved error visible).symm
  | ok scope =>
    dsimp only
    rw [retains.directCandidates_eq calls, retains.convertedCandidates_eq sameConversions calls,
      retains.firstAmbiguity?_eq sameConversions calls]
    cases registry.directCandidates site scope with
    | cons first rest => exact site.pick_moved move (first :: rest)
    | nil =>
      cases registry.convertedCandidates site scope with
      | cons first rest => exact site.pick_moved move (first :: rest)
      | nil => cases registry.firstAmbiguity? site scope <;> rfl

end Retains

end Registry

theorem Catalog.exists_move {catalog other : Catalog} {called : Name}
    (inserts : Inserts (fun decl => decl.name ≠ called) catalog.methods.entries other.methods.entries) :
    ∃ move : MethodId → MethodId,
      (∀ earlier later, earlier.raw < later.raw → (move earlier).raw < (move later).raw) ∧
      (∀ id decl, catalog.methods.get? id = some decl → other.methods.get? (move id) = some decl) ∧
      other.methodsNamed called = (catalog.methodsNamed called).map fun (id, decl) => (move id, decl) := by
  obtain ⟨position, ascending, kept, found⟩ := inserts.exists_positions
  refine ⟨fun id => ⟨position id.raw⟩, fun _ _ before => ascending before, fun id decl => kept id.raw decl, ?_⟩
  have enumerated (catalog : Catalog) : catalog.methodsNamed called =
      (catalog.methods.entries.zipIdx.filter fun (decl, _) => decl.name = called).map
        fun (decl, raw) => (⟨raw⟩, decl) := by
    unfold methodsNamed Table.enum
    rw [List.filter_map]
    rfl
  have sameNamed := found (fun decl => decl.name = called) fun decl other => decide_eq_false other
  rw [enumerated, enumerated, sameNamed, List.map_map, List.map_map]
  rfl

namespace Builder

variable {called : Name} {original extended : List Operation}

theorem Inserted.meetsAlike (inserted : Inserted called original extended) :
    (new.run original).MeetsAlike (new.run extended).toCatalog where
  atoms := congrArg (fun builder => builder.atoms) inserted.erased_eq
  interfaces := congrArg (fun builder => builder.interfaces) inserted.erased_eq
  methods interface requirement requires := by
    have apart := inserted.methods.filter_eq fun decl => decl.name = requirement.name
    rw [apart]
    rintro decl ⟨-, unasked⟩
    apply decide_eq_false
    exact (unasked interface requirement ((loads_ledger original).requires_iff.1 requires)).symm

theorem Inserted.freeze {registry : Registry} (inserted : Inserted called original extended)
    (frozen : (new.run original).freeze = .ok registry) :
    ∃ again, (new.run extended).freeze = .ok again ∧ registry.satisfied = again.satisfied ∧
      Inserts (fun decl => decl.name ≠ called) registry.methods.entries again.methods.entries := by
  obtain ⟨catalog, made, rfl⟩ := freeze_eq_ok_iff.1 frozen
  have additions := inserted.meetsAlike.materialiseAll (new.run original).confirmed
  rw [made] at additions
  generalize madeAgain : (new.run extended).materialiseAll (new.run original).confirmed = outcome at additions
  rw [inserted.confirmed_eq] at madeAgain
  cases additions with
  | made added =>
    refine ⟨_, freeze_eq_ok_iff.2 ⟨_, madeAgain, rfl⟩, (inserted.meetsAlike.append added).satisfaction_eq, ?_⟩
    exact (inserted.methods.mono fun _ further => further.1).append_right added

/-- Declarations that have nothing to do with calls to a method of some name do not change them. Insert conversions
and methods of other names, which no interface asks for, anywhere into a load sequence: it freezes again, with the
same relation, and calls to the name that were settled by methods that accept them as they are come to the same
but for the handles of methods. If only methods are inserted, all calls to the name do. -/
theorem resolve_of_inserted {registry : Registry} (inserted : Inserted called original extended)
    (frozen : (new.run original).freeze = .ok registry) :
    ∃ again, (new.run extended).freeze = .ok again ∧
      (∀ atom interface, again.satisfies atom interface = registry.satisfies atom interface) ∧
      ∃ move : MethodId → MethodId,
        (∀ earlier later, earlier.raw < later.raw → (move earlier).raw < (move later).raw) ∧
        (∀ id decl, registry.methods.get? id = some decl → again.methods.get? (move id) = some decl) ∧
        (∀ mode site, site.method = called → registry.AnswersDirectly mode site →
          again.resolve mode site = movedOutcome move (registry.resolve mode site)) ∧
        (Inserts (fun operation => operation.isMethod = true) original extended → ∀ mode site,
          site.method = called → again.resolve mode site = movedOutcome move (registry.resolve mode site)) := by
  obtain ⟨again, frozenAgain, satisfied, inserts⟩ := inserted.freeze frozen
  obtain ⟨move, ascending, kept, named⟩ := Catalog.exists_move inserts
  have modules : registry.modules = again.modules := by
    rw [modules_of_freeze frozen, modules_of_freeze frozenAgain, inserted.modules_eq]
  have retains : registry.Retains again called move := ⟨modules, satisfied, named⟩
  refine ⟨again, frozenAgain, fun atom interface => ?_, move, ascending, kept, ?_, ?_⟩
  · unfold Registry.satisfies
    rw [satisfied]
  · intro mode site calls answers
    exact retains.resolve_eq_of_hasDirect calls answers.hasDirect
  · intro onlyMethods mode site calls
    have conversions : registry.conversions = again.conversions := by
      rw [conversions_of_freeze frozen, conversions_of_freeze frozenAgain, inserted.conversions_eq onlyMethods]
    exact retains.resolve_eq conversions mode calls

def plainMethod : List Operation :=
  [.declareModule ⟨10⟩, .declareInterface ⟨1⟩ ⟨11⟩ [] [⟨⟨12⟩, [], some ⟨6⟩⟩], .confirm AtomId.bool ⟨0⟩,
    .declareMethod ⟨1⟩ ⟨13⟩ (.atom AtomId.bool) [] ⟨7⟩]

def surroundedMethod : List Operation :=
  [.declareModule ⟨10⟩, .declareInterface ⟨1⟩ ⟨11⟩ [] [⟨⟨12⟩, [], some ⟨6⟩⟩], .confirm AtomId.bool ⟨0⟩,
    .declareMethod ⟨1⟩ ⟨14⟩ .any [] ⟨8⟩, .declareConversion ⟨1⟩ AtomId.int AtomId.bool [] ⟨9⟩,
    .declareMethod ⟨1⟩ ⟨13⟩ (.atom AtomId.bool) [] ⟨7⟩]

def plainCall : CallSite := ⟨⟨1⟩, none, .bool true, ⟨13⟩, []⟩

theorem resolve_of_inserted_surrounded :
    Inserted ⟨13⟩ plainMethod surroundedMethod ∧
    (new.run plainMethod).freeze = .ok (.ofLoad plainMethod) ∧
    (Registry.ofLoad plainMethod).resolve .twoKey plainCall = .ok ⟨⟨0⟩, ⟨1⟩, ⟨7⟩, []⟩ ∧
    ∃ again, (new.run surroundedMethod).freeze = .ok again ∧ ∃ move : MethodId → MethodId,
      again.resolve .twoKey plainCall = .ok ⟨move ⟨0⟩, ⟨1⟩, ⟨7⟩, []⟩ := by
  have unasked (interface : InterfaceId) (requirement : Requirement)
      (requires : (new.ledger plainMethod).Requires interface requirement) : requirement.name ≠ ⟨14⟩ := by
    have apart : ∀ decl ∈ (new.run plainMethod).interfaces.entries,
        ∀ requirement ∈ decl.requirements, requirement.name ≠ ⟨14⟩ := by decide
    obtain ⟨decl, found, asked⟩ := (loads_ledger _).requires_iff.2 requires
    exact apart decl (List.mem_of_getElem? found) requirement asked
  have inserts : Inserts ((new.ledger plainMethod).Unrelated ⟨13⟩) plainMethod surroundedMethod :=
    .keep _ (.keep _ (.keep _ (.insert (.method (by decide) unasked) (.insert .conversion (.keep _ .nil)))))
  have inserted : Inserted ⟨13⟩ plainMethod surroundedMethod := ⟨rfl, rfl, inserts⟩
  have frozen : (new.run plainMethod).freeze = .ok (.ofLoad plainMethod) := rfl
  have resolved : (Registry.ofLoad plainMethod).resolve .twoKey plainCall = .ok ⟨⟨0⟩, ⟨1⟩, ⟨7⟩, []⟩ := rfl
  obtain ⟨again, frozenAgain, -, move, -, -, sameDirect, -⟩ := resolve_of_inserted inserted frozen
  refine ⟨inserted, frozen, resolved, again, frozenAgain, move, ?_⟩
  rw [sameDirect .twoKey plainCall rfl (.resolved resolved rfl), resolved]
  rfl

end Builder

end AtomResolution
