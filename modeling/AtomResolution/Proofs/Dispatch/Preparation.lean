import Mathlib.Data.List.Forall2
import AtomResolution.Proofs.Conversion.Steps
import AtomResolution.Proofs.Dispatch.Soundness

/-!
Preparation of calls, for any host. The host is asked once for each planned conversion, in the order of the
places, about the value that stands there at first; the first answer that is not an instance of the target
ends the preparation. If none does, the prepared call is one that the method accepts.
-/

namespace AtomResolution

namespace PreparedCall

variable {call : PreparedCall} {position other : Position} {value new : Value}

theorem valueAt_of_valueAt? (method : MethodId) (found : call.valueAt? position = some value) :
    call.valueAt method position = .ok value := by
  cases position with
  | receiver =>
    cases found
    rfl
  | arg index =>
    have here : call.args[index]? = some value := found
    rw [valueAt, here]

theorem valueAt?_set_self (found : call.valueAt? position = some value) :
    (call.set position new).valueAt? position = some new := by
  cases position with
  | receiver => rfl
  | arg index =>
    have bound := (List.getElem?_eq_some_iff.1 found).1
    exact List.getElem?_set_self bound

theorem valueAt?_set_of_ne (different : position ≠ other) :
    (call.set position new).valueAt? other = call.valueAt? other := by
  cases position with
  | receiver =>
    cases other with
    | receiver => exact absurd rfl different
    | arg _ => rfl
  | arg index =>
    cases other with
    | receiver => rfl
    | arg otherIndex => exact List.getElem?_set_ne fun same => different (congrArg Position.arg same)

@[simp] theorem body_set : (call.set position new).body = call.body := by
  cases position <;> rfl

@[simp] theorem length_args_set : (call.set position new).args.length = call.args.length := by
  cases position with
  | receiver => rfl
  | arg index => exact List.length_set

end PreparedCall

def Resolution.start (resolution : Resolution) (site : CallSite) : PreparedCall :=
  ⟨resolution.body, site.receiver, site.args⟩

namespace Registry

variable {registry : Registry} {mode : DispatchMode} {site : CallSite} {σ : Type} {host : Host σ}

/-- The host is asked to run a planned conversion: its body, on the call's own value at its place, with no
arguments. -/
def Asks (registry : Registry) (site : CallSite) (planned : PlannedConversion) (exchange : Exchange) : Prop :=
  ∃ conversion value, registry.conversions.get? planned.conversion = some conversion ∧
    site.valueAt? planned.position = some value ∧ exchange.1 = ⟨conversion.body, value, []⟩

def Delivers (registry : Registry) (planned : PlannedConversion) (exchange : Exchange) (value : Value) : Prop :=
  exchange.2 = .ok value ∧
    ∃ conversion, registry.conversions.get? planned.conversion = some conversion ∧
      value.atomId = conversion.target

/-- All planned conversions were run, one exchange for each, and each answer stands in its place; all other
places are as they were. -/
structure Completed (registry : Registry) (site : CallSite) (plan : List PlannedConversion)
    (exchanges : List Exchange) (before after : PreparedCall) : Prop where
  asked : List.Forall₂ (registry.Asks site) plan exchanges
  delivered : List.Forall₂ (fun planned exchange => ∃ value, registry.Delivers planned exchange value ∧
    after.valueAt? planned.position = some value) plan exchanges
  kept : ∀ position, position ∉ plan.map PlannedConversion.position →
    after.valueAt? position = before.valueAt? position
  body : after.body = before.body
  count : after.args.length = before.args.length

/-- A planned conversion failed: those before it delivered, it did not, and none after it was run. -/
def Stopped (registry : Registry) (site : CallSite) (plan : List PlannedConversion) (exchanges : List Exchange)
    (error : DispatchError) : Prop :=
  ∃ done failing pending earlier last, plan = done ++ failing :: pending ∧ exchanges = earlier ++ [last] ∧
    List.Forall₂ (registry.Asks site) done earlier ∧
    List.Forall₂ (fun planned exchange => ∃ value, registry.Delivers planned exchange value) done earlier ∧
    registry.Asks site failing last ∧ (∀ value, ¬ registry.Delivers failing last value) ∧
    ∃ conversion, registry.conversions.get? failing.conversion = some conversion ∧
      error = .conversion (.converterFailed conversion.source conversion.target (.ofAnswer last.2))

theorem runPlan_cons {planned : PlannedConversion} {call : PreparedCall} {value : Value}
    (here : call.valueAt? planned.position = some value) (host : Host σ) (method : MethodId)
    (rest : List PlannedConversion) (state : σ) :
    registry.runPlan host method (planned :: rest) call state =
      match registry.runConversion host planned.conversion value state with
      | (.error error, state) => (.error (.conversion error), state)
      | (.ok converted, state) => registry.runPlan host method rest (call.set planned.position converted) state := by
  have isHere := PreparedCall.valueAt_of_valueAt? method here
  rw [runPlan]
  split
  next error failed =>
    rw [isHere] at failed
    cases failed
  next found isFound =>
    rw [isHere] at isFound
    cases isFound
    rfl

theorem Completed.cons {planned : PlannedConversion} {rest : List PlannedConversion} {exchange : Exchange}
    {exchanges : List Exchange} {before after : PreparedCall} {value converted : Value}
    (here : before.valueAt? planned.position = some value)
    (elsewhere : planned.position ∉ rest.map PlannedConversion.position)
    (asks : registry.Asks site planned exchange) (delivers : registry.Delivers planned exchange converted)
    (later : registry.Completed site rest exchanges (before.set planned.position converted) after) :
    registry.Completed site (planned :: rest) (exchange :: exchanges) before after where
  asked := .cons asks later.asked
  delivered := by
    refine .cons ⟨converted, delivers, ?_⟩ later.delivered
    rw [later.kept planned.position elsewhere]
    exact PreparedCall.valueAt?_set_self here
  kept := by
    intro position outside
    obtain ⟨different, notRest⟩ := not_or.1 (mt List.mem_cons.2 outside)
    rw [later.kept position notRest]
    exact PreparedCall.valueAt?_set_of_ne (Ne.symm different)
  body := by rw [later.body, PreparedCall.body_set]
  count := by rw [later.count, PreparedCall.length_args_set]

theorem Stopped.cons {planned : PlannedConversion} {rest : List PlannedConversion} {exchange : Exchange}
    {exchanges : List Exchange} {error : DispatchError} {converted : Value}
    (asks : registry.Asks site planned exchange) (delivers : registry.Delivers planned exchange converted)
    (later : registry.Stopped site rest exchanges error) :
    registry.Stopped site (planned :: rest) (exchange :: exchanges) error := by
  obtain ⟨done, failing, pending, earlier, last, rfl, rfl, asked, delivered, failure⟩ := later
  exact ⟨planned :: done, failing, pending, exchange :: earlier, last, rfl, rfl, .cons asks asked,
    .cons ⟨converted, delivers⟩ delivered, failure⟩

/-- Running a plan on a call whose planned places still hold their first values: the exchanges that a
transcribing host adds are those of a completed or of a stopped run. -/
theorem runPlan_outcome (host : Host σ) (method : MethodId) {plan : List PlannedConversion}
    {call : PreparedCall}
    (ordered : plan.Pairwise fun earlier later => earlier.position.ordinal < later.position.ordinal)
    (ready : ∀ planned ∈ plan, ∃ value conversion, call.valueAt? planned.position = some value ∧
      site.valueAt? planned.position = some value ∧
      registry.conversions.get? planned.conversion = some conversion)
    (state : σ) (transcript : List Exchange) :
    ∃ exchanges,
      registry.runPlan host.transcribing method plan call (state, transcript) =
        ((registry.runPlan host method plan call state).1, (registry.runPlan host method plan call state).2,
          transcript ++ exchanges) ∧
      (∀ after, (registry.runPlan host method plan call state).1 = .ok after →
        registry.Completed site plan exchanges call after) ∧
      (∀ error, (registry.runPlan host method plan call state).1 = .error error →
        registry.Stopped site plan exchanges error) := by
  induction plan generalizing call state transcript with
  | nil =>
    refine ⟨[], by rw [List.append_nil]; rfl, fun after isAfter => ?_, fun error isError => (by cases isError)⟩
    cases isAfter
    exact ⟨.nil, .nil, fun _ _ => rfl, rfl, rfl⟩
  | cons planned rest ih =>
    obtain ⟨before, later⟩ := List.pairwise_cons.1 ordered
    obtain ⟨⟨value, conversion, here, filled, declared⟩, readyRest⟩ := List.forall_mem_cons.1 ready
    rw [runPlan_cons here, runPlan_cons here, runConversion_transcribing declared]
    have elsewhere : ∀ other ∈ rest, planned.position ≠ other.position := fun other inside same => by
      have less := before other inside
      rw [same] at less
      exact Nat.lt_irrefl _ less
    rcases runConversion_cases declared host value state with ⟨converted, answered, typed, ran⟩ | ⟨untyped, ran⟩
    · rw [ran, answered]
      dsimp only
      have still : ∀ other ∈ rest, ∃ value conversion,
          (call.set planned.position converted).valueAt? other.position = some value ∧
          site.valueAt? other.position = some value ∧
          registry.conversions.get? other.conversion = some conversion := fun other inside => by
        rw [PreparedCall.valueAt?_set_of_ne (elsewhere other inside)]
        exact readyRest other inside
      obtain ⟨exchanges, recorded, completed, stopped⟩ :=
        ih later still (host ⟨conversion.body, value, []⟩ state).2
          (transcript ++ [(⟨conversion.body, value, []⟩, .ok converted)])
      have asks : registry.Asks site planned (⟨conversion.body, value, []⟩, .ok converted) :=
        ⟨conversion, value, declared, filled, rfl⟩
      have delivers : registry.Delivers planned (⟨conversion.body, value, []⟩, .ok converted) converted :=
        ⟨rfl, conversion, declared, typed⟩
      refine ⟨(⟨conversion.body, value, []⟩, .ok converted) :: exchanges, ?_, fun after isAfter => ?_,
        fun error isError => (stopped error isError).cons asks delivers⟩
      · rw [recorded, List.append_assoc]
        rfl
      · refine (completed after isAfter).cons here (fun inside => ?_) asks delivers
        obtain ⟨other, among, same⟩ := List.mem_map.1 inside
        exact elsewhere other among same.symm
    · rw [ran]
      refine ⟨[_], rfl, fun after isAfter => (by cases isAfter), fun error isError => ?_⟩
      cases isError
      refine ⟨[], planned, rest, [], _, rfl, rfl, .nil, .nil, ⟨conversion, value, declared, filled, rfl⟩,
        fun converted delivers => ?_, conversion, declared, rfl⟩
      obtain ⟨answered, other, otherDeclared, typed⟩ := delivers
      cases declared.symm.trans otherDeclared
      exact untyped converted answered typed

/-- A prepared call has a method's body, as many arguments as the call it was made from, and values that the
method accepts. -/
structure MayRun (registry : Registry) (site : CallSite) (decl : MethodDecl) (call : PreparedCall) : Prop where
  body : call.body = decl.body
  receiver : registry.accepts decl.receiver call.receiver.atomId = true
  count : call.args.length = site.args.length
  args : ∀ (index : Nat) (value : Value), call.args[index]? = some value →
    ∃ param : Param, decl.params[index]? = some param ∧ registry.accepts param.pattern value.atomId = true

theorem Completed.accepts {decl : MethodDecl} {plan : List PlannedConversion} {exchanges : List Exchange}
    {before after : PreparedCall} (completed : registry.Completed site plan exchanges before after)
    (plans : registry.Plans site decl plan)
    (start : ∀ position, before.valueAt? position = site.valueAt? position)
    (position : Position) {value : Value} {pattern : TypeTag} (here : after.valueAt? position = some value)
    (asks : decl.patternAt? position = some pattern) : registry.accepts pattern value.atomId = true := by
  by_cases planned : position ∈ plan.map PlannedConversion.position
  · obtain ⟨conversion, inside, rfl⟩ := List.mem_map.1 planned
    obtain ⟨exchange, converted, ⟨_, declaration, declared, typed⟩, stands⟩ :
        ∃ exchange converted, registry.Delivers conversion exchange converted ∧
          after.valueAt? conversion.position = some converted := by
      have each := (List.forall₂_iff_get.1 completed.delivered).2
      obtain ⟨index, bound, isHere⟩ := List.mem_iff_getElem.1 inside
      have size := completed.delivered.length_eq
      have delivered := each index bound (by omega)
      rw [List.get_eq_getElem, isHere] at delivered
      exact ⟨_, delivered⟩
    obtain ⟨_, expected, other, ⟨_, asksToo⟩, otherDeclared, _, accepted⟩ := plans.suitable conversion inside
    cases here.symm.trans stands
    cases asks.symm.trans asksToo
    cases declared.symm.trans otherDeclared
    rw [typed]
    exact accepted
  · rw [completed.kept position planned, start position] at here
    cases accepted : registry.accepts pattern value.atomId with
    | true => rfl
    | false => exact absurd ((plans.rejected position).2 ⟨value, pattern, ⟨here, asks⟩, accepted⟩) planned

theorem Completed.mayRun {decl : MethodDecl} {id : MethodId} {resolution : Resolution}
    {exchanges : List Exchange} {call : PreparedCall} (suits : registry.Suits mode site id decl) (body : resolution.body = decl.body)
    (plans : registry.Plans site decl resolution.conversions)
    (completed : registry.Completed site resolution.conversions exchanges (resolution.start site) call) :
    registry.MayRun site decl call where
  body := completed.body.trans body
  receiver := completed.accepts plans (fun _ => rfl) .receiver rfl rfl
  count := completed.count
  args := by
    intro index value found
    have bound := (List.getElem?_eq_some_iff.1 found).1
    have size : call.args.length = site.args.length := completed.count
    have inside : index < decl.params.length := by
      have supplied := suits.supplied
      omega
    refine ⟨decl.params[index], List.getElem?_eq_getElem inside, ?_⟩
    have asks : decl.patternAt? (.arg index) = some decl.params[index].pattern := by
      simp [MethodDecl.patternAt?, inside]
    exact completed.accepts plans (fun _ => rfl) (.arg index) found asks

/-- Preparation with any host, and the exchanges that it takes. A call that does not resolve, or that some
method accepts as it is, asks for nothing. One that resolves becomes a call that its method accepts, with one
exchange for each planned conversion in their order, or fails at the first conversion that does not deliver. -/
theorem prepare_outcome (registry : Registry) (mode : DispatchMode) (site : CallSite) (host : Host σ)
    (state : σ) :
    ∃ exchanges,
      registry.prepare mode host.transcribing site (state, []) =
        ((registry.prepare mode host site state).1, (registry.prepare mode host site state).2, exchanges) ∧
      (∀ error, registry.resolve mode site = .error error →
        (registry.prepare mode host site state).1 = .error error ∧ exchanges = []) ∧
      (∀ resolution, registry.resolve mode site = .ok resolution →
        ∃ decl, registry.methods.get? resolution.method = some decl ∧
          registry.Plans site decl resolution.conversions ∧
          (∀ call, (registry.prepare mode host site state).1 = .ok call →
            registry.Completed site resolution.conversions exchanges (resolution.start site) call ∧
              registry.MayRun site decl call) ∧
          (∀ error, (registry.prepare mode host site state).1 = .error error →
            registry.Stopped site resolution.conversions exchanges error) ∧
          (registry.HasDirect mode site → exchanges = [])) := by
  unfold prepare
  cases resolved : registry.resolve mode site with
  | error error =>
    refine ⟨[], rfl, fun other same => ?_, fun resolution impossible => (by cases impossible)⟩
    cases same
    exact ⟨rfl, rfl⟩
  | ok resolution =>
    obtain ⟨decl, viable, _, body, planned⟩ := exists_viable_of_resolve resolved
    have plans := plan_sound planned
    have ready : ∀ conversion ∈ resolution.conversions, ∃ value declaration,
        (resolution.start site).valueAt? conversion.position = some value ∧
        site.valueAt? conversion.position = some value ∧
        registry.conversions.get? conversion.conversion = some declaration := fun conversion inside => by
      obtain ⟨value, _, declaration, ⟨filled, _⟩, declared, _⟩ := plans.suitable conversion inside
      exact ⟨value, declaration, filled, filled, declared⟩
    obtain ⟨exchanges, recorded, completed, stopped⟩ :=
      runPlan_outcome host resolution.method plans.ordered ready state []
    refine ⟨exchanges, recorded, fun error impossible => (by cases impossible), fun other same => ?_⟩
    cases same
    refine ⟨decl, viable.suits.declared, plans, fun call prepared => ?_, stopped, fun direct => ?_⟩
    · exact ⟨completed call prepared, (completed call prepared).mayRun viable.suits body plans⟩
    · rw [viable.plan_eq_nil direct planned] at completed
      exact List.forall₂_nil_left_iff.1 (completed _ rfl).asked

def countingHost : Host Nat := fun invocation count =>
  (.ok (if invocation.body = ⟨8⟩ then .text "one" else .bool true), count + 1)

theorem prepare_outcome_imported :
    (ofLoad importedMethod).resolve .staticModule importedCall = .ok importedResolution ∧
    (ofLoad importedMethod).prepare .staticModule countingHost importedCall 0 =
      (.error (.conversion (.converterFailed AtomId.int AtomId.float (.returned AtomId.bool))), 2) ∧
    ∃ exchanges, (ofLoad importedMethod).Stopped importedCall importedResolution.conversions exchanges
      (.conversion (.converterFailed AtomId.int AtomId.float (.returned AtomId.bool))) := by
  obtain ⟨exchanges, _, _, resolved⟩ :=
    prepare_outcome (ofLoad importedMethod) .staticModule importedCall countingHost 0
  obtain ⟨_, _, _, _, stopped, _⟩ := resolved importedResolution rfl
  exact ⟨rfl, rfl, exchanges, stopped _ rfl⟩

end Registry

end AtomResolution
