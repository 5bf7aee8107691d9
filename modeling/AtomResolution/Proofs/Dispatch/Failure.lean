import AtomResolution.Proofs.Conversion.Lookup
import AtomResolution.Proofs.Dispatch.Winner

/-!
Why calls fail. A method that suits a call is out if some value it rejects has no conversion or several. What is
told is decided by the first such place of each method: if conversions compete there for any method, the first
such method in declaration order is reported, and otherwise nothing matches. With a viable candidate neither is,
and without a scope none of this is looked at.
-/

namespace AtomResolution

theorem mem_before_iff {α : Type} {rank : α → Nat} {before after : List α} {entry other : α}
    (ascending : (before ++ entry :: after).Pairwise fun earlier later => rank earlier < rank later) :
    other ∈ before ↔ other ∈ before ++ entry :: after ∧ rank other < rank entry := by
  obtain ⟨_, tail, across⟩ := List.pairwise_append.1 ascending
  constructor
  · intro inside
    exact ⟨List.mem_append_left _ inside, across other inside entry List.mem_cons_self⟩
  · intro below
    obtain ⟨inside, lower⟩ := below
    rcases List.mem_append.1 inside with earlier | later
    · exact earlier
    · rcases List.mem_cons.1 later with rfl | beyond
      · exact absurd lower (Nat.lt_irrefl _)
      · exact absurd lower (Nat.lt_asymm ((List.pairwise_cons.1 tail).1 other beyond))

namespace Registry

variable {registry : Registry} {mode : DispatchMode} {site : CallSite} {decl : MethodDecl} {source : AtomId}
  {target : TypeTag} {scope : List ModuleId}

/-- Exactly one conversion leads from an atom to what a pattern accepts. -/
def ConvertsOnly (registry : Registry) (source : AtomId) (target : TypeTag) : Prop :=
  ∃ id, ∀ other, registry.Converts source target other ↔ other = id

/-- A method rejects some value of a call, and not exactly one conversion leads from that to what it asks for. -/
def Blocks (registry : Registry) (site : CallSite) (decl : MethodDecl) : Prop :=
  ∃ position value pattern, site.Meets decl position value pattern ∧
    registry.accepts pattern value.atomId = false ∧ ¬ registry.ConvertsOnly value.atomId pattern

/-- The first place of a call at which a method blocks it. -/
structure StopsAt (registry : Registry) (site : CallSite) (decl : MethodDecl) (position : Position)
    (value : Value) (pattern : TypeTag) : Prop where
  meets : site.Meets decl position value pattern
  rejects : registry.accepts pattern value.atomId = false
  stuck : ¬ registry.ConvertsOnly value.atomId pattern
  first : ∀ earlier other otherPattern, earlier.ordinal < position.ordinal →
    site.Meets decl earlier other otherPattern → registry.accepts otherPattern other.atomId = false →
    registry.ConvertsOnly other.atomId otherPattern

/-- At the first place where a method blocks a call several conversions compete. The error lists where they
lead. -/
inductive Torn (registry : Registry) (site : CallSite) (decl : MethodDecl) : ConversionError → Prop
  | competing {position : Position} {value : Value} {pattern : TypeTag} {one other : ConversionId}
      (stops : registry.StopsAt site decl position value pattern) (different : one ≠ other)
      (leads : registry.Converts value.atomId pattern one) (alsoLeads : registry.Converts value.atomId pattern other) :
      Torn registry site decl
        (.ambiguousConversion value.atomId pattern (registry.destinations value.atomId pattern))

/-- The first method, in declaration order, of those that suit a call and for which conversions compete. -/
def FirstTorn (registry : Registry) (mode : DispatchMode) (site : CallSite) (error : ConversionError) : Prop :=
  ∃ id decl, registry.Suits mode site id decl ∧ registry.Torn site decl error ∧
    ∀ earlier earlierDecl, earlier.raw < id.raw → registry.Suits mode site earlier earlierDecl →
      ∀ other, ¬ registry.Torn site earlierDecl other

inductive HasScope (registry : Registry) (site : CallSite) : DispatchMode → Prop
  | explicit {owner : ModuleId} (named : site.explicit = some owner)
      (declared : registry.modules.contains owner = true) : HasScope registry site .twoKey
  | implicit {mode : DispatchMode} (unnamed : site.explicit = none)
      (declared : registry.modules.contains site.calling = true) : HasScope registry site mode

inductive LacksScope (registry : Registry) (site : CallSite) : DispatchMode → DispatchError → Prop
  | disabled {owner : ModuleId} (named : site.explicit = some owner) :
      LacksScope registry site .staticModule (.explicitModuleDisabled owner)
  | explicit {owner : ModuleId} (named : site.explicit = some owner)
      (undeclared : registry.modules.contains owner = false) : LacksScope registry site .twoKey (.unknownModule owner)
  | implicit {mode : DispatchMode} (unnamed : site.explicit = none)
      (undeclared : registry.modules.contains site.calling = false) :
      LacksScope registry site mode (.unknownModule site.calling)

/-- The ways in which a call can fail. -/
inductive Failure (registry : Registry) (mode : DispatchMode) (site : CallSite) : DispatchError → Prop
  | lacksScope {error : DispatchError} (lacks : registry.LacksScope site mode error) :
      Failure registry mode site error
  | ambiguous (tied : List MethodId) : Failure registry mode site (.ambiguousMethod site.method tied)
  | torn {reason : ConversionError} (first : registry.FirstTorn mode site reason) :
      Failure registry mode site (.conversion reason)
  | unmatched : Failure registry mode site site.unmatched

section Scope

theorem HasScope.exists_scope (hasScope : registry.HasScope site mode) :
    ∃ scope, registry.callScope mode site = .ok scope := by
  unfold callScope
  cases hasScope with
  | explicit named declared =>
    rw [named]
    exact ⟨_, if_pos declared⟩
  | implicit unnamed declared =>
    rw [unnamed]
    dsimp only
    rw [if_pos declared]
    split <;> exact ⟨_, rfl⟩

theorem callScope_eq_error_iff {error : DispatchError} :
    registry.callScope mode site = .error error ↔ registry.LacksScope site mode error := by
  constructor
  · intro invisible
    unfold callScope at invisible
    split at invisible
    next owner named =>
      cases invisible
      exact .disabled named
    next owner named =>
      split at invisible
      next => cases invisible
      next undeclared =>
        cases invisible
        exact .explicit named (Bool.eq_false_iff.2 undeclared)
    next unnamed =>
      split at invisible
      next =>
        dsimp only at invisible
        split at invisible <;> cases invisible
      next undeclared =>
        cases invisible
        exact .implicit unnamed (Bool.eq_false_iff.2 undeclared)
  · intro lacks
    unfold callScope
    cases lacks with
    | disabled named => rw [named]
    | explicit named undeclared =>
      rw [named]
      exact if_neg (Bool.eq_false_iff.1 undeclared)
    | implicit unnamed undeclared =>
      rw [unnamed]
      exact if_neg (Bool.eq_false_iff.1 undeclared)

end Scope

section Plans

theorem planSlots_cons_eq_error_iff {slot : Slot} {slots : List Slot} {error : ConversionError}
    (misfit : registry.fits slot = false) :
    registry.planSlots (slot :: slots) = .error error ↔
      registry.findConversion slot.actual slot.pattern = .error error ∨
        (∃ id, registry.findConversion slot.actual slot.pattern = .ok id) ∧
          registry.planSlots slots = .error error := by
  rw [planSlots, if_neg (by simp [misfit])]
  cases registry.findConversion slot.actual slot.pattern with
  | error reason => simp [bind, Except.bind]
  | ok id =>
    cases registry.planSlots slots with
    | error reason => simp [bind, Except.bind]
    | ok rest => simp [bind, Except.bind, pure, Except.pure]

def StopsIn (registry : Registry) (slots : List Slot) (error : ConversionError) : Prop :=
  ∃ before slot after, slots = before ++ slot :: after ∧
    (∀ earlier ∈ before, registry.fits earlier = false →
      ∃ id, registry.findConversion earlier.actual earlier.pattern = .ok id) ∧
    registry.fits slot = false ∧ registry.findConversion slot.actual slot.pattern = .error error

theorem StopsIn.cons {slot : Slot} {slots : List Slot} {error : ConversionError}
    (passes : registry.fits slot = false → ∃ id, registry.findConversion slot.actual slot.pattern = .ok id)
    (stops : registry.StopsIn slots error) : registry.StopsIn (slot :: slots) error := by
  obtain ⟨before, stop, after, rfl, passed, stuck⟩ := stops
  exact ⟨slot :: before, stop, after, rfl, List.forall_mem_cons.2 ⟨passes, passed⟩, stuck⟩

theorem planSlots_eq_error_iff {slots : List Slot} {error : ConversionError} :
    registry.planSlots slots = .error error ↔ registry.StopsIn slots error := by
  induction slots with
  | nil =>
    refine iff_of_false (fun failed => by cases failed) ?_
    intro stops
    obtain ⟨before, slot, after, whole, _⟩ := stops
    cases before <;> cases whole
  | cons slot slots ih =>
    constructor
    · intro failed
      cases fit : registry.fits slot with
      | true =>
        rw [planSlots_of_fits fit] at failed
        exact (ih.1 failed).cons fun misfit => by simp [fit] at misfit
      | false =>
        rcases (planSlots_cons_eq_error_iff fit).1 failed with missing | ⟨found, later⟩
        · exact ⟨[], slot, slots, rfl, by simp, fit, missing⟩
        · exact (ih.1 later).cons fun _ => found
    · intro stops
      obtain ⟨before, stop, after, whole, passed, misfit, missing⟩ := stops
      cases before with
      | nil =>
        cases whole
        exact (planSlots_cons_eq_error_iff misfit).2 (.inl missing)
      | cons first before =>
        cases whole
        obtain ⟨passes, passed⟩ := List.forall_mem_cons.1 passed
        have later := ih.2 ⟨before, stop, after, rfl, passed, misfit, missing⟩
        cases fit : registry.fits slot with
        | true => rw [planSlots_of_fits fit, later]
        | false => exact (planSlots_cons_eq_error_iff fit).2 (.inr ⟨passes fit, later⟩)

variable (distinct : registry.conversions.Distinct ConversionDecl.key)

include distinct

theorem exists_findConversion_iff :
    (∃ id, registry.findConversion source target = .ok id) ↔ registry.ConvertsOnly source target := by
  refine exists_congr fun id => ?_
  rw [findConversion_eq_iff distinct]
  refine ⟨fun chosen => ?_, .only⟩
  cases chosen with
  | only alone => exact alone

theorem convertible_iff_not_blocks : registry.Convertible site decl ↔ ¬ registry.Blocks site decl := by
  unfold Convertible Blocks
  simp only [exists_findConversion_iff distinct, not_exists, not_and, Classical.not_not]

theorem plan_eq_error_iff {error : ConversionError} :
    registry.plan site decl = .error error ↔ ∃ position value pattern,
      registry.StopsAt site decl position value pattern ∧
        registry.findConversion value.atomId pattern = .error error := by
  have ordered := site.slots_ordered decl
  unfold plan
  rw [planSlots_eq_error_iff]
  constructor
  · intro stops
    obtain ⟨before, slot, after, whole, passed, misfit, missing⟩ := stops
    have inside : slot ∈ site.slots decl := by
      rw [whole]
      exact List.mem_append_right _ List.mem_cons_self
    obtain ⟨value, meets, same⟩ := CallSite.mem_slots.1 inside
    rw [← same] at missing
    refine ⟨slot.position, value, slot.pattern, ⟨meets, ?_, ?_, ?_⟩, missing⟩
    · rw [same]
      exact misfit
    · intro only
      obtain ⟨id, found⟩ := (exists_findConversion_iff distinct).2 only
      rw [found] at missing
      cases missing
    · intro earlier other otherPattern below otherMeets rejects
      have among : ⟨earlier, other.atomId, otherPattern⟩ ∈ site.slots decl :=
        CallSite.mem_slots.2 ⟨other, otherMeets, rfl⟩
      rw [whole] at among ordered
      have isBefore := (mem_before_iff ordered).2 ⟨among, below⟩
      exact (exists_findConversion_iff distinct).1 (passed _ isBefore rejects)
  · intro stops
    obtain ⟨position, value, pattern, stops, missing⟩ := stops
    have inside : ⟨position, value.atomId, pattern⟩ ∈ site.slots decl :=
      CallSite.mem_slots.2 ⟨value, stops.meets, rfl⟩
    obtain ⟨before, after, whole⟩ := List.append_of_mem inside
    rw [whole] at ordered
    refine ⟨before, _, after, whole, fun earlier isBefore misfit => ?_, stops.rejects, missing⟩
    obtain ⟨among, below⟩ := (mem_before_iff ordered).1 isBefore
    rw [← whole] at among
    obtain ⟨other, otherMeets, same⟩ := CallSite.mem_slots.1 among
    rw [fits, ← same] at misfit
    rw [← same]
    exact (exists_findConversion_iff distinct).2 (stops.first _ other _ below otherMeets misfit)

theorem torn_iff {error : ConversionError} :
    registry.Torn site decl error ↔ registry.plan site decl = .error error ∧
      ∃ source target candidates, error = .ambiguousConversion source target candidates := by
  rw [plan_eq_error_iff distinct]
  constructor
  · intro torn
    cases torn with
    | competing stops different leads alsoLeads =>
      refine ⟨⟨_, _, _, stops, ?_⟩, _, _, _, rfl⟩
      exact (findConversion_eq_iff distinct).2 (.several different leads alsoLeads)
  · intro failed
    obtain ⟨⟨position, value, pattern, stops, missing⟩, source, target, candidates, rfl⟩ := failed
    rw [findConversion_eq_iff distinct] at missing
    cases missing with
    | several different leads alsoLeads => exact .competing stops different leads alsoLeads

def ambiguity? (registry : Registry) (site : CallSite) (decl : MethodDecl) : Option ConversionError :=
  match registry.plan site decl with
  | .error (.ambiguousConversion source target candidates) => some (.ambiguousConversion source target candidates)
  | _ => none

omit distinct in
theorem firstAmbiguity?_eq_findSome? (registry : Registry) (site : CallSite) (scope : List ModuleId) :
    registry.firstAmbiguity? site scope =
      (registry.methodsInScope site scope).findSome? fun (_, decl) => registry.ambiguity? site decl := rfl

theorem ambiguity?_eq_some_iff {error : ConversionError} :
    registry.ambiguity? site decl = some error ↔ registry.Torn site decl error := by
  rw [torn_iff distinct]
  unfold ambiguity?
  constructor
  · intro found
    split at found
    next planned =>
      cases found
      exact ⟨planned, _, _, _, rfl⟩
    next => cases found
  · intro failed
    obtain ⟨planned, source, target, candidates, rfl⟩ := failed
    rw [planned]

theorem ambiguity?_eq_none_iff :
    registry.ambiguity? site decl = none ↔ ∀ error, ¬ registry.Torn site decl error := by
  rw [Option.eq_none_iff_forall_ne_some]
  exact forall_congr' fun error => not_congr (ambiguity?_eq_some_iff distinct)

end Plans

section Candidates

variable (distinct : registry.conversions.Distinct ConversionDecl.key)

include distinct

theorem forall_blocks_iff : (∀ id decl, registry.Suits mode site id decl → registry.Blocks site decl) ↔
    ∀ id decl, ¬ registry.Viable mode site id decl := by
  have acceptable {decl : MethodDecl} (accepts : registry.AcceptsAsIs site decl) : ¬ registry.Blocks site decl := by
    intro blocks
    obtain ⟨position, value, pattern, meets, rejects, _⟩ := blocks
    rw [accepts position value pattern meets] at rejects
    cases rejects
  constructor
  · intro blocked id decl viable
    have blocks := blocked id decl viable.suits
    rcases viable.accepts with accepts | ⟨_, convertible⟩
    · exact acceptable accepts blocks
    · exact (convertible_iff_not_blocks distinct).1 convertible blocks
  · intro nobody id decl suits
    by_cases blocks : registry.Blocks site decl
    · exact blocks
    · refine absurd ⟨suits, .inr ⟨?_, (convertible_iff_not_blocks distinct).2 blocks⟩⟩ (nobody id decl)
      intro direct
      obtain ⟨other, otherDecl, otherSuits, accepts⟩ := direct
      exact nobody other otherDecl ⟨otherSuits, .inl accepts⟩

variable (visible : registry.callScope mode site = .ok scope)

include visible

theorem firstAmbiguity?_eq_some_iff {error : ConversionError} :
    registry.firstAmbiguity? site scope = some error ↔ registry.FirstTorn mode site error := by
  have ascending := registry.methodsInScope_ascending site scope
  rw [firstAmbiguity?_eq_findSome?, List.findSome?_eq_some_iff]
  constructor
  · intro found
    obtain ⟨before, ⟨id, decl⟩, after, whole, here, none⟩ := found
    rw [whole] at ascending
    have suits : registry.Suits mode site id decl := by
      rw [← mem_methodsInScope visible, whole]
      exact List.mem_append_right _ List.mem_cons_self
    refine ⟨id, decl, suits, (ambiguity?_eq_some_iff distinct).1 here, ?_⟩
    intro earlier earlierDecl below earlierSuits
    have among := (mem_methodsInScope visible).2 earlierSuits
    rw [whole] at among
    exact (ambiguity?_eq_none_iff distinct).1 (none _ ((mem_before_iff ascending).2 ⟨among, below⟩))
  · intro first
    obtain ⟨id, decl, suits, torn, earliest⟩ := first
    obtain ⟨before, after, whole⟩ := List.append_of_mem ((mem_methodsInScope visible).2 suits)
    rw [whole] at ascending
    refine ⟨before, _, after, whole, (ambiguity?_eq_some_iff distinct).2 torn, ?_⟩
    intro entry isBefore
    obtain ⟨among, below⟩ := (mem_before_iff ascending).1 isBefore
    rw [← whole, mem_methodsInScope visible] at among
    exact (ambiguity?_eq_none_iff distinct).2 (earliest _ _ below among)

theorem firstAmbiguity?_eq_none_iff : registry.firstAmbiguity? site scope = none ↔
    ∀ id decl, registry.Suits mode site id decl → ∀ error, ¬ registry.Torn site decl error := by
  rw [firstAmbiguity?_eq_findSome?, List.findSome?_eq_none_iff, Prod.forall]
  refine forall₂_congr fun id decl => ?_
  rw [mem_methodsInScope visible, ambiguity?_eq_none_iff distinct]

theorem resolve_of_blocked (blocked : ∀ id decl, registry.Suits mode site id decl → registry.Blocks site decl) :
    registry.resolve mode site =
      .error (((registry.firstAmbiguity? site scope).map DispatchError.conversion).getD site.unmatched) := by
  have nobody := (forall_blocks_iff distinct).1 blocked
  have none : registry.candidates site scope = [] := by
    rw [List.eq_nil_iff_forall_not_mem]
    intro candidate inside
    exact nobody _ _ ((viable_iff visible).2 ⟨candidate, inside, rfl, rfl⟩)
  unfold resolve
  rw [visible]
  exact resolveIn_of_no_candidates none

omit distinct in
theorem resolve_of_viable (competing : ∃ id decl, registry.Viable mode site id decl) :
    (∃ resolution, registry.resolve mode site = .ok resolution) ∨
      ∃ tied, registry.resolve mode site = .error (.ambiguousMethod site.method tied) := by
  obtain ⟨id, decl, viable⟩ := competing
  obtain ⟨candidate, inside, _⟩ := (viable_iff visible).1 viable
  unfold resolve
  rw [visible]
  dsimp only
  rw [resolveIn_of_candidates (List.ne_nil_of_mem inside)]
  unfold CallSite.pick
  split
  · exact .inl ⟨_, rfl⟩
  · exact .inr ⟨_, rfl⟩

end Candidates

theorem resolve_of_lacksScope {error : DispatchError} (lacks : registry.LacksScope site mode error) :
    registry.resolve mode site = .error error := by
  unfold resolve
  rw [callScope_eq_error_iff.2 lacks]

theorem failure_of_resolve (distinct : registry.conversions.Distinct ConversionDecl.key) {error : DispatchError}
    (failed : registry.resolve mode site = .error error) : registry.Failure mode site error := by
  cases visible : registry.callScope mode site with
  | error reason =>
    have lacks := callScope_eq_error_iff.1 visible
    rw [resolve_of_lacksScope lacks] at failed
    cases failed
    exact .lacksScope lacks
  | ok scope =>
    by_cases competing : ∃ id decl, registry.Viable mode site id decl
    · rcases resolve_of_viable visible competing with ⟨_, resolved⟩ | ⟨tied, ambiguous⟩
      · rw [resolved] at failed
        cases failed
      · rw [ambiguous] at failed
        cases failed
        exact .ambiguous tied
    · have blocked := (forall_blocks_iff distinct).2 fun id decl viable => competing ⟨id, decl, viable⟩
      rw [resolve_of_blocked distinct visible blocked] at failed
      cases first : registry.firstAmbiguity? site scope with
      | none =>
        rw [first] at failed
        cases failed
        exact .unmatched
      | some reason =>
        rw [first] at failed
        cases failed
        exact .torn ((firstAmbiguity?_eq_some_iff distinct visible).1 first)

section Causes

variable (distinct : registry.conversions.Distinct ConversionDecl.key)

include distinct

theorem resolve_eq_unknownModule_iff {owner : ModuleId} :
    registry.resolve mode site = .error (.unknownModule owner) ↔ registry.modules.contains owner = false ∧
      (site.explicit = none ∧ site.calling = owner ∨ site.explicit = some owner ∧ mode = .twoKey) := by
  constructor
  · intro failed
    cases failure_of_resolve distinct failed with
    | lacksScope lacks =>
      cases lacks with
      | explicit named undeclared => exact ⟨undeclared, .inr ⟨named, rfl⟩⟩
      | implicit unnamed undeclared => exact ⟨undeclared, .inl ⟨unnamed, rfl⟩⟩
  · intro unknown
    obtain ⟨undeclared, ⟨unnamed, rfl⟩ | ⟨named, rfl⟩⟩ := unknown
    · exact resolve_of_lacksScope (.implicit unnamed undeclared)
    · exact resolve_of_lacksScope (.explicit named undeclared)

theorem resolve_eq_explicitModuleDisabled_iff {owner : ModuleId} :
    registry.resolve mode site = .error (.explicitModuleDisabled owner) ↔
      site.explicit = some owner ∧ mode = .staticModule := by
  constructor
  · intro failed
    cases failure_of_resolve distinct failed with
    | lacksScope lacks =>
      cases lacks with
      | disabled named => exact ⟨named, rfl⟩
  · intro disabled
    obtain ⟨named, rfl⟩ := disabled
    exact resolve_of_lacksScope (.disabled named)

theorem ambiguous_of_resolve {reason : ConversionError}
    (failed : registry.resolve mode site = .error (.conversion reason)) :
    ∃ source target candidates, reason = .ambiguousConversion source target candidates := by
  cases failure_of_resolve distinct failed with
  | lacksScope lacks => cases lacks
  | torn first =>
    obtain ⟨id, decl, _, torn, _⟩ := first
    exact ((torn_iff distinct).1 torn).2

end Causes

/-- How calls fail in a frozen registry. Where every method that suits the call blocks it, which is where no
candidate is viable, the first method in declaration order for which conversions compete is reported, and nothing
matches if there is none. With a viable candidate the call resolves or is ambiguous. A call without a scope fails
for that reason, whatever the candidates are, and a conversion is never reported for any other reason than that
it has rivals. -/
theorem resolve_failure {operations : List Operation}
    (frozen : (Builder.new.run operations).freeze = .ok registry) (mode : DispatchMode) (site : CallSite) :
    (registry.HasScope site mode → (∀ id decl, registry.Suits mode site id decl → registry.Blocks site decl) →
      (∀ error, registry.resolve mode site = .error (.conversion error) ↔ registry.FirstTorn mode site error) ∧
      (registry.resolve mode site = .error site.unmatched ↔
        ∀ id decl, registry.Suits mode site id decl → ∀ error, ¬ registry.Torn site decl error) ∧
      ((∃ error, registry.resolve mode site = .error (.conversion error)) ∨
        registry.resolve mode site = .error site.unmatched)) ∧
    ((∀ id decl, registry.Suits mode site id decl → registry.Blocks site decl) ↔
      ∀ id decl, ¬ registry.Viable mode site id decl) ∧
    ((∃ id decl, registry.Viable mode site id decl) →
      (∃ resolution, registry.resolve mode site = .ok resolution) ∨
        ∃ tied, registry.resolve mode site = .error (.ambiguousMethod site.method tied)) ∧
    (∀ owner, registry.resolve mode site = .error (.unknownModule owner) ↔
      registry.modules.contains owner = false ∧
        (site.explicit = none ∧ site.calling = owner ∨ site.explicit = some owner ∧ mode = .twoKey)) ∧
    (∀ owner, registry.resolve mode site = .error (.explicitModuleDisabled owner) ↔
      site.explicit = some owner ∧ mode = .staticModule) ∧
    (∀ reason, registry.resolve mode site = .error (.conversion reason) →
      ∃ source target candidates, reason = .ambiguousConversion source target candidates) ∧
    ∀ method position args, registry.resolve mode site ≠ .error (.argumentsMismatch method position args) := by
  have distinct := distinct_conversions_of_freeze frozen
  refine ⟨fun hasScope blocked => ?_, forall_blocks_iff distinct, fun competing => ?_,
    fun _ => resolve_eq_unknownModule_iff distinct, fun _ => resolve_eq_explicitModuleDisabled_iff distinct,
    fun _ failed => ambiguous_of_resolve distinct failed, fun method position args failed => ?_⟩
  · obtain ⟨scope, visible⟩ := hasScope.exists_scope
    have none := firstAmbiguity?_eq_none_iff distinct visible
    have found (error : ConversionError) : registry.firstAmbiguity? site scope = some error ↔
        registry.FirstTorn mode site error := firstAmbiguity?_eq_some_iff distinct visible
    rw [resolve_of_blocked distinct visible blocked, ← none]
    simp only [← found]
    cases registry.firstAmbiguity? site scope with
    | none => simp [CallSite.unmatched]
    | some error => simp [CallSite.unmatched]
  · obtain ⟨id, decl, viable⟩ := competing
    obtain ⟨scope, visible⟩ := viable.suits.seen.exists_scope
    exact resolve_of_viable visible ⟨id, decl, viable⟩
  · cases failure_of_resolve distinct failed with
    | lacksScope lacks => cases lacks

def tornCall : List Operation :=
  printable ++ [.declareMethod ⟨1⟩ ⟨13⟩ (.atom AtomId.nothing) [⟨⟨14⟩, .interfaces (.single ⟨0⟩), false⟩] ⟨5⟩,
    .declareMethod ⟨1⟩ ⟨13⟩ .any [⟨⟨14⟩, .interfaces (.single ⟨0⟩), false⟩] ⟨6⟩]

def tornSite : CallSite := ⟨⟨1⟩, none, .int 1, ⟨13⟩, [.int 2]⟩

theorem resolve_failure_torn :
    (Builder.new.run tornCall).freeze = .ok (ofLoad tornCall) ∧
    (ofLoad tornCall).HasScope tornSite .twoKey ∧
    (∀ id decl, (ofLoad tornCall).Suits .twoKey tornSite id decl → (ofLoad tornCall).Blocks tornSite decl) ∧
    (ofLoad tornCall).FirstTorn .twoKey tornSite
      (.ambiguousConversion AtomId.int (.interfaces (.single ⟨0⟩)) [AtomId.text, AtomId.bool]) := by
  have frozen : (Builder.new.run tornCall).freeze = .ok (ofLoad tornCall) := rfl
  obtain ⟨failures, viable, competing, _⟩ := resolve_failure frozen .twoKey tornSite
  have hasScope : (ofLoad tornCall).HasScope tornSite .twoKey := .implicit rfl rfl
  have failed : (ofLoad tornCall).resolve .twoKey tornSite = .error (.conversion
      (.ambiguousConversion AtomId.int (.interfaces (.single ⟨0⟩)) [AtomId.text, AtomId.bool])) := rfl
  have blocked := viable.2 fun id decl isViable => by
    rcases competing ⟨id, decl, isViable⟩ with ⟨_, resolved⟩ | ⟨_, ambiguous⟩
    · cases failed.symm.trans resolved
    · cases failed.symm.trans ambiguous
  exact ⟨frozen, hasScope, blocked, ((failures hasScope blocked).1 _).1 failed⟩

end Registry

end AtomResolution
