import AtomResolution.Proofs.Conversion.Steps
import AtomResolution.Proofs.Dispatch.Candidacy

/-!
Plans of conversions. A plan for a call to a method lists exactly the places whose pattern rejects the value
there, each once and in their order, with a conversion of that value to something the pattern accepts; and
there is one as soon as each of these places has a conversion.
-/

namespace AtomResolution.Registry

variable {registry : Registry} {mode : DispatchMode} {site : CallSite} {decl : MethodDecl}

/-- A method accepts every value of a call as it is. -/
def AcceptsAsIs (registry : Registry) (site : CallSite) (decl : MethodDecl) : Prop :=
  ∀ position value pattern, site.Meets decl position value pattern →
    registry.accepts pattern value.atomId = true

def Convertible (registry : Registry) (site : CallSite) (decl : MethodDecl) : Prop :=
  ∀ position value pattern, site.Meets decl position value pattern →
    registry.accepts pattern value.atomId = false → ∃ id, registry.findConversion value.atomId pattern = .ok id

/-- A list of conversions is what a call to a method needs. -/
structure Plans (registry : Registry) (site : CallSite) (decl : MethodDecl)
    (conversions : List PlannedConversion) : Prop where
  ordered : conversions.Pairwise fun earlier later => earlier.position.ordinal < later.position.ordinal
  rejected : ∀ position, position ∈ conversions.map PlannedConversion.position ↔
    ∃ value pattern, site.Meets decl position value pattern ∧ registry.accepts pattern value.atomId = false
  suitable : ∀ planned ∈ conversions, ∃ value pattern conversion,
    site.Meets decl planned.position value pattern ∧
    registry.conversions.get? planned.conversion = some conversion ∧
    conversion.source = value.atomId ∧ registry.accepts pattern conversion.target = true

theorem acceptsCall_iff : registry.acceptsCall site decl = true ↔ registry.AcceptsAsIs site decl := by
  unfold acceptsCall AcceptsAsIs
  rw [List.all_eq_true]
  constructor
  · intro fits position value pattern meets
    exact fits ⟨position, value.atomId, pattern⟩ (CallSite.mem_slots.2 ⟨value, meets, rfl⟩)
  · intro accepts slot inside
    obtain ⟨value, meets, same⟩ := CallSite.mem_slots.1 inside
    rw [fits, ← same]
    exact accepts slot.position value slot.pattern meets

theorem planSlots_of_fits {slot : Slot} {slots : List Slot} (fit : registry.fits slot = true) :
    registry.planSlots (slot :: slots) = registry.planSlots slots := by
  rw [planSlots, if_pos fit]

theorem planSlots_eq_ok_iff {slot : Slot} {slots : List Slot} {conversions : List PlannedConversion}
    (misfit : registry.fits slot = false) :
    registry.planSlots (slot :: slots) = .ok conversions ↔
      ∃ id rest, registry.findConversion slot.actual slot.pattern = .ok id ∧
        registry.planSlots slots = .ok rest ∧ conversions = ⟨slot.position, id⟩ :: rest := by
  rw [planSlots, if_neg (by simp [misfit])]
  cases registry.findConversion slot.actual slot.pattern with
  | error error => simp [bind, Except.bind]
  | ok id =>
    cases registry.planSlots slots with
    | error error => simp [bind, Except.bind]
    | ok rest => simp [bind, Except.bind, pure, Except.pure, eq_comm]

theorem planSlots_positions {slots : List Slot} {conversions : List PlannedConversion}
    (planned : registry.planSlots slots = .ok conversions) :
    conversions.map PlannedConversion.position =
      (slots.filter fun slot => !registry.fits slot).map Slot.position := by
  induction slots generalizing conversions with
  | nil =>
    cases planned
    rfl
  | cons slot slots ih =>
    cases fit : registry.fits slot with
    | true =>
      rw [planSlots_of_fits fit] at planned
      rw [ih planned, List.filter_cons_of_neg (by simp [fit])]
    | false =>
      obtain ⟨id, rest, _, later, rfl⟩ := (planSlots_eq_ok_iff fit).1 planned
      rw [List.filter_cons_of_pos (by simp [fit]), List.map_cons, List.map_cons, ih later]

theorem planSlots_conversions {slots : List Slot} {conversions : List PlannedConversion}
    (planned : registry.planSlots slots = .ok conversions) :
    ∀ conversion ∈ conversions, ∃ slot ∈ slots, slot.position = conversion.position ∧
      registry.findConversion slot.actual slot.pattern = .ok conversion.conversion := by
  induction slots generalizing conversions with
  | nil =>
    cases planned
    exact fun _ inside => absurd inside List.not_mem_nil
  | cons slot slots ih =>
    cases fit : registry.fits slot with
    | true =>
      rw [planSlots_of_fits fit] at planned
      intro conversion inside
      obtain ⟨other, among, found⟩ := ih planned conversion inside
      exact ⟨other, List.mem_cons_of_mem _ among, found⟩
    | false =>
      obtain ⟨id, rest, here, later, rfl⟩ := (planSlots_eq_ok_iff fit).1 planned
      intro conversion inside
      rcases List.mem_cons.1 inside with rfl | inside
      · exact ⟨slot, List.mem_cons_self, rfl, here⟩
      · obtain ⟨other, among, found⟩ := ih later conversion inside
        exact ⟨other, List.mem_cons_of_mem _ among, found⟩

theorem exists_planSlots_iff {slots : List Slot} :
    (∃ conversions, registry.planSlots slots = .ok conversions) ↔
      ∀ slot ∈ slots, registry.fits slot = false →
        ∃ id, registry.findConversion slot.actual slot.pattern = .ok id := by
  induction slots with
  | nil => exact ⟨fun _ _ inside => absurd inside List.not_mem_nil, fun _ => ⟨[], rfl⟩⟩
  | cons slot slots ih =>
    rw [List.forall_mem_cons, ← ih]
    cases fit : registry.fits slot with
    | true => simp [planSlots_of_fits fit]
    | false =>
      simp only [planSlots_eq_ok_iff fit, forall_const]
      constructor
      · rintro ⟨_, id, rest, here, later, _⟩
        exact ⟨⟨id, here⟩, rest, later⟩
      · rintro ⟨⟨id, here⟩, rest, later⟩
        exact ⟨_, id, rest, here, later, rfl⟩

theorem exists_plan_iff :
    (∃ conversions, registry.plan site decl = .ok conversions) ↔ registry.Convertible site decl := by
  unfold plan Convertible
  rw [exists_planSlots_iff]
  constructor
  · intro found position value pattern meets rejects
    exact found ⟨position, value.atomId, pattern⟩ (CallSite.mem_slots.2 ⟨value, meets, rfl⟩) rejects
  · intro convertible slot inside rejects
    obtain ⟨value, meets, same⟩ := CallSite.mem_slots.1 inside
    rw [fits, ← same] at rejects
    rw [← same]
    exact convertible slot.position value slot.pattern meets rejects

theorem plan_of_acceptsAsIs (accepts : registry.AcceptsAsIs site decl) : registry.plan site decl = .ok [] := by
  have fit := List.all_eq_true.1 (acceptsCall_iff.2 accepts)
  unfold plan
  revert fit
  induction site.slots decl with
  | nil => exact fun _ => rfl
  | cons slot slots ih =>
    intro fit
    rw [planSlots_of_fits (fit slot List.mem_cons_self)]
    exact ih fun other inside => fit other (List.mem_cons_of_mem _ inside)

theorem plan_sound {conversions : List PlannedConversion}
    (planned : registry.plan site decl = .ok conversions) :
    registry.Plans site decl conversions where
  ordered := by
    have places := planSlots_positions planned
    have sorted : ((site.slots decl).filter fun slot => !registry.fits slot).Pairwise
        fun earlier later => earlier.position.ordinal < later.position.ordinal :=
      (site.slots_ordered decl).filter _
    have inPlaces : (conversions.map PlannedConversion.position).Pairwise
        fun earlier later => earlier.ordinal < later.ordinal := by
      rw [places, List.pairwise_map]
      exact sorted
    rw [List.pairwise_map] at inPlaces
    exact inPlaces
  rejected position := by
    rw [planSlots_positions planned, List.mem_map]
    constructor
    · rintro ⟨slot, inside, rfl⟩
      obtain ⟨among, rejects⟩ := List.mem_filter.1 inside
      obtain ⟨value, meets, same⟩ := CallSite.mem_slots.1 among
      refine ⟨value, slot.pattern, meets, ?_⟩
      rw [same]
      simpa [fits] using rejects
    · rintro ⟨value, pattern, meets, rejects⟩
      have among : ⟨position, value.atomId, pattern⟩ ∈ site.slots decl :=
        CallSite.mem_slots.2 ⟨value, meets, rfl⟩
      refine ⟨⟨position, value.atomId, pattern⟩, List.mem_filter.2 ⟨among, ?_⟩, rfl⟩
      simpa [fits] using rejects
  suitable := by
    intro conversion inside
    obtain ⟨slot, among, here, found⟩ := planSlots_conversions planned conversion inside
    obtain ⟨value, meets, same⟩ := CallSite.mem_slots.1 among
    obtain ⟨declaration, declared, fromSource, accepted⟩ := converts_of_findConversion found
    exact ⟨value, slot.pattern, declaration, here ▸ meets, declared, fromSource.trans same.symm, accepted⟩

section SameRelation

/-! Which methods accept a call depends on the relation between atoms and interfaces only, and which conversions
they need on the conversions in addition. -/

variable {again : Registry} (sameRelation : registry.satisfied = again.satisfied)

include sameRelation

theorem accepts_congr : registry.accepts = again.accepts := by
  unfold accepts isSubtype Registry.satisfies
  rw [sameRelation]

theorem acceptsCall_congr : registry.acceptsCall = again.acceptsCall := by
  unfold acceptsCall fits
  rw [accepts_congr sameRelation]

variable (sameConversions : registry.conversions = again.conversions)

include sameConversions

theorem findConversion_congr : registry.findConversion = again.findConversion := by
  unfold findConversion applicable Catalog.conversionBetween? Catalog.conversionsFrom
  rw [sameConversions, accepts_congr sameRelation]

theorem planSlots_congr : registry.planSlots = again.planSlots := by
  funext slots
  induction slots with
  | nil => rfl
  | cons slot slots ih =>
    unfold planSlots fits
    rw [accepts_congr sameRelation, findConversion_congr sameRelation sameConversions, ih]

theorem plan_congr : registry.plan = again.plan := by
  unfold plan
  rw [planSlots_congr sameRelation sameConversions]

end SameRelation

end AtomResolution.Registry
