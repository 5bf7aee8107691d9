import AtomResolution.Proofs.Checks
import AtomResolution.Proofs.Lens.Domain

/-!
Reading back what was written. A strict update finds the very positions that the reader goes through, and
rebuilding an instance keeps its tag and the fields beside the one on the way; so the reader takes the same
way through the updated value, and the guards after the last field meet the replacement.
-/

namespace AtomResolution

variable {registry : Registry} {lens : Lens} {selectors : List Selector} {value new target : Value}
  {previous : Option Selector} {way positions : List Nat} {supply : Supply}

theorem Registry.Leads.way_eq_nil_iff (leads : registry.Leads selectors value way target) :
    way = [] ↔ ∀ selector ∈ selectors, selector.isField = false := by
  induction leads with
  | done => exact iff_of_true rfl fun _ impossible => nomatch impossible
  | step goes _ ih =>
    rw [List.append_eq_nil_iff, ih, List.forall_mem_cons]
    refine and_congr_left fun _ => ?_
    cases goes with
    | guard _ => exact iff_of_true rfl rfl
    | field points _ =>
      refine iff_of_false (List.cons_ne_nil _ _) fun isGuard => ?_
      rw [points.isField] at isGuard
      cases isGuard

theorem Registry.Leads.way_eq_nil (leads : registry.Leads selectors value way target)
    (noField : selectors.any Selector.isField = false) : way = [] :=
  leads.way_eq_nil_iff.2 fun selector inside => by simpa using List.any_eq_false.1 noField selector inside

theorem Value.replaceAt_cons {head : Instance} {fields : List Value} {position : Nat} {current : Value}
    (holds : fields[position]? = some current) :
    (Value.atom head fields).replaceAt new supply (position :: way) =
      (current.replaceAt new supply way).2.rebuild head
        (fields.set position (current.replaceAt new supply way).1) := by
  rw [Value.replaceAt]
  dsimp only
  rw [holds]

theorem Value.tagOf_replaceAt (registry : Registry) (value new : Value) (supply : Supply)
    (inside : positions ≠ []) : registry.tagOf (value.replaceAt new supply positions).1 = registry.tagOf value := by
  cases positions with
  | nil => exact absurd rfl inside
  | cons position others =>
    cases value with
    | atom head fields =>
      unfold Value.replaceAt
      dsimp only
      cases fields[position]? <;> rfl
    | _ => rfl

theorem Registry.Leads.replaceAt (leads : registry.Leads selectors value way target)
    (admits : Lens.Admits ⟨selectors⟩ registry new) (supply : Supply) :
    registry.Leads selectors (value.replaceAt new supply way).1 way new := by
  induction leads generalizing supply with
  | done => exact .done
  | @step selector rest value next target first others goes leads ih =>
    have admitsRest : Lens.Admits ⟨rest⟩ registry new := fun before tag after whole guards =>
      admits (selector :: before) tag after (congrArg (selector :: ·) whole) guards
    cases goes with
    | @guard tag _ shows =>
      refine .step (.guard ?_) (ih admitsRest supply)
      by_cases last : others = []
      · subst last
        exact admits [] tag rest rfl (leads.way_eq_nil_iff.1 rfl)
      · exact (Value.tagOf_replaceAt registry value new supply last).trans shows
    | @field _ head fields position _ points holds =>
      have inside := (List.getElem?_eq_some_iff.1 holds).1
      rw [List.singleton_append, Value.replaceAt_cons holds]
      change registry.Leads _ (.atom ⟨head.atom, head.tag, head.kind, _, _⟩ _) ([position] ++ others) new
      exact .step (.field points (List.getElem?_set_self inside)) (ih admitsRest supply)

theorem Lens.locate_of_guard {tag : Name} {rest : List Selector}
    (located : lens.locate registry new previous (.guard tag :: rest) value = .ok positions) :
    lens.locate registry new (some (.guard tag)) rest value = .ok positions := by
  unfold Lens.locate at located
  by_cases shows : registry.tagOf value = tag
  · rw [if_pos shows] at located
    cases rest with
    | nil =>
      rcases lens.checkGuards_cases registry new .replacementFailsGuard [.guard tag] with
        ⟨_, checked⟩ | ⟨_, failed⟩
      · rw [checked] at located
        exact located
      · rw [failed] at located
        cases located
    | cons _ _ => exact located
  · rw [if_neg shows] at located
    cases located

theorem Lens.locate_of_last {head : Instance} {fields : List Value} {position : Nat} {last : Selector}
    {after : List Selector} {current : Value} (points : registry.PointsTo head.atom last position)
    (holds : fields[position]? = some current) (noField : after.any Selector.isField = false)
    (located : lens.locate registry new previous (last :: after) (.atom head fields) = .ok positions) :
    positions = [position] := by
  rw [locate_atom points.isField, position?_of_points points holds] at located
  dsimp only at located
  rw [holds, noField] at located
  dsimp only at located
  rw [if_neg Bool.false_ne_true] at located
  obtain ⟨_, _, located⟩ := bind_eq_ok_iff.1 located
  obtain ⟨_, _, located⟩ := bind_eq_ok_iff.1 located
  obtain ⟨_, _, located⟩ := bind_eq_ok_iff.1 located
  obtain ⟨_, _, located⟩ := bind_eq_ok_iff.1 located
  cases located
  rfl

/-- The search for positions, where it succeeds, finds those of the way of the reader. -/
theorem Registry.Leads.eq_of_locate (leads : registry.Leads selectors value way target)
    (located : lens.locate registry new previous selectors value = .ok positions) : positions = way := by
  induction leads generalizing previous positions with
  | done =>
    cases located
    rfl
  | @step selector rest value next target first others goes leads ih =>
    cases goes with
    | guard _ => exact ih (Lens.locate_of_guard located)
    | @field _ head fields position _ points holds =>
      cases later : rest.any Selector.isField with
      | true =>
        rw [Lens.locate_goes (.field points holds) later] at located
        obtain ⟨_, found, rfl⟩ := map_eq_ok_iff.1 located
        rw [ih found]
      | false =>
        rw [Lens.locate_of_last points holds later located, leads.way_eq_nil later, List.append_nil]

/-- What a strict update has written is what the lens then reads, identity and storage included; and so it is
after a safe update, which then does the same. -/
theorem Lens.get_of_setStrict (registry : Registry) (lens : Lens) (value new : Value) (supply : Supply)
    (updated : Value) (later : Supply)
    (succeeds : lens.setStrict registry value new supply = .ok (updated, later)) :
    lens.get registry updated = some new ∧
      lens.get registry (lens.setSafe registry value new supply).1 = some new := by
  have reads : lens.get registry updated = some new := by
    have verdict := lens.locate_verdict registry value new
    unfold setStrict at succeeds
    cases located : lens.locate registry new none lens.selectors value with
    | error _ =>
      rw [located] at succeeds
      cases succeeds
    | ok positions =>
      rw [located] at succeeds verdict
      obtain rfl := congrArg Prod.fst (Except.ok.inj succeeds)
      cases verdict with
      | located allows _ =>
        obtain ⟨target, found⟩ := allows.reads
        obtain ⟨way, leads⟩ := Registry.get_eq_some_iff.1 found
        rw [leads.eq_of_locate located]
        exact Registry.get_eq_some_iff.2 ⟨way, leads.replaceAt allows.admits supply⟩
  refine ⟨reads, ?_⟩
  unfold setSafe
  rw [succeeds]
  exact reads

/-- A machine of some part, and parts of which one kind has a number. -/
def machineOfParts : List Operation :=
  [.declareFamily ⟨0⟩ ⟨11⟩ [⟨⟨12⟩, .named, [⟨⟨13⟩, .any⟩]⟩, ⟨⟨14⟩, .named, []⟩],
    .declareAtom ⟨0⟩ ⟨⟨15⟩, .anonymous, [⟨⟨16⟩, .any⟩, ⟨⟨17⟩, .atom AtomId.int⟩]⟩]

def partOf : Lens := ⟨[.guard ⟨15⟩, .guard ⟨15⟩, .field ⟨16⟩, .guard ⟨12⟩]⟩

def brokenPart : Value := .atom ⟨⟨5⟩, ⟨12⟩, .named, 8, 9⟩ [.float ⟨0x7ff8000000000000⟩]

def machine : Value := .atom ⟨⟨7⟩, ⟨15⟩, .anonymous, 1, 1⟩ [.atom ⟨⟨5⟩, ⟨12⟩, .named, 0, 0⟩ [.int 1], .int 2]

theorem Lens.get_of_setStrict_brokenPart :
    (Builder.new.run machineOfParts).freeze = .ok (.ofLoad machineOfParts) ∧
    ∃ updated later, partOf.setStrict (.ofLoad machineOfParts) machine brokenPart ⟨10, 10⟩ = .ok (updated, later) ∧
      partOf.get (.ofLoad machineOfParts) updated = some brokenPart ∧
      partOf.get (.ofLoad machineOfParts)
        (partOf.setSafe (.ofLoad machineOfParts) machine brokenPart ⟨10, 10⟩).1 = some brokenPart :=
  ⟨rfl, _, _, rfl, get_of_setStrict _ partOf machine brokenPart ⟨10, 10⟩ _ _ rfl⟩

end AtomResolution
