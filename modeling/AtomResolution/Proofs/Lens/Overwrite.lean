import AtomResolution.Proofs.Lens.Frame
import AtomResolution.Proofs.Lens.OnePass

/-!
Writing twice through one lens. An update that succeeded leaves all that a later one looks at on its way as it
was: the atoms, tags and numbers of fields of the instances there. Where a later one looks at what the first one
wrote, which it does in the guards after the last field, the first one has checked that these hold. So the second
write does what it would have done without the first one.
-/

namespace AtomResolution

namespace Value

/-- Two values are the same but for the tokens and the cells of the instances on a way. -/
inductive AlikeAlong : List Nat → Value → Value → Prop
  | here (value : Value) : AlikeAlong [] value value
  | above {head again : Instance} {fields others : List Value} {position : Nat} {way : List Nat}
      {part other : Value} (atom : again.atom = head.atom) (tag : again.tag = head.tag)
      (kind : again.kind = head.kind) (holds : fields[position]? = some part)
      (holdsAgain : others[position]? = some other)
      (beside : ∀ index, index ≠ position → others[index]? = fields[index]?) (below : AlikeAlong way part other) :
      AlikeAlong (position :: way) (.atom head fields) (.atom again others)

theorem AlikeAlong.set {head again : Instance} {fields : List Value} {position : Nat} {way : List Nat}
    {part other : Value} (atom : again.atom = head.atom) (tag : again.tag = head.tag)
    (kind : again.kind = head.kind) (inside : position < fields.length) (below : AlikeAlong way part other) :
    AlikeAlong (position :: way) (.atom head (fields.set position part)) (.atom again (fields.set position other)) :=
  have beside (index : Nat) (apart : index ≠ position) :
      (fields.set position other)[index]? = (fields.set position part)[index]? := by
    rw [List.getElem?_set_ne apart.symm, List.getElem?_set_ne apart.symm]
  .above atom tag kind (List.getElem?_set_self inside) (List.getElem?_set_self inside) beside below

theorem alikeAlong_replaceAt {value target : Value} {way : List Nat} (reaches : value.at? way = some target)
    (first second : Value) (supply again other : Supply) :
    AlikeAlong way ((value.replaceAt first supply way).1.replaceAt second again way).1
      (value.replaceAt second other way).1 := by
  induction way generalizing value with
  | nil => exact .here second
  | cons position way ih =>
    obtain ⟨head, fields, current, rfl, holds, onward⟩ := at?_cons_eq_some_iff.1 reaches
    have inside := (List.getElem?_eq_some_iff.1 holds).1
    have holdsThere (part : Value) : (fields.set position part)[position]? = some part :=
      List.getElem?_set_self inside
    rw [replaceAt_cons holds, replaceAt_cons holds]
    unfold Supply.rebuild Supply.build
    dsimp only
    rw [replaceAt_cons (holdsThere _), List.set_set]
    exact .set rfl rfl rfl inside (ih onward)

end Value

theorem Registry.goes_rebuild {registry : Registry} {selector : Selector} {head : Instance} {fields : List Value}
    {position : Nat} (points : registry.PointsTo head.atom selector position) (inside : position < fields.length)
    (part : Value) (supply : Supply) :
    registry.Goes selector (supply.rebuild head (fields.set position part)).1 [position] part :=
  .field points (List.getElem?_set_self inside)

namespace Lens

variable {lens : Lens} {registry : Registry} {value first current target : Value} {previous : Option Selector}
  {selector : Selector} {selectors rest : List Selector} {head : Instance} {fields : List Value} {position : Nat}
  {way : List Nat}

theorem checkLast_set (checked : lens.checkLast registry first previous rest head fields position = .ok ())
    (second : Value) (token cell : Nat) :
    lens.checkLast registry second previous rest { head with identity := token, storage := cell }
        (fields.set position first) position =
      lens.checkLast registry second previous rest head fields position := by
  unfold checkLast at checked
  obtain ⟨_, -, checked⟩ := bind_eq_ok_iff.1 checked
  cases holds : fields[position]? with
  | none =>
    rw [holds] at checked
    cases checked
  | some current =>
    rw [holds] at checked
    obtain ⟨_, currentPasses, checked⟩ := bind_eq_ok_iff.1 checked
    obtain ⟨_, firstPasses, -⟩ := bind_eq_ok_iff.1 checked
    have firstPasses : lens.checkGuards registry first .guardFails rest = .ok () :=
      checkGuards_eq_ok_iff.2 (checkGuards_eq_ok_iff.1 firstPasses)
    have inside := (List.getElem?_eq_some_iff.1 holds).1
    unfold checkLast
    rw [List.getElem?_set_self inside, holds]
    dsimp only
    rw [currentPasses, firstPasses]
    rfl

theorem locate_rebuild_last (points : registry.PointsTo head.atom selector position)
    (holds : fields[position]? = some current) (noField : rest.any Selector.isField = false)
    (located : lens.locate registry first previous (selector :: rest) (.atom head fields) = .ok way)
    (second : Value) (supply : Supply) :
    lens.locate registry second previous (selector :: rest) (supply.rebuild head (fields.set position first)).1 =
      lens.locate registry second previous (selector :: rest) (.atom head fields) := by
  have holdsThere : (fields.set position first)[position]? = some first :=
    List.getElem?_set_self (List.getElem?_eq_some_iff.1 holds).1
  rw [locate_checkLast (position?_of_points points holds) holds points.isField noField] at located ⊢
  obtain ⟨_, checked, -⟩ := map_eq_ok_iff.1 located
  have there : lens.locate registry second previous (selector :: rest)
        (supply.rebuild head (fields.set position first)).1 = _ :=
    locate_checkLast (position?_of_points points holdsThere) holdsThere points.isField noField
  rw [there]
  exact congrArg (Except.map _) (checkLast_set checked second _ _)

theorem tagOf_of_locate {tag : Name}
    (located : lens.locate registry first previous (.guard tag :: rest) value = .ok way)
    (guards : ∀ selector ∈ rest, selector.isField = false) : registry.tagOf first = tag := by
  have allGuards : ∀ selector ∈ Selector.guard tag :: rest, selector.isField = false :=
    List.forall_mem_cons.2 ⟨rfl, guards⟩
  have verdict := lens.locate_guards registry value first previous allGuards
  rw [located] at verdict
  cases verdict with
  | located passes _ => exact passes.2 tag List.mem_cons_self

/-- A second search goes the way of the first one, whether or not the first replacement was written. -/
theorem locate_replaceAt (located : lens.locate registry first previous selectors value = .ok way)
    (leads : registry.Leads selectors value way target) (second : Value) (supply : Supply) :
    lens.locate registry second previous selectors (value.replaceAt first supply way).1 =
      lens.locate registry second previous selectors value := by
  induction leads generalizing previous with
  | done => rfl
  | @step selector rest value next target step others goes leads ih =>
    cases goes with
    | @guard tag _ shows =>
      have showsAgain : registry.tagOf (value.replaceAt first supply others).1 = tag := by
        by_cases last : others = []
        · subst last
          exact tagOf_of_locate located (leads.way_eq_nil_iff.1 rfl)
        · exact (Value.tagOf_replaceAt registry value first supply last).trans shows
      rw [List.nil_append, locate, locate, if_pos shows, if_pos showsAgain, ih (locate_of_guard located)]
    | @field _ head fields position _ points holds =>
      have inside := (List.getElem?_eq_some_iff.1 holds).1
      rw [List.singleton_append, Value.replaceAt_cons holds]
      cases later : rest.any Selector.isField with
      | true =>
        rw [locate_goes (.field points holds) later] at located ⊢
        rw [locate_goes (Registry.goes_rebuild points inside _ _) later]
        obtain ⟨_, found, same⟩ := map_eq_ok_iff.1 located
        obtain rfl := List.append_cancel_left same
        rw [ih found]
      | false =>
        obtain rfl := leads.way_eq_nil later
        exact locate_rebuild_last points holds later located second _

/-- The second of two strict updates through a lens wins. Once an update has succeeded, a second one of the result
succeeds where it would have succeeded without the first one, and fails with the same error where it would have
failed; and it gives the same value but for the tokens and the cells of the instances on the way of the lens. -/
theorem setStrict_setStrict (registry : Registry) (lens : Lens) (value first second : Value) (supply : Supply)
    (updated : Value) (later : Supply)
    (succeeds : lens.setStrict registry value first supply = .ok (updated, later)) (again other : Supply) :
    ((∃ result, lens.setStrict registry updated second again = .ok result) ↔
      ∃ result, lens.setStrict registry value second other = .ok result) ∧
    (∀ twice once left right, lens.setStrict registry updated second again = .ok (twice, left) →
      lens.setStrict registry value second other = .ok (once, right) →
      ∃ way, registry.way? lens.selectors value = some way ∧ Value.AlikeAlong way twice once) ∧
    ∀ error, lens.setStrict registry updated second again = .error error ↔
      lens.setStrict registry value second other = .error error := by
  obtain ⟨way, target, leads, located, replaced⟩ := exists_leads_of_setStrict succeeds
  obtain rfl : (value.replaceAt first supply way).1 = updated := congrArg Prod.fst replaced
  unfold setStrict
  rw [locate_replaceAt located leads second supply]
  cases search : lens.locate registry second none lens.selectors value with
  | error error =>
    refine ⟨iff_of_false ?_ ?_, fun _ _ _ _ impossible => (by cases impossible), fun _ => Iff.rfl⟩
    · exact fun ⟨_, impossible⟩ => nomatch impossible
    · exact fun ⟨_, impossible⟩ => nomatch impossible
  | ok positions =>
    obtain rfl := leads.eq_of_locate search
    refine ⟨iff_of_true ⟨_, rfl⟩ ⟨_, rfl⟩, fun twice once left right writtenTwice writtenOnce => ?_, fun _ => ?_⟩
    · obtain rfl := congrArg Prod.fst (Except.ok.inj writtenTwice)
      obtain rfl := congrArg Prod.fst (Except.ok.inj writtenOnce)
      have alike := Value.alikeAlong_replaceAt leads.at? first second supply again other
      exact ⟨positions, Registry.way?_eq_some_iff.2 ⟨target, leads⟩, alike⟩
    · exact iff_of_false (fun impossible => nomatch impossible) fun impossible => nomatch impossible

def sparePart : Value := .atom ⟨⟨5⟩, ⟨12⟩, .named, 3, 4⟩ [.int 7]

theorem setStrict_setStrict_parts :
    (Builder.new.run machineOfParts).freeze = .ok (.ofLoad machineOfParts) ∧
    ∃ updated later, partOf.setStrict (.ofLoad machineOfParts) machine brokenPart ⟨10, 10⟩ = .ok (updated, later) ∧
      (∃ twice once left right,
        partOf.setStrict (.ofLoad machineOfParts) updated sparePart later = .ok (twice, left) ∧
        partOf.setStrict (.ofLoad machineOfParts) machine sparePart ⟨10, 10⟩ = .ok (once, right) ∧
        ∃ way, (Registry.ofLoad machineOfParts).way? partOf.selectors machine = some way ∧
          Value.AlikeAlong way twice once) ∧
      ∃ error, partOf.setStrict (.ofLoad machineOfParts) updated (.int 7) later = .error error ∧
        partOf.setStrict (.ofLoad machineOfParts) machine (.int 7) ⟨10, 10⟩ = .error error := by
  have secondWins (second : Value) := setStrict_setStrict (.ofLoad machineOfParts) partOf machine brokenPart second
    ⟨10, 10⟩ _ _ rfl
  refine ⟨rfl, _, _, rfl, ⟨_, _, _, _, rfl, rfl, ?_⟩, ⟨_, rfl, ?_⟩⟩
  · exact (secondWins sparePart ⟨11, 11⟩ ⟨10, 10⟩).2.1 _ _ _ _ rfl rfl
  · exact ((secondWins (.int 7) ⟨11, 11⟩ ⟨10, 10⟩).2.2 _).1 rfl

end Lens

end AtomResolution
