import AtomResolution.Proofs.Lens.Overwrite

/-!
Writing through two lenses whose ways part. What one of them writes lies beside the way of the other: where the
ways are still one, instances are built anew with their atoms, tags and numbers of fields, and after they have
parted nothing changes. So each update finds what it would have found without the other one, and the order of the
two decides nothing but tokens and cells.
-/

namespace AtomResolution

/-- Two ways part before either of them ends. -/
inductive Apart : List Nat → List Nat → Prop
  | fork {position other : Nat} (different : position ≠ other) (way beside : List Nat) :
      Apart (position :: way) (other :: beside)
  | along (position : Nat) {way beside : List Nat} (apart : Apart way beside) :
      Apart (position :: way) (position :: beside)

variable {way beside : List Nat}

theorem Apart.symm (apart : Apart way beside) : Apart beside way := by
  induction apart with
  | fork different way beside => exact .fork different.symm beside way
  | along position _ ih => exact .along position ih

theorem Apart.ne_nil (apart : Apart way beside) : beside ≠ [] := by
  cases apart <;> exact List.cons_ne_nil _ _

theorem apart_of_not_prefix (notAbove : ¬way <+: beside) (notBelow : ¬beside <+: way) : Apart way beside := by
  induction way generalizing beside with
  | nil => exact absurd List.nil_prefix notAbove
  | cons position way ih =>
    cases beside with
    | nil => exact absurd List.nil_prefix notBelow
    | cons other beside =>
      by_cases same : position = other
      · subst same
        refine .along position (ih (fun shorter => notAbove ?_) fun longer => notBelow ?_)
        · exact List.cons_prefix_cons.2 ⟨rfl, shorter⟩
        · exact List.cons_prefix_cons.2 ⟨rfl, longer⟩
      · exact .fork same way beside

namespace Value

variable {value first second : Value}

theorem alikeAlong_supplies {target : Value} (reaches : value.at? way = some target) (new : Value)
    (supply other : Supply) : AlikeAlong way (value.replaceAt new supply way).1 (value.replaceAt new other way).1 := by
  induction way generalizing value with
  | nil => exact .here new
  | cons position way ih =>
    obtain ⟨head, fields, current, rfl, holds, onward⟩ := at?_cons_eq_some_iff.1 reaches
    have inside := (List.getElem?_eq_some_iff.1 holds).1
    rw [replaceAt_cons holds, replaceAt_cons holds]
    exact .set rfl rfl rfl inside (ih onward)

/-- Two replacements on ways that part give the same in either order, but for the tokens and the cells on the one
way and on the other. -/
theorem exists_alikeAlong_of_apart (apart : Apart way beside) {target other : Value}
    (reaches : value.at? way = some target) (alsoReaches : value.at? beside = some other) (first second : Value)
    (supply again later after : Supply) :
    ∃ between,
      AlikeAlong way ((value.replaceAt first supply way).1.replaceAt second again beside).1 between ∧
      AlikeAlong beside between ((value.replaceAt second later beside).1.replaceAt first after way).1 := by
  induction apart generalizing value supply again later after with
  | @fork position place different way beside =>
    obtain ⟨head, fields, current, rfl, holds, onward⟩ := at?_cons_eq_some_iff.1 reaches
    obtain ⟨_, _, present, same, alsoHolds, alsoOnward⟩ := at?_cons_eq_some_iff.1 alsoReaches
    cases same
    have inside := (List.getElem?_eq_some_iff.1 holds).1
    have alsoInside := (List.getElem?_eq_some_iff.1 alsoHolds).1
    have stillHolds (part : Value) : (fields.set place part)[position]? = some current := by
      rw [List.getElem?_set_ne different.symm, holds]
    have alsoStillHolds (part : Value) : (fields.set position part)[place]? = some present := by
      rw [List.getElem?_set_ne different, alsoHolds]
    rw [replaceAt_cons holds, replaceAt_cons alsoHolds]
    unfold Supply.rebuild Supply.build
    dsimp only
    rw [replaceAt_cons (stillHolds _), replaceAt_cons (alsoStillHolds _)]
    -- Between the two stand what the second order wrote on `way` and what the first one wrote on `beside`.
    have left := alikeAlong_supplies onward first supply after
    have right := alikeAlong_supplies alsoOnward second again later
    have crossed (part other : Value) :
        (fields.set position part).set place other = (fields.set place other).set position part :=
      List.set_comm part other different
    refine ⟨.atom head ((fields.set place (present.replaceAt second again beside).1).set position
      (current.replaceAt first after way).1), ?_, ?_⟩
    · rw [crossed]
      exact .set rfl rfl rfl (by rw [List.length_set]; exact inside) left
    · rw [← crossed, ← crossed]
      exact .set rfl rfl rfl (by rw [List.length_set]; exact alsoInside) right
  | @along position way beside apart ih =>
    obtain ⟨head, fields, current, rfl, holds, onward⟩ := at?_cons_eq_some_iff.1 reaches
    obtain ⟨_, _, present, same, alsoHolds, alsoOnward⟩ := at?_cons_eq_some_iff.1 alsoReaches
    cases same
    cases holds.symm.trans alsoHolds
    have inside := (List.getElem?_eq_some_iff.1 holds).1
    have holdsThere (part : Value) : (fields.set position part)[position]? = some part :=
      List.getElem?_set_self inside
    rw [replaceAt_cons holds, replaceAt_cons holds]
    unfold Supply.rebuild Supply.build
    dsimp only
    rw [replaceAt_cons (holdsThere _), replaceAt_cons (holdsThere _), List.set_set, List.set_set]
    obtain ⟨between, left, right⟩ := ih onward alsoOnward _ _ _ _
    exact ⟨.atom head (fields.set position between), .set rfl rfl rfl inside left, .set rfl rfl rfl inside right⟩

theorem exists_replaceAt_apart {head : Instance} {fields : List Value} {position : Nat} {current : Value}
    (holds : fields[position]? = some current) (apart : Apart (position :: way) beside) (new : Value)
    (supply : Supply) :
    ∃ again others part, ((Value.atom head fields).replaceAt new supply beside).1 = .atom again others ∧
      again.atom = head.atom ∧ again.tag = head.tag ∧ others[position]? = some part ∧
      (part = current ∨ ∃ deeper, Apart way deeper ∧ part = (current.replaceAt new supply deeper).1) := by
  cases apart with
  | @fork _ place different _ beside =>
    cases found : fields[place]? with
    | none =>
      have absent : field? (.atom head fields) place = none := found
      rw [replaceAt_of_none absent]
      exact ⟨head, fields, current, rfl, rfl, rfl, holds, .inl rfl⟩
    | some present =>
      rw [replaceAt_cons found]
      exact ⟨_, _, current, rfl, rfl, rfl, (List.getElem?_set_ne different.symm).trans holds, .inl rfl⟩
  | @along _ _ deeper apart =>
    have inside := (List.getElem?_eq_some_iff.1 holds).1
    rw [replaceAt_cons holds]
    exact ⟨_, _, _, rfl, rfl, rfl, List.getElem?_set_self inside, .inr ⟨deeper, apart, rfl⟩⟩

end Value

variable {registry : Registry} {lens : Lens} {selectors rest : List Selector} {selector : Selector}
  {value target current : Value} {previous : Option Selector} {head again : Instance} {fields others : List Value}
  {position : Nat}

theorem Registry.Leads.replaceAt_apart (leads : registry.Leads selectors value way target) (apart : Apart way beside)
    (new : Value) (supply : Supply) :
    registry.Leads selectors (value.replaceAt new supply beside).1 way target := by
  induction leads generalizing beside with
  | done => cases apart
  | step goes leads ih =>
    cases goes with
    | guard shows => exact .step (.guard ((Value.tagOf_replaceAt _ _ _ _ apart.ne_nil).trans shows)) (ih apart)
    | field points holds =>
      obtain ⟨again, others, part, replaced, atom, -, holdsAgain, untouched | ⟨deeper, below, touched⟩⟩ :=
        Value.exists_replaceAt_apart holds apart new supply
      · rw [replaced]
        exact .step (.field (atom ▸ points) (untouched ▸ holdsAgain)) leads
      · rw [replaced]
        exact .step (.field (atom ▸ points) holdsAgain) (touched ▸ ih below)

namespace Lens

theorem checkClosed_congr (atom : again.atom = head.atom) (tag : again.tag = head.tag) :
    lens.checkClosed registry again others previous = lens.checkClosed registry head fields previous := by
  have shows : registry.tagOf (.atom again others) = registry.tagOf (.atom head fields) := tag
  unfold checkClosed mismatch
  rw [atom, tag, shows]

theorem locate_last_congr (points : registry.PointsTo head.atom selector position)
    (atom : again.atom = head.atom) (tag : again.tag = head.tag) (holds : fields[position]? = some current)
    (holdsAgain : others[position]? = some current) (noField : rest.any Selector.isField = false) (new : Value) :
    lens.locate registry new previous (selector :: rest) (.atom again others) =
      lens.locate registry new previous (selector :: rest) (.atom head fields) := by
  have alsoPoints : registry.PointsTo again.atom selector position := atom ▸ points
  rw [locate_checkLast (position?_of_points points holds) holds points.isField noField,
    locate_checkLast (position?_of_points alsoPoints holdsAgain) holdsAgain points.isField noField]
  unfold checkLast
  rw [checkClosed_congr atom tag, holds, holdsAgain, atom]

theorem locate_replaceAt_apart (leads : registry.Leads selectors value way target) (apart : Apart way beside)
    (new written : Value) (supply : Supply) :
    lens.locate registry new previous selectors (value.replaceAt written supply beside).1 =
      lens.locate registry new previous selectors value := by
  induction leads generalizing beside previous with
  | done => cases apart
  | @step selector rest value next target first others goes leads ih =>
    cases goes with
    | guard shows =>
      have showsAgain := (Value.tagOf_replaceAt registry value written supply apart.ne_nil).trans shows
      rw [locate, locate, if_pos shows, if_pos showsAgain, ih apart]
    | @field _ head fields position _ points holds =>
      obtain ⟨again, present, part, replaced, atom, tag, holdsAgain, outcome⟩ :=
        Value.exists_replaceAt_apart holds apart written supply
      rw [replaced]
      cases later : rest.any Selector.isField with
      | true =>
        rw [locate_goes (.field points holds) later, locate_goes (.field (atom ▸ points) holdsAgain) later]
        rcases outcome with rfl | ⟨deeper, below, rfl⟩
        · rfl
        · rw [ih below]
      | false =>
        obtain rfl := leads.way_eq_nil later
        rcases outcome with rfl | ⟨_, impossible, _⟩
        · exact locate_last_congr points atom tag holds holdsAgain later new
        · cases impossible

theorem setStrict_of_locate {way : List Nat} {new : Value}
    (located : lens.locate registry new none lens.selectors value = .ok way) (supply : Supply) :
    lens.setStrict registry value new supply = .ok (value.replaceAt new supply way) := by
  unfold setStrict
  rw [located]

theorem admits_of_locate {way : List Nat} {new : Value}
    (located : lens.locate registry new none lens.selectors value = .ok way) : lens.Admits registry new := by
  have verdict := lens.locate_verdict registry value new
  rw [located] at verdict
  cases verdict with
  | located allows _ => exact allows.admits

/-- Strict updates through two lenses whose ways part can be made in either order. Each of them succeeds after the
other one, both lenses read what was written through them, and the two results are the same but for the tokens and
the cells of the instances on the one way and on the other. -/
theorem setStrict_comm (registry : Registry) (one other : Lens) (value first second : Value)
    (supply again : Supply) (firstOnly secondOnly : Value) (later after : Supply)
    (succeeds : one.setStrict registry value first supply = .ok (firstOnly, later))
    (alsoSucceeds : other.setStrict registry value second again = .ok (secondOnly, after))
    (way beside : List Nat) (along : registry.way? one.selectors value = some way)
    (alsoAlong : registry.way? other.selectors value = some beside)
    (notAbove : ¬way <+: beside) (notBelow : ¬beside <+: way) (left right : Supply) :
    ∃ both leftOver swapped rightOver,
      other.setStrict registry firstOnly second left = .ok (both, leftOver) ∧
      one.setStrict registry secondOnly first right = .ok (swapped, rightOver) ∧
      (∃ between, Value.AlikeAlong way both between ∧ Value.AlikeAlong beside between swapped) ∧
      (one.get registry both = some first ∧ other.get registry both = some second) ∧
      one.get registry swapped = some first ∧ other.get registry swapped = some second := by
  have apart := apart_of_not_prefix notAbove notBelow
  obtain ⟨positions, _, leads, located, replaced⟩ := exists_leads_of_setStrict succeeds
  obtain rfl := Option.some.inj ((Registry.way?_eq_some_iff.2 ⟨_, leads⟩).symm.trans along)
  obtain ⟨places, _, alsoLeads, alsoLocated, alsoReplaced⟩ := exists_leads_of_setStrict alsoSucceeds
  obtain rfl := Option.some.inj ((Registry.way?_eq_some_iff.2 ⟨_, alsoLeads⟩).symm.trans alsoAlong)
  obtain rfl : (value.replaceAt first supply positions).1 = firstOnly := congrArg Prod.fst replaced
  obtain rfl : (value.replaceAt second again places).1 = secondOnly := congrArg Prod.fst alsoReplaced
  have admits := admits_of_locate located
  have alsoAdmits := admits_of_locate alsoLocated
  have secondNext := (locate_replaceAt_apart alsoLeads apart.symm second first supply).trans alsoLocated
  have firstNext := (locate_replaceAt_apart leads apart first second again).trans located
  refine ⟨_, _, _, _, setStrict_of_locate secondNext left, setStrict_of_locate firstNext right, ?_, ⟨?_, ?_⟩, ?_, ?_⟩
  · exact Value.exists_alikeAlong_of_apart apart leads.at? alsoLeads.at? first second supply left again right
  · exact Registry.get_eq_some_iff.2 ⟨_, (leads.replaceAt admits supply).replaceAt_apart apart second left⟩
  · exact Registry.get_eq_some_iff.2 ⟨_, (alsoLeads.replaceAt_apart apart.symm first supply).replaceAt alsoAdmits left⟩
  · exact Registry.get_eq_some_iff.2 ⟨_, (leads.replaceAt_apart apart second again).replaceAt admits right⟩
  · exact Registry.get_eq_some_iff.2 ⟨_, (alsoLeads.replaceAt alsoAdmits again).replaceAt_apart apart.symm first right⟩

def nestedMachine : Value := .atom ⟨⟨7⟩, ⟨15⟩, .anonymous, 2, 2⟩ [machine, .int 5]

def innerPartOf : Lens := ⟨[.field ⟨16⟩, .field ⟨16⟩]⟩

def innerNumberOf : Lens := ⟨[.guard ⟨15⟩, .position 0, .guard ⟨15⟩, .position 1]⟩

theorem setStrict_comm_nested :
    (Builder.new.run machineOfParts).freeze = .ok (.ofLoad machineOfParts) ∧
    ∃ partOnly later numberOnly after both leftOver swapped rightOver,
      innerPartOf.setStrict (.ofLoad machineOfParts) nestedMachine sparePart ⟨10, 10⟩ = .ok (partOnly, later) ∧
      innerNumberOf.setStrict (.ofLoad machineOfParts) nestedMachine (.int 3) ⟨20, 20⟩ = .ok (numberOnly, after) ∧
      innerNumberOf.setStrict (.ofLoad machineOfParts) partOnly (.int 3) ⟨30, 30⟩ = .ok (both, leftOver) ∧
      innerPartOf.setStrict (.ofLoad machineOfParts) numberOnly sparePart ⟨40, 40⟩ = .ok (swapped, rightOver) ∧
      (∃ between, Value.AlikeAlong [0, 0] both between ∧ Value.AlikeAlong [0, 1] between swapped) ∧
      (innerPartOf.get (.ofLoad machineOfParts) both = some sparePart ∧
        innerNumberOf.get (.ofLoad machineOfParts) both = some (.int 3)) ∧
      innerPartOf.get (.ofLoad machineOfParts) swapped = some sparePart ∧
        innerNumberOf.get (.ofLoad machineOfParts) swapped = some (.int 3) := by
  obtain ⟨both, leftOver, swapped, rightOver, next, alsoNext, written⟩ :=
    setStrict_comm (.ofLoad machineOfParts) innerPartOf innerNumberOf nestedMachine sparePart (.int 3) ⟨10, 10⟩
      ⟨20, 20⟩ _ _ _ _ rfl rfl [0, 0] [0, 1] rfl rfl (by decide) (by decide) ⟨30, 30⟩ ⟨40, 40⟩
  exact ⟨rfl, _, _, _, _, both, leftOver, swapped, rightOver, rfl, rfl, next, alsoNext, written⟩

end Lens

end AtomResolution
