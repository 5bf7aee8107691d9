import AtomResolution.Proofs.Lens.Overwrite
import AtomResolution.Proofs.Requests.Typing
import AtomResolution.Proofs.Value.Equality

/-!
Writing back what was read. The value that a lens leads to has passed the guards that the lens ends with, and in
a value made as declared it has the type of the field that it stands in. So of all checks of a strict update only
one can fail, that the last field is closed; and an update that succeeds builds the instances on the way anew and
changes nothing else.
-/

namespace AtomResolution

namespace Value

variable {value target updated : Value} {way : List Nat}

def instancesAlong : Value → List Nat → List Instance
  | .atom head fields, position :: way =>
    head :: (fields[position]?.map fun field => field.instancesAlong way).getD []
  | _, _ => []

theorem alikeAlong_replaceAt_self (reaches : value.at? way = some target) (supply : Supply) :
    AlikeAlong way value (value.replaceAt target supply way).1 := by
  induction way generalizing value with
  | nil =>
    cases reaches
    exact .here _
  | cons position way ih =>
    obtain ⟨head, fields, current, rfl, holds, onward⟩ := at?_cons_eq_some_iff.1 reaches
    have inside := (List.getElem?_eq_some_iff.1 holds).1
    rw [replaceAt_cons holds]
    refine .above rfl rfl rfl holds (List.getElem?_set_self inside) (fun index apart => ?_) (ih onward)
    rw [List.getElem?_set_ne apart.symm]

theorem AlikeAlong.equals (alike : AlikeAlong way value updated)
    (named : ∀ head ∈ value.instancesAlong way, head.kind = .named) (noNaN : value.hasNaN = false) :
    updated.equals value = true := by
  induction alike with
  | here value => exact equals_self noNaN
  | @above head again fields others position way part other atom tag kind holds holdsAgain beside below ih =>
    rw [instancesAlong, holds] at named
    obtain ⟨headNamed, belowNamed⟩ := List.forall_mem_cons.1 named
    have same := ih belowNamed (hasNaN_of_field noNaN holds)
    have inside := (List.getElem?_eq_some_iff.1 holds).1
    have replaced : others = fields.set position other := List.ext_getElem? fun index => by
      by_cases here : index = position
      · rw [here, holdsAgain, List.getElem?_set_self inside]
      · rw [beside index here, List.getElem?_set_ne (Ne.symm here)]
    subst replaced
    refine equals_of_fields atom (kind.trans headNamed) (List.forall₂_iff_get.2 ⟨List.length_set, ?_⟩)
    intro index _ insideFields
    have standing : fields[index]? = some fields[index] := List.getElem?_eq_getElem insideFields
    rw [List.get_eq_getElem, List.get_eq_getElem, List.getElem_set]
    split
    next here =>
      subst here
      cases holds.symm.trans standing
      exact same
    next => exact equals_self (hasNaN_of_field noNaN standing)

end Value

namespace Registry

variable {registry : Registry} {selectors : List Selector} {value target current : Value} {way : List Nat}
  {head : Instance} {fields : List Value} {position : Nat}

/-- Every instance in a value, however deep it lies, is one of a declared atom, with the tag and the kind of its
declaration and with fields that fill it. -/
def AsDeclared (registry : Registry) (value : Value) : Prop :=
  ∀ way head fields, value.at? way = some (.atom head fields) →
    ∃ decl, registry.atoms.get? head.atom = some decl ∧ head.tag = decl.tag ∧ head.kind = decl.kind ∧
      registry.Fills decl.fields fields

theorem WellTyped.asDeclared (typed : registry.WellTyped value) : registry.AsDeclared value := by
  intro way
  induction way generalizing value with
  | nil =>
    intro head fields here
    cases here
    cases typed with
    | primitive plain => cases plain
    | made declared _ tag kind fills _ => exact ⟨_, declared, tag, kind, fills⟩
  | cons position way ih =>
    intro head fields reaches
    obtain ⟨_, _, field, rfl, holds, onward⟩ := Value.at?_cons_eq_some_iff.1 reaches
    exact ih (typed.part holds) head fields onward

theorem AsDeclared.accepted (made : registry.AsDeclared value) (reaches : value.at? way = some (.atom head fields))
    (holds : fields[position]? = some current) {spec : FieldSpec}
    (asked : (registry.shape? head.atom).bind (·[position]?) = some spec) :
    registry.isSubtype current.typeTag spec.type = true := by
  obtain ⟨decl, declared, -, -, fills⟩ := made way head fields reaches
  exact fills.accepted_shape declared holds asked

theorem Leads.eq_of_guards (leads : registry.Leads selectors value way target)
    (guards : ∀ selector ∈ selectors, selector.isField = false) : target = value := by
  obtain rfl := leads.way_eq_nil_iff.2 guards
  exact (Option.some.inj leads.at?).symm

end Registry

namespace Lens

variable {lens : Lens} {registry : Registry} {value found : Value} {last : Selector} {before after : List Selector}
  {way : List Nat} {head : Instance} {fields : List Value} {position : Nat} {previous : Option Selector}
  {error : LensError}

/-- The last field that a lens reads is one of several variants, and no guard right before it says which; the
error says so. -/
def LeavesOpen (lens : Lens) (registry : Registry) (value : Value) (error : LensError) : Prop :=
  ∃ before last after head fields, lens.EndsAt before last after ∧
    Lens.get registry ⟨before⟩ value = some (.atom head fields) ∧ 1 < registry.familyArity head.atom ∧
    (∀ earlier tag, before ≠ earlier ++ [.guard tag]) ∧
    error = .variantMismatch lens head.tag (.openVariant (registry.familyArity head.atom))

theorem checkClosed_eq_error_iff : lens.checkClosed registry head fields previous = .error error ↔
    1 < registry.familyArity head.atom ∧ previous ≠ some (.guard head.tag) ∧
      error = .variantMismatch lens head.tag (.openVariant (registry.familyArity head.atom)) := by
  unfold checkClosed
  dsimp only
  rw [← and_assoc]
  split
  next isOpen =>
    rw [and_iff_right isOpen, Except.error.injEq, eq_comm]
    rfl
  next closed => exact iff_of_false (fun impossible => nomatch impossible) fun both => closed both.1

theorem EndsAt.exists_leads (ends : lens.EndsAt before last after) (reads : lens.get registry value = some found) :
    ∃ way head fields position, registry.Leads before value way (.atom head fields) ∧
      registry.PointsTo head.atom last position ∧ fields[position]? = some found ∧ registry.Passes found after := by
  rw [ends.get_eq] at reads
  obtain ⟨current, here, later⟩ := Option.bind_eq_some_iff.1 reads
  obtain ⟨owner, owned, step⟩ := Option.bind_eq_some_iff.1 here
  obtain ⟨way, leads⟩ := Registry.get_eq_some_iff.1 owned
  obtain ⟨_, goes⟩ := Registry.read_eq_some_iff.1 step
  obtain ⟨_, onward⟩ := Registry.get_eq_some_iff.1 later
  obtain rfl := onward.eq_of_guards ends.guards
  have passes := (get_guards_iff ends.guards).1 ⟨_, later⟩
  cases goes with
  | guard _ => cases ends.isField
  | field points holds => exact ⟨way, _, _, _, leads, points, holds, passes⟩

theorem EndsAt.locate_self (ends : lens.EndsAt before last after)
    (leads : registry.Leads before value way (.atom head fields))
    (points : registry.PointsTo head.atom last position) (holds : fields[position]? = some found)
    (passes : registry.Passes found after)
    (fits : ∀ spec, (registry.shape? head.atom).bind (·[position]?) = some spec →
      registry.isSubtype found.typeTag spec.type = true) :
    lens.locate registry found none lens.selectors value =
      (lens.checkClosed registry head fields before.getLast?).map fun _ => way ++ [position] := by
  have hasField : (last :: after).any Selector.isField = true := by
    rw [List.any_cons, ends.isField, Bool.true_or]
  have noField : after.any Selector.isField = false := List.any_eq_false.2 fun selector inside => by
    rw [ends.guards selector inside]
    exact Bool.false_ne_true
  have typed : checkFieldType registry head.atom position found = .ok () := by
    rcases checkFieldType_cases registry head.atom position found with ⟨_, typed⟩ | ⟨spec, asked, differs, _⟩
    · exact typed
    · rw [fits spec asked] at differs
      cases differs
  have onlyClosed : lens.checkLast registry found before.getLast? after head fields position =
      lens.checkClosed registry head fields before.getLast? := by
    unfold checkLast
    rw [holds]
    dsimp only
    rw [checkGuards_eq_ok_iff.2 passes, checkGuards_eq_ok_iff.2 passes, typed]
    exact bind_pure (lens.checkClosed registry head fields before.getLast?)
  rw [ends.selectors, locate_append leads hasField, Option.or_none,
    locate_checkLast (position?_of_points points holds) holds ends.isField noField, onlyClosed]
  cases lens.checkClosed registry head fields before.getLast? <;> rfl

/-- Putting back what was read into a value made as declared fails where the last field is open, and nowhere
else. -/
theorem locate_self_eq_error_iff (reads : lens.get registry value = some found)
    (made : registry.AsDeclared value) :
    lens.locate registry found none lens.selectors value = .error error ↔ lens.LeavesOpen registry value error := by
  rcases exists_endsAt lens.selectors with ⟨before, last, after, ends⟩ | guards
  · have ends : lens.EndsAt before last after := ends
    obtain ⟨way, head, fields, position, leads, points, holds, passes⟩ := ends.exists_leads reads
    have owned := Registry.get_eq_some_iff.2 ⟨way, leads⟩
    rw [ends.locate_self leads points holds passes fun _ asked => made.accepted leads.at? holds asked]
    have sameError : (lens.checkClosed registry head fields before.getLast?).map (fun _ => way ++ [position]) =
        .error error ↔ lens.checkClosed registry head fields before.getLast? = .error error := by
      cases lens.checkClosed registry head fields before.getLast? <;> simp [Except.map]
    rw [sameError, checkClosed_eq_error_iff, ne_eq, getLast?_eq_guard_iff leads]
    constructor
    · rintro ⟨several, unpinned, same⟩
      exact ⟨before, last, after, head, fields, ends, owned, several,
        fun earlier tag whole => unpinned ⟨earlier, tag, whole⟩, same⟩
    · rintro ⟨otherBefore, _, _, _, _, other, otherOwned, several, unpinned, same⟩
      obtain ⟨rfl, -, -⟩ := ends.unique other
      cases owned.symm.trans otherOwned
      exact ⟨several, fun ⟨earlier, tag, whole⟩ => unpinned earlier tag whole, same⟩
  · obtain ⟨way, leads⟩ := Registry.get_eq_some_iff.1 reads
    obtain rfl := leads.eq_of_guards guards
    have passes := (get_guards_iff guards).1 ⟨_, reads⟩
    have verdict := lens.locate_guards registry found found none guards
    constructor
    · intro failed
      rw [failed] at verdict
      cases verdict with
      | unfit _ undeclared _ => exact undeclared.elim
      | refused refuses => exact absurd ⟨passes, passes⟩ refuses
    · rintro ⟨before, last, after, _, _, ends, _⟩
      have isGuard := guards last (ends.selectors ▸ List.mem_append_right before List.mem_cons_self)
      rw [ends.isField] at isGuard
      cases isGuard

/-- Writing back what was read changes nothing but the tokens and the cells of the instances on the way, and so
gives an equal value if these are named and no float in the value is unequal to itself. In a value made as declared
it fails exactly if the last field is open. -/
theorem setStrict_get (registry : Registry) (lens : Lens) (value found : Value) (supply : Supply)
    (reads : lens.get registry value = some found) :
    (∀ updated later, lens.setStrict registry value found supply = .ok (updated, later) →
      ∃ way, registry.way? lens.selectors value = some way ∧ Value.AlikeAlong way value updated ∧
        ((∀ head ∈ value.instancesAlong way, head.kind = .named) → value.hasNaN = false →
          updated.equals value = true)) ∧
    (registry.AsDeclared value → ∀ error, lens.setStrict registry value found supply = .error error ↔
      lens.LeavesOpen registry value error) := by
  constructor
  · intro updated later succeeds
    obtain ⟨way, target, leads, -, replaced⟩ := exists_leads_of_setStrict succeeds
    obtain rfl : (value.replaceAt found supply way).1 = updated := congrArg Prod.fst replaced
    have alsoReads := Registry.get_eq_some_iff.2 ⟨way, leads⟩
    obtain rfl := Option.some.inj (alsoReads.symm.trans reads)
    have alike := Value.alikeAlong_replaceAt_self leads.at? supply
    exact ⟨way, Registry.way?_eq_some_iff.2 ⟨target, leads⟩, alike, alike.equals⟩
  · intro made error
    rw [← locate_self_eq_error_iff reads made]
    unfold setStrict
    cases lens.locate registry found none lens.selectors value <;> simp

def carsWithEngines : List Operation :=
  [.declareFamily ⟨0⟩ ⟨11⟩ [⟨⟨12⟩, .named, [⟨⟨13⟩, .atom AtomId.float⟩]⟩, ⟨⟨14⟩, .named, []⟩],
    .declareAtom ⟨0⟩ ⟨⟨15⟩, .named, [⟨⟨16⟩, .any⟩, ⟨⟨17⟩, .atom AtomId.int⟩]⟩]

def car : Value :=
  .atom ⟨⟨7⟩, ⟨15⟩, .named, 1, 1⟩ [.atom ⟨⟨5⟩, ⟨12⟩, .named, 0, 0⟩ [.float ⟨0x3ff8000000000000⟩], .int 2]

def powerOf : Lens := ⟨[.field ⟨16⟩, .guard ⟨12⟩, .field ⟨13⟩]⟩

def anyPowerOf : Lens := ⟨[.field ⟨16⟩, .field ⟨13⟩]⟩

theorem setStrict_get_car :
    (Builder.new.run carsWithEngines).freeze = .ok (.ofLoad carsWithEngines) ∧
    (∃ updated later,
      powerOf.setStrict (.ofLoad carsWithEngines) car (.float ⟨0x3ff8000000000000⟩) ⟨2, 2⟩ = .ok (updated, later) ∧
        (∃ way, (Registry.ofLoad carsWithEngines).way? powerOf.selectors car = some way ∧
          Value.AlikeAlong way car updated) ∧ updated.equals car = true) ∧
    ∃ error,
      anyPowerOf.setStrict (.ofLoad carsWithEngines) car (.float ⟨0x3ff8000000000000⟩) ⟨2, 2⟩ = .error error ∧
        anyPowerOf.LeavesOpen (.ofLoad carsWithEngines) car error := by
  have typed : (Registry.ofLoad carsWithEngines).WellTyped car := by
    refine .made rfl rfl rfl rfl (Registry.fills_of_misfit? rfl rfl) fun part inside => ?_
    rcases List.mem_cons.1 inside with rfl | inside
    · refine .made rfl rfl rfl rfl (Registry.fills_of_misfit? rfl rfl) fun number among => ?_
      cases List.mem_singleton.1 among
      exact .primitive rfl
    · cases List.mem_singleton.1 inside
      exact .primitive rfl
  refine ⟨rfl, ⟨_, _, rfl, ?_⟩, ⟨_, rfl, ?_⟩⟩
  · obtain ⟨way, along, alike, equal⟩ :=
      (setStrict_get (.ofLoad carsWithEngines) powerOf car _ ⟨2, 2⟩ rfl).1 _ _ rfl
    obtain rfl : [0, 0] = way := Option.some.inj along
    exact ⟨⟨_, along, alike⟩, equal (by decide) (by decide)⟩
  · exact ((setStrict_get (.ofLoad carsWithEngines) anyPowerOf car _ ⟨2, 2⟩ rfl).2 typed.asDeclared _).1 rfl

end Lens

end AtomResolution
