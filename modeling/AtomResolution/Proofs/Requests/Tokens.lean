import AtomResolution.Proofs.Lens.Frame
import AtomResolution.Proofs.Requests.Session

/-!
The account of tokens. Every instance that a request builds or builds anew takes one, and nothing else does.
So no two instances of a run have the same token, and the supply says how many there are.
-/

namespace AtomResolution

def Value.instancesOn (value : Value) : List Nat → List Instance
  | [] => []
  | position :: way =>
    match value with
    | .atom head fields => head :: (fields[position]?.map fun field => field.instancesOn way).getD []
    | .int _ | .float _ | .bool _ | .text _ | .nothing => []

/-- The instances that lie in an updated value on the way of a lens through the value before. -/
def Lens.rebuilt (lens : Lens) (registry : Registry) (value updated : Value) : List Instance :=
  ((registry.way? lens.selectors value).map updated.instancesOn).getD []

/-- The instances that were built for an answer. A safe update builds none where a strict one would fail. -/
def Registry.built (registry : Registry) : Request × Answer → List Instance
  | (.construct _ _, .given result) => result.head?.toList
  | (.setStrict lens value _, .given updated) => lens.rebuilt registry value updated
  | (.setSafe lens value new, .given updated) =>
    match lens.setStrict registry value new .new with
    | .ok _ => lens.rebuilt registry value updated
    | .error _ => []
  | _ => []

/-- Some tokens are those that a supply hands out until it is another one. -/
structure Supply.HandsOut (supply later : Supply) (tokens : List Nat) : Prop where
  count : later.identities = supply.identities + tokens.length
  perm : tokens.Perm (List.range' supply.identities tokens.length)

namespace Supply.HandsOut

variable {supply middle later : Supply} {tokens others : List Nat}

theorem nothing (supply : Supply) : supply.HandsOut supply [] := ⟨rfl, .refl _⟩

theorem append (first : supply.HandsOut middle tokens) (second : middle.HandsOut later others) :
    supply.HandsOut later (tokens ++ others) := by
  have count : later.identities = supply.identities + (tokens ++ others).length := by
    rw [second.count, first.count, List.length_append, Nat.add_assoc]
  refine ⟨count, ?_⟩
  have both := first.perm.append second.perm
  rw [first.count, List.range'_append_1] at both
  rw [List.length_append]
  exact both

theorem nodup (handsOut : supply.HandsOut later tokens) : tokens.Nodup :=
  handsOut.perm.nodup_iff.2 List.nodup_range'

end Supply.HandsOut

variable {registry : Registry} {lens : Lens} {selectors : List Selector} {value target new updated : Value}
  {way : List Nat} {supply later : Supply}

theorem Registry.Leads.length_way (leads : registry.Leads selectors value way target) :
    way.length = selectors.countP Selector.isField := by
  induction leads with
  | done => rfl
  | @step selector rest value next target first others goes _ ih =>
    cases goes with
    | guard _ =>
      rw [List.nil_append, ih]
      rfl
    | field points _ =>
      rw [List.singleton_append, List.length_cons, ih, List.countP_cons, if_pos points.isField]

theorem Value.identities_replaceAt (reaches : value.at? way = some target) (new : Value) (supply : Supply) :
    ((value.replaceAt new supply way).1.instancesOn way).map Instance.identity =
      (List.range' supply.identities way.length).reverse := by
  induction way generalizing value with
  | nil => rfl
  | cons position way ih =>
    obtain ⟨head, fields, current, rfl, holds, onward⟩ := at?_cons_eq_some_iff.1 reaches
    have inside := (List.getElem?_eq_some_iff.1 holds).1
    rw [replaceAt_cons holds, supply_replaceAt onward]
    unfold Supply.rebuild Supply.build instancesOn
    dsimp only
    rw [List.getElem?_set_self inside, Option.map_some, Option.getD_some, List.map_cons, ih onward,
      List.length_cons, List.range'_1_concat, List.reverse_append]
    rfl

theorem Registry.handsOut_of_setStrict
    (succeeds : lens.setStrict registry value new supply = .ok (updated, later)) :
    supply.HandsOut later ((lens.rebuilt registry value updated).map Instance.identity) := by
  obtain ⟨way, target, leads, -, replaced⟩ := Lens.exists_leads_of_setStrict succeeds
  have tokens := Value.identities_replaceAt leads.at? new supply
  have drawn := Value.supply_replaceAt leads.at? new supply
  rw [replaced] at tokens drawn
  unfold Lens.rebuilt
  rw [Registry.way?_eq_some_iff.2 ⟨target, leads⟩, Option.map_some, Option.getD_some, tokens]
  refine ⟨?_, ?_⟩
  · rw [List.length_reverse, List.length_range']
    exact congrArg Supply.identities drawn
  · rw [List.length_reverse, List.length_range']
    exact List.reverse_perm _

theorem Registry.handsOut_of_construct {atom : AtomId} {fields : List Value}
    (succeeds : registry.construct atom fields supply = (.ok value, later)) :
    supply.HandsOut later (value.head?.toList.map Instance.identity) ∧
      value.head?.toList.length = if atom.isBuiltin then 0 else 1 := by
  obtain ⟨decl, _, ⟨builtin, made⟩ | ⟨own, made⟩⟩ := construct_eq_ok_iff.1 succeeds
  · cases made
    rw [if_pos builtin]
    exact ⟨.nothing supply, rfl⟩
  · cases made
    rw [own]
    exact ⟨⟨rfl, .refl _⟩, rfl⟩

theorem Lens.setSafe_of_setStrict_ok (succeeds : lens.setStrict registry value new supply = .ok (updated, later)) :
    lens.setSafe registry value new supply = (updated, later) := by
  unfold setSafe
  rw [succeeds]

theorem Lens.setSafe_of_setStrict_error {error : LensError}
    (fails : lens.setStrict registry value new supply = .error error) :
    lens.setSafe registry value new supply = (value, supply) := by
  unfold setSafe
  rw [fails]

theorem Lens.setStrict_error_iff {error : LensError} (other : Supply) :
    lens.setStrict registry value new other = .error error ↔
      lens.setStrict registry value new supply = .error error := by
  unfold setStrict
  cases lens.locate registry new none lens.selectors value with
  | error _ => exact Iff.rfl
  | ok _ => exact iff_of_false (fun impossible => by cases impossible) fun impossible => by cases impossible

theorem Registry.handsOut_answer (registry : Registry) (supply : Supply) (request : Request) :
    supply.HandsOut (registry.answer supply request).2
      ((registry.built (request, (registry.answer supply request).1)).map Instance.identity) := by
  cases request with
  | construct atom fields =>
    unfold answer
    dsimp only
    split
    next succeeds => exact (handsOut_of_construct succeeds).1
    next fails =>
      rw [(construct_eq_error_iff.1 fails).2]
      exact .nothing supply
  | get lens value =>
    unfold answer
    dsimp only
    cases lens.get registry value with
    | some _ => exact .nothing supply
    | none => exact .nothing supply
  | setStrict lens value new =>
    rw [answer_setStrict]
    cases strict : lens.setStrict registry value new supply with
    | ok result => exact handsOut_of_setStrict strict
    | error _ => exact .nothing supply
  | setSafe lens value new =>
    rw [answer_setSafe]
    unfold Registry.built
    dsimp only
    cases strict : lens.setStrict registry value new supply with
    | ok result =>
      rw [Lens.setSafe_of_setStrict_ok strict]
      cases again : lens.setStrict registry value new .new with
      | ok _ => exact handsOut_of_setStrict strict
      | error _ =>
        rw [Lens.setStrict_error_iff] at again
        rw [again] at strict
        cases strict
    | error _ =>
      rw [Lens.setSafe_of_setStrict_error strict, (Lens.setStrict_error_iff .new).2 strict]
      exact .nothing supply

/-- The instances of a whole run have the tokens that the supply handed out, each one of its own. -/
theorem Registry.handsOut_serve (registry : Registry) (supply : Supply) (requests : List Request) :
    supply.HandsOut (registry.serve supply requests).2
      (((registry.serve supply requests).1.flatMap registry.built).map Instance.identity) := by
  induction requests generalizing supply with
  | nil => exact .nothing supply
  | cons request requests ih =>
    rw [serve_cons, List.flatMap_cons, List.map_append]
    exact (registry.handsOut_answer supply request).append (ih _)

theorem Registry.supply_answer (registry : Registry) (supply : Supply) (request : Request)
    (nothing : (registry.answer supply request).1.value? = none) :
    (registry.answer supply request).2 = supply := by
  cases request with
  | construct atom fields =>
    unfold answer at nothing ⊢
    dsimp only at nothing ⊢
    split
    next succeeds =>
      rw [succeeds] at nothing
      cases nothing
    next fails => exact (construct_eq_error_iff.1 fails).2
  | get lens value =>
    unfold answer
    dsimp only
    cases lens.get registry value with
    | some _ => rfl
    | none => rfl
  | setStrict lens value new =>
    rw [answer_setStrict] at nothing ⊢
    cases strict : lens.setStrict registry value new supply with
    | ok _ =>
      rw [strict] at nothing
      cases nothing
    | error _ => rfl
  | setSafe lens value new =>
    rw [answer_setSafe] at nothing
    cases nothing

/-- The account of tokens. A construction takes one, and none for a primitive atom or where it fails. An update
takes one for each field that its lens reads, which are as many as the instances it builds anew; one that fails
takes none, though it is one pass that draws as it goes, and done safely it gives back the very value. What gives
no value takes nothing. So the instances built in a run have tokens of their own, and the supply counts them. -/
theorem Registry.serve_tokens (registry : Registry) :
    (∀ (atom : AtomId) (fields : List Value) (supply : Supply) (value : Value) (later : Supply),
      registry.construct atom fields supply = (.ok value, later) →
      later.identities = supply.identities + if atom.isBuiltin then 0 else 1) ∧
    (∀ (atom : AtomId) (fields : List Value) (supply : Supply) (error : RegistryError) (later : Supply),
      registry.construct atom fields supply = (.error error, later) → later = supply) ∧
    (∀ (lens : Lens) (value new : Value) (supply : Supply) (updated : Value) (later : Supply),
      lens.setStrict registry value new supply = .ok (updated, later) →
      later.identities = supply.identities + lens.selectors.countP Selector.isField ∧
      (lens.rebuilt registry value updated).length = lens.selectors.countP Selector.isField ∧
      lens.update registry new none lens.selectors value supply = (.ok updated, later) ∧
      lens.setSafe registry value new supply = (updated, later)) ∧
    (∀ (lens : Lens) (value new : Value) (supply : Supply) (error : LensError),
      lens.setStrict registry value new supply = .error error →
      lens.update registry new none lens.selectors value supply = (.error error, supply) ∧
      lens.setSafe registry value new supply = (value, supply)) ∧
    (∀ supply request, (registry.answer supply request).1.value? = none →
      (registry.answer supply request).2 = supply) ∧
    ∀ requests, (((registry.serve .new requests).1.flatMap registry.built).map Instance.identity).Nodup ∧
      (registry.serve .new requests).2.identities =
        ((registry.serve .new requests).1.flatMap registry.built).length := by
  refine ⟨?_, fun _ _ _ _ _ fails => (construct_eq_error_iff.1 fails).2, ?_, ?_, registry.supply_answer, ?_⟩
  · intro atom fields supply value later succeeds
    obtain ⟨handsOut, count⟩ := handsOut_of_construct succeeds
    rw [handsOut.count, List.length_map, count]
  · intro lens value new supply updated later succeeds
    obtain ⟨way, target, leads, -, replaced⟩ := Lens.exists_leads_of_setStrict succeeds
    have drawn := Value.supply_replaceAt leads.at? new supply
    rw [replaced] at drawn
    have count : later.identities = supply.identities + lens.selectors.countP Selector.isField := by
      rw [← leads.length_way]
      exact congrArg Supply.identities drawn
    have handsOut := handsOut_of_setStrict succeeds
    have rebuilt := handsOut.count
    rw [List.length_map, count] at rebuilt
    refine ⟨count, (Nat.add_left_cancel rebuilt).symm, ?_, Lens.setSafe_of_setStrict_ok succeeds⟩
    rw [Lens.update_eq_setStrict, succeeds]
  · intro lens value new supply error fails
    refine ⟨?_, Lens.setSafe_of_setStrict_error fails⟩
    rw [Lens.update_eq_setStrict, fails]
  · intro requests
    have handsOut := registry.handsOut_serve .new requests
    refine ⟨handsOut.nodup, ?_⟩
    rw [handsOut.count, List.length_map]
    exact Nat.zero_add _

/-- A part is made, and not made of nothing; then the machine with a broken part, with a number for a part, and
assembled. -/
theorem Registry.serve_tokens_assembly :
    (Builder.new.run machineOfParts).freeze = .ok (.ofLoad machineOfParts) ∧
    (∃ part later, (Registry.ofLoad machineOfParts).construct ⟨5⟩ [.int 1] ⟨10, 10⟩ = (.ok part, later) ∧
      later.identities = 10 + 1) ∧
    (∃ error later, (Registry.ofLoad machineOfParts).construct ⟨5⟩ [] ⟨10, 10⟩ = (.error error, later) ∧
      later = ⟨10, 10⟩) ∧
    (∃ updated later, partOf.setStrict (.ofLoad machineOfParts) machine brokenPart ⟨10, 10⟩ = .ok (updated, later) ∧
      later.identities = 10 + partOf.selectors.countP Selector.isField) ∧
    (∃ error, partOf.setStrict (.ofLoad machineOfParts) machine (.int 3) ⟨10, 10⟩ = .error error ∧
      partOf.update (.ofLoad machineOfParts) (.int 3) none partOf.selectors machine ⟨10, 10⟩ =
        (.error error, ⟨10, 10⟩)) ∧
    ((Registry.ofLoad machineOfParts).serve .new assembly).2.identities =
      (((Registry.ofLoad machineOfParts).serve .new assembly).1.flatMap (Registry.ofLoad machineOfParts).built).length :=
  have ⟨constructions, refusals, updates, failures, _, runs⟩ := serve_tokens (.ofLoad machineOfParts)
  ⟨rfl, ⟨_, _, rfl, constructions ⟨5⟩ [.int 1] ⟨10, 10⟩ _ _ rfl⟩, ⟨_, _, rfl, refusals ⟨5⟩ [] ⟨10, 10⟩ _ _ rfl⟩,
    ⟨_, _, rfl, (updates partOf machine brokenPart ⟨10, 10⟩ _ _ rfl).1⟩,
    ⟨_, rfl, (failures partOf machine (.int 3) ⟨10, 10⟩ _ rfl).1⟩, (runs assembly).2⟩

end AtomResolution
