import AtomResolution.Proofs.Lens.Readback

/-!
What a strict update touches. The instances that the lens reads from on its way are built anew, each of the
same atom and with as many fields; whatever lies beside the way is the very value that was there, with its
token and its storage; and at the end of the way lies the replacement.
-/

namespace AtomResolution

namespace Value

variable {value new part : Value} {supply : Supply} {position : Nat} {way above beside rest : List Nat}

/-- The value at the end of a way of field positions. -/
def at? (value : Value) (way : List Nat) : Option Value := way.foldlM field? value

/-- An instance was built anew from another one: it is of the same atom and has as many fields, and its token
and its storage were not handed out before. -/
inductive Rebuilt (supply : Supply) : Value → Value → Prop
  | anew {head again : Instance} {fields others : List Value} (atom : again.atom = head.atom)
      (tag : again.tag = head.tag) (kind : again.kind = head.kind) (count : others.length = fields.length)
      (token : supply.identities ≤ again.identity) (cell : supply.storages ≤ again.storage) :
      Rebuilt supply (.atom head fields) (.atom again others)

theorem at?_cons (value : Value) (position : Nat) (way : List Nat) :
    value.at? (position :: way) = (value.field? position).bind fun field => field.at? way :=
  List.foldlM_cons

theorem at?_cons_eq_some_iff {target : Value} : value.at? (position :: way) = some target ↔
    ∃ head fields field, value = .atom head fields ∧ fields[position]? = some field ∧ field.at? way = some target := by
  rw [at?_cons, Option.bind_eq_some_iff]
  constructor
  · intro reaches
    obtain ⟨field, found, onward⟩ := reaches
    obtain ⟨head, fields, same, holds⟩ := Registry.field?_eq_some_iff.1 found
    exact ⟨head, fields, field, same, holds, onward⟩
  · rintro ⟨head, fields, field, rfl, holds, onward⟩
    exact ⟨field, holds, onward⟩

theorem at?_append (value : Value) (above rest : List Nat) :
    value.at? (above ++ rest) = (value.at? above).bind fun part => part.at? rest :=
  List.foldlM_append

theorem replaceAt_of_none (absent : value.field? position = none) :
    value.replaceAt new supply (position :: way) = (value, supply) := by
  cases value with
  | atom head fields =>
    have missing : fields[position]? = none := absent
    rw [replaceAt]
    dsimp only
    rw [missing]
  | _ => rfl

theorem supply_replaceAt {target : Value} (reaches : value.at? way = some target) (new : Value)
    (supply : Supply) :
    (value.replaceAt new supply way).2 =
      ⟨supply.identities + way.length, supply.storages + way.length⟩ := by
  induction way generalizing value with
  | nil => rfl
  | cons position way ih =>
    obtain ⟨head, fields, current, rfl, holds, onward⟩ := at?_cons_eq_some_iff.1 reaches
    rw [replaceAt_cons holds, ih onward]
    rfl

theorem at?_replaceAt_above (value new : Value) (supply : Supply) (above rest : List Nat) :
    (value.replaceAt new supply (above ++ rest)).1.at? above =
      (value.at? above).map fun part => (part.replaceAt new supply rest).1 := by
  induction above generalizing value with
  | nil => rfl
  | cons position above ih =>
    rw [List.cons_append, at?_cons, at?_cons]
    cases found : value.field? position with
    | none =>
      rw [replaceAt_of_none found, found]
      rfl
    | some current =>
      obtain ⟨head, fields, rfl, holds⟩ := Registry.field?_eq_some_iff.1 found
      have inside := (List.getElem?_eq_some_iff.1 holds).1
      rw [replaceAt_cons holds]
      change ((fields.set position _)[position]?).bind _ = _
      rw [List.getElem?_set_self inside]
      exact ih current

theorem at?_replaceAt_beside (notAbove : ¬beside <+: way) (notBelow : ¬way <+: beside) :
    (value.replaceAt new supply way).1.at? beside = value.at? beside := by
  induction way generalizing value beside with
  | nil => exact absurd List.nil_prefix notBelow
  | cons position way ih =>
    cases beside with
    | nil => exact absurd List.nil_prefix notAbove
    | cons other beside =>
      cases found : value.field? position with
      | none => rw [replaceAt_of_none found]
      | some current =>
        obtain ⟨head, fields, rfl, holds⟩ := Registry.field?_eq_some_iff.1 found
        rw [replaceAt_cons holds, at?_cons, at?_cons]
        change ((fields.set position _)[other]?).bind _ = (fields[other]?).bind _
        by_cases same : position = other
        · subst same
          have inside := (List.getElem?_eq_some_iff.1 holds).1
          rw [List.getElem?_set_self inside, holds]
          refine ih (fun shorter => notAbove ?_) fun longer => notBelow ?_
          · exact List.cons_prefix_cons.2 ⟨rfl, shorter⟩
          · exact List.cons_prefix_cons.2 ⟨rfl, longer⟩
        · rw [List.getElem?_set_ne same]

theorem rebuilt_replaceAt {target : Value} (reaches : part.at? rest = some target) (inside : rest ≠ [])
    (new : Value) (supply : Supply) : Rebuilt supply part (part.replaceAt new supply rest).1 := by
  cases rest with
  | nil => exact absurd rfl inside
  | cons position rest =>
    obtain ⟨head, fields, current, rfl, holds, onward⟩ := at?_cons_eq_some_iff.1 reaches
    rw [replaceAt_cons holds, supply_replaceAt onward]
    exact .anew rfl rfl rfl List.length_set (Nat.le_add_right _ _) (Nat.le_add_right _ _)

end Value

variable {registry : Registry} {lens : Lens} {selectors : List Selector} {value target new updated : Value}
  {way : List Nat} {supply later : Supply}

theorem Registry.Leads.at? (leads : registry.Leads selectors value way target) : value.at? way = some target := by
  induction leads with
  | done => rfl
  | step goes _ ih =>
    cases goes with
    | guard _ => exact ih
    | field _ holds =>
      rw [List.singleton_append, Value.at?_cons]
      exact Option.bind_eq_some_iff.2 ⟨_, holds, ih⟩

theorem Lens.exists_leads_of_setStrict
    (succeeds : lens.setStrict registry value new supply = .ok (updated, later)) :
    ∃ way target, registry.Leads lens.selectors value way target ∧
      lens.locate registry new none lens.selectors value = .ok way ∧
      value.replaceAt new supply way = (updated, later) := by
  have verdict := lens.locate_verdict registry value new
  unfold setStrict at succeeds
  cases located : lens.locate registry new none lens.selectors value with
  | error _ =>
    rw [located] at succeeds
    cases succeeds
  | ok positions =>
    rw [located] at succeeds verdict
    cases verdict with
    | located allows _ =>
      obtain ⟨target, found⟩ := allows.reads
      obtain ⟨way, leads⟩ := Registry.get_eq_some_iff.1 found
      obtain rfl := leads.eq_of_locate located
      exact ⟨positions, target, leads, rfl, Except.ok.inj succeeds⟩

/-- A strict update touches only the way of its lens: the instances on it are built anew, each of the same
atom and with as many fields; what lies beside it is the identical value, token and storage included, or
nothing as before; and from its end on lies the replacement. -/
theorem Lens.setStrict_frame (registry : Registry) (lens : Lens) (value new : Value) (supply : Supply)
    (updated : Value) (later : Supply)
    (succeeds : lens.setStrict registry value new supply = .ok (updated, later)) :
    ∃ way, registry.way? lens.selectors value = some way ∧
      (∀ above rest, way = above ++ rest → rest ≠ [] → ∃ part again, value.at? above = some part ∧
        updated.at? above = some again ∧ Value.Rebuilt supply part again) ∧
      (∀ beside, ¬beside <+: way → ¬way <+: beside → updated.at? beside = value.at? beside) ∧
      ∀ below, updated.at? (way ++ below) = new.at? below := by
  obtain ⟨way, target, leads, -, replaced⟩ := exists_leads_of_setStrict succeeds
  obtain rfl : (value.replaceAt new supply way).1 = updated := congrArg Prod.fst replaced
  refine ⟨way, Registry.way?_eq_some_iff.2 ⟨target, leads⟩, ?_, ?_, fun below => ?_⟩
  · rintro above rest rfl inside
    have reaches := leads.at?
    rw [Value.at?_append] at reaches
    obtain ⟨part, found, onward⟩ := Option.bind_eq_some_iff.1 reaches
    refine ⟨part, _, found, ?_, Value.rebuilt_replaceAt onward inside new supply⟩
    rw [Value.at?_replaceAt_above, found, Option.map_some]
  · exact fun beside notAbove notBelow => Value.at?_replaceAt_beside notAbove notBelow
  · have atEnd := value.at?_replaceAt_above new supply way []
    rw [List.append_nil, leads.at?, Option.map_some] at atEnd
    rw [Value.at?_append, atEnd]
    rfl

theorem Lens.setStrict_frame_brokenPart :
    (Builder.new.run machineOfParts).freeze = .ok (.ofLoad machineOfParts) ∧
    ∃ updated later, partOf.setStrict (.ofLoad machineOfParts) machine brokenPart ⟨10, 10⟩ = .ok (updated, later) ∧
      ∃ way, (Registry.ofLoad machineOfParts).way? partOf.selectors machine = some way ∧
        (∀ above rest, way = above ++ rest → rest ≠ [] → ∃ part again, machine.at? above = some part ∧
          updated.at? above = some again ∧ Value.Rebuilt ⟨10, 10⟩ part again) ∧
        (∀ beside, ¬beside <+: way → ¬way <+: beside → updated.at? beside = machine.at? beside) ∧
        ∀ below, updated.at? (way ++ below) = brokenPart.at? below :=
  ⟨rfl, _, _, rfl, setStrict_frame _ partOf machine brokenPart ⟨10, 10⟩ _ _ rfl⟩

end AtomResolution
