import AtomResolution.Proofs.Requests.Typing
import AtomResolution.Proofs.Store.AppendOnly

/-!
What construction accepts and how it refuses. An instance is built from as many values as its atom declares fields,
each of a type that its field accepts; of the primitives only `Nothing` is built, from no value. A refusal says what
is wrong with the values, but for one: it tells whoever offers a single value for another primitive that one is
expected and one was found.
-/

namespace AtomResolution

namespace Registry

variable {registry : Registry} {atom : AtomId} {specs : List FieldSpec} {fields : List Value} {decl : AtomDecl}
  {supply later : Supply}

/-- The first field, in the order of declaration, that rejects the value given for it. -/
structure FirstMisfit (registry : Registry) (specs : List FieldSpec) (fields : List Value) (position : Nat)
    (spec : FieldSpec) (value : Value) : Prop where
  specified : specs[position]? = some spec
  holds : fields[position]? = some value
  rejected : registry.isSubtype value.typeTag spec.type = false
  accepted : ∀ earlier < position, ∀ before given, specs[earlier]? = some before → fields[earlier]? = some given →
    registry.isSubtype given.typeTag before.type = true

theorem exists_firstMisfit {spec : FieldSpec} {value : Value}
    (found : registry.misfit? specs fields = some (spec, value)) :
    ∃ position, registry.FirstMisfit specs fields position spec value := by
  obtain ⟨rejects, position, inside, here, before⟩ := List.find?_eq_some_iff_getElem.1 found
  obtain ⟨specified, holds⟩ := List.getElem?_zip_eq_some.1 (List.getElem?_eq_some_iff.2 ⟨inside, here⟩)
  refine ⟨position, specified, holds, by simpa using rejects, ?_⟩
  intro earlier first other given declared stands
  have paired : (specs.zip fields)[earlier]? = some (other, given) :=
    List.getElem?_zip_eq_some.2 ⟨declared, stands⟩
  obtain ⟨within, there⟩ := List.getElem?_eq_some_iff.1 paired
  have fits := before earlier first
  rw [there] at fits
  simpa using fits

theorem Fills.misfit?_eq_none (fills : registry.Fills specs fields) : registry.misfit? specs fields = none := by
  cases found : registry.misfit? specs fields with
  | none => rfl
  | some pair =>
    obtain ⟨position, first⟩ := exists_firstMisfit found
    have fits := fills.accepted position _ _ first.specified first.holds
    rw [first.rejected] at fits
    cases fits

/-- All that the checks of a construction can come to. -/
inductive Checked (registry : Registry) (atom : AtomId) (fields : List Value) : Except RegistryError AtomDecl → Prop
  | undeclared (absent : registry.atoms.get? atom = none) : Checked registry atom fields (.error (.unknownAtom atom))
  | nothing {decl : AtomDecl} (declared : registry.atoms.get? atom = some decl) (asked : atom = AtomId.nothing)
      (empty : fields = []) : Checked registry atom fields (.ok decl)
  | overfull {decl : AtomDecl} (declared : registry.atoms.get? atom = some decl) (asked : atom = AtomId.nothing)
      (offered : fields ≠ []) : Checked registry atom fields (.error (.fieldCountMismatch atom 0 fields.length))
  | primitive {decl : AtomDecl} (declared : registry.atoms.get? atom = some decl) (builtin : atom.isBuiltin = true)
      (other : atom ≠ AtomId.nothing) :
      Checked registry atom fields (.error (.fieldCountMismatch atom 1 fields.length))
  | miscounted {decl : AtomDecl} (declared : registry.atoms.get? atom = some decl) (own : atom.isBuiltin = false)
      (differs : fields.length ≠ decl.fields.length) :
      Checked registry atom fields (.error (.fieldCountMismatch atom decl.fields.length fields.length))
  | unfit {decl : AtomDecl} {position : Nat} {spec : FieldSpec} {value : Value}
      (declared : registry.atoms.get? atom = some decl) (own : atom.isBuiltin = false)
      (count : fields.length = decl.fields.length)
      (first : registry.FirstMisfit decl.fields fields position spec value) :
      Checked registry atom fields (.error (.fieldTypeMismatch atom spec.name spec.type value.typeTag))
  | filled {decl : AtomDecl} (declared : registry.atoms.get? atom = some decl) (own : atom.isBuiltin = false)
      (fills : registry.Fills decl.fields fields) : Checked registry atom fields (.ok decl)

theorem checked_checkFields (registry : Registry) (atom : AtomId) (fields : List Value) :
    registry.Checked atom fields (registry.checkFields atom fields) := by
  unfold checkFields
  cases declared : registry.atoms.get? atom with
  | none => exact .undeclared declared
  | some decl =>
    dsimp only
    cases builtin : atom.isBuiltin with
    | true =>
      rw [if_pos rfl]
      by_cases asked : atom = AtomId.nothing
      · by_cases empty : fields = []
        · rw [if_pos ⟨asked, empty⟩]
          exact .nothing declared asked empty
        · rw [if_neg fun both => empty both.2, if_pos asked]
          exact .overfull declared asked empty
      · rw [if_neg fun both => asked both.1, if_neg asked]
        exact .primitive declared builtin asked
    | false =>
      rw [if_neg Bool.false_ne_true]
      by_cases count : fields.length = decl.fields.length
      · rw [if_neg (not_not_intro count)]
        cases found : registry.misfit? decl.fields fields with
        | none => exact .filled declared builtin (fills_of_misfit? count found)
        | some pair =>
          obtain ⟨position, first⟩ := exists_firstMisfit found
          exact .unfit declared builtin count first
      · rw [if_pos count]
        exact .miscounted declared builtin count

theorem checked_of_error {error : RegistryError}
    (fails : registry.construct atom fields supply = (.error error, later)) :
    registry.Checked atom fields (.error error) := by
  have checked := registry.checked_checkFields atom fields
  rw [(construct_eq_error_iff.1 fails).1] at checked
  exact checked

theorem construct_of_fills (declared : registry.atoms.get? atom = some decl) (own : atom.isBuiltin = false)
    (fills : registry.Fills decl.fields fields) :
    registry.construct atom fields supply =
      (.ok (supply.build atom decl.tag decl.kind fields).1, (supply.build atom decl.tag decl.kind fields).2) := by
  have checked : registry.checkFields atom fields = .ok decl := by
    unfold checkFields
    rw [declared]
    dsimp only
    rw [own, if_neg Bool.false_ne_true, if_neg (not_not_intro fills.count), fills.misfit?_eq_none]
  exact construct_eq_ok_iff.2 ⟨decl, checked, .inr ⟨own, rfl⟩⟩

theorem construct_nothing (declared : registry.atoms.get? AtomId.nothing = some decl) :
    registry.construct AtomId.nothing [] supply = (.ok .nothing, supply) := by
  unfold construct checkFields
  rw [declared]
  rfl

theorem construct_undeclared (absent : registry.atoms.get? atom = none) :
    registry.construct atom fields supply = (.error (.unknownAtom atom), supply) := by
  unfold construct checkFields
  rw [absent]

theorem of_construct_eq_ok {value : Value} (succeeds : registry.construct atom fields supply = (.ok value, later)) :
    (atom = AtomId.nothing ∧ fields = [] ∧ value = .nothing ∧ later = supply) ∨
      ∃ decl, registry.atoms.get? atom = some decl ∧ atom.isBuiltin = false ∧ registry.Fills decl.fields fields ∧
        (value, later) = supply.build atom decl.tag decl.kind fields := by
  obtain ⟨decl, found, made⟩ := construct_eq_ok_iff.1 succeeds
  have checked := registry.checked_checkFields atom fields
  rw [found] at checked
  cases checked with
  | nothing _ asked empty =>
    obtain ⟨_, made⟩ | ⟨own, _⟩ := made
    · cases made
      exact .inl ⟨asked, empty, rfl, rfl⟩
    · rw [asked] at own
      cases own
  | filled declared own fills =>
    obtain ⟨builtin, _⟩ | ⟨_, made⟩ := made
    · rw [own] at builtin
      cases builtin
    · exact .inr ⟨decl, declared, own, fills, made⟩

theorem get?_of_builtin {operations : List Operation}
    (frozen : (Builder.new.run operations).freeze = .ok registry)
    (declared : Builder.new.atoms.get? atom = some decl) : registry.atoms.get? atom = some decl :=
  Table.get?_of_prefix (Builder.continues_freeze frozen).atoms
    (Table.get?_of_prefix (Builder.new.continues_run operations).atoms declared)

theorem get?_nothing {operations : List Operation} (frozen : (Builder.new.run operations).freeze = .ok registry) :
    registry.atoms.get? AtomId.nothing = some ⟨ModuleId.builtins, Name.nothing, .named, ⟨4⟩, []⟩ :=
  get?_of_builtin frozen rfl

theorem of_fieldCountMismatch {operations : List Operation}
    (frozen : (Builder.new.run operations).freeze = .ok registry) {other : AtomId} {expected found : Nat}
    (fails : registry.construct atom fields supply = (.error (.fieldCountMismatch other expected found), later)) :
    other = atom ∧ found = fields.length ∧
      (expected = found ↔ atom.isBuiltin = true ∧ atom ≠ AtomId.nothing ∧ fields.length = 1) ∧
      ((atom.isBuiltin = true → atom = AtomId.nothing) →
        ∃ decl, registry.atoms.get? atom = some decl ∧ expected = decl.fields.length) := by
  cases checked_of_error fails with
  | overfull _ asked offered =>
    subst asked
    have given := List.length_pos_iff.2 offered
    exact ⟨rfl, rfl, iff_of_false (by omega) fun all => all.2.1 rfl, fun _ => ⟨_, get?_nothing frozen, rfl⟩⟩
  | primitive declared builtin another =>
    refine ⟨rfl, rfl, ?_, fun only => absurd (only builtin) another⟩
    constructor
    · intro same
      exact ⟨builtin, another, same.symm⟩
    · intro all
      exact all.2.2.symm
  | @miscounted decl declared own differs =>
    refine ⟨rfl, rfl, iff_of_false differs.symm fun all => ?_, fun _ => ⟨decl, declared, rfl⟩⟩
    rw [own] at all
    cases all.1

/-- What construction does with any values for any atom. It succeeds exactly for `Nothing` and no value, and for
values that fill the fields of an atom declared beside the primitives, of which it builds an instance. It finds an
atom unknown exactly if it is not declared. A wrong number is told beside the right one, except where a primitive that
cannot be built is offered the one value that its refusals ask for. A wrong type is that of the first misfit. Where it fails it takes nothing from the supply. -/
theorem construct_outcome (operations : List Operation) (registry : Registry)
    (frozen : (Builder.new.run operations).freeze = .ok registry) (atom : AtomId) (fields : List Value)
    (supply : Supply) :
    (∀ value later, registry.construct atom fields supply = (.ok value, later) ↔
      (atom = AtomId.nothing ∧ fields = [] ∧ value = .nothing ∧ later = supply) ∨
      ∃ decl, registry.atoms.get? atom = some decl ∧ atom.isBuiltin = false ∧ registry.Fills decl.fields fields ∧
        value = .atom ⟨atom, decl.tag, decl.kind, supply.identities, supply.storages⟩ fields ∧
        later = ⟨supply.identities + 1, supply.storages + 1⟩) ∧
    (∀ unknown later, registry.construct atom fields supply = (.error (.unknownAtom unknown), later) ↔
      unknown = atom ∧ registry.atoms.get? atom = none ∧ later = supply) ∧
    (∀ other expected found later,
      registry.construct atom fields supply = (.error (.fieldCountMismatch other expected found), later) →
      other = atom ∧ found = fields.length ∧
      (expected = found ↔ atom.isBuiltin = true ∧ atom ≠ AtomId.nothing ∧ fields.length = 1) ∧
      ((atom.isBuiltin = true → atom = AtomId.nothing) →
        ∃ decl, registry.atoms.get? atom = some decl ∧ expected = decl.fields.length)) ∧
    (∀ other name expected found later,
      registry.construct atom fields supply = (.error (.fieldTypeMismatch other name expected found), later) →
      other = atom ∧ ∃ decl position spec value, registry.atoms.get? atom = some decl ∧
        fields.length = decl.fields.length ∧ registry.FirstMisfit decl.fields fields position spec value ∧
        name = spec.name ∧ expected = spec.type ∧ found = value.typeTag) ∧
    ∀ error later, registry.construct atom fields supply = (.error error, later) →
      later = supply ∧ (error.code = ⟨4002⟩ ∨ error.code = ⟨4003⟩ ∨ error.code = ⟨4012⟩) := by
  refine ⟨fun value later => ?built, fun unknown later => ?unknown,
    fun _ _ _ _ fails => of_fieldCountMismatch frozen fails,
    fun other name expected found later fails => ?unfit,
    fun error later fails => ⟨(construct_eq_error_iff.1 fails).2, ?code⟩⟩
  case built =>
    constructor
    · intro succeeds
      obtain plain | ⟨decl, declared, own, fills, made⟩ := of_construct_eq_ok succeeds
      · exact .inl plain
      · cases made
        exact .inr ⟨decl, declared, own, fills, rfl, rfl⟩
    · intro fitting
      obtain ⟨rfl, rfl, rfl, rfl⟩ | ⟨decl, declared, own, fills, rfl, rfl⟩ := fitting
      · exact construct_nothing (get?_nothing frozen)
      · exact construct_of_fills declared own fills
  case unknown =>
    constructor
    · intro fails
      cases checked_of_error fails with
      | undeclared absent => exact ⟨rfl, absent, (construct_eq_error_iff.1 fails).2⟩
    · intro absent
      obtain ⟨rfl, absent, rfl⟩ := absent
      exact construct_undeclared absent
  case unfit =>
    cases checked_of_error fails with
    | unfit declared _ count first => exact ⟨rfl, _, _, _, _, declared, count, first, rfl, rfl, rfl⟩
  case code =>
    cases checked_of_error fails with
    | undeclared _ => exact .inr (.inr rfl)
    | unfit _ _ _ _ => exact .inr (.inl rfl)
    | _ => exact .inl rfl

theorem construct_outcome_machine :
    (Builder.new.run machineOfParts).freeze = .ok (.ofLoad machineOfParts) ∧
    (Registry.ofLoad machineOfParts).construct ⟨7⟩ [.nothing, .text "two"] .new =
      (.error (.fieldTypeMismatch ⟨7⟩ ⟨17⟩ (.atom AtomId.int) (.atom AtomId.text)), .new) ∧
    ∃ decl position spec value, (Registry.ofLoad machineOfParts).atoms.get? ⟨7⟩ = some decl ∧
      (Registry.ofLoad machineOfParts).FirstMisfit decl.fields [.nothing, .text "two"] position spec value ∧
      spec.name = ⟨17⟩ := by
  have outcome := construct_outcome machineOfParts (.ofLoad machineOfParts) rfl ⟨7⟩ [.nothing, .text "two"] .new
  obtain ⟨-, decl, position, spec, value, declared, -, first, name, -, -⟩ := outcome.2.2.2.1 _ _ _ _ _ rfl
  exact ⟨rfl, rfl, decl, position, spec, value, declared, first, name.symm⟩

/-- One value for an `Int` is refused as one where one is expected. -/
theorem construct_int_of_one :
    (Builder.new.run []).freeze = .ok (.ofLoad []) ∧
    (Registry.ofLoad []).construct AtomId.int [.int 7] .new = (.error (.fieldCountMismatch AtomId.int 1 1), .new) :=
  ⟨rfl, rfl⟩

end Registry

end AtomResolution
