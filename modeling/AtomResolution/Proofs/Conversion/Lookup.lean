import AtomResolution.Proofs.Conversion.Steps
import AtomResolution.Proofs.Store.Freeze
import AtomResolution.Proofs.Store.Sound

/-!
Picking a conversion. The conversions out of an atom that lead to what a pattern accepts stand side by side: one
is picked if it is alone, whether it is found by its key or by the scan. In place the lookup goes through two
indexes and comes to the same.
-/

namespace AtomResolution

namespace Registry

variable {registry : Registry} {source : AtomId} {target : TypeTag}

def destinations (registry : Registry) (source : AtomId) (target : TypeTag) : List AtomId :=
  (registry.conversions.entries.filter fun decl =>
    decl.source = source && registry.accepts target decl.target).map ConversionDecl.target

def pickOnly (source : AtomId) (target : TypeTag) :
    List (ConversionId × ConversionDecl) → Except ConversionError ConversionId
  | [] => .error (.noConversion source target)
  | [(id, _)] => .ok id
  | several => .error (.ambiguousConversion source target (several.map fun (_, decl) => decl.target))

/-- Picking a conversion by the scan alone. -/
def scanConversion (registry : Registry) (source : AtomId) (target : TypeTag) :
    Except ConversionError ConversionId :=
  pickOnly source target (registry.applicable source target)

theorem findConversion_eq (registry : Registry) (source : AtomId) (target : TypeTag) :
    registry.findConversion source target =
      match target.atom?.bind (registry.conversionBetween? source) with
      | some id => .ok id
      | none => registry.scanConversion source target := by
  unfold findConversion scanConversion pickOnly
  rfl

theorem applicable_ascending (registry : Registry) (source : AtomId) (target : TypeTag) :
    (registry.applicable source target).Pairwise fun earlier later => earlier.1.raw < later.1.raw :=
  (registry.conversions.enum_ascending.filter _).filter _

theorem targets_applicable (registry : Registry) (source : AtomId) (target : TypeTag) :
    ((registry.applicable source target).map fun (_, decl) => decl.target) = registry.destinations source target := by
  unfold applicable Catalog.conversionsFrom destinations
  rw [← Table.map_enum, List.filter_map, List.map_map, List.filter_filter]
  simp only [Function.comp_def, Bool.and_comm]

/-- The answer to a lookup, by how many conversions there are to pick from. -/
inductive Chosen (registry : Registry) (source : AtomId) (target : TypeTag) :
    Except ConversionError ConversionId → Prop where
  | missing (nothing : ∀ id, ¬ registry.Converts source target id) :
      Chosen registry source target (.error (.noConversion source target))
  | only {id : ConversionId} (alone : ∀ other, registry.Converts source target other ↔ other = id) :
      Chosen registry source target (.ok id)
  | several {one other : ConversionId} (different : one ≠ other) (first : registry.Converts source target one)
      (second : registry.Converts source target other) :
      Chosen registry source target
        (.error (.ambiguousConversion source target (registry.destinations source target)))

theorem Chosen.unique {outcome again : Except ConversionError ConversionId}
    (chosen : registry.Chosen source target outcome) (rechosen : registry.Chosen source target again) :
    outcome = again := by
  cases chosen with
  | missing nothing =>
    cases rechosen with
    | missing => rfl
    | only alone => exact absurd ((alone _).2 rfl) (nothing _)
    | several _ first => exact absurd first (nothing _)
  | only alone =>
    cases rechosen with
    | missing nothing => exact absurd ((alone _).2 rfl) (nothing _)
    | only same => rw [(same _).1 ((alone _).2 rfl)]
    | several different first second => exact absurd (((alone _).1 first).trans ((alone _).1 second).symm) different
  | several different first second =>
    cases rechosen with
    | missing nothing => exact absurd first (nothing _)
    | only alone => exact absurd (((alone _).1 first).trans ((alone _).1 second).symm) different
    | several => rfl

theorem chosen_scanConversion (registry : Registry) (source : AtomId) (target : TypeTag) :
    registry.Chosen source target (registry.scanConversion source target) := by
  have ascending := applicable_ascending registry source target
  have targets := targets_applicable registry source target
  have converts (id : ConversionId) : registry.Converts source target id ↔
      ∃ decl, (id, decl) ∈ registry.applicable source target := exists_congr fun _ => mem_applicable.symm
  unfold scanConversion
  generalize registry.applicable source target = candidates at ascending targets converts ⊢
  match candidates with
  | [] =>
    refine .missing fun id leads => ?_
    obtain ⟨_, inside⟩ := (converts id).1 leads
    cases inside
  | [(id, decl)] =>
    refine .only fun other => ?_
    rw [converts]
    simp
  | (one, first) :: (other, second) :: rest =>
    have before := (List.pairwise_cons.1 ascending).1 _ List.mem_cons_self
    have different : one ≠ other := fun same => Nat.lt_irrefl _ (same ▸ before)
    have leads := (converts one).2 ⟨first, List.mem_cons_self⟩
    have alsoLeads := (converts other).2 ⟨second, List.mem_cons_of_mem _ List.mem_cons_self⟩
    have several := Chosen.several different leads alsoLeads
    rw [← targets] at several
    exact several

theorem Converts.eq_of_atom {atom : AtomId} {one other : ConversionId}
    (first : registry.Converts source (.atom atom) one) (second : registry.Converts source (.atom atom) other)
    (distinct : registry.conversions.Distinct ConversionDecl.key) : one = other := by
  obtain ⟨decl, held, leaves, accepted⟩ := first
  obtain ⟨otherDecl, alsoHeld, alsoLeaves, alsoAccepted⟩ := second
  have sameKey : decl.key = otherDecl.key := by
    rw [ConversionDecl.key, ConversionDecl.key, leaves, alsoLeaves, ← accepts_atom.1 accepted,
      ← accepts_atom.1 alsoAccepted]
  exact distinct one other decl otherDecl held alsoHeld sameKey

/-- What is found by its key is alone, so the scan would have found it too. -/
theorem chosen_findConversion (distinct : registry.conversions.Distinct ConversionDecl.key) (source : AtomId)
    (target : TypeTag) : registry.Chosen source target (registry.findConversion source target) := by
  rw [findConversion_eq]
  cases exact : target.atom?.bind (registry.conversionBetween? source) with
  | none => exact chosen_scanConversion registry source target
  | some id =>
    obtain ⟨atom, rfl, between⟩ := exact_eq_some_iff.1 exact
    have leads := converts_of_conversionBetween? between
    exact .only fun other => ⟨fun alsoLeads => alsoLeads.eq_of_atom leads distinct, fun same => same ▸ leads⟩

theorem findConversion_eq_iff (distinct : registry.conversions.Distinct ConversionDecl.key)
    {outcome : Except ConversionError ConversionId} :
    registry.findConversion source target = outcome ↔ registry.Chosen source target outcome := by
  constructor
  · rintro rfl
    exact chosen_findConversion distinct source target
  · exact (chosen_findConversion distinct source target).unique

end Registry

def FrozenStore.findConversion (frozen : FrozenStore) (source : AtomId) (target : TypeTag) :
    Except ConversionError ConversionId :=
  match target.atom?.bind fun atom => frozen.conversions.index[(source, atom)]? with
  | some id => .ok id
  | none =>
    Registry.pickOnly source target ((frozen.conversionsFrom source).filter fun (_, decl) =>
      target.acceptsWith (fun atom interface => frozen.satisfied.contains (atom, interface)) (.atom decl.target))

theorem FrozenStore.Holds.findConversion_eq {frozen : FrozenStore} {registry : Registry}
    (holds : frozen.Holds registry) (source : AtomId) (target : TypeTag) :
    frozen.findConversion source target = registry.findConversion source target := by
  have byKey (atom : AtomId) : frozen.conversions.index[(source, atom)]? = registry.conversionBetween? source atom := by
    rw [← holds.tables, Catalog.conversionBetween?_eq]
    exact holds.agrees.conversions (source, atom)
  have listed : frozen.conversionsFrom source = registry.conversionsFrom source := by
    rw [← holds.tables]
    exact holds.agrees.conversionsFrom_eq source
  rw [Registry.findConversion_eq]
  unfold findConversion
  rw [funext byKey, listed, holds.satisfied]
  rfl

namespace Registry

variable {registry : Registry}

theorem distinct_conversions_of_freeze {operations : List Operation}
    (frozen : (Builder.new.run operations).freeze = .ok registry) :
    registry.conversions.Distinct ConversionDecl.key :=
  (Builder.sound_of_freeze (Builder.sound_run Builder.sound_new operations) frozen).conversionsDistinct

/-- A lookup in a frozen registry finds a conversion exactly if it is the only one that leads from the atom to
what the pattern accepts, and fails otherwise, be there none or several; so looking by key first makes no
difference, and neither does looking in place. -/
theorem findConversion_outcome {operations : List Operation}
    (frozen : (Builder.new.run operations).freeze = .ok registry) (source : AtomId) (target : TypeTag) :
    (∀ id, registry.findConversion source target = .ok id ↔
      ∀ other, registry.Converts source target other ↔ other = id) ∧
    (registry.findConversion source target = .error (.noConversion source target) ↔
      ∀ id, ¬ registry.Converts source target id) ∧
    (∀ candidates, registry.findConversion source target =
        .error (.ambiguousConversion source target candidates) ↔
      candidates = registry.destinations source target ∧
        ∃ one other, one ≠ other ∧ registry.Converts source target one ∧ registry.Converts source target other) ∧
    registry.findConversion source target = registry.scanConversion source target ∧
    (∀ atom, target = .atom atom → ∀ leaving asked candidates,
      registry.findConversion source target ≠ .error (.ambiguousConversion leaving asked candidates)) ∧
    ∃ store, (Store.new.serve operations).2.freeze = .ok store ∧
      store.findConversion source target = registry.findConversion source target := by
  have distinct := distinct_conversions_of_freeze frozen
  refine ⟨fun id => ?_, ?_, fun candidates => ?_, ?_, fun atom isAtom leaving asked candidates failed => ?_, ?_⟩
  · rw [findConversion_eq_iff distinct]
    refine ⟨fun chosen => ?_, .only⟩
    cases chosen with
    | only alone => exact alone
  · rw [findConversion_eq_iff distinct]
    refine ⟨fun chosen => ?_, .missing⟩
    cases chosen with
    | missing nothing => exact nothing
  · rw [findConversion_eq_iff distinct]
    constructor
    · intro chosen
      cases chosen with
      | several different first second => exact ⟨rfl, _, _, different, first, second⟩
    · rintro ⟨rfl, one, other, different, first, second⟩
      exact .several different first second
  · exact (findConversion_eq_iff distinct).2 (chosen_scanConversion registry source target)
  · subst isAtom
    rw [findConversion_eq_iff distinct] at failed
    cases failed with
    | several different first second => exact different (first.eq_of_atom second distinct)
  · rcases (Store.holds_new.serve operations).freeze with ⟨error, failed, -⟩ | ⟨again, store, remade, inPlace, holds⟩
    · cases frozen.symm.trans failed
    · cases frozen.symm.trans remade
      exact ⟨store, inPlace, holds.findConversion_eq source target⟩

/-- Integers convert to texts and to truth values, which have the method of an interface, and floats to texts. -/
def printable : List Operation :=
  [.declareModule ⟨10⟩, .declareInterface ⟨1⟩ ⟨11⟩ [] [⟨⟨12⟩, [], none⟩],
    .declareMethod ⟨1⟩ ⟨12⟩ (.atom AtomId.text) [] ⟨0⟩, .declareMethod ⟨1⟩ ⟨12⟩ (.atom AtomId.bool) [] ⟨1⟩,
    .declareConversion ⟨1⟩ AtomId.int AtomId.text [] ⟨2⟩, .declareConversion ⟨1⟩ AtomId.int AtomId.bool [] ⟨3⟩,
    .declareConversion ⟨1⟩ AtomId.float AtomId.text [] ⟨4⟩]

theorem findConversion_outcome_printable :
    (Builder.new.run printable).freeze = .ok (.ofLoad printable) ∧
    (ofLoad printable).findConversion AtomId.int (.interfaces (.single ⟨0⟩)) =
      .error (.ambiguousConversion AtomId.int (.interfaces (.single ⟨0⟩)) [AtomId.text, AtomId.bool]) ∧
    (∃ one other, one ≠ other ∧ (ofLoad printable).Converts AtomId.int (.interfaces (.single ⟨0⟩)) one ∧
      (ofLoad printable).Converts AtomId.int (.interfaces (.single ⟨0⟩)) other) ∧
    (∀ other, (ofLoad printable).Converts AtomId.float (.interfaces (.single ⟨0⟩)) other ↔ other = ⟨2⟩) ∧
    (∀ id, ¬ (ofLoad printable).Converts AtomId.nothing (.interfaces (.single ⟨0⟩)) id) ∧
    ∀ other, (ofLoad printable).Converts AtomId.int (.atom AtomId.text) other ↔ other = ⟨0⟩ := by
  have frozen : (Builder.new.run printable).freeze = .ok (.ofLoad printable) := rfl
  obtain ⟨-, -, ambiguous, -⟩ := findConversion_outcome frozen AtomId.int (.interfaces (.single ⟨0⟩))
  obtain ⟨only, -⟩ := findConversion_outcome frozen AtomId.float (.interfaces (.single ⟨0⟩))
  obtain ⟨-, missing, -⟩ := findConversion_outcome frozen AtomId.nothing (.interfaces (.single ⟨0⟩))
  obtain ⟨exact, -⟩ := findConversion_outcome frozen AtomId.int (.atom AtomId.text)
  exact ⟨frozen, rfl, ((ambiguous _).1 rfl).2, (only ⟨2⟩).1 rfl, missing.1 rfl, (exact ⟨0⟩).1 rfl⟩

end Registry

end AtomResolution
