import AtomResolution.Proofs.Load.Operations
import AtomResolution.Proofs.Load.Supers

/-!
The ledger of a load sequence: the operations that succeeded, each with what it declared. A builder holds
what its ledger says and nothing else, so whatever is computed from a builder can be said of the ledger.
-/

namespace AtomResolution

/-- Operations that succeeded, in their order, each with what it declared. -/
abbrev Ledger := List (Operation × Declared)

def Builder.ledger (builder : Builder) : List Operation → Ledger
  | [] => []
  | operation :: operations =>
    match builder.apply operation with
    | .ok (declared, after) => (operation, declared) :: after.ledger operations
    | .error _ => builder.ledger operations

/-- The builder that a ledger leads to. -/
inductive Ledger.Loads : Ledger → Builder → Prop
  | new : Loads [] Builder.new
  | step {ledger : Ledger} {builder after : Builder} {operation : Operation} {declared : Declared}
      (loads : Loads ledger builder) (applies : builder.Applies operation declared after) :
      Loads (ledger ++ [(operation, declared)]) after

theorem Ledger.Loads.run {ledger : Ledger} {builder : Builder} (loads : ledger.Loads builder)
    (operations : List Operation) : Ledger.Loads (ledger ++ builder.ledger operations) (builder.run operations) := by
  induction operations generalizing ledger builder with
  | nil =>
    rw [Builder.ledger, List.append_nil]
    exact loads
  | cons operation operations ih =>
    change Ledger.Loads _ ((builder.step operation).run operations)
    unfold Builder.ledger Builder.step
    cases done : builder.apply operation with
    | error _ => exact ih loads
    | ok result =>
      have later := ih (loads.step (Builder.apply_eq_ok_iff.1 done))
      rw [List.append_assoc] at later
      exact later

theorem Ledger.Loads.applies_of_mem {ledger : Ledger} {builder : Builder} {operation : Operation}
    {declared : Declared} (loads : ledger.Loads builder) (inside : (operation, declared) ∈ ledger) :
    ∃ before after : Builder, before.Applies operation declared after := by
  induction loads with
  | new => cases inside
  | step _ applies ih =>
    rcases List.mem_append.1 inside with old | new
    · exact ih old
    · cases List.mem_singleton.1 new
      exact ⟨_, _, applies⟩

theorem Builder.loads_ledger (operations : List Operation) :
    (Builder.new.ledger operations).Loads (Builder.new.run operations) :=
  Ledger.Loads.new.run operations

namespace Builder

def Accepts (builder : Builder) (operations : List Operation) : Prop :=
  (builder.ledger operations).map Prod.fst = operations

theorem length_ledger_le (builder : Builder) (operations : List Operation) :
    (builder.ledger operations).length ≤ operations.length := by
  induction operations generalizing builder with
  | nil => exact Nat.le_refl 0
  | cons operation operations ih =>
    rw [ledger]
    cases builder.apply operation with
    | error _ => exact Nat.le_succ_of_le (ih builder)
    | ok result => exact Nat.succ_le_succ (ih result.2)

theorem accepts_cons_iff {builder : Builder} {operation : Operation} {operations : List Operation} :
    builder.Accepts (operation :: operations) ↔
      ∃ declared after, builder.Applies operation declared after ∧ after.Accepts operations := by
  unfold Accepts
  rw [ledger]
  cases applied : builder.apply operation with
  | error error =>
    dsimp only
    constructor
    · intro accepted
      have short := builder.length_ledger_le operations
      have long := congrArg List.length accepted
      rw [List.length_map, List.length_cons] at long
      omega
    · rintro ⟨declared, after, applies, -⟩
      rw [apply_eq_ok_iff.2 applies] at applied
      cases applied
  | ok result =>
    dsimp only
    rw [List.map_cons, List.cons_inj_right]
    constructor
    · intro accepted
      exact ⟨result.1, result.2, apply_eq_ok_iff.1 applied, accepted⟩
    · rintro ⟨declared, after, applies, accepted⟩
      rw [apply_eq_ok_iff.2 applies] at applied
      cases applied
      exact accepted

theorem ledger_of_applies {builder after : Builder} {operation : Operation} {declared : Declared}
    (applies : builder.Applies operation declared after) (operations : List Operation) :
    builder.ledger (operation :: operations) = (operation, declared) :: after.ledger operations := by
  rw [ledger, apply_eq_ok_iff.2 applies]

theorem run_of_applies {builder after : Builder} {operation : Operation} {declared : Declared}
    (applies : builder.Applies operation declared after) (operations : List Operation) :
    builder.run (operation :: operations) = after.run operations := by
  change (builder.step operation).run operations = after.run operations
  unfold step
  rw [apply_eq_ok_iff.2 applies]

theorem Accepts.append {builder : Builder} {first second : List Operation} (accepts : builder.Accepts first)
    (later : (builder.run first).Accepts second) : builder.Accepts (first ++ second) := by
  induction first generalizing builder with
  | nil => exact later
  | cons operation operations ih =>
    obtain ⟨declared, after, applies, accepted⟩ := accepts_cons_iff.1 accepts
    rw [run_of_applies applies] at later
    exact accepts_cons_iff.2 ⟨declared, after, applies, ih accepted later⟩

end Builder

/-- One operation gives an atom its fields. -/
inductive Operation.Shapes : Operation → Declared → AtomId → List FieldSpec → Prop
  | single {owner : ModuleId} {variant : VariantSpec} {atom : AtomId} :
      Shapes (.declareAtom owner variant) (.atom atom) atom variant.fields
  | variant {owner : ModuleId} {name : Name} {variants : List VariantSpec} {family : FamilyId}
      {ids : List AtomId} {position : Nat} {atom : AtomId} {variant : VariantSpec}
      (given : ids[position]? = some atom) (shape : variants[position]? = some variant) :
      Shapes (.declareFamily owner name variants) (.family family ids) atom variant.fields

namespace Ledger

def DeclaresAtom (ledger : Ledger) (atom : AtomId) (fields : List FieldSpec) : Prop :=
  atom.isBuiltin = true ∧ fields = [] ∨
    ∃ operation declared, (operation, declared) ∈ ledger ∧ operation.Shapes declared atom fields

def DeclaresInterface (ledger : Ledger) (interface : InterfaceId) (decl : InterfaceDecl) : Prop :=
  (.declareInterface decl.owner decl.name decl.supers decl.requirements, .interface interface) ∈ ledger

def DeclaresMethod (ledger : Ledger) (decl : MethodDecl) : Prop :=
  decl.origin = .declared ∧
    ∃ id, (.declareMethod decl.owner decl.name decl.receiver decl.params decl.body, .method id) ∈ ledger

/-- An atom is claimed to conform to an interface. -/
def Confirms (ledger : Ledger) (atom : AtomId) (interface : InterfaceId) : Prop :=
  (.confirm atom interface, .nothing) ∈ ledger

instance (ledger : Ledger) (atom : AtomId) (interface : InterfaceId) :
    Decidable (ledger.Confirms atom interface) :=
  inferInstanceAs (Decidable (_ ∈ ledger))

/-- An interface is another one or extends it, directly or through others. -/
def Extends (ledger : Ledger) : InterfaceId → InterfaceId → Prop :=
  Relation.ReflTransGen fun interface super => ∃ decl, ledger.DeclaresInterface interface decl ∧ super ∈ decl.supers

def Requires (ledger : Ledger) (interface : InterfaceId) (requirement : Requirement) : Prop :=
  ∃ decl, ledger.DeclaresInterface interface decl ∧ requirement ∈ decl.requirements

end Ledger

namespace Builder

variable {builder after : Builder} {operation : Operation} {declared : Declared}

theorem getElem?_variantIds {first count position : Nat} {atom : AtomId} :
    ((List.range' first count).map Handle.mk)[position]? = some atom ↔
      position < count ∧ atom = ⟨first + position⟩ := by
  rw [List.getElem?_map, Option.map_eq_some_iff]
  constructor
  · rintro ⟨raw, found, rfl⟩
    obtain ⟨inside, same⟩ := List.getElem?_eq_some_iff.1 found
    rw [List.getElem_range', Nat.one_mul] at same
    exact ⟨by simpa using inside, congrArg Handle.mk same.symm⟩
  · rintro ⟨inside, rfl⟩
    exact ⟨first + position, by rw [List.getElem?_range' inside, Nat.one_mul], rfl⟩

theorem shape?_addFamily {owner : ModuleId} {name : Name} {variants : List VariantSpec} {atom : AtomId}
    {fields : List FieldSpec} :
    (builder.addFamily owner name variants).shape? atom = some fields ↔
      builder.shape? atom = some fields ∨ ∃ position variant, atom = ⟨builder.atoms.size + position⟩ ∧
        variants[position]? = some variant ∧ fields = variant.fields := by
  unfold Catalog.shape? addFamily
  simp only [Option.map_eq_some_iff, Table.get?_append_iff, List.getElem?_map]
  constructor
  · rintro ⟨_, old | ⟨position, same, variant, shape, rfl⟩, rfl⟩
    · exact .inl ⟨_, old, rfl⟩
    · exact .inr ⟨position, variant, same, shape, rfl⟩
  · rintro (⟨decl, old, rfl⟩ | ⟨position, variant, same, shape, rfl⟩)
    · exact ⟨decl, .inl old, rfl⟩
    · exact ⟨_, .inr ⟨position, same, variant, shape, rfl⟩, rfl⟩

theorem Applies.shape?_iff (applies : builder.Applies operation declared after) {atom : AtomId}
    {fields : List FieldSpec} :
    after.shape? atom = some fields ↔
      builder.shape? atom = some fields ∨ operation.Shapes declared atom fields := by
  cases applies with
  | @declareAtom owner variant fits =>
    rw [shape?_addFamily]
    refine or_congr_right ⟨?_, ?_⟩
    · rintro ⟨position, only, rfl, shape, rfl⟩
      cases position with
      | zero =>
        cases shape
        exact .single
      | succ _ => cases shape
    · intro shapes
      cases shapes
      exact ⟨0, variant, rfl, rfl, rfl⟩
  | @declareFamily owner name variants fits =>
    rw [shape?_addFamily]
    refine or_congr_right ⟨?_, ?_⟩
    · rintro ⟨position, variant, rfl, shape, rfl⟩
      have inside := (List.getElem?_eq_some_iff.1 shape).1
      exact .variant (getElem?_variantIds.2 ⟨inside, rfl⟩) shape
    · intro shapes
      cases shapes with
      | @variant _ _ _ _ _ position _ variant given shape =>
        exact ⟨position, variant, (getElem?_variantIds.1 given).2, shape, rfl⟩
  | _ =>
    refine (or_iff_left fun shapes => ?_).symm
    cases shapes

theorem Applies.get?_interfaces_iff (applies : builder.Applies operation declared after)
    {interface : InterfaceId} {decl : InterfaceDecl} :
    after.interfaces.get? interface = some decl ↔
      builder.interfaces.get? interface = some decl ∨
        (operation, declared) =
          (.declareInterface decl.owner decl.name decl.supers decl.requirements, .interface interface) := by
  cases applies with
  | @declareInterface owner name supers requirements fits =>
    rw [Table.get?_push_iff]
    refine or_congr_right ⟨?_, ?_⟩
    · rintro ⟨rfl, rfl⟩
      rfl
    · intro same
      cases same
      exact ⟨rfl, rfl⟩
  | _ => simp [addFamily]

theorem Applies.get?_methods_iff (applies : builder.Applies operation declared after) {id : MethodId}
    {decl : MethodDecl} :
    after.methods.get? id = some decl ↔
      builder.methods.get? id = some decl ∨ decl.origin = .declared ∧ (operation, declared) =
        (.declareMethod decl.owner decl.name decl.receiver decl.params decl.body, .method id) := by
  cases applies with
  | @declareMethod owner name receiver params body fits =>
    rw [Table.get?_push_iff]
    refine or_congr_right ⟨?_, ?_⟩
    · rintro ⟨rfl, rfl⟩
      exact ⟨rfl, rfl⟩
    · rintro ⟨written, same⟩
      cases decl
      cases same
      cases written
      exact ⟨rfl, rfl⟩
  | _ => simp [addFamily]

theorem mem_addClaim {claim : AtomId × InterfaceId} {atom : AtomId} {interface : InterfaceId}
    {claims : List (AtomId × InterfaceId)} :
    claim ∈ addClaim atom claims interface ↔ claim ∈ claims ∨ claim = (atom, interface) := by
  unfold addClaim
  split
  next known =>
    refine (or_iff_left_of_imp ?_).symm
    rintro rfl
    exact List.contains_iff_mem.1 known
  next => rw [List.mem_append, List.mem_singleton]

theorem mem_addClaims {atom other : AtomId} {interfaces : List InterfaceId} {interface : InterfaceId}
    {claims : List (AtomId × InterfaceId)} :
    (other, interface) ∈ interfaces.foldl (addClaim atom) claims ↔
      (other, interface) ∈ claims ∨ other = atom ∧ interface ∈ interfaces := by
  induction interfaces generalizing claims with
  | nil => simp
  | cons first interfaces ih =>
    rw [List.foldl_cons, ih, mem_addClaim, Prod.mk.injEq, List.mem_cons, and_or_left, or_assoc]

/-- What an operation does to the claims: one claim adds those of all interfaces it extends. -/
theorem Applies.mem_confirmed_iff (applies : builder.Applies operation declared after) {atom : AtomId}
    {interface : InterfaceId} :
    (atom, interface) ∈ after.confirmed ↔
      (atom, interface) ∈ builder.confirmed ∨
        ∃ claimed, (operation, declared) = (.confirm atom claimed, .nothing) ∧
          builder.Extends claimed interface := by
  cases applies with
  | @confirm other claimed known present =>
    rw [mem_addClaims, Catalog.mem_withSupers_iff]
    refine or_congr_right ⟨?_, ?_⟩
    · rintro ⟨rfl, reaches⟩
      exact ⟨claimed, rfl, reaches⟩
    · rintro ⟨_, same, reaches⟩
      cases same
      exact ⟨rfl, reaches⟩
  | _ => simp [addFamily]

theorem shape?_new {atom : AtomId} {fields : List FieldSpec} :
    new.shape? atom = some fields ↔ atom.isBuiltin = true ∧ fields = [] := by
  obtain ⟨raw⟩ := atom
  rcases Nat.lt_or_ge raw 5 with primitive | later
  · have bare : new.shape? ⟨raw⟩ = some [] := by
      revert raw
      decide
    rw [bare, Option.some.injEq, eq_comm, and_iff_right]
    exact decide_eq_true (Nat.le_of_lt_succ primitive)
  · have undeclared : new.shape? ⟨raw⟩ = none := by
      unfold Catalog.shape? Table.get?
      rw [List.getElem?_eq_none later]
      rfl
    rw [undeclared]
    refine iff_of_false (fun impossible => nomatch impossible) fun both => ?_
    have small : raw ≤ 4 := of_decide_eq_true both.1
    omega

end Builder

namespace Ledger

variable {ledger : Ledger} {builder : Builder} {atom : AtomId} {interface : InterfaceId}

theorem Loads.shape?_iff (loads : ledger.Loads builder) {fields : List FieldSpec} :
    builder.shape? atom = some fields ↔ ledger.DeclaresAtom atom fields := by
  induction loads with
  | new =>
    rw [Builder.shape?_new]
    exact (or_iff_left fun ⟨_, _, impossible, _⟩ => nomatch impossible).symm
  | step _ applies ih =>
    rw [applies.shape?_iff, ih]
    unfold DeclaresAtom
    rw [or_assoc]
    refine or_congr_right ?_
    simp only [List.mem_append, List.mem_singleton, Prod.mk.injEq]
    grind

theorem Loads.get?_interfaces_iff (loads : ledger.Loads builder) {decl : InterfaceDecl} :
    builder.interfaces.get? interface = some decl ↔ ledger.DeclaresInterface interface decl := by
  induction loads with
  | new => exact iff_of_false (fun impossible => nomatch impossible) fun impossible => nomatch impossible
  | step _ applies ih =>
    rw [applies.get?_interfaces_iff, ih]
    unfold DeclaresInterface
    rw [List.mem_append, List.mem_singleton, eq_comm]

theorem Loads.get?_methods_iff (loads : ledger.Loads builder) {id : MethodId} {decl : MethodDecl} :
    builder.methods.get? id = some decl ↔ decl.origin = .declared ∧
      (.declareMethod decl.owner decl.name decl.receiver decl.params decl.body, .method id) ∈ ledger := by
  induction loads with
  | new => exact iff_of_false (fun impossible => nomatch impossible) fun ⟨_, impossible⟩ => nomatch impossible
  | step _ applies ih =>
    rw [applies.get?_methods_iff, ih, ← and_or_left, List.mem_append, List.mem_singleton]
    exact and_congr_right fun _ => or_congr_right eq_comm

theorem Loads.mem_methods_iff (loads : ledger.Loads builder) {decl : MethodDecl} :
    decl ∈ builder.methods.entries ↔ ledger.DeclaresMethod decl := by
  unfold DeclaresMethod
  simp only [Table.mem_entries_iff, loads.get?_methods_iff, exists_and_left]

theorem Loads.supersBelow (loads : ledger.Loads builder) : builder.SupersBelow := by
  induction loads with
  | new => exact fun _ _ impossible => nomatch impossible
  | @step ledger builder after operation declared _ applies ih =>
    intro interface decl found super above
    rcases applies.get?_interfaces_iff.1 found with old | new
    · exact ih interface decl old super above
    · cases applies with
      | declareInterface fits =>
        cases new
        exact of_decide_eq_true (fits.above super above)
      | _ => cases new

theorem Loads.mem_supersOf_iff (loads : ledger.Loads builder) {super : InterfaceId} :
    super ∈ builder.supersOf interface ↔
      ∃ decl, ledger.DeclaresInterface interface decl ∧ super ∈ decl.supers := by
  simp only [Catalog.mem_supersOf_iff, loads.get?_interfaces_iff]

theorem Loads.extends_iff (loads : ledger.Loads builder) {other : InterfaceId} :
    builder.Extends interface other ↔ ledger.Extends interface other := by
  unfold Catalog.Extends Extends
  simp only [loads.mem_supersOf_iff]

theorem Loads.contains_interfaces_iff (loads : ledger.Loads builder) :
    builder.interfaces.contains interface = true ↔ ∃ decl, ledger.DeclaresInterface interface decl := by
  rw [Table.contains_iff]
  exact exists_congr fun decl => loads.get?_interfaces_iff

theorem Loads.contains_atoms_iff (loads : ledger.Loads builder) :
    builder.atoms.contains atom = true ↔ ∃ fields, ledger.DeclaresAtom atom fields := by
  rw [Table.contains_iff]
  simp only [← loads.shape?_iff, Catalog.shape?, Option.map_eq_some_iff]
  grind

theorem confirms_append_iff {operation : Operation} {declared : Declared} :
    Confirms (ledger ++ [(operation, declared)]) atom interface ↔
      ledger.Confirms atom interface ∨ (operation, declared) = (.confirm atom interface, .nothing) := by
  unfold Confirms
  rw [List.mem_append, List.mem_singleton, eq_comm]

theorem Loads.contains_of_confirms (loads : ledger.Loads builder) (confirms : ledger.Confirms atom interface) :
    builder.interfaces.contains interface = true := by
  induction loads with
  | new => cases confirms
  | step loads applies ih =>
    rcases confirms_append_iff.1 confirms with old | new
    · obtain ⟨decl, found⟩ := Table.contains_iff.1 (ih old)
      exact Table.contains_iff.2 ⟨decl, applies.get?_interfaces_iff.2 (.inl found)⟩
    · cases applies with
      | confirm known present =>
        cases new
        exact present
      | _ => cases new

theorem Loads.declaresAtom_of_confirms (loads : ledger.Loads builder) (confirms : ledger.Confirms atom interface) :
    ∃ fields, ledger.DeclaresAtom atom fields := by
  induction loads with
  | new => cases confirms
  | step loads applies ih =>
    rcases confirms_append_iff.1 confirms with old | new
    · obtain ⟨fields, declares⟩ := ih old
      exact ⟨fields, (loads.step applies).shape?_iff.1 (applies.shape?_iff.2 (.inl (loads.shape?_iff.2 declares)))⟩
    · cases applies with
      | confirm known present =>
        cases new
        exact (loads.step (.confirm known present)).contains_atoms_iff.1 known
      | _ => cases new

/-- The claims of a builder are those of its ledger, each with the claims that come with it. The interfaces
that a claimed one extends are the same at the claim and in the end. -/
theorem Loads.mem_confirmed_iff (loads : ledger.Loads builder) :
    (atom, interface) ∈ builder.confirmed ↔
      ∃ claimed, ledger.Confirms atom claimed ∧ ledger.Extends claimed interface := by
  simp only [← loads.extends_iff]
  induction loads with
  | new => exact iff_of_false (fun impossible => nomatch impossible) fun ⟨_, impossible, _⟩ => nomatch impossible
  | @step ledger builder after operation declared loads applies ih =>
    have kept (claimed : InterfaceId) (present : builder.interfaces.contains claimed = true) :
        after.Extends claimed interface ↔ builder.Extends claimed interface :=
      loads.supersBelow.extends_iff (fun _ _ found => applies.get?_interfaces_iff.2 (.inl found)) present
    rw [applies.mem_confirmed_iff, ih, ← exists_or]
    refine exists_congr fun claimed => ?_
    rw [confirms_append_iff, or_and_right]
    refine or_congr (and_congr_right fun old => ?_) (and_congr_right fun new => ?_)
    · exact (kept claimed (loads.contains_of_confirms old)).symm
    · cases applies with
      | confirm known present =>
        cases new
        exact (kept claimed present).symm
      | _ => cases new

end Ledger

end AtomResolution
