import AtomResolution.Proofs.Store.Freeze
import AtomResolution.Proofs.Store.Sound

/-!
The invariant of the registry as its users see it, in every state of a load sequence and once it is frozen:
the indexes find what a scan of the tables finds, which is at most one entry, and families count their atoms.
-/

namespace AtomResolution

namespace Table

variable {kind : Kind} {α κ : Type} [DecidableEq κ] {table : Table kind α} {key : α → κ} {wanted : κ}

theorem mem_keyed_iff {handle : Handle kind} :
    handle ∈ table.keyed key wanted ↔ ∃ entry, table.get? handle = some entry ∧ key entry = wanted := by
  unfold keyed
  simp only [List.mem_map, List.mem_filter, decide_eq_true_eq, Prod.exists, exists_and_right, exists_eq_right,
    mem_enum]

theorem ascending_filter_enum (test : Handle kind × α → Bool) :
    (table.enum.filter test).Pairwise fun earlier later => earlier.1.raw < later.1.raw :=
  table.enum_ascending.filter test

theorem nodup_keyed : (table.keyed key wanted).Nodup := by
  unfold keyed
  rw [List.Nodup, List.pairwise_map]
  exact (ascending_filter_enum _).imp fun before same => absurd before (by rw [same]; exact Nat.lt_irrefl _)

theorem length_keyed : (table.keyed key wanted).length = table.entries.countP fun entry => key entry = wanted := by
  unfold keyed
  rw [List.length_map, ← List.countP_eq_length_filter, ← map_enum, List.countP_map]
  rfl

end Table

namespace Catalog

variable {catalog : Catalog}

/-- What a catalog of a load sequence keeps, look-ups included. A scan by a key finds the one entry that has
it, and a scan by a name or a source finds all of them in ascending order. -/
structure Consistent (catalog : Catalog) : Prop extends catalog.Sound where
  moduleNamed?_iff : ∀ name id, catalog.moduleNamed? name = some id ↔
    ∃ decl, catalog.modules.get? id = some decl ∧ decl.name = name
  atomNamed?_iff : ∀ owner tag id, catalog.atomNamed? owner tag = some id ↔
    ∃ decl, catalog.atoms.get? id = some decl ∧ decl.owner = owner ∧ decl.tag = tag
  familyNamed?_iff : ∀ owner name id, catalog.familyNamed? owner name = some id ↔
    ∃ decl, catalog.families.get? id = some decl ∧ decl.owner = owner ∧ decl.name = name
  interfaceNamed?_iff : ∀ owner name id, catalog.interfaceNamed? owner name = some id ↔
    ∃ decl, catalog.interfaces.get? id = some decl ∧ decl.owner = owner ∧ decl.name = name
  methodKeyed?_iff : ∀ key id, catalog.methodKeyed? key = some id ↔
    ∃ decl, catalog.methods.get? id = some decl ∧ decl.key = key
  conversionBetween?_iff : ∀ source target id, catalog.conversionBetween? source target = some id ↔
    ∃ decl, catalog.conversions.get? id = some decl ∧ decl.source = source ∧ decl.target = target
  methodsNamed_iff : ∀ name, ((catalog.methodsNamed name).Pairwise fun earlier later => earlier.1.raw < later.1.raw) ∧
    ∀ id decl, (id, decl) ∈ catalog.methodsNamed name ↔ catalog.methods.get? id = some decl ∧ decl.name = name
  conversionsFrom_iff : ∀ source,
    ((catalog.conversionsFrom source).Pairwise fun earlier later => earlier.1.raw < later.1.raw) ∧
    ∀ id decl, (id, decl) ∈ catalog.conversionsFrom source ↔
      catalog.conversions.get? id = some decl ∧ decl.source = source
  listedOnce : ∀ atom decl, catalog.atoms.get? atom = some decl →
    ∀ family familyDecl, catalog.families.get? family = some familyDecl →
      familyDecl.variants.count atom = if family = decl.family then 1 else 0
  familyArity_eq : ∀ atom decl, catalog.atoms.get? atom = some decl →
    catalog.familyArity atom = (catalog.atoms.entries.countP fun other => other.family = decl.family) ∧
      1 ≤ catalog.familyArity atom

theorem Sound.perm_variants (sound : catalog.Sound) {family : FamilyId} {decl : FamilyDecl}
    (found : catalog.families.get? family = some decl) :
    decl.variants.Perm (catalog.atoms.keyed AtomDecl.family family) := by
  obtain ⟨once, own⟩ := sound.variants family decl found
  apply (List.perm_ext_iff_of_nodup once Table.nodup_keyed).2
  intro atom
  rw [Table.mem_keyed_iff]
  constructor
  · exact own atom
  · intro named
    obtain ⟨variant, held, rfl⟩ := named
    obtain ⟨listing, same, inside⟩ := sound.listed atom variant held
    cases found.symm.trans same
    exact inside

theorem Sound.count_variants (sound : catalog.Sound) {atom : AtomId} {decl : AtomDecl}
    (held : catalog.atoms.get? atom = some decl) {family : FamilyId} {familyDecl : FamilyDecl}
    (found : catalog.families.get? family = some familyDecl) :
    familyDecl.variants.count atom = if family = decl.family then 1 else 0 := by
  have listed : atom ∈ familyDecl.variants ↔ family = decl.family := by
    rw [(sound.perm_variants found).mem_iff, Table.mem_keyed_iff, held]
    simp [eq_comm]
  split
  next same => exact List.count_eq_one_of_mem (sound.variants family familyDecl found).1 (listed.2 same)
  next other => exact List.count_eq_zero.2 (mt listed.1 other)

theorem Sound.familyArity_eq (sound : catalog.Sound) {atom : AtomId} {decl : AtomDecl}
    (held : catalog.atoms.get? atom = some decl) :
    catalog.familyArity atom = (catalog.atoms.entries.countP fun other => other.family = decl.family) ∧
      1 ≤ catalog.familyArity atom := by
  obtain ⟨family, found, inside⟩ := sound.listed atom decl held
  have arity : catalog.familyArity atom = family.variants.length := by
    unfold familyArity
    rw [held, Option.bind_some, found]
    rfl
  rw [arity]
  constructor
  · rw [(sound.perm_variants found).length_eq, Table.length_keyed]
  · exact List.length_pos_of_mem inside

theorem Sound.consistent (sound : catalog.Sound) : catalog.Consistent := by
  refine { sound with
    listedOnce := fun atom decl held family familyDecl found => sound.count_variants held found
    familyArity_eq := fun atom decl held => sound.familyArity_eq held
    moduleNamed?_iff := fun name id => sound.modulesDistinct.find?_eq_some_iff
    methodKeyed?_iff := fun key id => sound.methodsDistinct.find?_eq_some_iff
    atomNamed?_iff := fun owner tag id => ?_
    familyNamed?_iff := fun owner name id => ?_
    interfaceNamed?_iff := fun owner name id => ?_
    conversionBetween?_iff := fun source target id => ?_
    methodsNamed_iff := fun name => ⟨Table.ascending_filter_enum _, fun id decl => ?_⟩
    conversionsFrom_iff := fun source => ⟨Table.ascending_filter_enum _, fun id decl => ?_⟩ }
  · rw [atomNamed?_eq, sound.atomsDistinct.find?_eq_some_iff]
    simp only [AtomDecl.key, Prod.mk.injEq]
  · rw [familyNamed?_eq, sound.familiesDistinct.find?_eq_some_iff]
    simp only [FamilyDecl.key, Prod.mk.injEq]
  · rw [interfaceNamed?_eq, sound.interfacesDistinct.find?_eq_some_iff]
    simp only [InterfaceDecl.key, Prod.mk.injEq]
  · rw [conversionBetween?_eq, sound.conversionsDistinct.find?_eq_some_iff]
    simp only [ConversionDecl.key, Prod.mk.injEq]
  · unfold methodsNamed
    rw [List.mem_filter, Table.mem_enum, decide_eq_true_eq]
  · unfold conversionsFrom
    rw [List.mem_filter, Table.mem_enum, decide_eq_true_eq]

end Catalog

namespace Store

variable {store : Store}

/-- A store holds the tables of a catalog, and its indexes find what scans of these tables find. -/
structure Finds (store : Store) (catalog : Catalog) : Prop where
  tables : store.builder.toCatalog = catalog
  moduleNamed : ∀ name, store.modules.index[name]? = catalog.moduleNamed? name
  atomNamed : ∀ owner tag, store.atoms.index[(owner, tag)]? = catalog.atomNamed? owner tag
  familyNamed : ∀ owner name, store.families.index[(owner, name)]? = catalog.familyNamed? owner name
  interfaceNamed : ∀ owner name, store.interfaces.index[(owner, name)]? = catalog.interfaceNamed? owner name
  methodKeyed : ∀ key, store.methods.index[key]? = catalog.methodKeyed? key
  methodsNamed : ∀ name, store.methodsNamed name = catalog.methodsNamed name
  conversionBetween : ∀ source target,
    store.conversions.index[(source, target)]? = catalog.conversionBetween? source target
  conversionsFrom : ∀ source, store.conversionsFrom source = catalog.conversionsFrom source

theorem Agrees.finds (agrees : store.Agrees) : store.Finds store.builder.toCatalog where
  tables := rfl
  moduleNamed name := agrees.modules name
  atomNamed owner tag := by
    rw [Catalog.atomNamed?_eq]
    exact agrees.atoms (owner, tag)
  familyNamed owner name := by
    rw [Catalog.familyNamed?_eq]
    exact agrees.families (owner, name)
  interfaceNamed owner name := by
    rw [Catalog.interfaceNamed?_eq]
    exact agrees.interfaces (owner, name)
  methodKeyed key := agrees.methods key
  methodsNamed name := agrees.methodsNamed_eq name
  conversionBetween source target := by
    rw [Catalog.conversionBetween?_eq]
    exact agrees.conversions (source, target)
  conversionsFrom source := agrees.conversionsFrom_eq source

/-- In every state of a load sequence, and in the registry after freezing, the store finds what scans find and
the tables are consistent. -/
theorem consistent_of_load (operations : List Operation) :
    (new.serve operations).2.Finds (Builder.new.run operations).toCatalog ∧
      (Builder.new.run operations).Consistent ∧
      ∀ registry, (Builder.new.run operations).freeze = .ok registry →
        registry.Consistent ∧
          ∃ frozen, (new.serve operations).2.freeze = .ok frozen ∧ frozen.Finds registry.toCatalog := by
  have holds := holds_new.serve operations
  have sound := Builder.sound_run Builder.sound_new operations
  have finds {store : Store} {catalog : Catalog} (same : store.builder.toCatalog = catalog)
      (agrees : store.Agrees) : store.Finds catalog := by
    subst same
    exact agrees.finds
  refine ⟨finds (congrArg Builder.toCatalog holds.tables) holds.agrees, sound.consistent, ?_⟩
  intro registry made
  refine ⟨(Builder.sound_of_freeze sound made).consistent, ?_⟩
  rcases holds.freeze with ⟨error, failed, -⟩ | ⟨again, frozen, remade, inPlace, later⟩
  · cases made.symm.trans failed
  · cases made.symm.trans remade
    exact ⟨frozen, inPlace, finds later.tables later.agrees⟩

def pairWithDefault : List Operation :=
  [.declareModule ⟨10⟩, .declareModule ⟨10⟩, .importModule ⟨1⟩ ⟨0⟩,
    .declareFamily ⟨1⟩ ⟨11⟩ [⟨⟨12⟩, .named, []⟩, ⟨⟨13⟩, .anonymous, []⟩],
    .declareInterface ⟨1⟩ ⟨20⟩ [] [⟨⟨14⟩, [], some ⟨7⟩⟩], .confirm ⟨6⟩ ⟨0⟩]

theorem consistent_of_load_pair :
    (Builder.new.run pairWithDefault).freeze = .ok (.ofLoad pairWithDefault) ∧
      (Registry.ofLoad pairWithDefault).Consistent ∧ (Registry.ofLoad pairWithDefault).familyArity ⟨6⟩ = 2 ∧
      ∃ frozen, (new.serve pairWithDefault).2.freeze = .ok frozen ∧
        frozen.methodsNamed ⟨14⟩ = [(⟨0⟩, ⟨⟨1⟩, ⟨14⟩, .atom ⟨6⟩, [], ⟨7⟩, .interfaceDefault ⟨0⟩⟩)] := by
  obtain ⟨consistent, frozen, inPlace, finds⟩ := (consistent_of_load pairWithDefault).2.2 _ rfl
  exact ⟨rfl, consistent, rfl, frozen, inPlace, finds.methodsNamed ⟨14⟩⟩

end Store

end AtomResolution
