import AtomResolution.Proofs.Freeze.Handout
import AtomResolution.Proofs.Store.Freeze
import AtomResolution.Proofs.Store.Sound

/-!
Operations of the load phase either leave everything as it was or append. What is declared keeps its handle, in
every state that follows and in the registry, and only the imports of a module can grow.
-/

namespace AtomResolution

namespace Table

variable {kind : Kind} {α : Type}

structure Grows (table later : Table kind α) (count : Nat) : Prop where
  kept : table.entries <+: later.entries
  size : later.size = table.size + count

theorem grows_refl (table : Table kind α) : table.Grows table 0 := ⟨List.prefix_rfl, rfl⟩

theorem grows_append (table : Table kind α) (entries : List α) : table.Grows (table.append entries) entries.length :=
  ⟨List.prefix_append _ _, List.length_append⟩

theorem grows_push (table : Table kind α) (entry : α) : table.Grows (table.push entry) 1 :=
  table.grows_append [entry]

theorem get?_of_prefix {table later : Table kind α} (kept : table.entries <+: later.entries) {handle : Handle kind}
    {entry : α} (found : table.get? handle = some entry) : later.get? handle = some entry := by
  obtain ⟨more, grown⟩ := kept
  unfold get? at found ⊢
  rw [← grown, List.getElem?_append_left (List.getElem?_eq_some_iff.1 found).1]
  exact found

end Table

/-- A later catalog holds what an earlier one holds, under the same handles; modules may have more imports. -/
structure Catalog.Continues (catalog later : Catalog) : Prop where
  modules : ∀ id decl, catalog.modules.get? id = some decl →
    ∃ more, later.modules.get? id = some { decl with imports := decl.imports ++ more }
  atoms : catalog.atoms.entries <+: later.atoms.entries
  families : catalog.families.entries <+: later.families.entries
  interfaces : catalog.interfaces.entries <+: later.interfaces.entries
  methods : catalog.methods.entries <+: later.methods.entries
  conversions : catalog.conversions.entries <+: later.conversions.entries

namespace Catalog.Continues

variable {catalog middle later : Catalog}

theorem refl (catalog : Catalog) : catalog.Continues catalog where
  modules _ decl found := ⟨[], by rw [List.append_nil]; exact found⟩
  atoms := List.prefix_rfl
  families := List.prefix_rfl
  interfaces := List.prefix_rfl
  methods := List.prefix_rfl
  conversions := List.prefix_rfl

theorem trans (first : catalog.Continues middle) (second : middle.Continues later) : catalog.Continues later where
  modules id decl found := by
    obtain ⟨gained, between⟩ := first.modules id decl found
    obtain ⟨more, grown⟩ := second.modules id _ between
    exact ⟨gained ++ more, by rw [grown, List.append_assoc]⟩
  atoms := first.atoms.trans second.atoms
  families := first.families.trans second.families
  interfaces := first.interfaces.trans second.interfaces
  methods := first.methods.trans second.methods
  conversions := first.conversions.trans second.conversions

theorem ofMethods {methods : Table .method MethodDecl} (kept : catalog.methods.entries <+: methods.entries) :
    catalog.Continues { catalog with methods := methods } :=
  { refl catalog with methods := kept }

theorem materialiseAll {claims : List (AtomId × InterfaceId)} (made : catalog.materialiseAll claims = .ok later) :
    catalog.Continues later := by
  obtain ⟨added, rfl, -⟩ := Catalog.addsDefault_of_materialiseAll made
  exact ofMethods (List.prefix_append _ _)

end Catalog.Continues

namespace Operation

def adds : Operation → Kind → Nat
  | .declareModule _, .module => 1
  | .declareAtom _ _, .atom => 1
  | .declareAtom _ _, .family => 1
  | .declareFamily _ _ variants, .atom => variants.length
  | .declareFamily _ _ _, .family => 1
  | .declareInterface _ _ _ _, .interface => 1
  | .declareMethod _ _ _ _ _, .method => 1
  | .declareConversion _ _ _ _ _, .conversion => 1
  | _, _ => 0

def handsOut (catalog : Catalog) : Operation → Declared
  | .declareModule _ => .module ⟨catalog.modules.size⟩
  | .importModule _ _ => .nothing
  | .declareAtom _ _ => .atom ⟨catalog.atoms.size⟩
  | .declareFamily _ _ variants =>
    .family ⟨catalog.families.size⟩ ((List.range' catalog.atoms.size variants.length).map Handle.mk)
  | .declareInterface _ _ _ _ => .interface ⟨catalog.interfaces.size⟩
  | .confirm _ _ => .nothing
  | .declareMethod _ _ _ _ _ => .method ⟨catalog.methods.size⟩
  | .declareConversion _ _ _ _ _ => .conversion ⟨catalog.conversions.size⟩

/-- A catalog holds, under the handles that an operation handed out, what the operation was given to declare. -/
inductive Designates (catalog : Catalog) : Operation → Declared → Prop
  | declareModule {name : Name} {id : ModuleId} {imports : List ModuleId}
      (found : catalog.modules.get? id = some ⟨name, imports⟩) :
      Designates catalog (.declareModule name) (.module id)
  | importModule {id imported : ModuleId} {decl : ModuleDecl} (found : catalog.modules.get? id = some decl)
      (seen : imported = id ∨ imported ∈ decl.imports) : Designates catalog (.importModule id imported) .nothing
  | declareAtom {owner : ModuleId} {variant : VariantSpec} {id : AtomId} {family : FamilyId}
      (found : catalog.atoms.get? id = some ⟨owner, variant.tag, variant.kind, family, variant.fields⟩)
      (alone : catalog.families.get? family = some ⟨owner, variant.tag, [id]⟩) :
      Designates catalog (.declareAtom owner variant) (.atom id)
  | declareFamily {owner : ModuleId} {name : Name} {variants : List VariantSpec} {family : FamilyId}
      {ids : List AtomId} (found : catalog.families.get? family = some ⟨owner, name, ids⟩)
      (each : List.Forall₂ (fun id variant =>
        catalog.atoms.get? id = some ⟨owner, variant.tag, variant.kind, family, variant.fields⟩) ids variants) :
      Designates catalog (.declareFamily owner name variants) (.family family ids)
  | declareInterface {owner : ModuleId} {name : Name} {supers : List InterfaceId}
      {requirements : List Requirement} {id : InterfaceId}
      (found : catalog.interfaces.get? id = some ⟨owner, name, supers, requirements⟩) :
      Designates catalog (.declareInterface owner name supers requirements) (.interface id)
  | confirm {atom : AtomId} {interface : InterfaceId} : Designates catalog (.confirm atom interface) .nothing
  | declareMethod {owner : ModuleId} {name : Name} {receiver : TypeTag} {params : List Param} {body : BodyId}
      {id : MethodId} (found : catalog.methods.get? id = some ⟨owner, name, receiver, params, body, .declared⟩) :
      Designates catalog (.declareMethod owner name receiver params body) (.method id)
  | declareConversion {owner : ModuleId} {source target : AtomId} {params : List Param} {body : BodyId}
      {id : ConversionId} (found : catalog.conversions.get? id = some ⟨owner, source, target, params, body⟩) :
      Designates catalog (.declareConversion owner source target params body) (.conversion id)

theorem Designates.mono {catalog later : Catalog} (continues : catalog.Continues later) {operation : Operation}
    {declared : Declared} (designates : operation.Designates catalog declared) :
    operation.Designates later declared := by
  cases designates with
  | declareModule found =>
    obtain ⟨more, grown⟩ := continues.modules _ _ found
    exact .declareModule grown
  | importModule found seen =>
    obtain ⟨more, grown⟩ := continues.modules _ _ found
    exact .importModule grown (seen.imp_right (List.mem_append_left more))
  | declareAtom found alone =>
    exact .declareAtom (Table.get?_of_prefix continues.atoms found) (Table.get?_of_prefix continues.families alone)
  | declareFamily found each =>
    apply Designates.declareFamily (Table.get?_of_prefix continues.families found)
    exact each.imp fun _ _ => Table.get?_of_prefix continues.atoms
  | declareInterface found => exact .declareInterface (Table.get?_of_prefix continues.interfaces found)
  | confirm => exact .confirm
  | declareMethod found => exact .declareMethod (Table.get?_of_prefix continues.methods found)
  | declareConversion found => exact .declareConversion (Table.get?_of_prefix continues.conversions found)

end Operation

namespace Builder

structure Appends (builder : Builder) (operation : Operation) (declared : Declared) (after : Builder) : Prop where
  handsOut : declared = operation.handsOut builder.toCatalog
  modules : ∀ id decl, builder.modules.get? id = some decl → after.modules.get? id = some decl ∨
    ∃ imported, operation = .importModule id imported ∧ imported ≠ id ∧ imported ∉ decl.imports ∧
      after.modules.get? id = some { decl with imports := decl.imports ++ [imported] }
  modulesSize : after.modules.size = builder.modules.size + operation.adds .module
  atoms : builder.atoms.Grows after.atoms (operation.adds .atom)
  families : builder.families.Grows after.families (operation.adds .family)
  interfaces : builder.interfaces.Grows after.interfaces (operation.adds .interface)
  methods : builder.methods.Grows after.methods (operation.adds .method)
  conversions : builder.conversions.Grows after.conversions (operation.adds .conversion)
  confirmed : builder.confirmed <+: after.confirmed

variable {builder after : Builder} {operation : Operation} {declared : Declared}

theorem Appends.continues (appends : builder.Appends operation declared after) : builder.Continues after.toCatalog where
  modules id decl found := by
    rcases appends.modules id decl found with same | ⟨imported, -, -, -, grown⟩
    · exact ⟨[], by rw [List.append_nil]; exact same⟩
    · exact ⟨[imported], grown⟩
  atoms := appends.atoms.kept
  families := appends.families.kept
  interfaces := appends.interfaces.kept
  methods := appends.methods.kept
  conversions := appends.conversions.kept

theorem prefix_addClaims (atom : AtomId) (interfaces : List InterfaceId) (claims : List (AtomId × InterfaceId)) :
    claims <+: interfaces.foldl (addClaim atom) claims := by
  induction interfaces generalizing claims with
  | nil => exact List.prefix_rfl
  | cons interface interfaces ih =>
    have first : claims <+: addClaim atom claims interface := by
      unfold addClaim
      split
      · exact List.prefix_rfl
      · exact List.prefix_append _ _
    exact first.trans (ih _)

theorem grows_atoms_addFamily (builder : Builder) (owner : ModuleId) (name : Name) (variants : List VariantSpec) :
    builder.atoms.Grows (builder.addFamily owner name variants).atoms variants.length := by
  have grows := builder.atoms.grows_append (variants.map fun variant =>
    (⟨owner, variant.tag, variant.kind, builder.families.next, variant.fields⟩ : AtomDecl))
  rw [List.length_map] at grows
  exact grows

theorem Applies.appends (applies : builder.Applies operation declared after) :
    builder.Appends operation declared after := by
  have keptModules (id : ModuleId) (decl : ModuleDecl) (found : builder.modules.get? id = some decl) :
      builder.modules.get? id = some decl ∨ ∃ imported, operation = .importModule id imported ∧ imported ≠ id ∧
        imported ∉ decl.imports ∧ builder.modules.get? id = some { decl with imports := decl.imports ++ [imported] } :=
    .inl found
  cases applies with
  | declareModule free =>
    exact ⟨rfl, fun _ _ found => .inl (Table.get?_push_of_get? found), Table.size_push _ _, Table.grows_refl _,
      Table.grows_refl _, Table.grows_refl _, Table.grows_refl _, Table.grows_refl _, List.prefix_rfl⟩
  | @importModule id imported importing exporting =>
    refine ⟨rfl, ?_, ?_, Table.grows_refl _,
      Table.grows_refl _, Table.grows_refl _, Table.grows_refl _, Table.grows_refl _, List.prefix_rfl⟩
    · intro other decl found
      have changed : (builder.modules.modify id (addImport imported id)).get? other =
          some (if id = other then addImport imported id decl else decl) := by
        rw [Table.get?_modify, found]
        rfl
      by_cases here : id = other
      · subst here
        rw [if_pos rfl] at changed
        rcases addImport_cases imported id decl with ⟨-, same⟩ | ⟨apart, new, grown⟩
        · exact .inl (changed.trans (congrArg some same))
        · exact .inr ⟨imported, rfl, apart, new, changed.trans (congrArg some grown)⟩
      · rw [if_neg here] at changed
        exact .inl changed
    · unfold Table.modify Table.size
      exact List.length_modify _ _ _
  | declareAtom fits =>
    exact ⟨rfl, keptModules, rfl, grows_atoms_addFamily _ _ _ _, Table.grows_push _ _, Table.grows_refl _,
      Table.grows_refl _, Table.grows_refl _, List.prefix_rfl⟩
  | declareFamily fits =>
    exact ⟨rfl, keptModules, rfl, grows_atoms_addFamily _ _ _ _, Table.grows_push _ _, Table.grows_refl _,
      Table.grows_refl _, Table.grows_refl _, List.prefix_rfl⟩
  | declareInterface fits =>
    exact ⟨rfl, keptModules, rfl, Table.grows_refl _, Table.grows_refl _, Table.grows_push _ _,
      Table.grows_refl _, Table.grows_refl _, List.prefix_rfl⟩
  | confirm known present =>
    exact ⟨rfl, keptModules, rfl, Table.grows_refl _, Table.grows_refl _, Table.grows_refl _,
      Table.grows_refl _, Table.grows_refl _, prefix_addClaims _ _ _⟩
  | declareMethod fits =>
    exact ⟨rfl, keptModules, rfl, Table.grows_refl _, Table.grows_refl _, Table.grows_refl _,
      Table.grows_push _ _, Table.grows_refl _, List.prefix_rfl⟩
  | declareConversion fits =>
    exact ⟨rfl, keptModules, rfl, Table.grows_refl _, Table.grows_refl _, Table.grows_refl _,
      Table.grows_refl _, Table.grows_push _ _, List.prefix_rfl⟩

theorem Applies.designates (applies : builder.Applies operation declared after) :
    operation.Designates after.toCatalog declared := by
  cases applies with
  | declareModule free => exact .declareModule (Table.get?_push_next _ _)
  | @importModule id imported importing exporting =>
    obtain ⟨decl, found⟩ := Table.contains_iff.1 importing
    have changed : (builder.modules.modify id (addImport imported id)).get? id = some (addImport imported id decl) := by
      rw [Table.get?_modify, found, Option.map_some, if_pos rfl]
    apply Operation.Designates.importModule changed
    rcases addImport_cases imported id decl with ⟨seen, same⟩ | ⟨-, -, grown⟩
    · rw [same]
      exact seen
    · rw [grown]
      exact .inr (List.mem_append_right _ List.mem_cons_self)
  | declareAtom fits => exact .declareAtom (Table.get?_push_next _ _) (Table.get?_push_next _ _)
  | @declareFamily owner name variants fits =>
    apply Operation.Designates.declareFamily (Table.get?_push_next _ _)
    apply List.forall₂_of_length_eq_of_get
    · rw [List.length_map, List.length_range']
    · intro position _ inside
      apply get?_atoms_addFamily.2
      refine .inr ⟨position, variants[position], ?_, List.getElem?_eq_getElem inside, rfl⟩
      simp
  | declareInterface fits => exact .declareInterface (Table.get?_push_next _ _)
  | confirm known present => exact .confirm
  | declareMethod fits => exact .declareMethod (Table.get?_push_next _ _)
  | declareConversion fits => exact .declareConversion (Table.get?_push_next _ _)

theorem continues_step (builder : Builder) (operation : Operation) :
    builder.Continues (builder.step operation).toCatalog := by
  unfold step
  cases done : builder.apply operation with
  | error _ => exact .refl _
  | ok result => exact (apply_eq_ok_iff.1 done).appends.continues

theorem continues_run (builder : Builder) (operations : List Operation) :
    builder.Continues (builder.run operations).toCatalog := by
  induction operations generalizing builder with
  | nil => exact .refl _
  | cons operation operations ih => exact (builder.continues_step operation).trans (ih _)

theorem continues_freeze {registry : Registry} (frozen : builder.freeze = .ok registry) :
    builder.Continues registry.toCatalog := by
  obtain ⟨catalog, made, rfl⟩ := freeze_eq_ok_iff.1 frozen
  exact .materialiseAll made

end Builder

namespace Store

/-- A store refuses an operation: it stays as it is, its indexes included, and all that comes later goes as if
the operation had not been tried. -/
structure Refuses (store : Store) (operation : Operation) (error : RegistryError) : Prop where
  unchanged : (Loading.perform operation).run store = .error error store
  untried : ∀ later, store.serve (operation :: later) = (.error error :: (store.serve later).1, (store.serve later).2)
  frozen : ∀ later, (store.serve (operation :: later)).2.freeze = (store.serve later).2.freeze

/-- A store that holds a builder accepts an operation: it comes to hold a builder that appends what was
declared, and what is handed out designates that in every later state and in the registry. -/
structure Accepts (store : Store) (builder : Builder) (operation : Operation) (declared : Declared)
    (after : Builder) : Prop where
  answered : ∃ stored, (Loading.perform operation).run store = .ok declared stored ∧
    ∀ later, (stored.serve later).2.Holds (after.run later)
  appends : builder.Appends operation declared after
  designates : ∀ later, operation.Designates (after.run later).toCatalog declared ∧
    ∀ registry, (after.run later).freeze = .ok registry → operation.Designates registry.toCatalog declared

/-- In every state of a load sequence an operation that fails changes nothing, and one that succeeds appends. -/
theorem atomic_of_load (operations : List Operation) (operation : Operation) :
    match (Builder.new.run operations).apply operation with
    | .error error => (new.serve operations).2.Refuses operation error
    | .ok (declared, after) =>
      (new.serve operations).2.Accepts (Builder.new.run operations) operation declared after := by
  have holds := holds_new.serve operations
  have carries := Loading.carries_perform holds.agrees operation
  rw [holds.tables] at carries
  cases done : (Builder.new.run operations).apply operation with
  | error error =>
    rw [done] at carries
    cases carries with
    | failed run =>
      have untried (later : List Operation) : (new.serve operations).2.serve (operation :: later) =
          (.error error :: ((new.serve operations).2.serve later).1, ((new.serve operations).2.serve later).2) := by
        rw [serve, run]
      exact ⟨run, untried, fun later => by rw [untried]⟩
  | ok result =>
    obtain ⟨declared, after⟩ := result
    have applies := Builder.apply_eq_ok_iff.1 done
    rw [done] at carries
    cases carries with
    | done run stored =>
      refine ⟨⟨_, run, stored.serve⟩, applies.appends, ?_⟩
      intro later
      have continues := after.continues_run later
      refine ⟨applies.designates.mono continues, ?_⟩
      intro registry frozen
      exact applies.designates.mono (continues.trans (Builder.continues_freeze frozen))

theorem atomic_of_load_pair :
    (new.serve [.declareModule ⟨10⟩]).2.Refuses
        (.declareFamily ⟨1⟩ ⟨11⟩ [⟨⟨12⟩, .named, []⟩, ⟨⟨12⟩, .anonymous, []⟩]) (.duplicateAtomTag ⟨1⟩ ⟨12⟩) ∧
      ∃ after, (new.serve [.declareModule ⟨10⟩]).2.Accepts (Builder.new.run [.declareModule ⟨10⟩])
        (.declareFamily ⟨1⟩ ⟨11⟩ [⟨⟨12⟩, .named, []⟩, ⟨⟨13⟩, .anonymous, []⟩])
        (.family ⟨5⟩ [⟨5⟩, ⟨6⟩]) after :=
  ⟨atomic_of_load [.declareModule ⟨10⟩] (.declareFamily ⟨1⟩ ⟨11⟩ [⟨⟨12⟩, .named, []⟩, ⟨⟨12⟩, .anonymous, []⟩]),
    _, atomic_of_load [.declareModule ⟨10⟩] (.declareFamily ⟨1⟩ ⟨11⟩ [⟨⟨12⟩, .named, []⟩, ⟨⟨13⟩, .anonymous, []⟩])⟩

end Store

end AtomResolution
