import AtomResolution.Proofs.Freeze.Outcome
import AtomResolution.Proofs.Store.Index

/-!
The invariant of a catalog: keys are unique, atoms and families list each other, and whatever a declaration
mentions is declared. Every way in which a table can grow keeps it.
-/

namespace AtomResolution

namespace Table

variable {kind : Kind} {α κ : Type} {table : Table kind α} {key : α → κ}

def Distinct (table : Table kind α) (key : α → κ) : Prop :=
  ∀ one other first second, table.get? one = some first → table.get? other = some second →
    key first = key second → one = other

def All (table : Table kind α) (property : Handle kind → α → Prop) : Prop :=
  ∀ handle entry, table.get? handle = some entry → property handle entry

theorem distinct_empty : (empty : Table kind α).Distinct key := by
  intro _ _ _ _ found
  cases found

theorem all_empty {property : Handle kind → α → Prop} : (empty : Table kind α).All property := by
  intro _ _ found
  cases found

theorem find?_eq_none_iff {test : α → Bool} :
    table.find? test = none ↔ table.All fun _ entry => test entry = false := by
  unfold find? All
  rw [Option.map_eq_none_iff, List.findIdx?_eq_none_iff]
  constructor
  · intro absent handle entry found
    exact absent entry (mem_entries_iff.2 ⟨handle, found⟩)
  · intro absent entry inside
    obtain ⟨handle, found⟩ := mem_entries_iff.1 inside
    exact absent handle entry found

theorem free_iff [DecidableEq κ] {wanted : κ} :
    (table.find? fun entry => key entry = wanted) = none ↔ table.All fun _ entry => key entry ≠ wanted := by
  rw [find?_eq_none_iff]
  unfold All
  simp only [decide_eq_false_iff_not, ne_eq]

theorem Distinct.find?_eq_some_iff [DecidableEq κ] (distinct : table.Distinct key) {wanted : κ} {handle : Handle kind} :
    (table.find? fun entry => key entry = wanted) = some handle ↔
      ∃ entry, table.get? handle = some entry ∧ key entry = wanted := by
  constructor
  · intro found
    obtain ⟨entry, here, same⟩ := get?_of_find? found
    exact ⟨entry, here, of_decide_eq_true same⟩
  · intro held
    obtain ⟨entry, here, same⟩ := held
    cases found : table.find? fun entry => key entry = wanted with
    | none => exact absurd same (free_iff.1 found handle entry here)
    | some first =>
      obtain ⟨other, there, sameKey⟩ := get?_of_find? found
      exact congrArg some (distinct _ _ _ _ there here ((of_decide_eq_true sameKey).trans same.symm))

theorem Distinct.append [DecidableEq κ] (distinct : table.Distinct key) {entries : List α}
    (free : ∀ entry ∈ entries, (table.find? fun other => key other = key entry) = none)
    (apart : (entries.map key).Nodup) : (table.append entries).Distinct key := by
  intro one other first second found again same
  rcases get?_append_iff.1 found with old | ⟨position, rfl, new⟩
  · rcases get?_append_iff.1 again with alsoOld | ⟨position, rfl, new⟩
    · exact distinct one other first second old alsoOld same
    · exact absurd same (free_iff.1 (free second (List.mem_of_getElem? new)) one first old)
  · rcases get?_append_iff.1 again with old | ⟨place, rfl, alsoNew⟩
    · exact absurd same.symm (free_iff.1 (free first (List.mem_of_getElem? new)) other second old)
    · have mapped : (entries.map key)[position]? = (entries.map key)[place]? := by
        rw [List.getElem?_map, List.getElem?_map, new, alsoNew, Option.map_some, Option.map_some, same]
      have inside := (List.getElem?_eq_some_iff.1 new).1
      rw [(List.getElem?_inj (by rw [List.length_map]; exact inside) apart).1 mapped]

theorem Distinct.push [DecidableEq κ] (distinct : table.Distinct key) {entry : α}
    (free : (table.find? fun other => key other = key entry) = none) : (table.push entry).Distinct key :=
  distinct.append (List.forall_mem_singleton.2 free) (List.nodup_singleton _)

theorem All.push {property : Handle kind → α → Prop} (all : table.All property) {entry : α}
    (new : property table.next entry) : (table.push entry).All property := by
  intro handle other found
  rcases get?_push_iff.1 found with old | ⟨rfl, rfl⟩
  · exact all handle other old
  · exact new

theorem All.mono {property weaker : Handle kind → α → Prop} (all : table.All property)
    (implies : ∀ handle entry, property handle entry → weaker handle entry) : table.All weaker :=
  fun handle entry found => implies handle entry (all handle entry found)

theorem contains_push {handle : Handle kind} (known : table.contains handle = true) (entry : α) :
    (table.push entry).contains handle = true := by
  obtain ⟨held, found⟩ := contains_iff.1 known
  exact contains_iff.2 ⟨held, get?_push_of_get? found⟩

theorem contains_modify (table : Table kind α) (handle other : Handle kind) (change : α → α) :
    (table.modify handle change).contains other = table.contains other := by
  unfold contains size modify
  rw [List.length_modify]

theorem get?_modify_iff {handle other : Handle kind} {change : α → α} {entry : α} :
    (table.modify handle change).get? other = some entry ↔
      ∃ before, table.get? other = some before ∧ entry = if handle = other then change before else before := by
  rw [get?_modify, Option.map_eq_some_iff]
  exact exists_congr fun before => and_congr_right fun _ => eq_comm

theorem Distinct.modify (distinct : table.Distinct key) (handle : Handle kind) {change : α → α}
    (sameKey : ∀ entry, key (change entry) = key entry) : (table.modify handle change).Distinct key := by
  have unchanged (other : Handle kind) (entry : α) :
      key (if handle = other then change entry else entry) = key entry := by
    split
    · exact sameKey entry
    · rfl
  intro one other first second found again same
  obtain ⟨earlier, held, rfl⟩ := get?_modify_iff.1 found
  obtain ⟨later, alsoHeld, rfl⟩ := get?_modify_iff.1 again
  rw [unchanged, unchanged] at same
  exact distinct one other earlier later held alsoHeld same

end Table

def Param.mentionedBy (params : List Param) : List InterfaceId :=
  params.flatMap fun param => param.pattern.mentioned

def AtomDecl.mentioned (decl : AtomDecl) : List InterfaceId :=
  decl.fields.flatMap fun field => field.type.mentioned

def InterfaceDecl.mentioned (decl : InterfaceDecl) : List InterfaceId :=
  decl.supers ++ Param.mentionedBy (decl.requirements.flatMap Requirement.params)

def MethodOrigin.mentioned : MethodOrigin → List InterfaceId
  | .declared => []
  | .interfaceDefault interface => [interface]

def MethodDecl.mentioned (decl : MethodDecl) : List InterfaceId :=
  decl.receiver.mentioned ++ Param.mentionedBy decl.params ++ decl.origin.mentioned

def ConversionDecl.mentioned (decl : ConversionDecl) : List InterfaceId :=
  Param.mentionedBy decl.params

namespace Catalog

def Declares (catalog : Catalog) (owner : ModuleId) (interfaces : List InterfaceId) : Prop :=
  catalog.modules.contains owner = true ∧ ∀ id ∈ interfaces, catalog.interfaces.contains id = true

/-- What every catalog of a load sequence keeps. -/
structure Sound (catalog : Catalog) : Prop where
  modulesDistinct : catalog.modules.Distinct ModuleDecl.name
  atomsDistinct : catalog.atoms.Distinct AtomDecl.key
  familiesDistinct : catalog.families.Distinct FamilyDecl.key
  interfacesDistinct : catalog.interfaces.Distinct InterfaceDecl.key
  methodsDistinct : catalog.methods.Distinct MethodDecl.key
  conversionsDistinct : catalog.conversions.Distinct ConversionDecl.key
  listed : catalog.atoms.All fun atom decl =>
    ∃ family, catalog.families.get? decl.family = some family ∧ atom ∈ family.variants
  variants : catalog.families.All fun family decl =>
    decl.variants.Nodup ∧ ∀ atom ∈ decl.variants, ∃ variant, catalog.atoms.get? atom = some variant ∧
      variant.family = family
  imports : catalog.modules.All fun id decl =>
    decl.imports.Nodup ∧ id ∉ decl.imports ∧ ∀ imported ∈ decl.imports, catalog.modules.contains imported = true
  atomsDeclared : catalog.atoms.All fun _ decl => catalog.Declares decl.owner decl.mentioned
  familiesDeclared : catalog.families.All fun _ decl => catalog.Declares decl.owner []
  interfacesDeclared : catalog.interfaces.All fun _ decl => catalog.Declares decl.owner decl.mentioned
  methodsDeclared : catalog.methods.All fun _ decl => catalog.Declares decl.owner decl.mentioned
  conversionsDeclared : catalog.conversions.All fun _ decl => catalog.Declares decl.owner decl.mentioned

variable {catalog later : Catalog}

theorem Declares.mono {owner : ModuleId} {interfaces : List InterfaceId} (declares : catalog.Declares owner interfaces)
    (modules : ∀ id, catalog.modules.contains id = true → later.modules.contains id = true)
    (more : ∀ id, catalog.interfaces.contains id = true → later.interfaces.contains id = true) :
    later.Declares owner interfaces :=
  ⟨modules owner declares.1, fun id inside => more id (declares.2 id inside)⟩

theorem Sound.withModules (sound : catalog.Sound) {modules : Table .module ModuleDecl}
    (kept : ∀ id, catalog.modules.contains id = true → modules.contains id = true)
    (distinct : modules.Distinct ModuleDecl.name)
    (imports : modules.All fun id decl =>
      decl.imports.Nodup ∧ id ∉ decl.imports ∧ ∀ imported ∈ decl.imports, modules.contains imported = true) :
    ({ catalog with modules := modules } : Catalog).Sound :=
  have still {owner : ModuleId} {interfaces : List InterfaceId} (declares : catalog.Declares owner interfaces) :
      ({ catalog with modules := modules } : Catalog).Declares owner interfaces :=
    declares.mono kept fun _ known => known
  { sound with
    modulesDistinct := distinct
    imports := imports
    atomsDeclared := sound.atomsDeclared.mono fun _ _ => still
    familiesDeclared := sound.familiesDeclared.mono fun _ _ => still
    interfacesDeclared := sound.interfacesDeclared.mono fun _ _ => still
    methodsDeclared := sound.methodsDeclared.mono fun _ _ => still
    conversionsDeclared := sound.conversionsDeclared.mono fun _ _ => still }

theorem Sound.pushModule (sound : catalog.Sound) {name : Name} (free : catalog.moduleNamed? name = none) :
    ({ catalog with modules := catalog.modules.push ⟨name, []⟩ } : Catalog).Sound := by
  have kept (id : ModuleId) (known : catalog.modules.contains id = true) :
      (catalog.modules.push ⟨name, []⟩).contains id = true := Table.contains_push known _
  apply sound.withModules kept (sound.modulesDistinct.push free)
  intro id decl found
  rcases Table.get?_push_iff.1 found with old | ⟨rfl, rfl⟩
  · obtain ⟨once, apart, known⟩ := sound.imports id decl old
    exact ⟨once, apart, fun imported inside => kept imported (known imported inside)⟩
  · exact ⟨List.nodup_nil, List.not_mem_nil, List.forall_mem_nil _⟩

theorem Sound.addImport (sound : catalog.Sound) {id imported : ModuleId}
    (exporting : catalog.modules.contains imported = true) :
    ({ catalog with modules := catalog.modules.modify id (Builder.addImport imported id) } : Catalog).Sound := by
  have kept (other : ModuleId) (known : catalog.modules.contains other = true) :
      (catalog.modules.modify id (Builder.addImport imported id)).contains other = true := by
    rw [Table.contains_modify]
    exact known
  apply sound.withModules kept (sound.modulesDistinct.modify id (Builder.name_addImport imported id))
  intro other decl found
  simp only [Table.contains_modify]
  obtain ⟨before, held, rfl⟩ := Table.get?_modify_iff.1 found
  obtain ⟨once, apart, known⟩ := sound.imports other before held
  split
  next same =>
    subst same
    rcases Builder.addImport_cases imported id before with ⟨-, same⟩ | ⟨other, new, grown⟩
    · rw [same]
      exact ⟨once, apart, known⟩
    · rw [grown]
      refine ⟨?_, ?_, ?_⟩
      · rw [List.nodup_append_comm]
        exact List.nodup_cons.2 ⟨new, once⟩
      · rw [List.mem_append, List.mem_singleton, not_or]
        exact ⟨apart, other.symm⟩
      · rw [List.forall_mem_append]
        exact ⟨known, List.forall_mem_singleton.2 exporting⟩
  next => exact ⟨once, apart, known⟩

theorem Sound.pushMethod (sound : catalog.Sound) {decl : MethodDecl} (free : catalog.methodKeyed? decl.key = none)
    (declares : catalog.Declares decl.owner decl.mentioned) :
    ({ catalog with methods := catalog.methods.push decl } : Catalog).Sound :=
  { sound with
    methodsDistinct := sound.methodsDistinct.push free
    methodsDeclared := sound.methodsDeclared.push declares }

theorem Sound.pushConversion (sound : catalog.Sound) {decl : ConversionDecl}
    (free : catalog.conversionBetween? decl.source decl.target = none)
    (declares : catalog.Declares decl.owner decl.mentioned) :
    ({ catalog with conversions := catalog.conversions.push decl } : Catalog).Sound :=
  { sound with
    conversionsDistinct := sound.conversionsDistinct.push ((conversionBetween?_eq _ _ _).symm.trans free)
    conversionsDeclared := sound.conversionsDeclared.push declares }

theorem Sound.pushInterface (sound : catalog.Sound) {decl : InterfaceDecl}
    (free : catalog.interfaceNamed? decl.owner decl.name = none)
    (declares : catalog.Declares decl.owner decl.mentioned) :
    ({ catalog with interfaces := catalog.interfaces.push decl } : Catalog).Sound :=
  have still {owner : ModuleId} {interfaces : List InterfaceId} (declares : catalog.Declares owner interfaces) :
      ({ catalog with interfaces := catalog.interfaces.push decl } : Catalog).Declares owner interfaces :=
    declares.mono (fun _ known => known) fun _ known => Table.contains_push known decl
  { sound with
    interfacesDistinct := sound.interfacesDistinct.push ((interfaceNamed?_eq _ _ _).symm.trans free)
    atomsDeclared := sound.atomsDeclared.mono fun _ _ => still
    familiesDeclared := sound.familiesDeclared.mono fun _ _ => still
    interfacesDeclared := (sound.interfacesDeclared.mono fun _ _ => still).push (still declares)
    methodsDeclared := sound.methodsDeclared.mono fun _ _ => still
    conversionsDeclared := sound.conversionsDeclared.mono fun _ _ => still }

end Catalog

namespace Builder

variable {builder after : Builder}

theorem mem_variantIds {first count : Nat} {atom : AtomId} :
    atom ∈ (List.range' first count).map Handle.mk ↔ ∃ position < count, atom = ⟨first + position⟩ := by
  rw [List.mem_iff_getElem?]
  exact exists_congr fun position => getElem?_variantIds

theorem nodup_variantIds (first count : Nat) :
    ((List.range' first count).map fun raw => (⟨raw⟩ : AtomId)).Nodup :=
  List.Nodup.map (fun _ _ same => congrArg Handle.raw same) List.nodup_range'

theorem get?_atoms_addFamily {owner : ModuleId} {name : Name} {variants : List VariantSpec} {atom : AtomId}
    {decl : AtomDecl} :
    (builder.addFamily owner name variants).atoms.get? atom = some decl ↔
      builder.atoms.get? atom = some decl ∨ ∃ position variant, atom = ⟨builder.atoms.size + position⟩ ∧
        variants[position]? = some variant ∧
        decl = ⟨owner, variant.tag, variant.kind, builder.families.next, variant.fields⟩ := by
  unfold addFamily
  simp only [Table.get?_append_iff, List.getElem?_map, Option.map_eq_some_iff, exists_and_left, @eq_comm _ decl]

theorem sound_addFamily (sound : builder.Sound) {owner : ModuleId} {name : Name} {variants : List VariantSpec}
    (fits : builder.FamilyFits owner name variants) : (builder.addFamily owner name variants).Sound := by
  obtain ⟨others, apart⟩ := checkVariants_eq_ok_iff.1 fits.sound
  let shape (variant : VariantSpec) : AtomDecl :=
    ⟨owner, variant.tag, variant.kind, builder.families.next, variant.fields⟩
  have atomsDistinct : (builder.atoms.append (variants.map shape)).Distinct AtomDecl.key := by
    apply sound.atomsDistinct.append
    · intro decl inside
      obtain ⟨variant, given, rfl⟩ := List.mem_map.1 inside
      exact (Catalog.atomNamed?_eq _ owner variant.tag).symm.trans (others variant given).2.1
    · have keys : (variants.map shape).map AtomDecl.key = (variants.map VariantSpec.tag).map (Prod.mk owner) := by
        rw [List.map_map, List.map_map]
        rfl
      rw [keys]
      exact apart.map fun _ _ same => congrArg Prod.snd same
  refine { sound with
    atomsDistinct := atomsDistinct
    familiesDistinct := sound.familiesDistinct.push ((Catalog.familyNamed?_eq _ owner name).symm.trans fits.free)
    listed := ?_
    variants := ?_
    atomsDeclared := ?_
    familiesDeclared := sound.familiesDeclared.push ⟨fits.owned, List.forall_mem_nil _⟩ }
  · intro atom decl found
    rcases get?_atoms_addFamily.1 found with old | ⟨position, variant, rfl, given, rfl⟩
    · obtain ⟨family, held, inside⟩ := sound.listed atom decl old
      exact ⟨family, Table.get?_push_of_get? held, inside⟩
    · have inside := (List.getElem?_eq_some_iff.1 given).1
      exact ⟨_, Table.get?_push_next _ _, mem_variantIds.2 ⟨position, inside, rfl⟩⟩
  · intro family decl found
    rcases Table.get?_push_iff.1 found with old | ⟨rfl, rfl⟩
    · obtain ⟨once, own⟩ := sound.variants family decl old
      refine ⟨once, ?_⟩
      intro atom inside
      obtain ⟨variant, held, same⟩ := own atom inside
      exact ⟨variant, get?_atoms_addFamily.2 (.inl held), same⟩
    · refine ⟨nodup_variantIds _ _, ?_⟩
      intro atom inside
      obtain ⟨position, bound, rfl⟩ := mem_variantIds.1 inside
      exact ⟨_, get?_atoms_addFamily.2 (.inr ⟨position, _, rfl, List.getElem?_eq_getElem bound, rfl⟩), rfl⟩
  · intro atom decl found
    rcases get?_atoms_addFamily.1 found with old | ⟨position, variant, rfl, given, rfl⟩
    · exact sound.atomsDeclared atom decl old
    · have mentions := (others variant (List.mem_of_getElem? given)).2.2
      exact ⟨fits.owned, List.forall_mem_flatMap.2 mentions⟩

theorem sound_new : new.Sound := by
  have bare : (⟨.empty, .empty, .empty, .empty, .empty, .empty⟩ : Catalog).Sound :=
    ⟨Table.distinct_empty, Table.distinct_empty, Table.distinct_empty, Table.distinct_empty,
      Table.distinct_empty, Table.distinct_empty, Table.all_empty, Table.all_empty, Table.all_empty,
      Table.all_empty, Table.all_empty, Table.all_empty, Table.all_empty, Table.all_empty⟩
  apply @builtins_induction Unit (fun _ builder => builder.Sound) (fun _ _ => ()) ()
  · exact bare.pushModule rfl
  · intro _ builder tag sound fits
    exact sound_addFamily sound fits

theorem Applies.sound {operation : Operation} {declared : Declared}
    (applies : builder.Applies operation declared after) (sound : builder.Sound) : after.Sound := by
  have typed {params : List Param} (checked : builder.checkParams params = .ok ()) :
      ∀ id ∈ Param.mentionedBy params, builder.interfaces.contains id = true :=
    checkInterfaces_eq_ok_iff.1 checked
  cases applies with
  | declareModule free => exact sound.pushModule free
  | importModule _ exporting => exact sound.addImport exporting
  | declareAtom fits => exact sound_addFamily sound fits
  | declareFamily fits => exact sound_addFamily sound fits
  | declareInterface fits =>
    exact sound.pushInterface fits.free ⟨fits.owned, List.forall_mem_append.2 ⟨fits.above, typed fits.typed⟩⟩
  | confirm => exact sound
  | declareMethod fits =>
    have matched := List.forall_mem_append.2 ⟨fits.received, typed fits.typed⟩
    exact sound.pushMethod fits.free ⟨fits.owned, List.forall_mem_append.2 ⟨matched, List.forall_mem_nil _⟩⟩
  | declareConversion fits => exact sound.pushConversion fits.free ⟨fits.owned, typed fits.typed⟩

theorem sound_step (sound : builder.Sound) (operation : Operation) : (builder.step operation).Sound := by
  unfold step
  cases done : builder.apply operation with
  | error _ => exact sound
  | ok result => exact (apply_eq_ok_iff.1 done).sound sound

/-- Every builder that a load sequence leads to is sound, whichever of its operations fail. -/
theorem sound_run (sound : builder.Sound) (operations : List Operation) : (builder.run operations).Sound := by
  induction operations generalizing builder with
  | nil => exact sound
  | cons operation operations ih => exact ih (sound_step sound operation)

end Builder

namespace Catalog

variable {catalog after : Catalog}

theorem declares_addMethod {decl : MethodDecl} {owner : ModuleId} {interfaces : List InterfaceId} :
    (catalog.addMethod decl).Declares owner interfaces ↔ catalog.Declares owner interfaces := by
  unfold addMethod
  split <;> exact Iff.rfl

theorem Sound.addMethods (sound : catalog.Sound) {decls : List MethodDecl}
    (declares : ∀ decl ∈ decls, catalog.Declares decl.owner decl.mentioned) :
    (decls.foldl addMethod catalog).Sound := by
  induction decls generalizing catalog with
  | nil => exact sound
  | cons decl decls ih =>
    have first : (catalog.addMethod decl).Sound := by
      unfold addMethod
      split
      next => exact sound
      next free => exact sound.pushMethod (by simpa using free) (declares decl List.mem_cons_self)
    apply ih first
    intro other inside
    exact declares_addMethod.2 (declares other (List.mem_cons_of_mem _ inside))

theorem Sound.declares_defaultsFor (sound : catalog.Sound) {atom : AtomId} {interface : InterfaceId}
    {decl : InterfaceDecl} (found : catalog.interfaces.get? interface = some decl) {method : MethodDecl}
    (inside : method ∈ catalog.defaultsFor atom interface decl) :
    catalog.Declares method.owner method.mentioned := by
  obtain ⟨requirement, asked, -, body, -, rfl⟩ := mem_defaultsFor_iff.1 inside
  obtain ⟨owned, mentioned⟩ := sound.interfacesDeclared interface decl found
  have matched : ∀ id ∈ TypeTag.mentioned (.atom atom) ++ Param.mentionedBy requirement.params,
      catalog.interfaces.contains id = true := by
    intro id within
    obtain ⟨param, given, mentions⟩ := List.mem_flatMap.1 within
    have required : param ∈ decl.requirements.flatMap Requirement.params :=
      List.mem_flatMap.2 ⟨requirement, asked, given⟩
    exact mentioned id (List.mem_append_right _ (List.mem_flatMap.2 ⟨param, required, mentions⟩))
  have origin : catalog.interfaces.contains interface = true := Table.contains_iff.2 ⟨decl, found⟩
  exact ⟨owned, List.forall_mem_append.2 ⟨matched, List.forall_mem_singleton.2 origin⟩⟩

theorem Sound.materialise (sound : catalog.Sound) {atom : AtomId} {interface : InterfaceId}
    (made : catalog.materialise atom interface = .ok after) : after.Sound := by
  unfold Catalog.materialise at made
  split at made
  next =>
    cases made
    exact sound
  next decl found =>
    split at made
    next => cases made
    next =>
      cases made
      exact sound.addMethods fun _ inside => sound.declares_defaultsFor found inside

theorem Sound.materialiseAll (sound : catalog.Sound) {claims : List (AtomId × InterfaceId)}
    (made : catalog.materialiseAll claims = .ok after) : after.Sound := by
  induction claims generalizing catalog with
  | nil =>
    cases made
    exact sound
  | cons claim claims ih =>
    obtain ⟨middle, first, rest⟩ := bind_eq_ok_iff.1 made
    exact ih (sound.materialise first) rest

end Catalog

theorem Builder.sound_of_freeze {builder : Builder} {registry : Registry} (sound : builder.Sound)
    (frozen : builder.freeze = .ok registry) : registry.Sound := by
  obtain ⟨catalog, made, rfl⟩ := Builder.freeze_eq_ok_iff.1 frozen
  exact sound.materialiseAll made

end AtomResolution
