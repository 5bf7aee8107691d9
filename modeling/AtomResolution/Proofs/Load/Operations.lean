import AtomResolution.Builder.Operation
import AtomResolution.Proofs.Checks

/-!
What one operation of the load phase can do: the checks it passes, what it hands out and the builder it
leaves. Everything about load sequences is proved from this one relation.
-/

namespace AtomResolution

namespace Builder

variable {builder after : Builder} {operation : Operation} {declared : Declared}

def addFamily (builder : Builder) (owner : ModuleId) (name : Name) (variants : List VariantSpec) : Builder :=
  { builder with
    atoms := builder.atoms.append
      (variants.map fun variant => ⟨owner, variant.tag, variant.kind, builder.families.next, variant.fields⟩)
    families := builder.families.push
      ⟨owner, name, (List.range' builder.atoms.size variants.length).map Handle.mk⟩ }

structure FamilyFits (builder : Builder) (owner : ModuleId) (name : Name) (variants : List VariantSpec) :
    Prop where
  owned : builder.modules.contains owner = true
  free : builder.familyNamed? owner name = none
  sound : builder.checkVariants owner [] variants = .ok ()

structure InterfaceFits (builder : Builder) (owner : ModuleId) (name : Name) (supers : List InterfaceId)
    (requirements : List Requirement) : Prop where
  owned : builder.modules.contains owner = true
  above : ∀ super ∈ supers, builder.interfaces.contains super = true
  typed : builder.checkParams (requirements.flatMap Requirement.params) = .ok ()
  free : builder.interfaceNamed? owner name = none

structure MethodFits (builder : Builder) (decl : MethodDecl) : Prop where
  owned : builder.modules.contains decl.owner = true
  received : ∀ interface ∈ decl.receiver.mentioned, builder.interfaces.contains interface = true
  typed : builder.checkParams decl.params = .ok ()
  free : builder.methodKeyed? decl.key = none

structure ConversionFits (builder : Builder) (decl : ConversionDecl) : Prop where
  owned : builder.modules.contains decl.owner = true
  typed : builder.checkParams decl.params = .ok ()
  defaulted : ∀ param ∈ decl.params, param.hasDefault = true
  free : builder.conversionBetween? decl.source decl.target = none

/-- An operation succeeds on a builder, hands out what it declared and leaves another builder. -/
inductive Applies (builder : Builder) : Operation → Declared → Builder → Prop
  | declareModule {name : Name} (free : builder.moduleNamed? name = none) :
      Applies builder (.declareModule name) (.module builder.modules.next)
        { builder with modules := builder.modules.push ⟨name, []⟩ }
  | importModule {id imported : ModuleId} (importing : builder.modules.contains id = true)
      (exporting : builder.modules.contains imported = true) :
      Applies builder (.importModule id imported) .nothing
        { builder with modules := builder.modules.modify id (addImport imported id) }
  | declareAtom {owner : ModuleId} {variant : VariantSpec}
      (fits : builder.FamilyFits owner variant.tag [variant]) :
      Applies builder (.declareAtom owner variant) (.atom builder.atoms.next)
        (builder.addFamily owner variant.tag [variant])
  | declareFamily {owner : ModuleId} {name : Name} {variants : List VariantSpec}
      (fits : builder.FamilyFits owner name variants) :
      Applies builder (.declareFamily owner name variants)
        (.family builder.families.next ((List.range' builder.atoms.size variants.length).map Handle.mk))
        (builder.addFamily owner name variants)
  | declareInterface {owner : ModuleId} {name : Name} {supers : List InterfaceId}
      {requirements : List Requirement} (fits : builder.InterfaceFits owner name supers requirements) :
      Applies builder (.declareInterface owner name supers requirements) (.interface builder.interfaces.next)
        { builder with interfaces := builder.interfaces.push ⟨owner, name, supers, requirements⟩ }
  | confirm {atom : AtomId} {interface : InterfaceId} (known : builder.atoms.contains atom = true)
      (present : builder.interfaces.contains interface = true) :
      Applies builder (.confirm atom interface) .nothing
        { builder with confirmed := (builder.withSupers interface).foldl (addClaim atom) builder.confirmed }
  | declareMethod {owner : ModuleId} {name : Name} {receiver : TypeTag} {params : List Param} {body : BodyId}
      (fits : builder.MethodFits ⟨owner, name, receiver, params, body, .declared⟩) :
      Applies builder (.declareMethod owner name receiver params body) (.method builder.methods.next)
        { builder with methods := builder.methods.push ⟨owner, name, receiver, params, body, .declared⟩ }
  | declareConversion {owner : ModuleId} {source target : AtomId} {params : List Param} {body : BodyId}
      (fits : builder.ConversionFits ⟨owner, source, target, params, body⟩) :
      Applies builder (.declareConversion owner source target params body)
        (.conversion builder.conversions.next)
        { builder with conversions := builder.conversions.push ⟨owner, source, target, params, body⟩ }

theorem checkModule_eq_ok_iff {id : ModuleId} :
    builder.checkModule id = .ok () ↔ builder.modules.contains id = true := by
  unfold checkModule
  split <;> simp_all

theorem checkAtom_eq_ok_iff {id : AtomId} :
    builder.checkAtom id = .ok () ↔ builder.atoms.contains id = true := by
  unfold checkAtom
  split <;> simp_all

theorem checkInterfaces_eq_ok_iff {ids : List InterfaceId} :
    builder.checkInterfaces ids = .ok () ↔ ∀ id ∈ ids, builder.interfaces.contains id = true := by
  unfold checkInterfaces
  split
  next id found =>
    have unknown := List.find?_some found
    refine iff_of_false (fun impossible => nomatch impossible) fun known => ?_
    simp [known id (List.mem_of_find?_eq_some found)] at unknown
  next none =>
    refine iff_of_true rfl fun id inside => ?_
    simpa using List.find?_eq_none.1 none id inside

theorem checkVariants_congr {other : Builder} (sameAtoms : other.atoms = builder.atoms)
    (sameInterfaces : other.interfaces = builder.interfaces) (owner : ModuleId) (earlier : List Name)
    (variants : List VariantSpec) :
    other.checkVariants owner earlier variants = builder.checkVariants owner earlier variants := by
  induction variants generalizing earlier with
  | nil => rfl
  | cons variant variants ih =>
    unfold checkVariants checkInterfaces Catalog.atomNamed?
    rw [sameAtoms, sameInterfaces, ih]

theorem FamilyFits.of_same {owner : ModuleId} {name : Name} {variants : List VariantSpec}
    (fits : builder.FamilyFits owner name variants) (owned : after.modules.contains owner = true)
    (families : after.families = builder.families) (atoms : after.atoms = builder.atoms)
    (interfaces : after.interfaces = builder.interfaces) : after.FamilyFits owner name variants := by
  refine ⟨owned, ?_, (checkVariants_congr atoms interfaces owner [] variants).trans fits.sound⟩
  unfold Catalog.familyNamed?
  rw [families]
  exact fits.free

theorem checkVariants_eq_ok_iff {owner : ModuleId} {earlier : List Name} {variants : List VariantSpec} :
    builder.checkVariants owner earlier variants = .ok () ↔
      (∀ variant ∈ variants, variant.tag ∉ earlier ∧ builder.atomNamed? owner variant.tag = none ∧
        ∀ field ∈ variant.fields, ∀ id ∈ field.type.mentioned, builder.interfaces.contains id = true) ∧
      (variants.map VariantSpec.tag).Nodup := by
  induction variants generalizing earlier with
  | nil => exact iff_of_true rfl ⟨fun _ impossible => (by cases impossible), List.nodup_nil⟩
  | cons variant variants ih =>
    unfold checkVariants
    split
    next taken =>
      refine iff_of_false (fun impossible => nomatch impossible) fun fits => ?_
      obtain ⟨unused, free, -⟩ := fits.1 variant List.mem_cons_self
      rw [free, Option.isSome_none, Bool.or_false] at taken
      exact unused (List.contains_iff_mem.1 taken)
    next free =>
      rw [Bool.or_eq_true, not_or, List.contains_iff_mem, Bool.not_eq_true, Option.isSome_eq_false_iff,
        Option.isNone_iff_eq_none] at free
      have typed : builder.checkInterfaces (variant.fields.flatMap fun field => field.type.mentioned) = .ok () ↔
          ∀ field ∈ variant.fields, ∀ id ∈ field.type.mentioned, builder.interfaces.contains id = true := by
        rw [checkInterfaces_eq_ok_iff, List.forall_mem_flatMap]
      rw [List.forall_mem_cons, List.map_cons, List.nodup_cons]
      constructor
      · intro done
        obtain ⟨_, mentioned, done⟩ := bind_eq_ok_iff.1 done
        obtain ⟨others, apart⟩ := ih.1 done
        refine ⟨⟨⟨free.1, free.2, typed.1 mentioned⟩, fun other inside => ?_⟩, fun repeated => ?_, apart⟩
        · obtain ⟨unused, rest⟩ := others other inside
          exact ⟨fun before => unused (List.mem_cons_of_mem _ before), rest⟩
        · obtain ⟨other, inside, same⟩ := List.mem_map.1 repeated
          exact (others other inside).1 (same ▸ List.mem_cons_self)
      · intro fits
        obtain ⟨⟨⟨-, -, mentioned⟩, others⟩, single, apart⟩ := fits
        refine bind_eq_ok_iff.2 ⟨(), typed.2 mentioned, ih.2 ⟨fun other inside => ?_, apart⟩⟩
        obtain ⟨unused, rest⟩ := others other inside
        refine ⟨fun before => ?_, rest⟩
        rcases List.mem_cons.1 before with same | before
        · exact single (List.mem_map.2 ⟨other, inside, same⟩)
        · exact unused before

theorem declareModule_eq_ok_iff {name : Name} {id : ModuleId} :
    builder.declareModule name = .ok (id, after) ↔
      builder.moduleNamed? name = none ∧ id = builder.modules.next ∧
        after = { builder with modules := builder.modules.push ⟨name, []⟩ } := by
  unfold Builder.declareModule
  cases builder.moduleNamed? name with
  | none => simp [eq_comm]
  | some _ => simp

theorem importModule_eq_ok_iff {id imported : ModuleId} :
    builder.importModule id imported = .ok after ↔
      builder.modules.contains id = true ∧ builder.modules.contains imported = true ∧
        after = { builder with modules := builder.modules.modify id (addImport imported id) } := by
  constructor
  · intro done
    obtain ⟨_, importing, done⟩ := bind_eq_ok_iff.1 done
    obtain ⟨_, exporting, done⟩ := bind_eq_ok_iff.1 done
    cases done
    exact ⟨checkModule_eq_ok_iff.1 importing, checkModule_eq_ok_iff.1 exporting, rfl⟩
  · rintro ⟨importing, exporting, rfl⟩
    unfold Builder.importModule
    rw [checkModule_eq_ok_iff.2 importing, checkModule_eq_ok_iff.2 exporting]
    rfl

theorem declareFamily_eq_ok_iff {owner : ModuleId} {name : Name} {variants : List VariantSpec}
    {handles : FamilyId × List AtomId} :
    builder.declareFamily owner name variants = .ok (handles, after) ↔
      builder.FamilyFits owner name variants ∧
        handles = (builder.families.next, (List.range' builder.atoms.size variants.length).map Handle.mk) ∧
        after = builder.addFamily owner name variants := by
  constructor
  · intro done
    unfold Builder.declareFamily at done
    obtain ⟨_, owned, done⟩ := bind_eq_ok_iff.1 done
    dsimp only at done
    split at done
    · cases done
    next free =>
      obtain ⟨_, sound, done⟩ := bind_eq_ok_iff.1 done
      cases done
      exact ⟨⟨checkModule_eq_ok_iff.1 owned, by simpa using free, sound⟩, rfl, rfl⟩
  · rintro ⟨⟨owned, free, sound⟩, rfl, rfl⟩
    unfold Builder.declareFamily
    rw [checkModule_eq_ok_iff.2 owned, free, sound]
    rfl

theorem declareAtom_eq_ok_iff {owner : ModuleId} {variant : VariantSpec} {id : AtomId} :
    builder.declareAtom owner variant = .ok (id, after) ↔
      builder.FamilyFits owner variant.tag [variant] ∧ id = builder.atoms.next ∧
        after = builder.addFamily owner variant.tag [variant] := by
  constructor
  · intro done
    obtain ⟨⟨handles, middle⟩, done, same⟩ := bind_eq_ok_iff.1 done
    cases same
    obtain ⟨fits, -, rfl⟩ := declareFamily_eq_ok_iff.1 done
    exact ⟨fits, rfl, rfl⟩
  · rintro ⟨fits, rfl, rfl⟩
    exact bind_eq_ok_iff.2 ⟨_, declareFamily_eq_ok_iff.2 ⟨fits, rfl, rfl⟩, rfl⟩

theorem declareInterface_eq_ok_iff {owner : ModuleId} {name : Name} {supers : List InterfaceId}
    {requirements : List Requirement} {id : InterfaceId} :
    builder.declareInterface owner name supers requirements = .ok (id, after) ↔
      builder.InterfaceFits owner name supers requirements ∧ id = builder.interfaces.next ∧
        after = { builder with
          interfaces := builder.interfaces.push ⟨owner, name, supers, requirements⟩ } := by
  constructor
  · intro done
    unfold Builder.declareInterface at done
    obtain ⟨_, owned, done⟩ := bind_eq_ok_iff.1 done
    obtain ⟨_, above, done⟩ := bind_eq_ok_iff.1 done
    obtain ⟨_, typed, done⟩ := bind_eq_ok_iff.1 done
    dsimp only at done
    split at done
    · cases done
    next free =>
      cases done
      exact ⟨⟨checkModule_eq_ok_iff.1 owned, checkInterfaces_eq_ok_iff.1 above, typed,
        by simpa using free⟩, rfl, rfl⟩
  · rintro ⟨⟨owned, above, typed, free⟩, rfl, rfl⟩
    unfold Builder.declareInterface
    rw [checkModule_eq_ok_iff.2 owned, checkInterfaces_eq_ok_iff.2 above, typed, free]
    rfl

theorem confirm_eq_ok_iff {atom : AtomId} {interface : InterfaceId} :
    builder.confirm atom interface = .ok after ↔
      builder.atoms.contains atom = true ∧ builder.interfaces.contains interface = true ∧
        after = { builder with
          confirmed := (builder.withSupers interface).foldl (addClaim atom) builder.confirmed } := by
  constructor
  · intro done
    obtain ⟨_, known, done⟩ := bind_eq_ok_iff.1 done
    obtain ⟨_, present, done⟩ := bind_eq_ok_iff.1 done
    cases done
    exact ⟨checkAtom_eq_ok_iff.1 known, checkInterfaces_eq_ok_iff.1 present interface List.mem_cons_self, rfl⟩
  · rintro ⟨known, present, rfl⟩
    have alone : builder.checkInterfaces [interface] = .ok () :=
      checkInterfaces_eq_ok_iff.2 (List.forall_mem_singleton.2 present)
    unfold Builder.confirm
    rw [checkAtom_eq_ok_iff.2 known, alone]
    rfl

theorem declareMethod_eq_ok_iff {owner : ModuleId} {name : Name} {receiver : TypeTag} {params : List Param}
    {body : BodyId} {id : MethodId} :
    builder.declareMethod owner name receiver params body = .ok (id, after) ↔
      builder.MethodFits ⟨owner, name, receiver, params, body, .declared⟩ ∧ id = builder.methods.next ∧
        after = { builder with
          methods := builder.methods.push ⟨owner, name, receiver, params, body, .declared⟩ } := by
  constructor
  · intro done
    unfold Builder.declareMethod at done
    obtain ⟨_, owned, done⟩ := bind_eq_ok_iff.1 done
    obtain ⟨_, received, done⟩ := bind_eq_ok_iff.1 done
    obtain ⟨_, typed, done⟩ := bind_eq_ok_iff.1 done
    dsimp only at done
    split at done
    · cases done
    next free =>
      cases done
      exact ⟨⟨checkModule_eq_ok_iff.1 owned, checkInterfaces_eq_ok_iff.1 received, typed,
        by simpa using free⟩, rfl, rfl⟩
  · rintro ⟨⟨owned, received, typed, free⟩, rfl, rfl⟩
    unfold Builder.declareMethod
    rw [checkModule_eq_ok_iff.2 owned, checkInterfaces_eq_ok_iff.2 received, typed]
    dsimp only
    rw [free]
    rfl

theorem declareConversion_eq_ok_iff {owner : ModuleId} {source target : AtomId} {params : List Param}
    {body : BodyId} {id : ConversionId} :
    builder.declareConversion owner source target params body = .ok (id, after) ↔
      builder.ConversionFits ⟨owner, source, target, params, body⟩ ∧ id = builder.conversions.next ∧
        after = { builder with
          conversions := builder.conversions.push ⟨owner, source, target, params, body⟩ } := by
  constructor
  · intro done
    unfold Builder.declareConversion at done
    obtain ⟨_, owned, done⟩ := bind_eq_ok_iff.1 done
    obtain ⟨_, typed, done⟩ := bind_eq_ok_iff.1 done
    dsimp only at done
    cases missing : params.find? fun param => !param.hasDefault with
    | some _ =>
      rw [missing] at done
      cases done
    | none =>
      rw [missing] at done
      dsimp only at done
      split at done
      · cases done
      next free =>
        cases done
        have defaulted : ∀ param ∈ params, param.hasDefault = true := fun param inside => by
          simpa using List.find?_eq_none.1 missing param inside
        exact ⟨⟨checkModule_eq_ok_iff.1 owned, typed, defaulted, by simpa using free⟩, rfl, rfl⟩
  · rintro ⟨⟨owned, typed, defaulted, free⟩, rfl, rfl⟩
    have noneMissing : params.find? (fun param => !param.hasDefault) = none :=
      List.find?_eq_none.2 fun param inside => by simp [defaulted param inside]
    unfold Builder.declareConversion
    rw [checkModule_eq_ok_iff.2 owned, typed]
    dsimp only
    rw [noneMissing, free]
    rfl

/-- An operation does what the relation says and nothing else. -/
theorem apply_eq_ok_iff : builder.apply operation = .ok (declared, after) ↔
    builder.Applies operation declared after := by
  constructor
  · intro applied
    cases operation with
    | declareModule name =>
      obtain ⟨⟨_, _⟩, done, same⟩ := bind_eq_ok_iff.1 applied
      cases same
      obtain ⟨free, rfl, rfl⟩ := declareModule_eq_ok_iff.1 done
      exact .declareModule free
    | importModule id imported =>
      obtain ⟨_, done, same⟩ := bind_eq_ok_iff.1 applied
      cases same
      obtain ⟨importing, exporting, rfl⟩ := importModule_eq_ok_iff.1 done
      exact .importModule importing exporting
    | declareAtom owner variant =>
      obtain ⟨⟨_, _⟩, done, same⟩ := bind_eq_ok_iff.1 applied
      cases same
      obtain ⟨fits, rfl, rfl⟩ := declareAtom_eq_ok_iff.1 done
      exact .declareAtom fits
    | declareFamily owner name variants =>
      obtain ⟨⟨⟨_, _⟩, _⟩, done, same⟩ := bind_eq_ok_iff.1 applied
      cases same
      obtain ⟨fits, same, rfl⟩ := declareFamily_eq_ok_iff.1 done
      cases same
      exact .declareFamily fits
    | declareInterface owner name supers requirements =>
      obtain ⟨⟨_, _⟩, done, same⟩ := bind_eq_ok_iff.1 applied
      cases same
      obtain ⟨fits, rfl, rfl⟩ := declareInterface_eq_ok_iff.1 done
      exact .declareInterface fits
    | confirm atom interface =>
      obtain ⟨_, done, same⟩ := bind_eq_ok_iff.1 applied
      cases same
      obtain ⟨known, present, rfl⟩ := confirm_eq_ok_iff.1 done
      exact .confirm known present
    | declareMethod owner name receiver params body =>
      obtain ⟨⟨_, _⟩, done, same⟩ := bind_eq_ok_iff.1 applied
      cases same
      obtain ⟨fits, rfl, rfl⟩ := declareMethod_eq_ok_iff.1 done
      exact .declareMethod fits
    | declareConversion owner source target params body =>
      obtain ⟨⟨_, _⟩, done, same⟩ := bind_eq_ok_iff.1 applied
      cases same
      obtain ⟨fits, rfl, rfl⟩ := declareConversion_eq_ok_iff.1 done
      exact .declareConversion fits
  · intro applies
    cases applies with
    | declareModule free => exact bind_eq_ok_iff.2 ⟨_, declareModule_eq_ok_iff.2 ⟨free, rfl, rfl⟩, rfl⟩
    | importModule importing exporting =>
      exact bind_eq_ok_iff.2 ⟨_, importModule_eq_ok_iff.2 ⟨importing, exporting, rfl⟩, rfl⟩
    | declareAtom fits => exact bind_eq_ok_iff.2 ⟨_, declareAtom_eq_ok_iff.2 ⟨fits, rfl, rfl⟩, rfl⟩
    | declareFamily fits => exact bind_eq_ok_iff.2 ⟨_, declareFamily_eq_ok_iff.2 ⟨fits, rfl, rfl⟩, rfl⟩
    | declareInterface fits =>
      exact bind_eq_ok_iff.2 ⟨_, declareInterface_eq_ok_iff.2 ⟨fits, rfl, rfl⟩, rfl⟩
    | confirm known present => exact bind_eq_ok_iff.2 ⟨_, confirm_eq_ok_iff.2 ⟨known, present, rfl⟩, rfl⟩
    | declareMethod fits => exact bind_eq_ok_iff.2 ⟨_, declareMethod_eq_ok_iff.2 ⟨fits, rfl, rfl⟩, rfl⟩
    | declareConversion fits =>
      exact bind_eq_ok_iff.2 ⟨_, declareConversion_eq_ok_iff.2 ⟨fits, rfl, rfl⟩, rfl⟩

theorem addImport_cases (imported self : ModuleId) (decl : ModuleDecl) :
    (imported = self ∨ imported ∈ decl.imports) ∧ addImport imported self decl = decl ∨
      imported ≠ self ∧ imported ∉ decl.imports ∧
        addImport imported self decl = { decl with imports := decl.imports ++ [imported] } := by
  unfold addImport
  split
  next seen => exact .inl ⟨seen.imp_right List.contains_iff_mem.1, rfl⟩
  next new =>
    rw [not_or, List.contains_iff_mem] at new
    exact .inr ⟨new.1, new.2, rfl⟩

theorem name_addImport (imported self : ModuleId) (decl : ModuleDecl) :
    (addImport imported self decl).name = decl.name := by
  rcases addImport_cases imported self decl with ⟨-, same⟩ | ⟨-, -, grown⟩
  · rw [same]
  · rw [grown]

/-- The builder that a load sequence starts from is reached by declaring the primitive atoms one after another,
each as a family of its own. What holds before and is kept by every such step holds of it. -/
theorem builtins_induction {σ : Type} {related : σ → Builder → Prop} {next : σ → Name → σ} {start : σ}
    (bare : related start { new with atoms := .empty, families := .empty })
    (primitive : ∀ {state : σ} {builder : Builder} (tag : Name), related state builder →
      builder.FamilyFits ModuleId.builtins tag [⟨tag, .named, []⟩] →
      related (next state tag) (builder.addFamily ModuleId.builtins tag [⟨tag, .named, []⟩])) :
    related (builtinTags.foldl next start) new := by
  have int := primitive Name.int bare ⟨rfl, rfl, rfl⟩
  have float := primitive Name.float int ⟨rfl, rfl, rfl⟩
  have bool := primitive Name.bool float ⟨rfl, rfl, rfl⟩
  have text := primitive Name.text bool ⟨rfl, rfl, rfl⟩
  exact primitive Name.nothing text ⟨rfl, rfl, rfl⟩

end Builder

end AtomResolution
