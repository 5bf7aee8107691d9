import AtomResolution.Proofs.Load.Ledger

/-!
Load sequences in which methods and imports come in another order. Methods and imports change nothing but the
table of methods and the imports of modules, and no other operation looks at these; so with them erased,
builders do not depend on where methods and imports stand.
-/

namespace AtomResolution

namespace Operation

def isMethod : Operation → Bool
  | .declareMethod .. => true
  | _ => false

def isImport : Operation → Bool
  | .importModule .. => true
  | _ => false

def isConversion : Operation → Bool
  | .declareConversion .. => true
  | _ => false

def method? : Operation → Option MethodDecl
  | .declareMethod owner name receiver params body => some ⟨owner, name, receiver, params, body, .declared⟩
  | _ => none

end Operation

namespace Builder

variable {builder after : Builder} {operation : Operation} {declared : Declared} {operations : List Operation}
  {erase other : Builder → Builder} {loose otherLoose : Operation → Bool} {calling owner : ModuleId}

/-- Loose operations change only what is erased, and no other operation looks at that. -/
structure Erases (erase : Builder → Builder) (loose : Operation → Bool) : Prop where
  initial : erase new = new
  dropped {builder after : Builder} {operation : Operation} {declared : Declared}
    (applies : builder.Applies operation declared after) (isLoose : loose operation = true) :
    erase after = erase builder
  kept {builder after : Builder} {operation : Operation} {declared : Declared}
    (applies : builder.Applies operation declared after) (isFirm : loose operation = false) :
    (erase builder).Applies operation declared (erase after)

theorem Erases.run (erases : Erases erase loose) (accepts : builder.Accepts operations) :
    erase (builder.run operations) =
      (erase builder).run (operations.filter fun operation => !loose operation) := by
  induction operations generalizing builder with
  | nil => rfl
  | cons operation operations ih =>
    obtain ⟨declared, after, applies, accepted⟩ := accepts_cons_iff.1 accepts
    rw [run_of_applies applies, ih accepted]
    cases kind : loose operation with
    | true => rw [List.filter_cons_of_neg (by simp [kind]), erases.dropped applies kind]
    | false => rw [List.filter_cons_of_pos (by simp [kind]), run_of_applies (erases.kept applies kind)]

theorem Erases.ledger (erases : Erases erase loose) (accepts : builder.Accepts operations) :
    ((builder.ledger operations).filter fun entry => !loose entry.1) =
      (erase builder).ledger (operations.filter fun operation => !loose operation) := by
  induction operations generalizing builder with
  | nil => rfl
  | cons operation operations ih =>
    obtain ⟨declared, after, applies, accepted⟩ := accepts_cons_iff.1 accepts
    rw [ledger_of_applies applies]
    cases kind : loose operation with
    | true =>
      rw [List.filter_cons_of_neg (by simp [kind]), List.filter_cons_of_neg (by simp [kind]), ih accepted,
        erases.dropped applies kind]
    | false =>
      rw [List.filter_cons_of_pos (by simp [kind]), List.filter_cons_of_pos (by simp [kind]), ih accepted,
        ledger_of_applies (erases.kept applies kind)]

theorem Erases.accepts (erases : Erases erase loose) (accepts : builder.Accepts operations) :
    (erase builder).Accepts (operations.filter fun operation => !loose operation) := by
  have filtered := congrArg (List.filter fun operation => !loose operation) accepts
  rw [List.filter_map] at filtered
  unfold Accepts
  rw [← erases.ledger accepts]
  exact filtered

theorem Erases.comp (outer : Erases other otherLoose) (inner : Erases erase loose) :
    Erases (other ∘ erase) fun operation => loose operation || otherLoose operation where
  initial := (congrArg other inner.initial).trans outer.initial
  dropped {_ _ operation _} applies isLoose := by
    cases kind : loose operation with
    | true => exact congrArg other (inner.dropped applies kind)
    | false =>
      rw [kind, Bool.false_or] at isLoose
      exact outer.dropped (inner.kept applies kind) isLoose
  kept applies isFirm := by
    obtain ⟨innerFirm, outerFirm⟩ := Bool.or_eq_false_iff.1 isFirm
    exact outer.kept (inner.kept applies innerFirm) outerFirm

def withoutMethods (builder : Builder) : Builder := { builder with methods := .empty }

def withoutImports (builder : Builder) : Builder :=
  { builder with modules := ⟨builder.modules.entries.map fun decl => ⟨decl.name, []⟩⟩ }

theorem Applies.withTables (applies : builder.Applies operation declared after)
    (noMethod : operation.isMethod = false) (noConversion : operation.isConversion = false)
    (methods : Table .method MethodDecl) (conversions : Table .conversion ConversionDecl) :
    ({ builder with methods := methods, conversions := conversions } : Builder).Applies operation declared
      { after with methods := methods, conversions := conversions } := by
  have family {owner : ModuleId} {name : Name} {variants : List VariantSpec}
      (fits : builder.FamilyFits owner name variants) :
      ({ builder with methods := methods, conversions := conversions } : Builder).FamilyFits owner name variants :=
    fits.of_same fits.owned rfl rfl rfl
  cases applies with
  | declareModule free => exact .declareModule free
  | importModule importing exporting => exact .importModule importing exporting
  | declareAtom fits => exact .declareAtom (family fits)
  | declareFamily fits => exact .declareFamily (family fits)
  | declareInterface fits => exact .declareInterface ⟨fits.owned, fits.above, fits.typed, fits.free⟩
  | @confirm atom interface known present =>
    have applies : ({ builder with methods := methods, conversions := conversions } : Builder).Applies
        (.confirm atom interface) .nothing _ := .confirm known present
    have supers : ({ builder.toCatalog with methods := methods, conversions := conversions } : Catalog).withSupers
        interface = builder.withSupers interface := Catalog.withSupers_congr rfl
    rw [supers] at applies
    exact applies
  | declareMethod _ => cases noMethod
  | declareConversion _ => cases noConversion

theorem erases_methods : Erases withoutMethods Operation.isMethod where
  initial := rfl
  dropped applies isLoose := by
    cases applies with
    | declareMethod fits => rfl
    | _ => cases isLoose
  kept {builder after operation declared} applies isFirm := by
    cases conversion : operation.isConversion with
    | true =>
      cases applies with
      | declareConversion fits => exact .declareConversion ⟨fits.owned, fits.typed, fits.defaulted, fits.free⟩
      | _ => cases conversion
    | false =>
      have same : after.conversions = builder.conversions := by
        cases applies with
        | declareConversion _ => cases conversion
        | _ => rfl
      unfold withoutMethods
      rw [same]
      exact applies.withTables isFirm conversion .empty builder.conversions

theorem withoutImports_modify (builder : Builder) (id imported : ModuleId) :
    withoutImports { builder with modules := builder.modules.modify id (addImport imported id) } =
      builder.withoutImports := by
  have named := name_addImport imported id
  have same : (builder.modules.entries.modify id.raw (addImport imported id)).map
        (fun decl => (⟨decl.name, []⟩ : ModuleDecl)) =
      builder.modules.entries.map fun decl => ⟨decl.name, []⟩ := by
    apply List.ext_getElem?
    intro position
    rw [List.getElem?_map, List.getElem?_map, List.getElem?_modify]
    cases builder.modules.entries[position]? with
    | none => rfl
    | some decl =>
      by_cases here : id.raw = position
      · simp [here, named]
      · simp [here]
  unfold withoutImports Table.modify
  rw [same]

theorem erases_imports : Erases withoutImports Operation.isImport where
  initial := rfl
  dropped {builder _ _ _} applies isLoose := by
    cases applies with
    | importModule _ _ => exact builder.withoutImports_modify _ _
    | _ => cases isLoose
  kept {builder _ _ _} applies isFirm := by
    have present {id : ModuleId} (known : builder.modules.contains id = true) :
        builder.withoutImports.modules.contains id = true := by
      unfold Table.contains Table.size withoutImports
      rw [List.length_map]
      exact known
    have family {owner : ModuleId} {name : Name} {variants : List VariantSpec}
        (fits : builder.FamilyFits owner name variants) : builder.withoutImports.FamilyFits owner name variants :=
      fits.of_same (present fits.owned) rfl rfl rfl
    cases applies with
    | @declareModule name free =>
      have next : builder.withoutImports.modules.next = builder.modules.next :=
        congrArg Handle.mk (List.length_map _)
      have freeThere : builder.withoutImports.moduleNamed? name = none := by
        unfold Catalog.moduleNamed? Table.find? withoutImports
        rw [List.findIdx?_map]
        exact free
      have applies := Applies.declareModule freeThere
      unfold withoutImports Table.push at applies ⊢
      rw [List.map_append, ← next]
      exact applies
    | importModule importing exporting => cases isFirm
    | declareAtom fits => exact .declareAtom (family fits)
    | declareFamily fits => exact .declareFamily (family fits)
    | declareInterface fits => exact .declareInterface ⟨present fits.owned, fits.above, fits.typed, fits.free⟩
    | @confirm atom interface known present =>
      have applies : builder.withoutImports.Applies (.confirm atom interface) .nothing _ := .confirm known present
      have supers : builder.withoutImports.withSupers interface = builder.withSupers interface :=
        Catalog.withSupers_congr rfl
      rw [supers] at applies
      exact applies
    | declareMethod fits => exact .declareMethod ⟨present fits.owned, fits.received, fits.typed, fits.free⟩
    | declareConversion fits =>
      exact .declareConversion ⟨present fits.owned, fits.typed, fits.defaulted, fits.free⟩

theorem Applies.methods_eq (applies : builder.Applies operation declared after) :
    after.methods.entries = builder.methods.entries ++ operation.method?.toList := by
  cases applies with
  | declareMethod _ => rfl
  | _ => exact (List.append_nil _).symm

/-- The methods of a run are those that its operations declare, one after another. -/
theorem methods_run (accepts : builder.Accepts operations) :
    (builder.run operations).methods.entries =
      builder.methods.entries ++ operations.filterMap Operation.method? := by
  induction operations generalizing builder with
  | nil => exact (List.append_nil _).symm
  | cons operation operations ih =>
    obtain ⟨declared, after, applies, accepted⟩ := accepts_cons_iff.1 accepts
    rw [run_of_applies applies, ih accepted, applies.methods_eq, List.append_assoc, List.filterMap_cons]
    cases operation.method? <;> rfl

theorem mem_scope_iff : owner ∈ builder.scope calling ↔
    owner = calling ∨ ∃ decl, builder.modules.get? calling = some decl ∧ owner ∈ decl.imports := by
  unfold Catalog.scope
  rw [List.mem_cons]
  cases builder.modules.get? calling with
  | none => simp
  | some decl => simp

theorem mem_addImport {imported : ModuleId} {decl : ModuleDecl} :
    owner = calling ∨ owner ∈ (addImport imported calling decl).imports ↔
      (owner = calling ∨ owner ∈ decl.imports) ∨ owner = imported := by
  unfold addImport
  split
  next known =>
    refine (or_iff_left_of_imp ?_).symm
    rintro rfl
    exact known.imp_right List.contains_iff_mem.1
  next => rw [List.mem_append, List.mem_singleton, or_assoc]

theorem Applies.mem_scope_iff (applies : builder.Applies operation declared after) :
    owner ∈ after.scope calling ↔ owner ∈ builder.scope calling ∨ operation = .importModule calling owner := by
  cases applies with
  | @declareModule name free =>
    rw [Builder.mem_scope_iff, Builder.mem_scope_iff]
    simp [Table.get?_push_iff, or_and_right, exists_or]
  | @importModule id imported importing exporting =>
    rw [Builder.mem_scope_iff, Builder.mem_scope_iff]
    dsimp only
    rw [Table.get?_modify]
    by_cases here : id = calling
    · subst here
      obtain ⟨decl, found⟩ := Table.contains_iff.1 importing
      simp [found, mem_addImport, eq_comm]
    · simp [here]
  | _ => exact (or_iff_left fun impossible => by cases impossible).symm

theorem mem_scope_run (accepts : builder.Accepts operations) :
    owner ∈ (builder.run operations).scope calling ↔
      owner ∈ builder.scope calling ∨ .importModule calling owner ∈ operations := by
  induction operations generalizing builder with
  | nil => exact (or_iff_left fun impossible => by cases impossible).symm
  | cons operation operations ih =>
    obtain ⟨declared, after, applies, accepted⟩ := accepts_cons_iff.1 accepts
    rw [run_of_applies applies, ih accepted, applies.mem_scope_iff, List.mem_cons, or_assoc, eq_comm]

/-- Two load sequences that succeed have the same operations, and all but the methods and imports stand in the
same order. -/
structure MethodsReordered (first second : List Operation) : Prop where
  firstAccepted : new.Accepts first
  secondAccepted : new.Accepts second
  permuted : first.Perm second
  sameOthers : (first.filter fun operation => !(operation.isMethod || operation.isImport)) =
    second.filter fun operation => !(operation.isMethod || operation.isImport)

end Builder

structure Catalog.Rearranges (catalog other : Catalog) : Prop where
  atoms : catalog.atoms = other.atoms
  families : catalog.families = other.families
  interfaces : catalog.interfaces = other.interfaces
  conversions : catalog.conversions = other.conversions
  methods : catalog.methods.entries.Perm other.methods.entries

namespace Builder.MethodsReordered

variable {first second : List Operation} (reordered : MethodsReordered first second)

include reordered

theorem erased_eq :
    (new.run first).withoutMethods.withoutImports = (new.run second).withoutMethods.withoutImports := by
  have erases := erases_imports.comp erases_methods
  have firstRun := erases.run reordered.firstAccepted
  have secondRun := erases.run reordered.secondAccepted
  rw [reordered.sameOthers] at firstRun
  exact firstRun.trans secondRun.symm

theorem rearranges : (new.run first).toCatalog.Rearranges (new.run second).toCatalog where
  atoms := congrArg (fun builder => builder.atoms) reordered.erased_eq
  families := congrArg (fun builder => builder.families) reordered.erased_eq
  interfaces := congrArg (fun builder => builder.interfaces) reordered.erased_eq
  conversions := congrArg (fun builder => builder.conversions) reordered.erased_eq
  methods := by
    rw [methods_run reordered.firstAccepted, methods_run reordered.secondAccepted]
    exact (reordered.permuted.filterMap _).append_left _

theorem confirmed_eq : (new.run first).confirmed = (new.run second).confirmed :=
  congrArg (fun builder => builder.confirmed) reordered.erased_eq

theorem contains_modules (id : ModuleId) :
    (new.run first).modules.contains id = (new.run second).modules.contains id := by
  have sizes := congrArg (fun builder => builder.modules.size) reordered.erased_eq
  unfold withoutImports withoutMethods Table.size at sizes
  simp only [List.length_map] at sizes
  unfold Table.contains Table.size
  rw [sizes]

theorem mem_scope_iff (calling owner : ModuleId) :
    owner ∈ (new.run first).scope calling ↔ owner ∈ (new.run second).scope calling := by
  rw [mem_scope_run reordered.firstAccepted, mem_scope_run reordered.secondAccepted, reordered.permuted.mem_iff]

theorem modules_eq (sameImports : (first.filter fun operation => !operation.isMethod) =
    second.filter fun operation => !operation.isMethod) : (new.run first).modules = (new.run second).modules := by
  have firstRun := erases_methods.run reordered.firstAccepted
  have secondRun := erases_methods.run reordered.secondAccepted
  rw [sameImports] at firstRun
  exact congrArg (fun builder => builder.modules) (firstRun.trans secondRun.symm)

end Builder.MethodsReordered

end AtomResolution
