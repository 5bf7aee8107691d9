import AtomResolution.Builder.Freeze
import AtomResolution.Proofs.Checks

/-!
Making good the claims. Only methods are added, and what an atom defines afterwards is what it defined before
together with what the interfaces it claims offer; so the order of the claims decides which body an atom
gets and which claims can be made good, but not what the atoms define in the end.
-/

namespace AtomResolution

def MethodDecl.Answers (decl : MethodDecl) (atom : AtomId) (requirement : Requirement) : Prop :=
  decl.name = requirement.name ∧ decl.receiver = .atom atom ∧ decl.params.length = requirement.params.length

/-- Two requirements are met by the same methods and fields. -/
def Requirement.Alike (first second : Requirement) : Prop :=
  first.name = second.name ∧ first.params.length = second.params.length

namespace Catalog

variable {catalog middle : Catalog} {atom other : AtomId} {interface : InterfaceId}
  {requirement offered : Requirement} {decl : MethodDecl} {claims more : List (AtomId × InterfaceId)}

def Requires (catalog : Catalog) (interface : InterfaceId) (requirement : Requirement) : Prop :=
  ∃ decl, catalog.interfaces.get? interface = some decl ∧ requirement ∈ decl.requirements

def Offers (catalog : Catalog) (interface : InterfaceId) (requirement : Requirement) : Prop :=
  ∃ offered, catalog.Requires interface offered ∧ offered.Alike requirement ∧ offered.defaultBody.isSome = true

def HasField (catalog : Catalog) (atom : AtomId) (name : Name) : Prop :=
  ∃ fields, catalog.shape? atom = some fields ∧ ∃ spec ∈ fields, spec.name = name

/-- An atom meets a requirement by itself or by what the interfaces it claims offer. -/
def Provides (catalog : Catalog) (claims : List (AtomId × InterfaceId)) (atom : AtomId)
    (requirement : Requirement) : Prop :=
  catalog.defines atom requirement = true ∨
    ∃ interface, (atom, interface) ∈ claims ∧ catalog.Offers interface requirement

theorem isSome_fieldIndex?_iff {name : Name} :
    (catalog.fieldIndex? atom name).isSome = true ↔ catalog.HasField atom name := by
  unfold fieldIndex? HasField shape? AtomDecl.fieldIndex?
  cases catalog.atoms.get? atom with
  | none => simp
  | some decl => simp [List.findIdx?_isSome]

theorem defines_iff : catalog.defines atom requirement = true ↔
    (∃ decl ∈ catalog.methods.entries, decl.Answers atom requirement) ∨
      requirement.params = [] ∧ catalog.HasField atom requirement.name := by
  unfold defines methodsNamed
  rw [Bool.or_eq_true, Bool.and_eq_true, List.isEmpty_iff, isSome_fieldIndex?_iff, List.any_eq_true]
  refine or_congr_left ⟨?_, ?_⟩
  · rintro ⟨⟨handle, decl⟩, inside, fits⟩
    obtain ⟨inside, named⟩ := List.mem_filter.1 inside
    obtain ⟨received, counted⟩ := of_decide_eq_true fits
    exact ⟨decl, List.mem_of_getElem? (Table.mem_enum.1 inside), of_decide_eq_true named, received, counted⟩
  · rintro ⟨decl, inside, named, received, counted⟩
    obtain ⟨raw, found⟩ := List.mem_iff_getElem?.1 inside
    have listed : ((⟨raw⟩, decl) : MethodId × MethodDecl) ∈ catalog.methods.enum := Table.mem_enum.2 found
    exact ⟨_, List.mem_filter.2 ⟨listed, decide_eq_true named⟩, decide_eq_true ⟨received, counted⟩⟩

theorem defines_congr (alike : offered.Alike requirement) :
    catalog.defines atom offered = true ↔ catalog.defines atom requirement = true := by
  obtain ⟨named, counted⟩ := alike
  rw [defines_iff, defines_iff, ← List.length_eq_zero_iff, ← List.length_eq_zero_iff]
  unfold MethodDecl.Answers
  rw [named, counted]

/-- A method that is added is defined from then on. Where its key was taken, the method that has the key
does as well. -/
theorem defines_addMethod : (catalog.addMethod decl).defines atom requirement = true ↔
    catalog.defines atom requirement = true ∨ decl.Answers atom requirement := by
  unfold addMethod
  split
  next taken =>
    refine (or_iff_left_of_imp fun ⟨named, received, counted⟩ => ?_).symm
    obtain ⟨handle, keyed⟩ := Option.isSome_iff_exists.1 taken
    obtain ⟨holder, found, sameKey⟩ := Table.get?_of_find? keyed
    have same : holder.key = decl.key := of_decide_eq_true sameKey
    have sameCount := congrArg (fun key => key.patterns.length) same
    simp only [MethodDecl.key, List.length_map] at sameCount
    refine defines_iff.2 (.inl ⟨holder, List.mem_of_getElem? found, ?_, ?_, sameCount.trans counted⟩)
    · exact (congrArg MethodKey.name same).trans named
    · exact (congrArg MethodKey.receiver same).trans received
  next free =>
    rw [defines_iff, defines_iff]
    change (∃ method ∈ catalog.methods.entries ++ [decl], _) ∨ _ ↔ _
    simp only [List.mem_append, List.mem_singleton, or_and_right, exists_or, exists_eq_left]
    exact or_right_comm

theorem defines_foldl_addMethod {decls : List MethodDecl} :
    (decls.foldl addMethod catalog).defines atom requirement = true ↔
      catalog.defines atom requirement = true ∨ ∃ decl ∈ decls, decl.Answers atom requirement := by
  induction decls generalizing catalog with
  | nil => simp
  | cons decl decls ih =>
    rw [List.foldl_cons, ih, defines_addMethod, or_assoc]
    simp

def addable (catalog : Catalog) : List MethodDecl → List MethodDecl
  | [] => []
  | decl :: decls =>
    if (catalog.methodKeyed? decl.key).isSome then catalog.addable decls
    else decl :: (catalog.addMethod decl).addable decls

theorem foldl_addMethod_eq (catalog : Catalog) (decls : List MethodDecl) : decls.foldl addMethod catalog =
    { catalog with methods := catalog.methods.append (catalog.addable decls) } := by
  induction decls generalizing catalog with
  | nil =>
    rw [addable, Table.append_nil]
    rfl
  | cons decl decls ih =>
    rw [List.foldl_cons, ih, addable]
    unfold addMethod
    split
    · rfl
    · rw [Table.append_cons]

theorem mem_of_mem_addable {decls : List MethodDecl} (inside : decl ∈ catalog.addable decls) : decl ∈ decls := by
  induction decls generalizing catalog with
  | nil => cases inside
  | cons first decls ih =>
    rw [addable] at inside
    split at inside
    · exact List.mem_cons_of_mem _ (ih inside)
    · rcases List.mem_cons.1 inside with rfl | later
      · exact List.mem_cons_self
      · exact List.mem_cons_of_mem _ (ih later)

theorem mem_defaultsFor_iff {interfaceDecl : InterfaceDecl} :
    decl ∈ catalog.defaultsFor atom interface interfaceDecl ↔
      ∃ requirement ∈ interfaceDecl.requirements, ¬catalog.defines atom requirement = true ∧
        ∃ body, requirement.defaultBody = some body ∧
          defaultMethod atom interface interfaceDecl.owner requirement body = decl := by
  unfold defaultsFor
  simp only [List.mem_filterMap, List.mem_filter, Option.map_eq_some_iff, Bool.not_eq_true', Bool.not_eq_true,
    and_assoc]

theorem answers_defaultMethod {owner : ModuleId} {body : BodyId} :
    (defaultMethod atom interface owner offered body).Answers other requirement ↔
      atom = other ∧ offered.Alike requirement := by
  unfold defaultMethod MethodDecl.Answers Requirement.Alike
  rw [TypeTag.atom.injEq]
  exact and_left_comm

/-- What becomes of a catalog when claims are made good one after another. Either every requirement without a
default body is met by the time its claim has its turn, or the first one that is not breaks its claim. -/
inductive Materialised (catalog : Catalog) (claims : List (AtomId × InterfaceId)) :
    Except RegistryError Catalog → Prop
  | complete {methods : Table .method MethodDecl}
      (met : ∀ before atom interface later, claims = before ++ (atom, interface) :: later →
        ∀ requirement, catalog.Requires interface requirement → requirement.defaultBody = none →
          catalog.Provides before atom requirement)
      (defines : ∀ atom requirement,
        ({ catalog with methods := methods } : Catalog).defines atom requirement = true ↔
          catalog.Provides claims atom requirement) :
      Materialised catalog claims (.ok { catalog with methods := methods })
  | broken {before later : List (AtomId × InterfaceId)} {atom : AtomId} {interface : InterfaceId}
      {requirement : Requirement} (turn : claims = before ++ (atom, interface) :: later)
      (requires : catalog.Requires interface requirement) (bare : requirement.defaultBody = none)
      (lacking : ¬catalog.Provides before atom requirement) :
      Materialised catalog claims (.error (.incompleteConformance atom interface requirement.name))

theorem provides_nil : catalog.Provides [] atom requirement ↔ catalog.defines atom requirement = true :=
  or_iff_left fun ⟨_, impossible, _⟩ => nomatch impossible

theorem provides_singleton : catalog.Provides [(other, interface)] atom requirement ↔
    catalog.defines atom requirement = true ∨ atom = other ∧ catalog.Offers interface requirement := by
  unfold Provides
  simp only [List.mem_singleton, Prod.mk.injEq, and_assoc]
  refine or_congr_right ⟨?_, ?_⟩
  · rintro ⟨_, same, rfl, offers⟩
    exact ⟨same, offers⟩
  · rintro ⟨same, offers⟩
    exact ⟨interface, same, rfl, offers⟩

theorem foldl_defaultsFor {interfaceDecl : InterfaceDecl}
    (found : catalog.interfaces.get? interface = some interfaceDecl) :
    ∃ methods, (catalog.defaultsFor atom interface interfaceDecl).foldl addMethod catalog =
        { catalog with methods := methods } ∧
      ∀ other requirement, ({ catalog with methods := methods } : Catalog).defines other requirement = true ↔
        catalog.Provides [(atom, interface)] other requirement := by
  refine ⟨_, catalog.foldl_addMethod_eq _, fun other requirement => ?_⟩
  rw [← foldl_addMethod_eq, defines_foldl_addMethod, provides_singleton]
  constructor
  · rintro (old | ⟨method, inside, answers⟩)
    · exact .inl old
    · obtain ⟨offered, listed, _, body, has, rfl⟩ := mem_defaultsFor_iff.1 inside
      obtain ⟨rfl, alike⟩ := answers_defaultMethod.1 answers
      exact .inr ⟨rfl, offered, ⟨interfaceDecl, found, listed⟩, alike, by rw [has]; rfl⟩
  · rintro (old | ⟨rfl, offered, ⟨_, same, listed⟩, alike, has⟩)
    · exact .inl old
    · cases found.symm.trans same
      by_cases old : catalog.defines other offered = true
      · exact .inl ((defines_congr alike).1 old)
      · obtain ⟨body, has⟩ := Option.isSome_iff_exists.1 has
        exact .inr ⟨_, mem_defaultsFor_iff.2 ⟨offered, listed, old, body, has, rfl⟩,
          answers_defaultMethod.2 ⟨rfl, alike⟩⟩

theorem materialise_outcome (catalog : Catalog) (atom : AtomId) (interface : InterfaceId) :
    catalog.Materialised [(atom, interface)] (catalog.materialise atom interface) := by
  have turn {before later : List (AtomId × InterfaceId)} {claimant : AtomId} {claimed : InterfaceId}
      (only : [(atom, interface)] = before ++ (claimant, claimed) :: later) :
      before = [] ∧ claimant = atom ∧ claimed = interface := by
    rcases List.singleton_eq_append_iff.1 only with ⟨first, same⟩ | ⟨_, impossible⟩
    · cases same
      exact ⟨first, rfl, rfl⟩
    · cases impossible
  unfold materialise
  split
  next undeclared =>
    have asksNothing (requirement : Requirement) : ¬catalog.Requires interface requirement :=
      fun ⟨_, found, _⟩ => by rw [undeclared] at found; cases found
    refine .complete ?_ fun other requirement => ?_
    · intro before claimant claimed later only requirement requires
      obtain ⟨-, -, rfl⟩ := turn only
      exact absurd requires (asksNothing requirement)
    · rw [provides_singleton]
      exact (or_iff_left fun ⟨_, offered, requires, _⟩ => asksNothing offered requires).symm
  next decl found =>
    split
    next requirement broken =>
      have lacks := List.find?_some broken
      rw [Bool.and_eq_true, Bool.not_eq_true', Option.isNone_iff_eq_none] at lacks
      have first : [(atom, interface)] = [] ++ (atom, interface) :: [] := rfl
      refine .broken first ⟨decl, found, List.mem_of_find?_eq_some broken⟩ lacks.2 ?_
      rw [provides_nil, lacks.1]
      exact Bool.false_ne_true
    next fine =>
      have defined {requirement : Requirement} (requires : catalog.Requires interface requirement)
          (bare : requirement.defaultBody = none) : catalog.defines atom requirement = true := by
        obtain ⟨_, same, inside⟩ := requires
        cases found.symm.trans same
        simpa [bare] using List.find?_eq_none.1 fine requirement inside
      obtain ⟨methods, folded, defines⟩ := foldl_defaultsFor found
      rw [folded]
      refine .complete ?_ defines
      intro before claimant claimed later only requirement requires bare
      obtain ⟨rfl, rfl, rfl⟩ := turn only
      exact provides_nil.2 (defined requires bare)

theorem Materialised.append_of_error {error : RegistryError}
    (broken : catalog.Materialised claims (.error error)) :
    catalog.Materialised (claims ++ more) (.error error) := by
  cases broken with
  | broken turn requires bare lacking =>
    exact .broken (by rw [turn, List.append_assoc, List.cons_append]) requires bare lacking

theorem provides_cons {methods : Table .method MethodDecl} {before : List (AtomId × InterfaceId)}
    (defines : ∀ atom requirement, ({ catalog with methods := methods } : Catalog).defines atom requirement = true ↔
      catalog.Provides [(other, interface)] atom requirement) :
    ({ catalog with methods := methods } : Catalog).Provides before atom requirement ↔
      catalog.Provides ((other, interface) :: before) atom requirement := by
  change _ ∨ (∃ _, _ ∧ catalog.Offers _ requirement) ↔ _
  rw [defines, provides_singleton, or_assoc]
  refine or_congr_right ?_
  simp only [List.mem_cons, Prod.mk.injEq, or_and_right, exists_or, and_assoc, exists_and_left, exists_eq_left]

theorem Materialised.cons {result : Except RegistryError Catalog}
    (first : catalog.Materialised [(other, interface)] (.ok middle)) (rest : middle.Materialised claims result) :
    catalog.Materialised ((other, interface) :: claims) result := by
  cases first with
  | @complete methods met defines =>
    cases rest with
    | complete laterMet laterDefines =>
      refine .complete ?_ fun atom requirement =>
        (laterDefines atom requirement).trans (provides_cons defines)
      intro before claimant claimed later turn requirement requires bare
      cases before with
      | nil =>
        cases turn
        exact met [] other interface [] rfl requirement requires bare
      | cons _ before =>
        cases turn
        exact (provides_cons defines).1 (laterMet before claimant claimed later rfl requirement requires bare)
    | broken turn requires bare lacking =>
      subst turn
      exact .broken rfl requires bare fun provided => lacking ((provides_cons defines).2 provided)

theorem materialiseAll_outcome (catalog : Catalog) (claims : List (AtomId × InterfaceId)) :
    catalog.Materialised claims (catalog.materialiseAll claims) := by
  induction claims generalizing catalog with
  | nil =>
    refine .complete ?_ fun _ _ => provides_nil.symm
    intro before _ _ _ impossible
    cases before <;> cases impossible
  | cons claim claims ih =>
    obtain ⟨atom, interface⟩ := claim
    have first := catalog.materialise_outcome atom interface
    change catalog.Materialised _ (catalog.materialise atom interface >>= fun middle => middle.materialiseAll claims)
    cases made : catalog.materialise atom interface with
    | error error =>
      rw [made] at first
      exact first.append_of_error
    | ok middle =>
      rw [made] at first
      exact first.cons (ih middle)

end Catalog

end AtomResolution
