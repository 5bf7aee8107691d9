import AtomResolution.Proofs.Load.Operations
import AtomResolution.Proofs.Store.Load

/-!
The load phase in place does what it does on builders: every operation answers the same, leaves the tables
that the builder after it has, and keeps the indexes in step with them. One that fails writes nothing.
-/

namespace AtomResolution

structure Store.Agrees (store : Store) : Prop where
  modules : store.modules.Agrees
  atoms : store.atoms.Agrees
  families : store.families.Agrees
  interfaces : store.interfaces.Agrees
  claimed : ∀ claim, store.claimed.contains claim = store.confirmed.contains claim
  methods : store.methods.Agrees
  methodsByName : store.methodsByName.Agrees store.methods.table MethodDecl.name
  conversions : store.conversions.Agrees
  conversionsBySource : store.conversionsBySource.Agrees store.conversions.table ConversionDecl.source

structure Store.Holds (store : Store) (builder : Builder) : Prop where
  tables : store.builder = builder
  agrees : store.Agrees

namespace Store

variable {α : Type} {store : Store}

structure Inserts (store : Store) (insert : Store → Option α × Store) (holder : Option α) (id : α)
    (builder : Builder) : Prop where
  taken : holder.isSome = true → insert store = (none, store)
  free : holder = none → ∃ after, insert store = (some id, after) ∧ after.Holds builder

theorem Agrees.inserts_declareModule (agrees : store.Agrees) (name : Name) :
    store.Inserts (declareModule name) (store.builder.moduleNamed? name) store.modules.table.next
      { store.builder with modules := store.modules.table.push ⟨name, []⟩ } where
  taken taken := by
    unfold declareModule
    rw [agrees.modules.insert_of_taken ⟨name, []⟩ taken]
  free free := by
    unfold declareModule
    rw [agrees.modules.insert_of_free ⟨name, []⟩ free]
    exact ⟨_, rfl, rfl, { agrees with modules := agrees.modules.push ⟨name, []⟩ free }⟩

theorem Agrees.addImport (agrees : store.Agrees) (id imported : ModuleId) :
    (store.addImport id imported).Agrees := by
  have unseen (wanted : Name) : ((store.modules.table.modify id (Builder.addImport imported id)).find?
      fun decl => decl.name = wanted) = store.modules.table.find? fun decl => decl.name = wanted := by
    apply Table.find?_modify
    intro decl
    rw [Builder.name_addImport]
  exact { agrees with modules := fun wanted => (agrees.modules wanted).trans (unseen wanted).symm }

theorem Agrees.inserts_declareInterface (agrees : store.Agrees) (decl : InterfaceDecl) :
    store.Inserts (declareInterface decl) (store.builder.interfaceNamed? decl.owner decl.name)
      store.interfaces.table.next
      { store.builder with interfaces := store.interfaces.table.push decl } where
  taken taken := by
    rw [Catalog.interfaceNamed?_eq] at taken
    unfold declareInterface
    rw [agrees.interfaces.insert_of_taken decl taken]
  free free := by
    rw [Catalog.interfaceNamed?_eq] at free
    unfold declareInterface
    rw [agrees.interfaces.insert_of_free decl free]
    exact ⟨_, rfl, rfl, { agrees with interfaces := agrees.interfaces.push decl free }⟩

theorem Agrees.inserts_insertMethod (agrees : store.Agrees) (decl : MethodDecl) :
    store.Inserts (insertMethod decl) (store.builder.methodKeyed? decl.key) store.methods.table.next
      { store.builder with methods := store.methods.table.push decl } where
  taken taken := by
    unfold insertMethod
    rw [agrees.methods.insert_of_taken decl taken]
  free free := by
    unfold insertMethod
    rw [agrees.methods.insert_of_free decl free]
    exact ⟨_, rfl, rfl, { agrees with
      methods := agrees.methods.push decl free
      methodsByName := agrees.methodsByName.push decl }⟩

theorem Agrees.inserts_insertConversion (agrees : store.Agrees) (decl : ConversionDecl) :
    store.Inserts (insertConversion decl) (store.builder.conversionBetween? decl.source decl.target)
      store.conversions.table.next
      { store.builder with conversions := store.conversions.table.push decl } where
  taken taken := by
    rw [Catalog.conversionBetween?_eq] at taken
    unfold insertConversion
    rw [agrees.conversions.insert_of_taken decl taken]
  free free := by
    rw [Catalog.conversionBetween?_eq] at free
    unfold insertConversion
    rw [agrees.conversions.insert_of_free decl free]
    exact ⟨_, rfl, rfl, { agrees with
      conversions := agrees.conversions.push decl free
      conversionsBySource := agrees.conversionsBySource.push decl }⟩

theorem Agrees.pushVariants (agrees : store.Agrees) {owner : ModuleId} (family : FamilyId)
    {variants : List VariantSpec} (free : ∀ variant ∈ variants, store.builder.atomNamed? owner variant.tag = none)
    (apart : (variants.map VariantSpec.tag).Nodup) :
    ∃ after, store.pushVariants owner family variants =
        ((List.range' store.atoms.table.size variants.length).map Handle.mk, after) ∧
      after.Holds { store.builder with
        atoms := store.atoms.table.append
          (variants.map fun variant => ⟨owner, variant.tag, variant.kind, family, variant.fields⟩) } := by
  induction variants generalizing store with
  | nil =>
    refine ⟨store, rfl, ?_, agrees⟩
    rw [List.map_nil, Table.append_nil]
    rfl
  | cons variant variants ih =>
    obtain ⟨single, apart⟩ := List.nodup_cons.1 apart
    let decl : AtomDecl := ⟨owner, variant.tag, variant.kind, family, variant.fields⟩
    have first : (store.atoms.table.find? fun other => other.key = decl.key) = none :=
      (Catalog.atomNamed?_eq _ owner variant.tag).symm.trans (free variant List.mem_cons_self)
    have grown : Agrees { store with atoms := store.atoms.push decl } :=
      { agrees with atoms := agrees.atoms.push decl first }
    have stillFree (other : VariantSpec) (inside : other ∈ variants) :
        ({ store with atoms := store.atoms.push decl } : Store).builder.atomNamed? owner other.tag = none := by
      have differs : variant.tag ≠ other.tag := by
        intro same
        exact single (List.mem_map.2 ⟨other, inside, same.symm⟩)
      change (store.atoms.table.push decl).find? _ = none
      rw [Table.find?_push, Option.or_eq_none_iff]
      have unlike : ¬decide (decl.owner = owner ∧ decl.tag = other.tag) = true := by
        intro same
        exact differs (of_decide_eq_true same).2
      exact ⟨free other (List.mem_cons_of_mem _ inside), if_neg unlike⟩
    obtain ⟨after, pushed, tables, indexed⟩ := ih grown stillFree apart
    refine ⟨after, ?_, tables.trans ?_, indexed⟩
    · unfold Store.pushVariants
      dsimp only
      rw [pushed, List.length_cons, List.range'_succ, List.map_cons]
      change (_, _) = ((store.atoms.table.next :: _), _)
      rw [Indexed.push, Table.size_push]
    · rw [List.map_cons, Table.append_cons]
      rfl

theorem Agrees.pushFamily (agrees : store.Agrees) {owner : ModuleId} {name : Name} {variants : List VariantSpec}
    (fits : store.builder.FamilyFits owner name variants) :
    ∃ after, store.pushFamily owner name variants =
        ((store.families.table.next, (List.range' store.atoms.table.size variants.length).map Handle.mk), after) ∧
      after.Holds (store.builder.addFamily owner name variants) := by
  obtain ⟨others, apart⟩ := Builder.checkVariants_eq_ok_iff.1 fits.sound
  have free (variant : VariantSpec) (inside : variant ∈ variants) :
      store.builder.atomNamed? owner variant.tag = none := (others variant inside).2.1
  obtain ⟨middle, pushed, tables, indexed⟩ := agrees.pushVariants store.families.table.next free apart
  let ids : List AtomId := (List.range' store.atoms.table.size variants.length).map Handle.mk
  have sameFamilies : middle.families.table = store.families.table := congrArg (fun held => held.families) tables
  have unnamed : (middle.families.table.find? fun other => other.key = (owner, name)) = none := by
    rw [sameFamilies]
    exact (Catalog.familyNamed?_eq _ owner name).symm.trans fits.free
  refine ⟨{ middle with families := middle.families.push ⟨owner, name, ids⟩ }, ?_, ?_,
    { indexed with families := indexed.families.push ⟨owner, name, ids⟩ unnamed }⟩
  · unfold Store.pushFamily
    dsimp only
    rw [pushed]
  · calc
      _ = { middle.builder with families := middle.families.table.push ⟨owner, name, ids⟩ } := rfl
      _ = store.builder.addFamily owner name variants := by
        rw [tables, sameFamilies]
        rfl

theorem Agrees.addClaims (agrees : store.Agrees) (atom : AtomId) (interfaces : List InterfaceId) :
    (interfaces.foldl (addClaim atom) store).Holds
      { store.builder with confirmed := interfaces.foldl (Builder.addClaim atom) store.confirmed } := by
  induction interfaces generalizing store with
  | nil => exact ⟨rfl, agrees⟩
  | cons interface interfaces ih =>
    have first : (addClaim atom store interface).Holds
        { store.builder with confirmed := Builder.addClaim atom store.confirmed interface } := by
      unfold addClaim Builder.addClaim
      rw [agrees.claimed]
      split
      next => exact ⟨rfl, agrees⟩
      next new =>
        have claimed (claim : AtomId × InterfaceId) :
            (store.claimed.insert (atom, interface)).contains claim =
              (store.confirmed ++ [(atom, interface)]).contains claim := by
          rw [Std.HashSet.contains_insert, agrees.claimed, List.contains_append, List.contains_cons,
            List.contains_nil, Bool.or_false, Bool.or_comm, BEq.comm]
        exact ⟨rfl, { agrees with claimed := claimed }⟩
    obtain ⟨tables, indexed⟩ := ih first.agrees
    refine ⟨tables.trans ?_, indexed⟩
    have added : (addClaim atom store interface).confirmed = Builder.addClaim atom store.confirmed interface :=
      congrArg (fun held => held.confirmed) first.tables
    rw [first.tables, added]
    rfl

end Store

namespace Loading

variable {α β : Type} {store : Store}

def Reads (program : Loading α) (store : Store) : Except RegistryError α → Prop
  | .ok result => program.run store = .ok result store
  | .error error => program.run store = .error error store

theorem Reads.bind {program : Loading α} {next : α → Loading β} {answer : Except RegistryError α}
    {later : α → Except RegistryError β} (reads : program.Reads store answer)
    (rest : ∀ result, answer = .ok result → (next result).Reads store (later result)) :
    Reads (program >>= next) store (answer >>= later) := by
  cases answer with
  | error error =>
    change (program >>= next).run store = _
    rw [EStateM.run_bind, reads]
  | ok result =>
    have follows := rest result rfl
    change Reads (program >>= next) store (later result)
    unfold Reads
    rw [EStateM.run_bind, reads]
    exact follows

theorem Reads.map {program : Loading α} {answer : Except RegistryError α} (reads : program.Reads store answer)
    (say : α → β) : Reads (do return say (← program)) store (answer.map say) := by
  cases answer with
  | error error =>
    change EStateM.run _ store = .error error store
    rw [EStateM.run_bind, reads]
  | ok result =>
    change EStateM.run _ store = .ok (say result) store
    rw [EStateM.run_bind, reads]
    rfl

theorem Reads.get {next : Store → Loading α} {answer : Except RegistryError α}
    (reads : (next store).Reads store answer) : (get >>= next).Reads store answer := by
  cases answer with
  | ok _ => exact reads
  | error _ => exact reads

theorem reads_ite (passes : Bool) (error : RegistryError) :
    Reads (if passes then pure () else throw error) store (if passes then .ok () else .error error) := by
  cases passes <;> rfl

theorem reads_checkModule (id : ModuleId) : (checkModule id).Reads store (store.builder.checkModule id) :=
  .get (reads_ite _ _)

theorem reads_checkAtom (id : AtomId) : (checkAtom id).Reads store (store.builder.checkAtom id) :=
  .get (reads_ite _ _)

theorem checkInterfaces_cons (builder : Builder) (id : InterfaceId) (ids : List InterfaceId) :
    builder.checkInterfaces (id :: ids) =
      (if builder.interfaces.contains id then .ok () else .error (.unknownInterface id)) >>= fun _ =>
        builder.checkInterfaces ids := by
  unfold Builder.checkInterfaces
  rw [List.find?_cons]
  cases builder.interfaces.contains id with
  | true => rfl
  | false => rfl

theorem reads_checkInterface (id : InterfaceId) :
    (checkInterface id).Reads store (store.builder.checkInterfaces [id]) := by
  have alone : store.builder.checkInterfaces [id] =
      if store.builder.interfaces.contains id then .ok () else .error (.unknownInterface id) := by
    rw [checkInterfaces_cons]
    split <;> rfl
  rw [alone]
  exact .get (reads_ite _ _)

theorem checkInterfaces_append (builder : Builder) (first second : List InterfaceId) :
    builder.checkInterfaces (first ++ second) =
      builder.checkInterfaces first >>= fun _ => builder.checkInterfaces second := by
  induction first with
  | nil => rfl
  | cons id first ih => rw [List.cons_append, checkInterfaces_cons, checkInterfaces_cons, ih, bind_assoc]

theorem reads_checkInterfaces (ids : List InterfaceId) :
    (ids.forM checkInterface).Reads store (store.builder.checkInterfaces ids) := by
  induction ids with
  | nil => rfl
  | cons id ids ih =>
    rw [checkInterfaces_cons]
    exact .bind (.get (reads_ite _ _)) fun _ _ => ih

theorem reads_checkType (type : TypeTag) :
    (checkType type).Reads store (store.builder.checkInterfaces type.mentioned) :=
  reads_checkInterfaces type.mentioned

theorem reads_forM {check : β → Loading Unit} {mentioned : β → List InterfaceId}
    (each : ∀ item, (check item).Reads store (store.builder.checkInterfaces (mentioned item))) (items : List β) :
    (items.forM check).Reads store (store.builder.checkInterfaces (items.flatMap mentioned)) := by
  induction items with
  | nil => rfl
  | cons item items ih =>
    rw [List.flatMap_cons, checkInterfaces_append]
    exact .bind (each item) fun _ _ => ih

theorem reads_checkParams (params : List Param) :
    (checkParams params).Reads store (store.builder.checkParams params) :=
  reads_forM (fun param : Param => reads_checkType param.pattern) params

theorem reads_checkVariants (agrees : store.Agrees) (owner : ModuleId) (earlier : List Name)
    (variants : List VariantSpec) :
    (checkVariants owner earlier variants).Reads store (store.builder.checkVariants owner earlier variants) := by
  induction variants generalizing earlier with
  | nil => rfl
  | cons variant variants ih =>
    have taken : store.atoms.index.contains (owner, variant.tag) =
        (store.builder.atomNamed? owner variant.tag).isSome := by
      rw [agrees.atoms.contains_eq, Catalog.atomNamed?_eq]
      rfl
    unfold checkVariants Builder.checkVariants
    refine .get ?_
    rw [taken]
    split
    next => rfl
    next =>
      exact .bind (reads_forM (fun field : FieldSpec => reads_checkType field.type) variant.fields) fun _ _ => ih _

/-- A program does on a store what is done on the builder that the store holds: it fails alike, and the
store is as it was, or it answers alike, and the store holds the builder after it. -/
inductive Carries (program : Loading α) (store : Store) : Except RegistryError (α × Builder) → Prop
  | failed {error : RegistryError} (run : program.run store = .error error store) :
      Carries program store (.error error)
  | done {result : α} {after : Store} {builder : Builder} (run : program.run store = .ok result after)
      (holds : after.Holds builder) : Carries program store (.ok (result, builder))

variable {answer : Except RegistryError (α × Builder)}

theorem Carries.check {check : Loading β} {next : β → Loading α} {checked : Except RegistryError β}
    {later : β → Except RegistryError (α × Builder)} (reads : check.Reads store checked)
    (rest : ∀ result, checked = .ok result → (next result).Carries store (later result)) :
    Carries (check >>= next) store (checked >>= later) := by
  cases checked with
  | error error => exact .failed (by rw [EStateM.run_bind, reads])
  | ok result =>
    have goesOn : (check >>= next).run store = (next result).run store := by rw [EStateM.run_bind, reads]
    have follows := rest result rfl
    change Carries _ store (later result)
    generalize later result = answer at follows
    cases follows with
    | failed run => exact .failed (goesOn.trans run)
    | done run holds => exact .done (goesOn.trans run) holds

theorem Carries.get {next : Store → Loading α} (carries : (next store).Carries store answer) :
    (get >>= next).Carries store answer := by
  cases carries with
  | failed run => exact .failed run
  | done run holds => exact .done run holds

theorem Carries.map {program : Loading α} (carries : program.Carries store answer) (say : α → β) :
    Carries (do return say (← program)) store (do let (result, after) ← answer; return (say result, after)) := by
  cases carries with
  | failed run => exact .failed (by rw [EStateM.run_bind, run])
  | done run holds => exact .done (by rw [EStateM.run_bind, run]; rfl) holds

theorem carries_throw (error : RegistryError) : Carries (α := α) (throw error) store (.error error) :=
  .failed rfl

theorem carries_insertOr {insert : Store → Option α × Store} {holder : Option α} {id : α} {builder : Builder}
    (inserts : store.Inserts insert holder id builder) (error : RegistryError) :
    (insertOr error insert).Carries store (if holder.isSome then .error error else .ok (id, builder)) := by
  unfold insertOr
  split
  next taken => exact .failed (by rw [EStateM.run_bind, EStateM.run_modifyGet, inserts.taken taken]; rfl)
  next free =>
    have free : holder = none := by simpa using free
    obtain ⟨after, inserted, holds⟩ := inserts.free free
    exact .done (by rw [EStateM.run_bind, EStateM.run_modifyGet, inserted]; rfl) holds

theorem carries_declareModule (agrees : store.Agrees) (name : Name) :
    (declareModule name).Carries store (store.builder.declareModule name) :=
  carries_insertOr (agrees.inserts_declareModule name) _

theorem carries_importModule (agrees : store.Agrees) (id imported : ModuleId) (said : α) :
    Carries (do importModule id imported; return said) store
      (do let after ← store.builder.importModule id imported; return (said, after)) := by
  unfold importModule Builder.importModule
  simp only [bind_assoc]
  refine .check (reads_checkModule id) fun _ _ => .check (reads_checkModule imported) fun _ _ => ?_
  exact .done rfl ⟨rfl, agrees.addImport id imported⟩

theorem carries_declareInterface (agrees : store.Agrees) (owner : ModuleId) (name : Name)
    (supers : List InterfaceId) (requirements : List Requirement) :
    (declareInterface owner name supers requirements).Carries store
      (store.builder.declareInterface owner name supers requirements) := by
  have typed : Reads (requirements.forM fun requirement => checkParams requirement.params) store
      (store.builder.checkParams (requirements.flatMap Requirement.params)) := by
    unfold Builder.checkParams
    rw [List.flatMap_assoc]
    exact reads_forM (fun requirement : Requirement => reads_checkParams requirement.params) requirements
  unfold declareInterface Builder.declareInterface
  refine .check (reads_checkModule owner) fun _ _ => .check (reads_checkInterfaces supers) fun _ _ => ?_
  refine .check typed fun _ _ => ?_
  exact carries_insertOr (agrees.inserts_declareInterface ⟨owner, name, supers, requirements⟩) _

theorem carries_declareMethod (agrees : store.Agrees) (owner : ModuleId) (name : Name) (receiver : TypeTag)
    (params : List Param) (body : BodyId) :
    (declareMethod owner name receiver params body).Carries store
      (store.builder.declareMethod owner name receiver params body) := by
  unfold declareMethod Builder.declareMethod
  refine .check (reads_checkModule owner) fun _ _ => .check (reads_checkType receiver) fun _ _ => ?_
  refine .check (reads_checkParams params) fun _ _ => ?_
  exact carries_insertOr (agrees.inserts_insertMethod ⟨owner, name, receiver, params, body, .declared⟩) _

theorem carries_declareConversion (agrees : store.Agrees) (owner : ModuleId) (source target : AtomId)
    (params : List Param) (body : BodyId) :
    (declareConversion owner source target params body).Carries store
      (store.builder.declareConversion owner source target params body) := by
  unfold declareConversion Builder.declareConversion
  refine .check (reads_checkModule owner) fun _ _ => .check (reads_checkParams params) fun _ _ => ?_
  cases params.find? fun param => !param.hasDefault with
  | some param => exact carries_throw _
  | none => exact carries_insertOr (agrees.inserts_insertConversion ⟨owner, source, target, params, body⟩) _

theorem carries_declareFamily (agrees : store.Agrees) (owner : ModuleId) (name : Name)
    (variants : List VariantSpec) :
    (declareFamily owner name variants).Carries store (store.builder.declareFamily owner name variants) := by
  have taken : store.families.index.contains (owner, name) = (store.builder.familyNamed? owner name).isSome := by
    rw [agrees.families.contains_eq, Catalog.familyNamed?_eq]
    rfl
  unfold declareFamily Builder.declareFamily
  refine .check (reads_checkModule owner) fun _ owned => .get ?_
  rw [taken]
  split
  next => exact carries_throw _
  next free =>
    refine .check (reads_checkVariants agrees owner [] variants) fun _ sound => ?_
    obtain ⟨after, pushed, holds⟩ :=
      agrees.pushFamily ⟨Builder.checkModule_eq_ok_iff.1 owned, by simpa using free, sound⟩
    exact .done (by rw [EStateM.run_modifyGet, pushed]; rfl) holds

theorem carries_declareAtom (agrees : store.Agrees) (owner : ModuleId) (variant : VariantSpec) :
    (declareAtom owner variant).Carries store (store.builder.declareAtom owner variant) := by
  have family := (carries_declareFamily agrees owner variant.tag [variant]).map fun handles =>
    handles.2.headD AtomId.nothing
  unfold declareAtom Builder.declareAtom
  generalize found : store.builder.declareFamily owner variant.tag [variant] = answer at family
  cases answer with
  | error _ => exact family
  | ok result =>
    obtain ⟨handles, after⟩ := result
    obtain ⟨-, rfl, -⟩ := Builder.declareFamily_eq_ok_iff.1 found
    exact family

theorem carries_confirm (agrees : store.Agrees) (atom : AtomId) (interface : InterfaceId) (said : α) :
    Carries (do confirm atom interface; return said) store
      (do let after ← store.builder.confirm atom interface; return (said, after)) := by
  unfold confirm Builder.confirm
  simp only [bind_assoc]
  refine .check (reads_checkAtom atom) fun _ _ => .check (reads_checkInterface interface) fun _ _ => ?_
  exact .done rfl (agrees.addClaims atom (store.builder.withSupers interface))

/-- Every operation does in place what it does on builders. -/
theorem carries_perform (agrees : store.Agrees) (operation : Operation) :
    (perform operation).Carries store (store.builder.apply operation) := by
  cases operation with
  | declareModule name => exact (carries_declareModule agrees name).map _
  | importModule id imported => exact carries_importModule agrees id imported Declared.nothing
  | declareAtom owner variant => exact (carries_declareAtom agrees owner variant).map _
  | declareFamily owner name variants => exact (carries_declareFamily agrees owner name variants).map _
  | declareInterface owner name supers requirements =>
    exact (carries_declareInterface agrees owner name supers requirements).map _
  | confirm atom interface => exact carries_confirm agrees atom interface Declared.nothing
  | declareMethod owner name receiver params body =>
    exact (carries_declareMethod agrees owner name receiver params body).map _
  | declareConversion owner source target params body =>
    exact (carries_declareConversion agrees owner source target params body).map _

end Loading

namespace Store

theorem agrees_empty : empty.Agrees where
  modules := Indexed.agrees_empty
  atoms := Indexed.agrees_empty
  families := Indexed.agrees_empty
  interfaces := Indexed.agrees_empty
  claimed _ := Std.HashSet.contains_empty
  methods := Indexed.agrees_empty
  methodsByName := Groups.agrees_empty
  conversions := Indexed.agrees_empty
  conversionsBySource := Groups.agrees_empty

theorem holds_new : new.Holds Builder.new := by
  apply Builder.builtins_induction
  · obtain ⟨after, pushed, holds⟩ := (agrees_empty.inserts_declareModule Name.builtins).free rfl
    rw [pushed]
    exact holds
  · intro store builder tag holds fits
    obtain ⟨rfl, agrees⟩ := holds
    obtain ⟨after, pushed, holds⟩ := agrees.pushFamily fits
    rw [pushed]
    exact holds

/-- A load sequence leaves in place what it leaves on builders. -/
theorem Holds.serve {store : Store} {builder : Builder} (holds : store.Holds builder)
    (operations : List Operation) : (store.serve operations).2.Holds (builder.run operations) := by
  induction operations generalizing store builder with
  | nil => exact holds
  | cons operation operations ih =>
    change (store.serve (operation :: operations)).2.Holds ((builder.step operation).run operations)
    have carries := Loading.carries_perform holds.agrees operation
    rw [holds.tables] at carries
    unfold Store.serve Builder.step
    generalize builder.apply operation = answer at carries
    cases carries with
    | failed run =>
      rw [run]
      exact ih holds
    | done run later =>
      rw [run]
      exact ih later

end Store

end AtomResolution
