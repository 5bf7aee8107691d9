import AtomResolution.Builder.Freeze
import AtomResolution.Proofs.Store.Index

/-!
The load phase in place. A store keeps hash indexes beside its tables and is changed piece by piece: what a
program has written when it fails stays written.
-/

namespace AtomResolution

structure Store where
  modules : Indexed .module ModuleDecl.name
  atoms : Indexed .atom AtomDecl.key
  families : Indexed .family FamilyDecl.key
  interfaces : Indexed .interface InterfaceDecl.key
  confirmed : List (AtomId × InterfaceId)
  /-- The confirmed claims as a set. -/
  claimed : Std.HashSet (AtomId × InterfaceId)
  methods : Indexed .method MethodDecl.key
  methodsByName : Groups .method Name
  conversions : Indexed .conversion ConversionDecl.key
  conversionsBySource : Groups .conversion AtomId

namespace Store

def builder (store : Store) : Builder where
  modules := store.modules.table
  atoms := store.atoms.table
  families := store.families.table
  interfaces := store.interfaces.table
  methods := store.methods.table
  conversions := store.conversions.table
  confirmed := store.confirmed

def methodsNamed (store : Store) (name : Name) : List (MethodId × MethodDecl) :=
  (store.methodsByName.listed name).filterMap fun id => (store.methods.table.get? id).map fun decl => (id, decl)

def conversionsFrom (store : Store) (source : AtomId) : List (ConversionId × ConversionDecl) :=
  (store.conversionsBySource.listed source).filterMap fun id =>
    (store.conversions.table.get? id).map fun decl => (id, decl)

def declareModule (name : Name) (store : Store) : Option ModuleId × Store :=
  let (id, modules) := store.modules.insert ⟨name, []⟩
  (id, { store with modules })

def addImport (id imported : ModuleId) (store : Store) : Store :=
  { store with modules.table := store.modules.table.modify id (Builder.addImport imported id) }

def pushVariants (owner : ModuleId) (family : FamilyId) (store : Store) : List VariantSpec → List AtomId × Store
  | [] => ([], store)
  | variant :: variants =>
    let id := store.atoms.table.next
    let store := { store with
      atoms := store.atoms.push ⟨owner, variant.tag, variant.kind, family, variant.fields⟩ }
    let (ids, store) := store.pushVariants owner family variants
    (id :: ids, store)

def pushFamily (owner : ModuleId) (name : Name) (variants : List VariantSpec) (store : Store) :
    (FamilyId × List AtomId) × Store :=
  let family := store.families.table.next
  let (ids, store) := store.pushVariants owner family variants
  ((family, ids), { store with families := store.families.push ⟨owner, name, ids⟩ })

def declareInterface (decl : InterfaceDecl) (store : Store) : Option InterfaceId × Store :=
  let (id, interfaces) := store.interfaces.insert decl
  (id, { store with interfaces })

def addClaim (atom : AtomId) (store : Store) (interface : InterfaceId) : Store :=
  if store.claimed.contains (atom, interface) then store
  else { store with
    confirmed := store.confirmed ++ [(atom, interface)]
    claimed := store.claimed.insert (atom, interface) }

def insertMethod (decl : MethodDecl) (store : Store) : Option MethodId × Store :=
  match store.methods.insert decl with
  | (none, methods) => (none, { store with methods })
  | (some id, methods) => (some id, { store with methods, methodsByName := store.methodsByName.add decl.name id })

def insertConversion (decl : ConversionDecl) (store : Store) : Option ConversionId × Store :=
  match store.conversions.insert decl with
  | (none, conversions) => (none, { store with conversions })
  | (some id, conversions) =>
    (some id, { store with
      conversions, conversionsBySource := store.conversionsBySource.add decl.source id })

def empty : Store := ⟨.empty, .empty, .empty, .empty, [], ∅, .empty, ∅, .empty, ∅⟩

def new : Store :=
  Builder.builtinTags.foldl (fun store tag => (store.pushFamily ModuleId.builtins tag [⟨tag, .named, []⟩]).2)
    (empty.declareModule Name.builtins).2

end Store

abbrev Loading := EStateM RegistryError Store

namespace Loading

def checkModule (id : ModuleId) : Loading Unit := do
  let store ← get
  if store.modules.table.contains id then return ()
  throw (.unknownModule id)

def checkInterface (id : InterfaceId) : Loading Unit := do
  let store ← get
  if store.interfaces.table.contains id then return ()
  throw (.unknownInterface id)

def checkAtom (id : AtomId) : Loading Unit := do
  let store ← get
  if store.atoms.table.contains id then return ()
  throw (.unknownAtom id)

def checkType (type : TypeTag) : Loading Unit :=
  type.mentioned.forM checkInterface

def checkParams (params : List Param) : Loading Unit :=
  params.forM fun param => checkType param.pattern

def checkVariants (owner : ModuleId) : (earlier : List Name) → List VariantSpec → Loading Unit
  | _, [] => return ()
  | earlier, variant :: variants => do
    let store ← get
    if earlier.contains variant.tag || store.atoms.index.contains (owner, variant.tag) then
      throw (.duplicateAtomTag owner variant.tag)
    variant.fields.forM fun field => checkType field.type
    checkVariants owner (variant.tag :: earlier) variants

def insertOr {α : Type} (error : RegistryError) (insert : Store → Option α × Store) : Loading α := do
  match ← modifyGet insert with
  | some id => return id
  | none => throw error

def declareModule (name : Name) : Loading ModuleId :=
  insertOr (.duplicateModule name) (Store.declareModule name)

def importModule (id imported : ModuleId) : Loading Unit := do
  checkModule id
  checkModule imported
  modify (Store.addImport id imported)

def declareFamily (owner : ModuleId) (name : Name) (variants : List VariantSpec) :
    Loading (FamilyId × List AtomId) := do
  checkModule owner
  if (← get).families.index.contains (owner, name) then throw (.duplicateAtomTag owner name)
  checkVariants owner [] variants
  modifyGet (Store.pushFamily owner name variants)

def declareAtom (owner : ModuleId) (variant : VariantSpec) : Loading AtomId := do
  let (_, ids) ← declareFamily owner variant.tag [variant]
  return ids.headD AtomId.nothing

def declareInterface (owner : ModuleId) (name : Name) (supers : List InterfaceId)
    (requirements : List Requirement) : Loading InterfaceId := do
  checkModule owner
  supers.forM checkInterface
  requirements.forM fun requirement => checkParams requirement.params
  insertOr (.duplicateInterface owner name) (Store.declareInterface ⟨owner, name, supers, requirements⟩)

def confirm (atom : AtomId) (interface : InterfaceId) : Loading Unit := do
  checkAtom atom
  checkInterface interface
  modify fun store => (store.builder.withSupers interface).foldl (Store.addClaim atom) store

def declareMethod (owner : ModuleId) (name : Name) (receiver : TypeTag) (params : List Param) (body : BodyId) :
    Loading MethodId := do
  checkModule owner
  checkType receiver
  checkParams params
  let decl : MethodDecl := ⟨owner, name, receiver, params, body, .declared⟩
  insertOr (.duplicateMethod decl) (Store.insertMethod decl)

def declareConversion (owner : ModuleId) (source target : AtomId) (params : List Param) (body : BodyId) :
    Loading ConversionId := do
  checkModule owner
  checkParams params
  if let some param := params.find? fun param => !param.hasDefault then
    throw (.conversionRequiresArguments source target param.name)
  insertOr (.duplicateConversion source target) (Store.insertConversion ⟨owner, source, target, params, body⟩)

def perform : Operation → Loading Declared
  | .declareModule name => return .module (← declareModule name)
  | .importModule id imported => do
    importModule id imported
    return .nothing
  | .declareAtom owner variant => return .atom (← declareAtom owner variant)
  | .declareFamily owner name variants => do
    let (family, ids) ← declareFamily owner name variants
    return .family family ids
  | .declareInterface owner name supers requirements =>
    return .interface (← declareInterface owner name supers requirements)
  | .confirm atom interface => do
    confirm atom interface
    return .nothing
  | .declareMethod owner name receiver params body =>
    return .method (← declareMethod owner name receiver params body)
  | .declareConversion owner source target params body =>
    return .conversion (← declareConversion owner source target params body)

/-- Whether an atom itself has what a requirement asks for, read off the index of the methods. -/
def defines (store : Store) (atom : AtomId) (requirement : Requirement) : Bool :=
  ((store.methodsNamed requirement.name).any fun (_, decl) =>
      decl.receiver = .atom atom ∧ decl.params.length = requirement.params.length) ||
    (requirement.params.isEmpty && (store.builder.fieldIndex? atom requirement.name).isSome)

def synthesise (atom : AtomId) (interface : InterfaceId) (owner : ModuleId) :
    List Requirement → Loading (List MethodDecl)
  | [] => return []
  | requirement :: requirements => do
    if defines (← get) atom requirement then synthesise atom interface owner requirements
    else match requirement.defaultBody with
      | none => throw (.incompleteConformance atom interface requirement.name)
      | some body =>
        let synthesised ← synthesise atom interface owner requirements
        return Catalog.defaultMethod atom interface owner requirement body :: synthesised

def materialise (atom : AtomId) (interface : InterfaceId) : Loading Unit := do
  match (← get).interfaces.table.get? interface with
  | none => return ()
  | some decl =>
    let synthesised ← synthesise atom interface decl.owner decl.requirements
    modify fun store => synthesised.foldl (fun store method => (store.insertMethod method).2) store

def materialiseAll : List (AtomId × InterfaceId) → Loading Unit
  | [] => return ()
  | (atom, interface) :: claims => do
    materialise atom interface
    materialiseAll claims

end Loading

structure FrozenStore extends Store where
  satisfied : List (AtomId × InterfaceId)

namespace Store

def freeze (store : Store) : Except RegistryError FrozenStore :=
  match (Loading.materialiseAll store.confirmed).run store with
  | .ok _ frozen => .ok { frozen with satisfied := frozen.builder.satisfaction }
  | .error error _ => .error error

def serve (store : Store) : List Operation → List (Except RegistryError Declared) × Store
  | [] => ([], store)
  | operation :: operations =>
    match (Loading.perform operation).run store with
    | .ok declared after =>
      let (answers, last) := after.serve operations
      (.ok declared :: answers, last)
    | .error error after =>
      let (answers, last) := after.serve operations
      (.error error :: answers, last)

end Store

end AtomResolution
