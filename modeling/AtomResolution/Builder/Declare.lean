import AtomResolution.Builder.Basic

/-!
The operations of the load phase. Each returns the handle of what it declared and the builder after it, or
the error that explains why nothing was declared.
-/

namespace AtomResolution.Builder

def declareModule (builder : Builder) (name : Name) : Except RegistryError (ModuleId × Builder) :=
  if (builder.moduleNamed? name).isSome then .error (.duplicateModule name)
  else .ok (builder.modules.next, { builder with modules := builder.modules.push ⟨name, []⟩ })

/-- Adds an import to a module. A module does not import itself, and no module twice. -/
def addImport (imported : ModuleId) (self : ModuleId) (decl : ModuleDecl) : ModuleDecl :=
  if imported = self ∨ decl.imports.contains imported then decl
  else { decl with imports := decl.imports ++ [imported] }

def importModule (builder : Builder) (id imported : ModuleId) : Except RegistryError Builder := do
  builder.checkModule id
  builder.checkModule imported
  return { builder with modules := builder.modules.modify id (addImport imported id) }

def declareFamily (builder : Builder) (owner : ModuleId) (name : Name) (variants : List VariantSpec) :
    Except RegistryError ((FamilyId × List AtomId) × Builder) := do
  builder.checkModule owner
  if (builder.familyNamed? owner name).isSome then throw (.duplicateAtomTag owner name)
  builder.checkVariants owner [] variants
  let family := builder.families.next
  let ids := (List.range' builder.atoms.size variants.length).map fun raw => (⟨raw⟩ : AtomId)
  let decls := variants.map fun variant => ⟨owner, variant.tag, variant.kind, family, variant.fields⟩
  return ((family, ids), { builder with
    atoms := builder.atoms.append decls
    families := builder.families.push ⟨owner, name, ids⟩ })

def declareAtom (builder : Builder) (owner : ModuleId) (variant : VariantSpec) :
    Except RegistryError (AtomId × Builder) := do
  let (_, after) ← builder.declareFamily owner variant.tag [variant]
  return (builder.atoms.next, after)

def declareInterface (builder : Builder) (owner : ModuleId) (name : Name) (supers : List InterfaceId)
    (requirements : List Requirement) : Except RegistryError (InterfaceId × Builder) := do
  builder.checkModule owner
  builder.checkInterfaces supers
  builder.checkParams (requirements.flatMap Requirement.params)
  if (builder.interfaceNamed? owner name).isSome then throw (.duplicateInterface owner name)
  return (builder.interfaces.next,
    { builder with interfaces := builder.interfaces.push ⟨owner, name, supers, requirements⟩ })

def confirm (builder : Builder) (atom : AtomId) (interface : InterfaceId) : Except RegistryError Builder := do
  builder.checkAtom atom
  builder.checkInterfaces [interface]
  return { builder with confirmed := (builder.withSupers interface).foldl (addClaim atom) builder.confirmed }

def declareMethod (builder : Builder) (owner : ModuleId) (name : Name) (receiver : TypeTag)
    (params : List Param) (body : BodyId) : Except RegistryError (MethodId × Builder) := do
  builder.checkModule owner
  builder.checkInterfaces receiver.mentioned
  builder.checkParams params
  let decl : MethodDecl := ⟨owner, name, receiver, params, body, .declared⟩
  if (builder.methodKeyed? decl.key).isSome then throw (.duplicateMethod decl)
  return (builder.methods.next, { builder with methods := builder.methods.push decl })

/-- Declares a conversion. Converting passes no arguments, so every parameter needs a default. -/
def declareConversion (builder : Builder) (owner : ModuleId) (source target : AtomId)
    (params : List Param) (body : BodyId) : Except RegistryError (ConversionId × Builder) := do
  builder.checkModule owner
  builder.checkParams params
  if let some param := params.find? fun param => !param.hasDefault then
    throw (.conversionRequiresArguments source target param.name)
  if (builder.conversionBetween? source target).isSome then throw (.duplicateConversion source target)
  return (builder.conversions.next,
    { builder with conversions := builder.conversions.push ⟨owner, source, target, params, body⟩ })

end AtomResolution.Builder
