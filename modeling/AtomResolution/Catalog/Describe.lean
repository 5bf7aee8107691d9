import AtomResolution.Catalog.Basic

/-!
The text of declarations and types, for messages. A handle that designates nothing shows as itself.
-/

namespace AtomResolution.Catalog

def describeModule (names : Interner) (catalog : Catalog) (id : ModuleId) : String :=
  match catalog.modules.get? id with
  | some decl => names.lookup decl.name
  | none => id.label

def describeAtom (names : Interner) (catalog : Catalog) (id : AtomId) : String :=
  match catalog.atoms.get? id with
  | some decl => names.lookup decl.tag
  | none => id.label

def describeInterface (names : Interner) (catalog : Catalog) (id : InterfaceId) : String :=
  match catalog.interfaces.get? id with
  | some decl => names.lookup decl.name
  | none => id.label

/-- A type as `Int`, `HasName & HasPhone`, `Dynamic` or `Any`; the empty set of interfaces is `Any`. -/
def describeType (names : Interner) (catalog : Catalog) : TypeTag → String
  | .atom id => catalog.describeAtom names id
  | .interfaces set =>
    if set.isEmpty then "Any" else " & ".intercalate (set.members.map (catalog.describeInterface names))
  | .dynamic => "Dynamic"
  | .any => "Any"

def describeParam (names : Interner) (catalog : Catalog) (param : Param) : String :=
  names.lookup param.name ++ ": " ++ catalog.describeType names param.pattern ++
    if param.hasDefault then " = _" else ""

/-- A method as `Module.name(self: Receiver, p: Pattern, q: Pattern = _)`. -/
def describeSignature (names : Interner) (catalog : Catalog) (decl : MethodDecl) : String :=
  let self := "self: " ++ catalog.describeType names decl.receiver
  catalog.describeModule names decl.owner ++ "." ++ names.lookup decl.name ++ "(" ++
    ", ".intercalate (self :: decl.params.map (catalog.describeParam names)) ++ ")"

def describeMethod (names : Interner) (catalog : Catalog) (id : MethodId) : String :=
  match catalog.methods.get? id with
  | some decl => catalog.describeSignature names decl
  | none => id.label

end AtomResolution.Catalog
