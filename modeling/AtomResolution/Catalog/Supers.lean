import AtomResolution.Catalog.Basic

/-!
The interfaces that an interface extends, directly or through others. They are listed breadth first, each
once, and the interface itself comes first.
-/

namespace AtomResolution.Catalog

def supersOf (catalog : Catalog) (interface : InterfaceId) : List InterfaceId :=
  ((catalog.interfaces.get? interface).map InterfaceDecl.supers).getD []

def addMissing (listed more : List InterfaceId) : List InterfaceId :=
  more.foldl (fun listed interface => if listed.contains interface then listed else listed ++ [interface]) listed

/-- Expands a list from position `next` on: the supers of each member are appended in turn. -/
def expand (catalog : Catalog) : (steps next : Nat) → (listed : List InterfaceId) → List InterfaceId
  | 0, _, listed => listed
  | steps + 1, next, listed =>
    match listed[next]? with
    | none => listed
    | some current => expand catalog steps (next + 1) (addMissing listed (catalog.supersOf current))

/-- All supers that any interface names, with repeats: no list of interfaces grows by more than these. -/
def allSupers (catalog : Catalog) : List InterfaceId :=
  catalog.interfaces.entries.flatMap InterfaceDecl.supers

def withSupers (catalog : Catalog) (interface : InterfaceId) : List InterfaceId :=
  catalog.expand (catalog.allSupers.length + 1) 0 [interface]

end AtomResolution.Catalog
