/-!
Handles into the tables of declarations. A handle is the position of an entry in declaration order, and
its type says which kind of entry it designates, so handles of different kinds cannot be confused.
Handles are not bounded; `nextFor?` says how far 32 bits would reach.
-/

namespace AtomResolution

inductive Kind where
  | module
  | atom
  | family
  | interface
  | method
  | conversion
  | body
  deriving DecidableEq, Repr

namespace Kind

def word : Kind → String
  | .module => "module"
  | .atom => "atom"
  | .family => "family"
  | .interface => "interface"
  | .method => "method"
  | .conversion => "conversion"
  | .body => "body"

end Kind

structure Handle (kind : Kind) where
  raw : Nat
  deriving DecidableEq, Repr

abbrev ModuleId := Handle .module
abbrev AtomId := Handle .atom
abbrev FamilyId := Handle .family
abbrev InterfaceId := Handle .interface
abbrev MethodId := Handle .method
abbrev ConversionId := Handle .conversion

/-- A method body is run by the host, which alone knows what the handle designates. -/
abbrev BodyId := Handle .body

namespace Handle

variable {kind : Kind}

def label (handle : Handle kind) : String :=
  kind.word ++ "#" ++ toString handle.raw

def capacity : Nat := Nat.pow 2 32

/-- The handle of the entry that comes next in a table with `length` entries, as long as there is one. -/
def nextFor? (length : Nat) : Option (Handle kind) :=
  if length < capacity then some ⟨length⟩ else none

end Handle

def ModuleId.builtins : ModuleId := ⟨0⟩

namespace AtomId

def int : AtomId := ⟨0⟩
def float : AtomId := ⟨1⟩
def bool : AtomId := ⟨2⟩
def text : AtomId := ⟨3⟩
def nothing : AtomId := ⟨4⟩

def isBuiltin (atom : AtomId) : Bool :=
  atom.raw ≤ nothing.raw

end AtomId

end AtomResolution
