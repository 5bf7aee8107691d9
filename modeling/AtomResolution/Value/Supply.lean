import AtomResolution.Value.Basic

/-!
The supply of construction tokens and storage cells. Both are counters; building an instance takes the next
one of each, and storing a field in an instance builds a new one beside it.
-/

namespace AtomResolution

structure Supply where
  identities : Nat
  storages : Nat
  deriving DecidableEq

namespace Supply

def new : Supply := ⟨0, 0⟩

def build (supply : Supply) (atom : AtomId) (tag : Name) (kind : AtomKind) (fields : List Value) :
    Value × Supply :=
  (.atom ⟨atom, tag, kind, supply.identities, supply.storages⟩ fields,
    ⟨supply.identities + 1, supply.storages + 1⟩)

def rebuild (supply : Supply) (head : Instance) (fields : List Value) : Value × Supply :=
  supply.build head.atom head.tag head.kind fields

end Supply

namespace Value

/-- An instance with one field replaced. The other fields are kept as they are. The token is taken even
where the instance has no such field, and from a primitive nothing is built and nothing taken. -/
def withField? (value : Value) (position : Nat) (new : Value) (supply : Supply) : Option Value × Supply :=
  match value with
  | .atom head fields =>
    if position < fields.length then
      let (rebuilt, supply) := supply.rebuild head (fields.set position new)
      (some rebuilt, supply)
    else (none, { supply with identities := supply.identities + 1 })
  | .int _ | .float _ | .bool _ | .text _ | .nothing => (none, supply)

end Value

end AtomResolution
