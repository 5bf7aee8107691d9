import AtomResolution.Handle

/-!
Finite sets of interfaces, held as the strictly ascending list of their members. A set has one such list,
so equal sets are equal values, and membership is decided by binary search.
-/

namespace AtomResolution

structure InterfaceSet where
  members : List InterfaceId
  ascending : members.Pairwise (fun lower upper => lower.raw < upper.raw)
  deriving DecidableEq

namespace InterfaceSet

def empty : InterfaceSet := ⟨[], .nil⟩

def single (interface : InterfaceId) : InterfaceSet :=
  ⟨[interface], List.pairwise_singleton _ _⟩

def place (interface : InterfaceId) : List InterfaceId → List InterfaceId
  | [] => [interface]
  | member :: rest =>
    if interface.raw < member.raw then interface :: member :: rest
    else if interface = member then member :: rest
    else member :: place interface rest

theorem mem_place {interface wanted : InterfaceId} {members : List InterfaceId} :
    wanted ∈ place interface members ↔ wanted = interface ∨ wanted ∈ members := by
  induction members with
  | nil => simp [place]
  | cons member rest ih =>
    unfold place
    split
    · simp
    · split
      next same => simp [same]
      next => simp only [List.mem_cons, ih]; grind

theorem place_ascending {interface : InterfaceId} {members : List InterfaceId}
    (ascending : members.Pairwise (fun lower upper => lower.raw < upper.raw)) :
    (place interface members).Pairwise (fun lower upper => lower.raw < upper.raw) := by
  induction members with
  | nil => exact List.pairwise_singleton _ _
  | cons member rest ih =>
    obtain ⟨above, tail⟩ := List.pairwise_cons.1 ascending
    unfold place
    split
    next below =>
      refine List.pairwise_cons.2 ⟨fun other inside => ?_, ascending⟩
      rcases List.mem_cons.1 inside with rfl | inside
      · exact below
      · exact Nat.lt_trans below (above other inside)
    next notBelow =>
      split
      next => exact ascending
      next different =>
        refine List.pairwise_cons.2 ⟨fun other inside => ?_, ih tail⟩
        rcases mem_place.1 inside with rfl | inside
        · have apart : other.raw ≠ member.raw := fun same => different (by cases other; cases member; simp_all)
          omega
        · exact above other inside

def insert (set : InterfaceSet) (interface : InterfaceId) : InterfaceSet :=
  ⟨place interface set.members, place_ascending set.ascending⟩

def ofList (interfaces : List InterfaceId) : InterfaceSet :=
  interfaces.foldr (fun interface set => set.insert interface) empty

instance : Membership InterfaceId InterfaceSet := ⟨fun set interface => interface ∈ set.members⟩

theorem mem_ofList {interfaces : List InterfaceId} {interface : InterfaceId} :
    interface ∈ ofList interfaces ↔ interface ∈ interfaces := by
  change interface ∈ (ofList interfaces).members ↔ _
  induction interfaces with
  | nil => simp [ofList, empty]
  | cons first rest ih =>
    change interface ∈ place first (ofList rest).members ↔ _
    rw [mem_place, ih, List.mem_cons]

def size (set : InterfaceSet) : Nat := set.members.length

def isEmpty (set : InterfaceSet) : Bool := set.members.isEmpty

/-- Binary search in an ascending list, over at most `steps` halvings. -/
def search : (steps : Nat) → List InterfaceId → InterfaceId → Bool
  | 0, _, _ => false
  | steps + 1, members, wanted =>
    match members.drop (members.length / 2) with
    | [] => false
    | middle :: upper =>
      if wanted = middle then true
      else if wanted.raw < middle.raw then search steps (members.take (members.length / 2)) wanted
      else search steps upper wanted

theorem search_iff {steps : Nat} {members : List InterfaceId} {wanted : InterfaceId}
    (ascending : members.Pairwise (fun lower upper => lower.raw < upper.raw)) (enough : members.length ≤ steps) :
    search steps members wanted = true ↔ wanted ∈ members := by
  induction steps generalizing members with
  | zero => simp [search, List.length_eq_zero_iff.1 (Nat.le_zero.1 enough)]
  | succ steps ih =>
    unfold search
    split
    next dropped =>
      have short := congrArg List.length dropped
      simp only [List.length_drop, List.length_nil] at short
      have empty : members = [] := List.length_eq_zero_iff.1 (by omega)
      simp [empty]
    next middle upper cut =>
      have whole : members.take (members.length / 2) ++ middle :: upper = members := by
        rw [← cut, List.take_append_drop]
      have size := congrArg List.length whole
      simp only [List.length_append, List.length_take, List.length_cons] at size
      obtain ⟨lowerAscending, upperAscending, across⟩ := List.pairwise_append.1 (whole ▸ ascending)
      obtain ⟨above, upperAscending⟩ := List.pairwise_cons.1 upperAscending
      have membership : wanted ∈ members ↔
          wanted ∈ members.take (members.length / 2) ∨ wanted = middle ∨ wanted ∈ upper := by
        rw [← List.mem_cons, ← List.mem_append, whole]
      rw [membership]
      split
      next same => simp [same]
      next different =>
        split
        next below =>
          rw [ih lowerAscending (by simp only [List.length_take]; omega)]
          refine ⟨Or.inl, fun inside => inside.resolve_right ?_⟩
          rintro (same | inside)
          · exact different same
          · exact absurd (above wanted inside) (by omega)
        next notBelow =>
          rw [ih upperAscending (by omega)]
          refine ⟨fun inside => .inr (.inr inside), ?_⟩
          rintro (inside | same | inside)
          · exact absurd (across wanted inside middle List.mem_cons_self) notBelow
          · exact absurd same different
          · exact inside

def contains (set : InterfaceSet) (interface : InterfaceId) : Bool :=
  search set.size set.members interface

theorem contains_iff {set : InterfaceSet} {interface : InterfaceId} :
    set.contains interface = true ↔ interface ∈ set :=
  search_iff set.ascending (Nat.le_refl _)

def isSupersetOf (set other : InterfaceSet) : Bool :=
  other.members.all set.contains

instance : Ord InterfaceSet :=
  ⟨fun left right => compare (left.members.map Handle.raw) (right.members.map Handle.raw)⟩

end InterfaceSet

end AtomResolution
