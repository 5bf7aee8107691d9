import AtomResolution.Lens.Get

/-!
What a field layout says. A layout that states a declaration gives the first position of each name there, so a
field is found where it stands unless an earlier one has its name.
-/

namespace AtomResolution

/-- The position of a name is its first one among the field names that its atom declares. -/
def FieldLayout.States (layout : FieldLayout) (declared : AtomId → List Name) : Prop :=
  ∀ atom field, layout atom field = (declared atom).idxOf? field

def Catalog.fieldNames (catalog : Catalog) (atom : AtomId) : List Name :=
  ((catalog.shape? atom).getD []).map FieldSpec.name

namespace FieldLayout.States

variable {layout : FieldLayout} {declared : AtomId → List Name} {atom : AtomId} {field : Name} {position : Nat}

theorem eq_some_iff (states : layout.States declared) : layout atom field = some position ↔
    (declared atom)[position]? = some field ∧ ∀ earlier < position, (declared atom)[earlier]? ≠ some field := by
  rw [states, List.idxOf?_eq_some_iff]
  constructor
  · intro found
    obtain ⟨inside, here, first⟩ := found
    refine ⟨List.getElem?_eq_some_iff.2 ⟨inside, here⟩, fun earlier before there => ?_⟩
    exact first earlier before (List.getElem?_eq_some_iff.1 there).2
  · intro found
    obtain ⟨inside, here⟩ := List.getElem?_eq_some_iff.1 found.1
    refine ⟨inside, here, fun earlier before there => ?_⟩
    exact found.2 earlier before (List.getElem?_eq_some_iff.2 ⟨by omega, there⟩)

theorem isSome_iff (states : layout.States declared) :
    (layout atom field).isSome = true ↔ field ∈ declared atom := by
  rw [states, List.isSome_idxOf?]

theorem exists_first (states : layout.States declared) (here : (declared atom)[position]? = some field) :
    ∃ first ≤ position, layout atom field = some first ∧
      (first = position ↔ ∀ earlier < position, (declared atom)[earlier]? ≠ some field) := by
  obtain ⟨first, found⟩ := Option.isSome_iff_exists.1 (states.isSome_iff.2 (List.mem_of_getElem? here))
  obtain ⟨there, before⟩ := states.eq_some_iff.1 found
  have bound : first ≤ position := Nat.le_of_not_lt fun later => before position later here
  refine ⟨first, bound, found, ?_⟩
  constructor
  · intro same
    exact same ▸ before
  · intro absent
    exact Nat.le_antisymm bound (Nat.le_of_not_lt fun earlier => absent first earlier there)

theorem nodup_iff (states : layout.States declared) : (declared atom).Nodup ↔
    ∀ position field, (declared atom)[position]? = some field → layout atom field = some position := by
  constructor
  · intro distinct position field here
    refine states.eq_some_iff.2 ⟨here, fun earlier before there => ?_⟩
    have inside := (List.getElem?_eq_some_iff.1 there).1
    exact Nat.ne_of_lt before ((List.getElem?_inj inside distinct).1 (there.trans here.symm))
  · intro found
    refine List.pairwise_iff_getElem.2 fun earlier later inside alsoInside before same => ?_
    have here := List.getElem?_eq_some_iff.2 ⟨inside, same⟩
    have there := List.getElem?_eq_getElem alsoInside
    exact Nat.ne_of_lt before (Option.some.inj ((found earlier _ here).symm.trans (found later _ there)))

end FieldLayout.States

theorem FieldLayout.states_ofRows (rows : List (AtomId × List Name)) :
    (ofRows rows).States fun atom => ((rows.find? fun row => row.1 = atom).map Prod.snd).getD [] := by
  intro atom field
  unfold ofRows
  dsimp only
  cases rows.find? fun row => row.1 = atom with
  | none => rfl
  | some row => rfl

section

variable {catalog : Catalog} {atom : AtomId} {specs : List FieldSpec}

theorem Catalog.fieldNames_of_shape? (declared : catalog.shape? atom = some specs) :
    catalog.fieldNames atom = specs.map FieldSpec.name := by
  unfold fieldNames
  rw [declared, Option.getD_some]

theorem Catalog.getElem?_fieldNames_iff (declared : catalog.shape? atom = some specs) {position : Nat} {name : Name} :
    (catalog.fieldNames atom)[position]? = some name ↔ ∃ spec, specs[position]? = some spec ∧ spec.name = name := by
  rw [fieldNames_of_shape? declared, List.getElem?_map, Option.map_eq_some_iff]

end

theorem Registry.states_layout (registry : Registry) : registry.layout.States registry.fieldNames := by
  intro atom field
  unfold layout Catalog.fieldIndex? Catalog.fieldNames Catalog.shape?
  cases registry.atoms.get? atom with
  | none => rfl
  | some decl =>
    change decl.fields.findIdx? (fun spec => spec.name = field) =
      (decl.fields.map FieldSpec.name).findIdx? (· == field)
    rw [List.findIdx?_map]
    rfl

end AtomResolution
