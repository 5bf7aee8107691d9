import AtomResolution.Handle

/-!
Tables of declarations. A table is the list of its entries in declaration order, it only grows at its end,
and the handle of an entry is its position; so an entry once declared stays where it is.
-/

namespace AtomResolution

structure Table (kind : Kind) (α : Type) where
  entries : List α
  deriving DecidableEq

namespace Table

variable {kind : Kind} {α : Type}

def empty : Table kind α := ⟨[]⟩

def size (table : Table kind α) : Nat := table.entries.length

def get? (table : Table kind α) (handle : Handle kind) : Option α :=
  table.entries[handle.raw]?

def contains (table : Table kind α) (handle : Handle kind) : Bool :=
  handle.raw < table.size

def next (table : Table kind α) : Handle kind := ⟨table.size⟩

def push (table : Table kind α) (entry : α) : Table kind α :=
  ⟨table.entries ++ [entry]⟩

def append (table : Table kind α) (entries : List α) : Table kind α :=
  ⟨table.entries ++ entries⟩

def modify (table : Table kind α) (handle : Handle kind) (change : α → α) : Table kind α :=
  ⟨table.entries.modify handle.raw change⟩

def find? (table : Table kind α) (test : α → Bool) : Option (Handle kind) :=
  (table.entries.findIdx? test).map Handle.mk

def handles (table : Table kind α) : List (Handle kind) :=
  (List.range table.size).map Handle.mk

def enum (table : Table kind α) : List (Handle kind × α) :=
  table.entries.zipIdx.map fun (entry, raw) => (⟨raw⟩, entry)

theorem get?_push_of_get? {table : Table kind α} {handle : Handle kind} {entry new : α}
    (found : table.get? handle = some entry) : (table.push new).get? handle = some entry := by
  have bound := (List.getElem?_eq_some_iff.1 found).1
  simpa [get?, push, List.getElem?_append_left bound] using found

theorem get?_append_of_get? {table : Table kind α} {handle : Handle kind} {entry : α} {new : List α}
    (found : table.get? handle = some entry) : (table.append new).get? handle = some entry := by
  have bound := (List.getElem?_eq_some_iff.1 found).1
  simpa [get?, append, List.getElem?_append_left bound] using found

theorem append_nil (table : Table kind α) : table.append [] = table := by
  unfold append
  rw [List.append_nil]

theorem append_cons (table : Table kind α) (entry : α) (entries : List α) :
    table.append (entry :: entries) = (table.push entry).append entries := by
  unfold append push
  rw [List.append_assoc, List.singleton_append]

theorem append_append (table : Table kind α) (first second : List α) :
    (table.append first).append second = table.append (first ++ second) := by
  unfold append
  rw [List.append_assoc]

@[simp] theorem get?_push_next (table : Table kind α) (new : α) :
    (table.push new).get? table.next = some new := by
  simp [get?, push, next, size]

@[simp] theorem size_push (table : Table kind α) (new : α) : (table.push new).size = table.size + 1 := by
  simp [size, push]

theorem contains_iff {table : Table kind α} {handle : Handle kind} :
    table.contains handle = true ↔ ∃ entry, table.get? handle = some entry := by
  unfold contains
  rw [decide_eq_true_iff]
  exact ⟨fun bound => ⟨_, List.getElem?_eq_getElem bound⟩, fun ⟨_, found⟩ => (List.getElem?_eq_some_iff.1 found).1⟩

theorem get?_of_find? {table : Table kind α} {test : α → Bool} {handle : Handle kind}
    (found : table.find? test = some handle) : ∃ entry, table.get? handle = some entry ∧ test entry = true := by
  obtain ⟨raw, here, rfl⟩ := Option.map_eq_some_iff.1 found
  obtain ⟨bound, passes, _⟩ := List.findIdx?_eq_some_iff_getElem.1 here
  exact ⟨table.entries[raw], List.getElem?_eq_getElem bound, passes⟩

theorem get?_modify (table : Table kind α) (handle other : Handle kind) (change : α → α) :
    (table.modify handle change).get? other =
      (table.get? other).map fun entry => if handle = other then change entry else entry := by
  obtain ⟨raw⟩ := handle
  obtain ⟨position⟩ := other
  unfold modify get?
  rw [List.getElem?_modify]
  simp only [Handle.mk.injEq]
  rfl

theorem mem_enum {table : Table kind α} {handle : Handle kind} {entry : α} :
    (handle, entry) ∈ table.enum ↔ table.get? handle = some entry := by
  simp only [enum, get?, List.mem_map, Prod.exists, Prod.mk.injEq]
  constructor
  · rintro ⟨found, raw, inside, rfl, rfl⟩
    simpa [List.mem_zipIdx_iff_getElem?] using inside
  · intro found
    exact ⟨entry, handle.raw, by simpa [List.mem_zipIdx_iff_getElem?] using found, rfl, rfl⟩

theorem mem_entries_iff {table : Table kind α} {entry : α} :
    entry ∈ table.entries ↔ ∃ handle, table.get? handle = some entry := by
  rw [List.mem_iff_getElem?]
  exact ⟨fun ⟨raw, found⟩ => ⟨⟨raw⟩, found⟩, fun ⟨handle, found⟩ => ⟨handle.raw, found⟩⟩

theorem map_enum (table : Table kind α) : table.enum.map Prod.snd = table.entries := by
  unfold enum
  rw [List.map_map]
  exact List.zipIdx_map_fst 0 table.entries

theorem mem_handles_iff {table : Table kind α} {handle : Handle kind} :
    handle ∈ table.handles ↔ table.contains handle = true := by
  unfold handles contains
  rw [List.mem_map, decide_eq_true_iff]
  exact ⟨fun ⟨_, inside, same⟩ => same ▸ List.mem_range.1 inside, fun bound => ⟨_, List.mem_range.2 bound, rfl⟩⟩

theorem enum_ascending (table : Table kind α) :
    table.enum.Pairwise fun earlier later => earlier.1.raw < later.1.raw := by
  unfold enum
  rw [List.pairwise_map, List.pairwise_iff_getElem]
  intro earlier later _ _ before
  simpa using before

theorem get?_append_iff {table : Table kind α} {handle : Handle kind} {entry : α} {new : List α} :
    (table.append new).get? handle = some entry ↔
      table.get? handle = some entry ∨
        ∃ position, handle = ⟨table.size + position⟩ ∧ new[position]? = some entry := by
  constructor
  · intro found
    rcases Nat.lt_or_ge handle.raw table.entries.length with inside | outside
    · rw [get?, append, List.getElem?_append_left inside] at found
      exact .inl found
    · rw [get?, append, List.getElem?_append_right outside] at found
      exact .inr ⟨_, congrArg Handle.mk (Nat.add_sub_cancel' outside).symm, found⟩
  · rintro (found | ⟨position, rfl, found⟩)
    · exact get?_append_of_get? found
    · rw [get?, append, size, List.getElem?_append_right (Nat.le_add_right _ _), Nat.add_sub_cancel_left]
      exact found

/-- A table that grew by one entry holds what it held and the new entry. -/
theorem get?_push_iff {table : Table kind α} {handle : Handle kind} {entry new : α} :
    (table.push new).get? handle = some entry ↔
      table.get? handle = some entry ∨ handle = table.next ∧ entry = new := by
  have grown : (table.push new).get? handle = some entry ↔ _ := @get?_append_iff _ _ table handle entry [new]
  rw [grown]
  refine or_congr_right ⟨?_, ?_⟩
  · rintro ⟨position, rfl, found⟩
    cases position with
    | zero => exact ⟨rfl, (Option.some.inj found).symm⟩
    | succ _ => cases found
  · rintro ⟨rfl, rfl⟩
    exact ⟨0, rfl, rfl⟩

end Table

end AtomResolution
