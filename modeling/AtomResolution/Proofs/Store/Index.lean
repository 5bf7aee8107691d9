import Mathlib.Data.List.Nodup
import AtomResolution.Catalog.Basic

/-!
Hash indexes beside a table. An index that is brought up to date with every entry that the table gets finds
what a scan of the table finds, as long as no two entries share a key.
-/

namespace AtomResolution

deriving instance Hashable for Kind, Handle, Name

instance : Hashable InterfaceSet := ⟨fun set => hash set.members⟩

deriving instance Hashable for TypeTag, MethodKey

namespace Table

variable {kind : Kind} {α κ : Type}

theorem find?_push (table : Table kind α) (entry : α) (test : α → Bool) :
    (table.push entry).find? test = (table.find? test).or (if test entry then some table.next else none) := by
  unfold find? push next size
  rw [List.findIdx?_append]
  cases table.entries.findIdx? test with
  | some _ => rfl
  | none =>
    rw [List.findIdx?_singleton]
    cases test entry <;> simp

theorem find?_modify (table : Table kind α) (handle : Handle kind) {change : α → α} {test : α → Bool}
    (unseen : ∀ entry, test (change entry) = test entry) :
    (table.modify handle change).find? test = table.find? test := by
  have same : (table.entries.modify handle.raw change).map test = table.entries.map test := by
    ext1 raw
    rw [List.getElem?_map, List.getElem?_map, List.getElem?_modify]
    cases table.entries[raw]? with
    | none => rfl
    | some entry =>
      apply congrArg some
      split
      · exact unseen entry
      · rfl
  unfold find? modify
  have findIdx?_eq (entries : List α) : entries.findIdx? test = (entries.map test).findIdx? id := by
    rw [List.findIdx?_map, Function.id_comp]
  rw [findIdx?_eq, findIdx?_eq table.entries, same]

theorem enum_push (table : Table kind α) (entry : α) :
    (table.push entry).enum = table.enum ++ [(table.next, entry)] := by
  unfold enum push next size
  rw [List.zipIdx_append, List.map_append]
  simp

def keyed [DecidableEq κ] (table : Table kind α) (key : α → κ) (wanted : κ) : List (Handle kind) :=
  (table.enum.filter fun (_, entry) => key entry = wanted).map Prod.fst

theorem keyed_push [DecidableEq κ] (table : Table kind α) (entry : α) (key : α → κ) (wanted : κ) :
    (table.push entry).keyed key wanted =
      table.keyed key wanted ++ if key entry = wanted then [table.next] else [] := by
  unfold keyed
  rw [enum_push, List.filter_append, List.map_append]
  by_cases same : key entry = wanted <;> simp [same]

theorem filterMap_get? (table : Table kind α) {listed : List (Handle kind × α)} (inside : listed ⊆ table.enum) :
    (listed.map Prod.fst).filterMap (fun handle => (table.get? handle).map fun entry => (handle, entry)) =
      listed := by
  have leadsBack (pair : Handle kind × α) (present : pair ∈ listed) :
      (table.get? pair.1).map (fun entry => (pair.1, entry)) = some pair := by
    rw [mem_enum.1 (inside present)]
    rfl
  rw [List.filterMap_map]
  exact (List.filterMap_congr leadsBack).trans List.filterMap_some

end Table

structure Indexed (kind : Kind) {α κ : Type} [BEq κ] [Hashable κ] (key : α → κ) where
  table : Table kind α
  index : Std.HashMap κ (Handle kind)

namespace Indexed

variable {kind : Kind} {α κ : Type} [DecidableEq κ] [BEq κ] [Hashable κ] {key : α → κ}

def empty : Indexed kind key := ⟨.empty, ∅⟩

def push (indexed : Indexed kind key) (entry : α) : Indexed kind key :=
  ⟨indexed.table.push entry, indexed.index.insert (key entry) indexed.table.next⟩

def insert (indexed : Indexed kind key) (entry : α) : Option (Handle kind) × Indexed kind key :=
  if indexed.index.contains (key entry) then (none, indexed)
  else (some indexed.table.next, indexed.push entry)

def Agrees (indexed : Indexed kind key) : Prop :=
  ∀ wanted, indexed.index[wanted]? = indexed.table.find? fun entry => key entry = wanted

theorem agrees_empty : (empty : Indexed kind key).Agrees := by
  intro wanted
  exact Std.HashMap.getElem?_empty

variable [LawfulBEq κ] {indexed : Indexed kind key}

theorem Agrees.contains_eq (agrees : indexed.Agrees) (wanted : κ) :
    indexed.index.contains wanted = (indexed.table.find? fun entry => key entry = wanted).isSome := by
  rw [← agrees wanted, Std.HashMap.contains_eq_isSome_getElem?]

/-- A later entry with the key of an earlier one would be found in its stead, so its key has to be free. -/
theorem Agrees.push (agrees : indexed.Agrees) (entry : α)
    (free : (indexed.table.find? fun other => key other = key entry) = none) : (indexed.push entry).Agrees := by
  intro wanted
  change (indexed.index.insert (key entry) indexed.table.next)[wanted]? = _
  rw [Std.HashMap.getElem?_insert]
  change _ = (indexed.table.push entry).find? _
  rw [Table.find?_push]
  by_cases same : key entry = wanted
  · subst same
    simp [free]
  · simp [same, agrees wanted]

theorem Agrees.insert_of_taken (agrees : indexed.Agrees) (entry : α)
    (taken : (indexed.table.find? fun other => key other = key entry).isSome = true) :
    indexed.insert entry = (none, indexed) := by
  unfold insert
  rw [agrees.contains_eq, if_pos taken]

theorem Agrees.insert_of_free (agrees : indexed.Agrees) (entry : α)
    (free : (indexed.table.find? fun other => key other = key entry) = none) :
    indexed.insert entry = (some indexed.table.next, indexed.push entry) := by
  unfold insert
  rw [agrees.contains_eq, free]
  rfl

end Indexed

/-- Lists of handles, one list for each key. -/
abbrev Groups (kind : Kind) (κ : Type) [BEq κ] [Hashable κ] := Std.HashMap κ (List (Handle kind))

namespace Groups

variable {kind : Kind} {α κ : Type} [DecidableEq κ] [BEq κ] [Hashable κ] {table : Table kind α} {key : α → κ}

def listed (groups : Groups kind κ) (wanted : κ) : List (Handle kind) :=
  groups.getD wanted []

def add (groups : Groups kind κ) (wanted : κ) (handle : Handle kind) : Groups kind κ :=
  groups.insert wanted (groups.listed wanted ++ [handle])

def Agrees (groups : Groups kind κ) (table : Table kind α) (key : α → κ) : Prop :=
  ∀ wanted, groups.listed wanted = table.keyed key wanted

theorem agrees_empty : Agrees (∅ : Groups kind κ) (.empty : Table kind α) key := by
  intro wanted
  exact Std.HashMap.getD_empty

theorem Agrees.push [LawfulBEq κ] {groups : Groups kind κ} (agrees : groups.Agrees table key) (entry : α) :
    (groups.add (key entry) table.next).Agrees (table.push entry) key := by
  intro wanted
  unfold add listed
  rw [Std.HashMap.getD_insert, Table.keyed_push, ← agrees wanted]
  by_cases same : key entry = wanted
  · subst same
    simp [listed]
  · simp [same, listed]

end Groups

def AtomDecl.key (decl : AtomDecl) : ModuleId × Name := (decl.owner, decl.tag)

def FamilyDecl.key (decl : FamilyDecl) : ModuleId × Name := (decl.owner, decl.name)

def InterfaceDecl.key (decl : InterfaceDecl) : ModuleId × Name := (decl.owner, decl.name)

def ConversionDecl.key (decl : ConversionDecl) : AtomId × AtomId := (decl.source, decl.target)

namespace Catalog

variable (catalog : Catalog)

theorem atomNamed?_eq (owner : ModuleId) (tag : Name) :
    catalog.atomNamed? owner tag = catalog.atoms.find? fun decl => decl.key = (owner, tag) := by
  unfold atomNamed? AtomDecl.key
  simp only [Prod.mk.injEq]

theorem familyNamed?_eq (owner : ModuleId) (name : Name) :
    catalog.familyNamed? owner name = catalog.families.find? fun decl => decl.key = (owner, name) := by
  unfold familyNamed? FamilyDecl.key
  simp only [Prod.mk.injEq]

theorem interfaceNamed?_eq (owner : ModuleId) (name : Name) :
    catalog.interfaceNamed? owner name = catalog.interfaces.find? fun decl => decl.key = (owner, name) := by
  unfold interfaceNamed? InterfaceDecl.key
  simp only [Prod.mk.injEq]

theorem conversionBetween?_eq (source target : AtomId) :
    catalog.conversionBetween? source target =
      catalog.conversions.find? fun decl => decl.key = (source, target) := by
  unfold conversionBetween? ConversionDecl.key
  simp only [Prod.mk.injEq]

end Catalog

end AtomResolution
