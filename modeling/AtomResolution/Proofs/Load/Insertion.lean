import Mathlib.Order.Monotone.Basic
import AtomResolution.Proofs.Load.Rearrangement

/-!
Load sequences with more declarations in between. Further methods and conversions change nothing but the tables
of these, and to the table of methods they add entries between the others, which keep their order.
-/

namespace AtomResolution

/-- A list, and the same list with further entries of some kind anywhere in between. -/
inductive Inserts {α : Type} (further : α → Prop) : List α → List α → Prop
  | nil : Inserts further [] []
  | keep {list other : List α} (entry : α) (rest : Inserts further list other) :
      Inserts further (entry :: list) (entry :: other)
  | insert {list other : List α} {entry : α} (isFurther : further entry) (rest : Inserts further list other) :
      Inserts further list (entry :: other)

namespace Inserts

variable {α β : Type} {further : α → Prop} {list other : List α}

theorem mono {weaker : α → Prop} (inserts : Inserts further list other)
    (implies : ∀ entry, further entry → weaker entry) : Inserts weaker list other := by
  induction inserts with
  | nil => exact .nil
  | keep entry _ ih => exact .keep entry ih
  | insert isFurther _ ih => exact .insert (implies _ isFurther) ih

theorem append_right (inserts : Inserts further list other) (suffix : List α) :
    Inserts further (list ++ suffix) (other ++ suffix) := by
  induction inserts with
  | nil =>
    induction suffix with
    | nil => exact .nil
    | cons entry _ ih => exact .keep entry ih
  | keep entry _ ih => exact .keep entry ih
  | insert isFurther _ ih => exact .insert isFurther ih

theorem filterMap {pick : α → Option β} {property : β → Prop}
    (picked : ∀ entry, further entry → ∀ made, pick entry = some made → property made)
    (inserts : Inserts further list other) : Inserts property (list.filterMap pick) (other.filterMap pick) := by
  induction inserts with
  | nil => exact .nil
  | keep entry _ ih =>
    rw [List.filterMap_cons, List.filterMap_cons]
    cases pick entry with
    | none => exact ih
    | some made => exact .keep made ih
  | @insert _ _ entry isFurther _ ih =>
    rw [List.filterMap_cons]
    cases made : pick entry with
    | none => exact ih
    | some _ => exact .insert (picked entry isFurther _ made) ih

theorem filter_eq (inserts : Inserts further list other) (test : α → Bool)
    (unseen : ∀ entry, further entry → test entry = false) : other.filter test = list.filter test := by
  induction inserts with
  | nil => rfl
  | keep entry _ ih => rw [List.filter_cons, List.filter_cons, ih]
  | insert isFurther _ ih => rw [List.filter_cons_of_neg (by simp [unseen _ isFurther]), ih]

theorem exists_positions (inserts : Inserts further list other) :
    ∃ position : Nat → Nat, StrictMono position ∧
      (∀ index entry, list[index]? = some entry → other[position index]? = some entry) ∧
      ∀ test : α → Bool, (∀ entry, further entry → test entry = false) →
        (other.zipIdx.filter fun (entry, _) => test entry) =
          (list.zipIdx.filter fun (entry, _) => test entry).map fun (entry, index) => (entry, position index) := by
  have shifted (test : α → Bool) (entries : List α) : ((entries.zipIdx 1).filter fun (entry, _) => test entry) =
      (entries.zipIdx.filter fun (entry, _) => test entry).map fun (entry, index) => (entry, index + 1) := by
    rw [List.zipIdx_succ, List.filter_map]
    rfl
  induction inserts with
  | nil => exact ⟨id, strictMono_id, fun _ _ found => found, fun _ _ => rfl⟩
  | @keep list other entry _ ih =>
    obtain ⟨position, ascending, kept, found⟩ := ih
    refine ⟨fun index => index.casesOn 0 fun index => position index + 1, ?_, ?_, ?_⟩
    · apply strictMono_nat_of_lt_succ
      rintro (_ | index)
      · exact Nat.succ_pos _
      · exact Nat.succ_lt_succ (ascending (Nat.lt_succ_self index))
    · rintro (_ | index) held here
      · exact here
      · exact kept index held here
    · intro test unseen
      rw [List.zipIdx_cons, List.zipIdx_cons, List.filter_cons, List.filter_cons, shifted, shifted,
        found test unseen, List.map_map]
      dsimp only
      split
      · rw [List.map_cons, List.map_map]
        rfl
      · rw [List.map_map]
        rfl
  | @insert list other entry isFurther _ ih =>
    obtain ⟨position, ascending, kept, found⟩ := ih
    refine ⟨fun index => position index + 1, fun _ _ before => Nat.succ_lt_succ (ascending before), kept, ?_⟩
    intro test unseen
    rw [List.zipIdx_cons, List.filter_cons_of_neg (by simp [unseen entry isFurther]), shifted, found test unseen,
      List.map_map]
    rfl

end Inserts

/-- A declaration that has nothing to do with calls to a method of some name: a conversion, or a method of another
name that no interface asks for. -/
inductive Ledger.Unrelated (ledger : Ledger) (called : Name) : Operation → Prop
  | conversion {owner : ModuleId} {source target : AtomId} {params : List Param} {body : BodyId} :
      Unrelated ledger called (.declareConversion owner source target params body)
  | method {owner : ModuleId} {name : Name} {receiver : TypeTag} {params : List Param} {body : BodyId}
      (other : name ≠ called)
      (unasked : ∀ interface requirement, ledger.Requires interface requirement → requirement.name ≠ name) :
      Unrelated ledger called (.declareMethod owner name receiver params body)

namespace Builder

def withoutCallables (builder : Builder) : Builder := { builder with methods := .empty, conversions := .empty }

theorem erases_callables :
    Erases withoutCallables fun operation => operation.isMethod || operation.isConversion where
  initial := rfl
  dropped applies isLoose := by
    cases applies with
    | declareMethod _ => rfl
    | declareConversion _ => rfl
    | _ => cases isLoose
  kept applies isFirm := by
    obtain ⟨noMethod, noConversion⟩ := Bool.or_eq_false_iff.1 isFirm
    exact applies.withTables noMethod noConversion .empty .empty

/-- A load sequence that succeeds, and the same with further declarations in between that succeed as well and have
nothing to do with calls to a method of some name. -/
structure Inserted (called : Name) (original extended : List Operation) : Prop where
  accepted : new.Accepts original
  extendedAccepted : new.Accepts extended
  inserts : Inserts ((new.ledger original).Unrelated called) original extended

namespace Inserted

variable {called : Name} {original extended : List Operation} (inserted : Inserted called original extended)

include inserted

theorem erased_eq : (new.run original).withoutCallables = (new.run extended).withoutCallables := by
  have originalRun := erases_callables.run inserted.accepted
  have extendedRun := erases_callables.run inserted.extendedAccepted
  have sameOthers := inserted.inserts.filter_eq fun operation => !(operation.isMethod || operation.isConversion)
  rw [sameOthers fun operation unrelated => by cases unrelated <;> rfl] at extendedRun
  exact originalRun.trans extendedRun.symm

theorem confirmed_eq : (new.run original).confirmed = (new.run extended).confirmed :=
  congrArg (fun builder => builder.confirmed) inserted.erased_eq

theorem modules_eq : (new.run original).modules = (new.run extended).modules :=
  congrArg (fun builder => builder.modules) inserted.erased_eq

theorem methods : Inserts (fun decl => decl.name ≠ called ∧ ∀ interface requirement,
      (new.ledger original).Requires interface requirement → requirement.name ≠ decl.name)
    (new.run original).methods.entries (new.run extended).methods.entries := by
  rw [methods_run inserted.accepted, methods_run inserted.extendedAccepted]
  refine inserted.inserts.filterMap ?_
  intro operation unrelated made declares
  cases unrelated with
  | conversion => cases declares
  | method other unasked =>
    cases declares
    exact ⟨other, unasked⟩

theorem conversions_eq (onlyMethods : Inserts (fun operation => operation.isMethod = true) original extended) :
    (new.run original).conversions = (new.run extended).conversions := by
  have originalRun := erases_methods.run inserted.accepted
  have extendedRun := erases_methods.run inserted.extendedAccepted
  have sameOthers := onlyMethods.filter_eq fun operation => !operation.isMethod
  rw [sameOthers fun operation isMethod => by rw [isMethod]; rfl] at extendedRun
  exact congrArg (fun builder => builder.conversions) (originalRun.trans extendedRun.symm)

end Inserted

end Builder

end AtomResolution
