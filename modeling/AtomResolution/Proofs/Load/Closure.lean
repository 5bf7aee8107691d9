import Mathlib.Computability.StateTransition
import AtomResolution.Proofs.Load.Ledger

/-!
The closure of supers as a scan that only the end of its list can stop. It comes to that end on every table, even
where supers run in circles or are not declared, since it lists no interface twice and none that no interface names;
and what it has listed by then is the closure.
-/

namespace AtomResolution.Catalog

variable {catalog : Catalog} {interface other : InterfaceId} {listed : List InterfaceId} {next : Nat}

structure Scan where
  next : Nat
  listed : List InterfaceId
  deriving DecidableEq

def Scan.start (interface : InterfaceId) : Scan := ⟨0, [interface]⟩

def Scan.finish (listed : List InterfaceId) : Scan := ⟨listed.length, listed⟩

/-- One round of the scan: it appends those supers of the next member that are not listed yet. At the end of the
list there is no next member and no further round. -/
def scanRound (catalog : Catalog) (scan : Scan) : Option Scan :=
  scan.listed[scan.next]?.map fun current => ⟨scan.next + 1, addMissing scan.listed (catalog.supersOf current)⟩

theorem scanRound_finish (listed : List InterfaceId) : catalog.scanRound (.finish listed) = none := by
  unfold scanRound Scan.finish
  rw [List.getElem?_eq_none (Nat.le_refl _), Option.map_none]

theorem Expanding.round {scan after : Scan} (expanding : catalog.Expanding interface scan.next scan.listed)
    (round : catalog.scanRound scan = some after) : catalog.Expanding interface after.next after.listed := by
  obtain ⟨current, here, rfl⟩ := Option.map_eq_some_iff.1 round
  exact expanding.step here

theorem Expanding.rounds {scan after : Scan} (expanding : catalog.Expanding interface scan.next scan.listed)
    (reaches : StateTransition.Reaches catalog.scanRound scan after) :
    catalog.Expanding interface after.next after.listed := by
  induction reaches with
  | refl => exact expanding
  | tail _ round ih => exact ih.round round

theorem Expanding.reaches_finish {steps : Nat} (expanding : catalog.Expanding interface next listed)
    (inside : next ≤ listed.length) (enough : catalog.allSupers.length + 1 ≤ steps + next) :
    StateTransition.Reaches catalog.scanRound ⟨next, listed⟩ (.finish (catalog.expand steps next listed)) := by
  induction steps generalizing next listed with
  | zero =>
    have bound := expanding.length_le
    have atEnd : next = listed.length := by omega
    rw [Catalog.expand, atEnd]
    exact .refl
  | succ steps ih =>
    rw [Catalog.expand]
    split
    next past =>
      have atEnd : next = listed.length := Nat.le_antisymm inside (List.getElem?_eq_none_iff.1 past)
      rw [atEnd]
      exact .refl
    next current here =>
      have round : catalog.scanRound ⟨next, listed⟩ =
          some ⟨next + 1, addMissing listed (catalog.supersOf current)⟩ := by
        unfold scanRound
        rw [here, Option.map_some]
      have further : next + 1 ≤ (addMissing listed (catalog.supersOf current)).length := by
        have kept := (prefix_addMissing listed (catalog.supersOf current)).length_le
        have bound := (List.getElem?_eq_some_iff.1 here).1
        omega
      exact .head round (ih (expanding.step here) further (by omega))

theorem eval_scanRound (catalog : Catalog) (interface : InterfaceId) :
    StateTransition.eval catalog.scanRound (.start interface) = Part.some (.finish (catalog.withSupers interface)) := by
  apply Part.eq_some_iff.2
  apply StateTransition.mem_eval.2
  refine ⟨?_, scanRound_finish _⟩
  exact (Expanding.initial catalog interface).reaches_finish (Nat.zero_le _) (Nat.le_refl _)

theorem SupersBelow.lt_of_extends (below : catalog.SupersBelow) (reaches : catalog.Extends interface other)
    (different : other ≠ interface) : other.raw < interface.raw := by
  apply Nat.lt_of_le_of_ne (below.le_of_extends reaches)
  intro same
  exact different (congrArg Handle.mk same)

/-- On every table the scan of supers ends, and the list it ends with starts with the interface, has nothing twice
and holds exactly the interfaces that can be reached from it. After a load sequence all others stand before it. -/
theorem withSupers_closure :
    (∀ (catalog : Catalog) (interface : InterfaceId),
      StateTransition.eval catalog.scanRound (.start interface) =
          Part.some (.finish (catalog.withSupers interface)) ∧
        (catalog.withSupers interface).head? = some interface ∧
        (catalog.withSupers interface).Nodup ∧
        ∀ other, other ∈ catalog.withSupers interface ↔ catalog.Extends interface other) ∧
      ∀ (operations : List Operation) (interface : InterfaceId),
        ∀ other ∈ (Builder.new.run operations).withSupers interface,
          other ≠ interface → other.raw < interface.raw := by
  constructor
  · intro catalog interface
    have ends := catalog.eval_scanRound interface
    have reaches := (StateTransition.mem_eval.1 (Part.eq_some_iff.1 ends)).1
    have expanding := (Expanding.initial catalog interface).rounds reaches
    exact ⟨ends, expanding.starts, expanding.once, fun _ => mem_withSupers_iff⟩
  · intro operations interface other inside different
    have below := (Builder.loads_ledger operations).supersBelow
    exact below.lt_of_extends (mem_withSupers_iff.1 inside) different

def circle : Catalog :=
  { Builder.new.toCatalog with
    interfaces := ⟨[⟨⟨0⟩, ⟨20⟩, [⟨1⟩, ⟨9⟩], []⟩, ⟨⟨0⟩, ⟨21⟩, [⟨2⟩, ⟨1⟩, ⟨2⟩], []⟩, ⟨⟨0⟩, ⟨22⟩, [⟨9⟩, ⟨0⟩], []⟩]⟩ }

def sharedSuper : List Operation :=
  [.declareInterface ⟨0⟩ ⟨20⟩ [] [], .declareInterface ⟨0⟩ ⟨21⟩ [⟨0⟩] [], .declareInterface ⟨0⟩ ⟨22⟩ [⟨0⟩] [],
    .declareInterface ⟨0⟩ ⟨23⟩ [⟨2⟩, ⟨1⟩] []]

theorem withSupers_closure_circle :
    StateTransition.eval circle.scanRound (.start ⟨0⟩) = Part.some ⟨4, [⟨0⟩, ⟨1⟩, ⟨9⟩, ⟨2⟩]⟩ ∧
      (Builder.new.run sharedSuper).withSupers ⟨3⟩ = [⟨3⟩, ⟨2⟩, ⟨1⟩, ⟨0⟩] ∧
      (⟨0⟩ : InterfaceId).raw < (⟨3⟩ : InterfaceId).raw :=
  ⟨(withSupers_closure.1 circle ⟨0⟩).1, rfl, withSupers_closure.2 sharedSuper ⟨3⟩ ⟨0⟩ (by decide) (by decide)⟩

end AtomResolution.Catalog
