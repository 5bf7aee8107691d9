import AtomResolution.Dispatch.Prepare

/-!
The places of a call, seen from outside: what value stands at a place, and what pattern a method has there.
The slots of a call are its places in order, each once.
-/

namespace AtomResolution

namespace Position

def ordinal : Position → Nat
  | .receiver => 0
  | .arg index => index + 1

theorem exists_ordinal (count : Nat) : ∃ position : Position, position.ordinal = count := by
  cases count with
  | zero => exact ⟨.receiver, rfl⟩
  | succ index => exact ⟨.arg index, rfl⟩

def valueIn? (receiver : Value) (args : List Value) : Position → Option Value
  | .receiver => some receiver
  | .arg index => args[index]?

end Position

def CallSite.valueAt? (site : CallSite) (position : Position) : Option Value :=
  position.valueIn? site.receiver site.args

def PreparedCall.valueAt? (call : PreparedCall) (position : Position) : Option Value :=
  position.valueIn? call.receiver call.args

def MethodDecl.patternAt? (decl : MethodDecl) : Position → Option TypeTag
  | .receiver => some decl.receiver
  | .arg index => decl.params[index]?.map Param.pattern

theorem MethodDecl.exists_patternAt {decl : MethodDecl} {position : Position}
    (within : position.ordinal ≤ decl.params.length) : ∃ pattern, decl.patternAt? position = some pattern := by
  cases position with
  | receiver => exact ⟨decl.receiver, rfl⟩
  | arg index =>
    have bound : index < decl.params.length := within
    exact ⟨decl.params[index].pattern, by simp [patternAt?, bound]⟩

/-- A value of a call meets a pattern of a method at a place. -/
def CallSite.Meets (site : CallSite) (decl : MethodDecl) (position : Position) (value : Value)
    (pattern : TypeTag) : Prop :=
  site.valueAt? position = some value ∧ decl.patternAt? position = some pattern

namespace CallSite

variable {site : CallSite} {decl : MethodDecl}

theorem exists_valueAt_iff {position : Position} :
    (∃ value, site.valueAt? position = some value) ↔ position.ordinal ≤ site.args.length := by
  cases position with
  | receiver => simp [valueAt?, Position.valueIn?, Position.ordinal]
  | arg index =>
    rw [valueAt?, Position.valueIn?, Position.ordinal, Nat.succ_le_iff, ← Option.isSome_iff_exists]
    simp

theorem mem_slots {slot : Slot} :
    slot ∈ site.slots decl ↔
      ∃ value, site.Meets decl slot.position value slot.pattern ∧ value.atomId = slot.actual := by
  obtain ⟨position, actual, pattern⟩ := slot
  cases position with
  | receiver =>
    simp only [slots, Meets, valueAt?, Position.valueIn?, MethodDecl.patternAt?, List.mem_cons, List.mem_map,
      Slot.mk.injEq, reduceCtorEq, false_and, and_false, exists_false, or_false, true_and, Option.some.injEq]
    constructor
    · rintro ⟨rfl, rfl⟩
      exact ⟨site.receiver, ⟨rfl, rfl⟩, rfl⟩
    · rintro ⟨value, ⟨rfl, rfl⟩, rfl⟩
      exact ⟨rfl, rfl⟩
  | arg index =>
    simp only [slots, Meets, valueAt?, Position.valueIn?, MethodDecl.patternAt?, List.mem_cons, List.mem_map,
      Prod.exists, Slot.mk.injEq, reduceCtorEq, false_and, false_or, List.mem_zipIdx_iff_getElem?,
      List.getElem?_zip_eq_some, Option.map_eq_some_iff, Position.arg.injEq]
    constructor
    · rintro ⟨value, param, place, ⟨holds, asks⟩, rfl, rfl, rfl⟩
      exact ⟨value, ⟨holds, param, asks, rfl⟩, rfl⟩
    · rintro ⟨value, ⟨holds, param, asks, rfl⟩, rfl⟩
      exact ⟨value, param, index, ⟨holds, asks⟩, rfl, rfl, rfl⟩

theorem slots_ordered (site : CallSite) (decl : MethodDecl) :
    (site.slots decl).Pairwise fun earlier later => earlier.position.ordinal < later.position.ordinal := by
  unfold slots
  rw [List.pairwise_cons]
  constructor
  · intro slot inside
    obtain ⟨place, _, rfl⟩ := List.mem_map.1 inside
    exact Nat.succ_pos _
  · rw [List.pairwise_map, List.pairwise_iff_getElem]
    intro earlier later _ _ before
    simpa [Position.ordinal] using before

end CallSite

end AtomResolution
