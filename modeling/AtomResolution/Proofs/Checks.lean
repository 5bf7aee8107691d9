/-!
Sequences of checks. One succeeds if all its checks do, and its error is that of the first one that fails.
-/

namespace AtomResolution

variable {ε α β : Type} {check : Except ε α} {next : α → Except ε β} {change : α → β} {result : β} {error : ε}

theorem bind_eq_ok_iff : (check >>= next) = .ok result ↔ ∃ value, check = .ok value ∧ next value = .ok result := by
  cases check with
  | ok value => exact ⟨fun done => ⟨value, rfl, done⟩, fun ⟨_, same, done⟩ => (by cases same; exact done)⟩
  | error _ => exact ⟨fun impossible => (by cases impossible), fun ⟨_, impossible, _⟩ => (by cases impossible)⟩

theorem map_eq_ok_iff : check.map change = .ok result ↔ ∃ value, check = .ok value ∧ change value = result := by
  cases check with
  | ok value => simp [Except.map]
  | error _ => simp [Except.map]

end AtomResolution
