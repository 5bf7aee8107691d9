import Mathlib.Data.List.Nodup
import AtomResolution.Proofs.Interner.Session

/-!
The two tables of an interner. A map finds the name of a string and a vector the string of a name; each new string is
entered in both under the next name, as long as there is one. So the two are inverse to each other throughout, and
they give the replies of the list of strings that they hold.
-/

namespace AtomResolution.Interner

inductive InternError where
  | overflow (count : Nat)
  deriving DecidableEq

structure Tables where
  map : Std.HashMap String Name
  strings : Array String

namespace Tables

def empty : Tables := ⟨∅, #[]⟩

def tryIntern (tables : Tables) (string : String) : Except InternError (Name × Tables) :=
  match tables.map[string]? with
  | some name => .ok (name, tables)
  | none =>
    if tables.strings.size < Handle.capacity then
      .ok (⟨tables.strings.size⟩,
        ⟨tables.map.insert string ⟨tables.strings.size⟩, tables.strings.push string⟩)
    else .error (.overflow tables.strings.size)

def reply (tables : Tables) : Call → Except InternError (Reply × Tables)
  | .intern string => do
    let (name, after) ← tables.tryIntern string
    return (.name name, after)
  | .get string => .ok (.found tables.map[string]?, tables)
  | .lookup name => .ok (.string (tables.strings[name.raw]?.getD unknown), tables)

def serve (tables : Tables) : List Call → Except InternError (List (Call × Reply) × Tables)
  | [] => .ok ([], tables)
  | call :: calls => do
    let (reply, after) ← tables.reply call
    let (history, last) ← after.serve calls
    return ((call, reply) :: history, last)

structure Holds (tables : Tables) (names : Interner) : Prop where
  map : ∀ string, tables.map[string]? = names.get? string
  strings : tables.strings.toList = names.strings

variable {tables : Tables} {names : Interner}

theorem holds_empty : empty.Holds Interner.empty := ⟨fun _ => Std.HashMap.getElem?_empty, rfl⟩

theorem Holds.size_eq (holds : tables.Holds names) : tables.strings.size = names.size :=
  congrArg List.length holds.strings

theorem Holds.getElem?_strings (holds : tables.Holds names) (raw : Nat) :
    tables.strings[raw]? = names.strings[raw]? := by
  rw [← holds.strings, Array.getElem?_toList]

theorem Holds.inverse (holds : tables.Holds names) (string : String) (name : Name) :
    tables.map[string]? = some name ↔ tables.strings[name.raw]? = some string := by
  rw [holds.map, get?_eq_some_iff, holds.getElem?_strings]

theorem Holds.tryIntern (holds : tables.Holds names) (string : String)
    (fits : (names.intern string).2.size ≤ Handle.capacity) :
    ∃ after, tables.tryIntern string = .ok ((names.intern string).1, after) ∧
      after.Holds (names.intern string).2 := by
  unfold Tables.tryIntern
  rw [holds.map]
  cases known : names.get? string with
  | some name =>
    rw [intern_of_get? known]
    exact ⟨tables, rfl, holds⟩
  | none =>
    obtain ⟨next, appended⟩ := intern_of_absent known
    have room : tables.strings.size < Handle.capacity := by
      rw [holds.size_eq]
      rw [size_intern_of_absent known] at fits
      omega
    dsimp only
    rw [if_pos room, holds.size_eq, next]
    refine ⟨_, rfl, fun other => ?_, ?_⟩
    · change (tables.map.insert string _)[other]? = _
      rw [Std.HashMap.getElem?_insert]
      by_cases same : string = other
      · subst same
        rw [if_pos (beq_self_eq_true string), get?_intern, next]
      · rw [if_neg (by simpa using same), holds.map]
        ext1 name
        rw [get?_intern_eq_some_iff]
        exact (or_iff_left fun both => same both.1.symm).symm
    · rw [appended, ← holds.strings]
      exact Array.toList_push

theorem Holds.reply (holds : tables.Holds names) (call : Call)
    (fits : (names.reply call).2.size ≤ Handle.capacity) :
    ∃ after, tables.reply call = .ok ((names.reply call).1, after) ∧ after.Holds (names.reply call).2 := by
  cases call with
  | intern string =>
    obtain ⟨after, interned, holdsAfter⟩ := holds.tryIntern string fits
    refine ⟨after, ?_, holdsAfter⟩
    rw [Tables.reply, interned]
    rfl
  | get string =>
    refine ⟨tables, ?_, holds⟩
    rw [Tables.reply, holds.map]
    rfl
  | lookup name =>
    refine ⟨tables, ?_, holds⟩
    rw [Tables.reply, holds.getElem?_strings]
    rfl

theorem Holds.serve (holds : tables.Holds names) (calls : List Call)
    (fits : (names.serve calls).2.size ≤ Handle.capacity) :
    ∃ after, tables.serve calls = .ok ((names.serve calls).1, after) ∧ after.Holds (names.serve calls).2 := by
  induction calls generalizing tables names with
  | nil => exact ⟨tables, rfl, holds⟩
  | cons call calls ih =>
    have room := Nat.le_trans ((names.reply call).2.size_le_serve calls) fits
    obtain ⟨middle, replied, holdsMiddle⟩ := holds.reply call room
    obtain ⟨after, served, holdsAfter⟩ := ih holdsMiddle fits
    refine ⟨after, ?_, holdsAfter⟩
    rw [Tables.serve, replied]
    change (middle.serve calls >>= _) = _
    rw [served]
    rfl

end Tables

/-- From the very beginning, for as long as there are names for all strings, an interner gives names and strings in
one-to-one correspondence, and its map and its vector are inverse to each other. -/
theorem serve_stable (calls : List Call) (fits : (new.serve calls).2.size ≤ Handle.capacity) :
    Stable (empty.serve (sinceEmpty calls)).1 (new.serve calls).2 ∧
    ∃ tables, Tables.empty.serve (sinceEmpty calls) = .ok ((empty.serve (sinceEmpty calls)).1, tables) ∧
      tables.Holds (new.serve calls).2 ∧
      ∀ (string : String) (name : Name),
        tables.map[string]? = some name ↔ tables.strings[name.raw]? = some string := by
  have recorded := recorded_empty.serve (sinceEmpty calls)
  rw [List.nil_append, serve_sinceEmpty] at recorded
  refine ⟨recorded.stable, ?_⟩
  rw [← serve_sinceEmpty] at fits ⊢
  obtain ⟨tables, served, holds⟩ := Tables.holds_empty.serve (sinceEmpty calls) fits
  exact ⟨tables, served, holds, holds.inverse⟩

def words : List Call :=
  [.intern "power", .get "color", .intern "color", .lookup ⟨11⟩, .intern "power", .intern "Int", .lookup ⟨12⟩]

theorem serve_stable_words :
    (new.serve words).2.size ≤ Handle.capacity ∧
    Stable (empty.serve (sinceEmpty words)).1 (new.serve words).2 ∧
    ∃ tables, Tables.empty.serve (sinceEmpty words) = .ok ((empty.serve (sinceEmpty words)).1, tables) ∧
      tables.Holds (new.serve words).2 ∧
      ∀ (string : String) (name : Name),
        tables.map[string]? = some name ↔ tables.strings[name.raw]? = some string :=
  have fits : (new.serve words).2.size ≤ Handle.capacity := by decide
  ⟨fits, serve_stable words fits⟩

end AtomResolution.Interner
