import AtomResolution.Interner

/-!
What an interner is asked, one call after another, and what it says. The names that it has given out and the strings
that it has been given stand in one-to-one correspondence, which only grows; so both sides may be kept and compared in
place of each other for as long as the interner lives.
-/

namespace AtomResolution.Interner

inductive Call where
  | intern (string : String)
  | get (string : String)
  | lookup (name : Name)
  deriving DecidableEq

inductive Reply where
  | name (name : Name)
  | found (name : Option Name)
  | string (string : String)
  deriving DecidableEq

def reply (names : Interner) : Call → Reply × Interner
  | .intern string => (.name (names.intern string).1, (names.intern string).2)
  | .get string => (.found (names.get? string), names)
  | .lookup name => (.string (names.lookup name), names)

def serve (names : Interner) : List Call → List (Call × Reply) × Interner
  | [] => ([], names)
  | call :: calls =>
    ((call, (names.reply call).1) :: ((names.reply call).2.serve calls).1, ((names.reply call).2.serve calls).2)

def empty : Interner := ⟨[], List.nodup_nil⟩

/-- All that an interner is told from the very beginning: the prelude, which its maker interns, and what follows. -/
def sinceEmpty (calls : List Call) : List Call := prelude.map .intern ++ calls

variable {names : Interner} {string : String} {name : Name} {history : List (Call × Reply)}

theorem serve_append (names : Interner) (calls later : List Call) :
    names.serve (calls ++ later) =
      ((names.serve calls).1 ++ ((names.serve calls).2.serve later).1, ((names.serve calls).2.serve later).2) := by
  induction calls generalizing names with
  | nil => rfl
  | cons call calls ih =>
    rw [List.cons_append, serve, ih]
    rfl

theorem serve_sinceEmpty (calls : List Call) : (empty.serve (sinceEmpty calls)).2 = (new.serve calls).2 := by
  have prepared : (empty.serve (prelude.map .intern)).2 = new := by decide
  rw [sinceEmpty, serve_append, prepared]

/-- A history says of all strings, and of no others, what they are interned as. -/
def Recorded (history : List (Call × Reply)) (names : Interner) : Prop :=
  ∀ string reply, (.intern string, reply) ∈ history ↔ ∃ name, names.get? string = some name ∧ reply = .name name

theorem recorded_empty : Recorded [] empty := by
  intro string reply
  refine iff_of_false List.not_mem_nil fun impossible => ?_
  obtain ⟨name, found, -⟩ := impossible
  cases found

theorem size_intern_of_absent (absent : names.get? string = none) :
    (names.intern string).2.size = names.size + 1 := by
  unfold size
  rw [(intern_of_absent absent).2, List.length_append, List.length_singleton]

theorem get?_intern_eq_some_iff {other : String} : (names.intern other).2.get? string = some name ↔
    names.get? string = some name ∨ string = other ∧ name = (names.intern other).1 := by
  cases known : names.get? other with
  | some there =>
    rw [intern_of_get? known]
    refine (or_iff_left_of_imp fun same => ?_).symm
    rw [same.1, same.2]
    exact known
  | none =>
    obtain ⟨next, appended⟩ := intern_of_absent known
    rw [get?_eq_some_iff, get?_eq_some_iff, next, appended]
    constructor
    · intro found
      rcases Nat.lt_or_ge name.raw names.strings.length with before | behind
      · rw [List.getElem?_append_left before] at found
        exact .inl found
      · rw [List.getElem?_append_right behind] at found
        obtain ⟨bound, rfl⟩ := List.getElem?_eq_some_iff.1 found
        have last : name.raw = names.size := by
          unfold size
          rw [List.length_singleton] at bound
          omega
        exact .inr ⟨by simp, congrArg Name.mk last⟩
    · intro found
      obtain before | ⟨rfl, rfl⟩ := found
      · rw [List.getElem?_append_left (List.getElem?_eq_some_iff.1 before).1]
        exact before
      · exact List.getElem?_concat_length

theorem Recorded.reply (recorded : Recorded history names) (call : Call) :
    Recorded (history ++ [(call, (names.reply call).1)]) (names.reply call).2 := by
  intro string answer
  rw [List.mem_append, recorded string answer, List.mem_singleton]
  cases call with
  | intern other =>
    change _ ↔ ∃ name, (names.intern other).2.get? string = some name ∧ answer = .name name
    constructor
    · intro told
      obtain ⟨name, known, rfl⟩ | same := told
      · exact ⟨name, get?_intern_of_get? known, rfl⟩
      · cases same
        exact ⟨_, names.get?_intern string, rfl⟩
    · intro told
      obtain ⟨name, known, rfl⟩ := told
      obtain before | ⟨rfl, rfl⟩ := get?_intern_eq_some_iff.1 known
      · exact .inl ⟨name, before, rfl⟩
      · exact .inr rfl
  | get other => exact or_iff_left fun impossible => nomatch impossible
  | lookup name => exact or_iff_left fun impossible => nomatch impossible

theorem Recorded.serve (recorded : Recorded history names) (calls : List Call) :
    Recorded (history ++ (names.serve calls).1) (names.serve calls).2 := by
  induction calls generalizing history names with
  | nil =>
    change Recorded (history ++ []) names
    rw [List.append_nil]
    exact recorded
  | cons call calls ih =>
    have onward := ih (recorded.reply call)
    rw [List.append_assoc, List.singleton_append] at onward
    exact onward

theorem get?_serve_of_get? (known : names.get? string = some name) (calls : List Call) :
    (names.serve calls).2.get? string = some name := by
  induction calls generalizing names with
  | nil => exact known
  | cons call calls ih =>
    cases call with
    | intern other => exact ih (get?_intern_of_get? known)
    | get other => exact ih known
    | lookup name => exact ih known

theorem size_le_serve (names : Interner) (calls : List Call) : names.size ≤ (names.serve calls).2.size := by
  induction calls generalizing names with
  | nil => exact Nat.le_refl _
  | cons call calls ih =>
    have grows : names.size ≤ (names.reply call).2.size := by
      cases call with
      | intern string => exact (names.strings_intern string).length_le
      | get string => exact Nat.le_refl _
      | lookup name => exact Nat.le_refl _
    exact Nat.le_trans grows (ih _)

/-- The names that an interner gave out and the strings it was given stand in one-to-one correspondence, and go on to
do so: with its history, and whatever it is asked later. -/
structure Stable (history : List (Call × Reply)) (names : Interner) : Prop where
  handedOut : ∀ name, (∃ string, (.intern string, .name name) ∈ history) ↔ name.raw < names.size
  injective : ∀ string other name another, (.intern string, .name name) ∈ history →
    (.intern other, .name another) ∈ history → (name = another ↔ string = other)
  lookup_intern : ∀ string name, (.intern string, .name name) ∈ history →
    ∀ later, (names.serve later).2.lookup name = string
  intern_lookup : ∀ name, name.raw < names.size → names.intern (names.lookup name) = (name, names)
  get_iff : ∀ string name, names.get? string = some name ↔ name.raw < names.size ∧ names.lookup name = string
  grows : ∀ string, (∀ reply, (.intern string, reply) ∉ history) →
    (names.reply (.intern string)).2.size = names.size + 1
  keeps : ∀ call, (∀ string, call = .intern string → ∃ reply, (call, reply) ∈ history) → (names.reply call).2 = names
  lookup_later : ∀ name, name.raw < names.size → ∀ later, (names.serve later).2.lookup name = names.lookup name
  lookup_unknown : ∀ name, names.size ≤ name.raw → names.reply (.lookup name) = (.string unknown, names)

theorem Recorded.mem_iff (recorded : Recorded history names) :
    (.intern string, .name name) ∈ history ↔ names.get? string = some name := by
  rw [recorded]
  constructor
  · intro told
    obtain ⟨other, known, same⟩ := told
    cases same
    exact known
  · intro known
    exact ⟨name, known, rfl⟩

theorem get?_iff_lookup : names.get? string = some name ↔ name.raw < names.size ∧ names.lookup name = string := by
  constructor
  · intro known
    exact ⟨lt_size_of_get? known, lookup_of_get? known⟩
  · intro stands
    obtain ⟨inside, rfl⟩ := stands
    exact get?_lookup inside

theorem Recorded.stable (recorded : Recorded history names) : Stable history names where
  handedOut name := by
    simp only [recorded.mem_iff, get?_iff_lookup, exists_and_left]
    exact and_iff_left ⟨_, rfl⟩
  injective string other name another given also := by
    rw [recorded.mem_iff] at given also
    constructor
    · intro same
      exact (lookup_of_get? given).symm.trans (same ▸ lookup_of_get? also)
    · intro same
      exact Option.some.inj (given.symm.trans (same ▸ also))
  lookup_intern string name given later := lookup_of_get? (get?_serve_of_get? (recorded.mem_iff.1 given) later)
  intern_lookup name inside := intern_of_get? (get?_lookup inside)
  get_iff string name := get?_iff_lookup
  grows string unseen := by
    cases known : names.get? string with
    | some name => exact absurd (recorded.mem_iff.2 known) (unseen _)
    | none => exact size_intern_of_absent known
  keeps call seen := by
    cases call with
    | intern string =>
      obtain ⟨answer, told⟩ := seen string rfl
      obtain ⟨name, known, -⟩ := (recorded string answer).1 told
      exact congrArg Prod.snd (intern_of_get? known)
    | get string => rfl
    | lookup name => rfl
  lookup_later name inside later := lookup_of_get? (get?_serve_of_get? (get?_lookup inside) later)
  lookup_unknown name outside := by
    have absent : names.lookup name = unknown := by
      unfold lookup
      rw [List.getElem?_eq_none outside, Option.getD_none]
    exact congrArg (fun string => (Reply.string string, names)) absent

end AtomResolution.Interner
