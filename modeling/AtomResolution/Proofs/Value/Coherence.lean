import AtomResolution.Proofs.Value.Equality
import AtomResolution.Value.Supply

/-!
The equality of values as a relation. It asks the left instance how to compare, and it takes a shared cell for
equal fields without a look at them. It is a partial equivalence all the same where the instances at hand can
occur together: those of one atom are of one kind, and one cell holds one list of fields.
-/

namespace AtomResolution

namespace Binary64

variable {left middle right : Binary64}

theorem equals_comm (left right : Binary64) : left.equals right = right.equals left := by
  have swapped : decide (left = right) = decide (right = left) := decide_eq_decide.2 eq_comm
  unfold equals
  rw [swapped, Bool.and_comm (!left.isNaN), Bool.and_comm left.isZero]

theorem equals_trans (first : left.equals middle = true) (second : middle.equals right = true) :
    left.equals right = true := by
  unfold equals at first second ⊢
  simp only [Bool.and_eq_true, Bool.or_eq_true, decide_eq_true_eq] at first second ⊢
  obtain ⟨⟨leftNumber, -⟩, leftMiddle⟩ := first
  obtain ⟨⟨-, rightNumber⟩, middleRight⟩ := second
  refine ⟨⟨leftNumber, rightNumber⟩, ?_⟩
  cases leftMiddle with
  | inl same =>
    subst same
    exact middleRight
  | inr zeros =>
    cases middleRight with
    | inl same =>
      subst same
      exact .inr zeros
    | inr others => exact .inr ⟨zeros.1, others.2⟩

end Binary64

namespace Value

mutual

def instances : Value → List (Instance × List Value)
  | .atom head fields => (head, fields) :: instancesAll fields
  | .int _ | .float _ | .bool _ | .text _ | .nothing => []

def instancesAll : List Value → List (Instance × List Value)
  | [] => []
  | field :: fields => field.instances ++ instancesAll fields

end

/-- Instances that can occur together. An atom gives its instances one kind, and the fields that are stored in
one cell are the same ones. -/
structure Coherent (pool : List (Instance × List Value)) : Prop where
  kinds : ∀ one ∈ pool, ∀ other ∈ pool, one.1.atom = other.1.atom → one.1.kind = other.1.kind
  cells : ∀ one ∈ pool, ∀ other ∈ pool, one.1.storage = other.1.storage → one.2 = other.2

/-- The ways for a value to equal another one, without what makes their fields equal. -/
inductive Equated : (left right : Value) → Prop
  | int (number : Int) : Equated (.int number) (.int number)
  | float {left right : Binary64} (equal : left.equals right = true) : Equated (.float left) (.float right)
  | bool (truth : Bool) : Equated (.bool truth) (.bool truth)
  | text (string : String) : Equated (.text string) (.text string)
  | nothing : Equated .nothing .nothing
  | atom {head other : Instance} {fields others : List Value} (sameAtom : head.atom = other.atom)
      (token : head.kind = .anonymous → head.identity = other.identity)
      (content : head.kind = .named → head.storage = other.storage ∨ equalsAll fields others = true) :
      Equated (.atom head fields) (.atom other others)

variable {pool : List (Instance × List Value)} {values fields others : List Value}
  {left middle right value : Value} {head other : Instance}

theorem instances_of_plain (plain : value.head? = none) : value.instances = [] := by
  cases value with
  | atom _ _ => cases plain
  | _ => rfl

theorem mem_instancesAll_iff {one : Instance × List Value} :
    one ∈ instancesAll values ↔ ∃ value ∈ values, one ∈ value.instances := by
  induction values with
  | nil => simp [instancesAll]
  | cons value values ih => rw [instancesAll, List.mem_append, ih, List.exists_mem_cons_iff]

theorem instancesAll_subset_iff :
    instancesAll values ⊆ pool ↔ ∀ value ∈ values, value.instances ⊆ pool := by
  constructor
  · intro inside value among one lies
    exact inside (mem_instancesAll_iff.2 ⟨value, among, lies⟩)
  · intro parts one lies
    obtain ⟨value, among, lies⟩ := mem_instancesAll_iff.1 lies
    exact parts value among lies

theorem instances_subset_of_mem (inside : value ∈ values) : value.instances ⊆ instancesAll values :=
  instancesAll_subset_iff.1 (List.Subset.refl _) value inside

theorem instancesAll_subset (inside : fields ⊆ values) : instancesAll fields ⊆ instancesAll values :=
  instancesAll_subset_iff.2 fun _ among => instances_subset_of_mem (inside among)

theorem equals_atom_iff : equals (.atom head fields) (.atom other others) = true ↔
    head.atom = other.atom ∧ (head.kind = .anonymous → head.identity = other.identity) ∧
      (head.kind = .named → head.storage = other.storage ∨ equalsAll fields others = true) := by
  cases kind : head.kind <;> simp [equals, kind]

theorem equals_iff : left.equals right = true ↔ Equated left right := by
  constructor
  · intro equal
    cases left <;> cases right
    case atom.atom =>
      obtain ⟨sameAtom, token, content⟩ := equals_atom_iff.1 equal
      exact .atom sameAtom token content
    all_goals simp only [equals, Bool.false_eq_true] at equal
    case float.float => exact .float equal
    case nothing.nothing => exact .nothing
    all_goals
      cases of_decide_eq_true equal
      constructor
  · intro equated
    cases equated with
    | float equal => exact equal
    | atom sameAtom token content => exact equals_atom_iff.2 ⟨sameAtom, token, content⟩
    | _ => simp [equals]

theorem equals_symm_of_plain (plain : left.head? = none) (equal : left.equals right = true) :
    right.equals left = true := by
  rw [equals_iff] at equal ⊢
  cases equal with
  | float equal =>
    rw [Binary64.equals_comm] at equal
    exact .float equal
  | atom _ _ _ => cases plain
  | _ => constructor

theorem equals_trans_of_plain (plain : left.head? = none) (first : left.equals middle = true)
    (second : middle.equals right = true) : left.equals right = true := by
  rw [equals_iff] at first second ⊢
  cases first with
  | float first =>
    cases second with
    | float second => exact .float (Binary64.equals_trans first second)
  | atom _ _ _ => cases plain
  | _ => exact second

mutual

theorem Coherent.equals_symm (coherent : Coherent pool) : (left right : Value) →
    left.instances ⊆ pool → right.instances ⊆ pool → left.equals right = true → right.equals left = true
  | .atom head fields, right, leftKnown, rightKnown, equal => by
    rw [equals_iff] at equal ⊢
    cases equal with
    | @atom _ other _ others sameAtom token content =>
      obtain ⟨headKnown, fieldsKnown⟩ := List.cons_subset.1 leftKnown
      obtain ⟨otherKnown, othersKnown⟩ := List.cons_subset.1 rightKnown
      have sameKind := coherent.kinds _ headKnown _ otherKnown sameAtom
      refine .atom sameAtom.symm ?_ ?_
      · intro kind
        exact (token (sameKind.trans kind)).symm
      · intro kind
        refine (content (sameKind.trans kind)).imp Eq.symm ?_
        exact coherent.equalsAll_symm fields others fieldsKnown othersKnown
  | .int _, _, _, _, equal | .float _, _, _, _, equal | .bool _, _, _, _, equal | .text _, _, _, _, equal
  | .nothing, _, _, _, equal => equals_symm_of_plain rfl equal

theorem Coherent.equalsAll_symm (coherent : Coherent pool) : (lefts rights : List Value) →
    instancesAll lefts ⊆ pool → instancesAll rights ⊆ pool → equalsAll lefts rights = true →
      equalsAll rights lefts = true
  | [], [], _, _, equal => equal
  | left :: lefts, right :: rights, leftsKnown, rightsKnown, equal => by
    obtain ⟨leftKnown, leftsKnown⟩ := List.append_subset.1 leftsKnown
    obtain ⟨rightKnown, rightsKnown⟩ := List.append_subset.1 rightsKnown
    rw [equalsAll, Bool.and_eq_true] at equal ⊢
    exact ⟨coherent.equals_symm left right leftKnown rightKnown equal.1,
      coherent.equalsAll_symm lefts rights leftsKnown rightsKnown equal.2⟩

end

mutual

/-- A shared cell on one side and equal fields on the other make equal fields, since one cell holds one list. -/
theorem Coherent.equals_trans (coherent : Coherent pool) : (left middle right : Value) →
    left.instances ⊆ pool → middle.instances ⊆ pool → right.instances ⊆ pool →
      left.equals middle = true → middle.equals right = true → left.equals right = true
  | .atom head fields, middle, right, leftKnown, middleKnown, rightKnown, first, second => by
    rw [equals_iff] at first second ⊢
    cases first with
    | @atom _ other _ others sameAtom token content =>
      cases second with
      | @atom _ third _ thirds sameNext tokenNext contentNext =>
        obtain ⟨headKnown, fieldsKnown⟩ := List.cons_subset.1 leftKnown
        obtain ⟨otherKnown, othersKnown⟩ := List.cons_subset.1 middleKnown
        obtain ⟨thirdKnown, thirdsKnown⟩ := List.cons_subset.1 rightKnown
        have sameKind := coherent.kinds _ headKnown _ otherKnown sameAtom
        refine .atom (sameAtom.trans sameNext) ?_ ?_
        · intro kind
          exact (token kind).trans (tokenNext (sameKind.symm.trans kind))
        · intro kind
          cases content kind with
          | inl shared =>
            have sameFields : fields = others := coherent.cells _ headKnown _ otherKnown shared
            rw [shared, sameFields]
            exact contentNext (sameKind.symm.trans kind)
          | inr equal =>
            refine .inr ?_
            cases contentNext (sameKind.symm.trans kind) with
            | inl shared =>
              have sameFields : others = thirds := coherent.cells _ otherKnown _ thirdKnown shared
              rw [← sameFields]
              exact equal
            | inr equalNext =>
              exact coherent.equalsAll_trans fields others thirds fieldsKnown othersKnown thirdsKnown equal equalNext
  | .int _, _, _, _, _, _, first, second | .float _, _, _, _, _, _, first, second
  | .bool _, _, _, _, _, _, first, second | .text _, _, _, _, _, _, first, second
  | .nothing, _, _, _, _, _, first, second => equals_trans_of_plain rfl first second

theorem Coherent.equalsAll_trans (coherent : Coherent pool) : (lefts middles rights : List Value) →
    instancesAll lefts ⊆ pool → instancesAll middles ⊆ pool → instancesAll rights ⊆ pool →
      equalsAll lefts middles = true → equalsAll middles rights = true → equalsAll lefts rights = true
  | [], [], _, _, _, _, _, second => second
  | left :: lefts, middle :: middles, right :: rights, leftsKnown, middlesKnown, rightsKnown, first, second => by
    obtain ⟨leftKnown, leftsKnown⟩ := List.append_subset.1 leftsKnown
    obtain ⟨middleKnown, middlesKnown⟩ := List.append_subset.1 middlesKnown
    obtain ⟨rightKnown, rightsKnown⟩ := List.append_subset.1 rightsKnown
    rw [equalsAll, Bool.and_eq_true] at first second ⊢
    exact ⟨coherent.equals_trans left middle right leftKnown middleKnown rightKnown first.1 second.1,
      coherent.equalsAll_trans lefts middles rights leftsKnown middlesKnown rightsKnown first.2 second.2⟩

end

/-- Among values that can occur together equality is symmetric and transitive. Only a float that is no number
fails to equal itself, and nothing that holds one does. An instance of a named atom that is built anew from equal
fields equals the old one. -/
theorem Coherent.equals_partialEquivalence (coherent : Coherent (instancesAll values)) :
    (∀ left ∈ values, ∀ right ∈ values, left.equals right = right.equals left) ∧
    (∀ left ∈ values, ∀ middle ∈ values, ∀ right ∈ values,
      left.equals middle = true → middle.equals right = true → left.equals right = true) ∧
    (∀ value : Value, value.equals value = true ↔ ∀ number, value = .float number → number.isNaN = false) ∧
    ∀ (supply : Supply) (tag : Name) (head : Instance) (fields others : List Value), head.kind = .named →
      List.Forall₂ (fun left right => left.equals right = true) fields others →
        (supply.build head.atom tag .named fields).1.equals (.atom head others) = true ∧
        (fields ⊆ values → .atom head others ∈ values →
          (Value.atom head others).equals (supply.build head.atom tag .named fields).1 = true) := by
  have known {value : Value} (inside : value ∈ values) : value.instances ⊆ instancesAll values :=
    instances_subset_of_mem inside
  refine ⟨?_, ?_, fun value => equals_self_iff, ?_⟩
  · intro left leftInside right rightInside
    rw [Bool.eq_iff_iff]
    exact ⟨coherent.equals_symm left right (known leftInside) (known rightInside),
      coherent.equals_symm right left (known rightInside) (known leftInside)⟩
  · intro left leftInside middle middleInside right rightInside
    exact coherent.equals_trans left middle right (known leftInside) (known middleInside) (known rightInside)
  · intro supply tag head fields others named equal
    refine ⟨equals_of_fields rfl rfl equal, fun fieldsInside inside => ?_⟩
    have back := coherent.equalsAll_symm fields others (instancesAll_subset fieldsInside)
      (List.cons_subset.1 (known inside)).2 (equalsAll_iff.2 equal)
    exact equals_of_fields rfl named (equalsAll_iff.1 back)

def machines : List Value :=
  let broken := .atom ⟨⟨5⟩, ⟨12⟩, .named, 0, 0⟩ [.float ⟨0x7ff8000000000000⟩]
  let engine := .atom ⟨⟨7⟩, ⟨15⟩, .anonymous, 1, 1⟩ []
  let part (cell : Nat) (zero : Binary64) := .atom ⟨⟨5⟩, ⟨12⟩, .named, cell, cell⟩ [.float zero]
  let machine (cell : Nat) (own : Value) := .atom ⟨⟨9⟩, ⟨17⟩, .named, cell, cell⟩ [broken, own, engine]
  [machine 3 (part 2 ⟨0⟩), machine 5 (part 4 ⟨0x8000000000000000⟩), machine 7 (part 6 ⟨0⟩)]

theorem Coherent.equals_partialEquivalence_machines :
    Coherent (instancesAll machines) ∧
    (∀ left ∈ machines, ∀ right ∈ machines, left.equals right = right.equals left) ∧
    machines[0].equals machines[1] = true ∧ machines[1].equals machines[2] = true ∧
    machines[0].equals machines[2] = true ∧
    (Supply.build ⟨8, 8⟩ ⟨9⟩ ⟨17⟩ .named machines[0].fields).1.equals machines[1] = true :=
  have coherent : Coherent (instancesAll machines) := ⟨by decide, by decide⟩
  have ⟨symmetric, transitive, _, built⟩ := coherent.equals_partialEquivalence
  have first : machines[0].equals machines[1] = true := by decide
  have second : machines[1].equals machines[2] = true := by decide
  ⟨coherent, symmetric, first, second, transitive _ (by decide) _ (by decide) _ (by decide) first second,
    (built ⟨8, 8⟩ ⟨17⟩ ⟨⟨9⟩, ⟨17⟩, .named, 5, 5⟩ _ _ rfl (equalsAll_iff.1 (by decide))).1⟩

end Value

end AtomResolution
