import AtomResolution.Dispatch.Resolve
import AtomResolution.Proofs.Dispatch.Places

/-!
Which methods a call may resolve to, said without lists of candidates: a method suits a call if it is
declared under the called name in a module that the call sees and takes as many arguments. The methods in
scope are those that suit.
-/

namespace AtomResolution

theorem length_dropWhile_le_iff {α : Type} {test : α → Bool} {list : List α} {count : Nat} :
    (list.dropWhile test).length ≤ count ↔ ∀ entry ∈ list.take (list.length - count), test entry = true := by
  induction list with
  | nil => simp
  | cons first rest ih =>
    by_cases fits : rest.length < count
    · have short := (List.dropWhile_sublist test (l := first :: rest)).length_le
      rw [List.length_cons] at short
      have none : (first :: rest).length - count = 0 := by
        rw [List.length_cons]
        omega
      rw [none]
      simp only [List.take_zero, List.not_mem_nil, false_implies, implies_true, iff_true]
      omega
    · have size : (first :: rest).length - count = rest.length - count + 1 := by
        rw [List.length_cons]
        omega
      rw [size, List.take_succ_cons, List.forall_mem_cons, ← ih, List.dropWhile_cons]
      cases passes : test first with
      | true => simp
      | false =>
        simp only [Bool.false_eq_true, ↓reduceIte, List.length_cons, false_and, iff_false]
        omega

namespace MethodDecl

theorem acceptsArity_iff {decl : MethodDecl} {count : Nat} :
    decl.acceptsArity count = true ↔
      count ≤ decl.params.length ∧ ∀ param ∈ decl.params.drop count, param.hasDefault = true := by
  have defaulted : decl.requiredArity ≤ count ↔ ∀ param ∈ decl.params.drop count, param.hasDefault = true := by
    unfold requiredArity
    rw [length_dropWhile_le_iff, List.length_reverse, List.take_reverse]
    by_cases fits : count ≤ decl.params.length
    · rw [Nat.sub_sub_self fits]
      simp
    · have none : decl.params.length - count = 0 := by omega
      rw [none, List.drop_eq_nil_of_le (by omega), List.drop_eq_nil_of_le (by omega)]
      simp
  unfold acceptsArity
  rw [decide_eq_true_iff, defaulted, and_comm]

end MethodDecl

namespace Registry

variable {registry : Registry} {mode : DispatchMode} {site : CallSite}

def Owns (registry : Registry) (owner : ModuleId) (name : Name) : Prop :=
  ∃ id decl, registry.methods.get? id = some decl ∧ decl.owner = owner ∧ decl.name = name

/-- The modules that a call sees: the one it names; without a name the calling module and its imports, or
in the static mode the first of these that owns a method of the called name. -/
inductive Sees (registry : Registry) (site : CallSite) : DispatchMode → ModuleId → Prop
  | explicit {owner : ModuleId} (named : site.explicit = some owner)
      (declared : registry.modules.contains owner = true) : Sees registry site .twoKey owner
  | implicit {owner : ModuleId} (unnamed : site.explicit = none)
      (declared : registry.modules.contains site.calling = true)
      (inside : owner ∈ registry.scope site.calling) : Sees registry site .twoKey owner
  | first {owner : ModuleId} {before after : List ModuleId} (unnamed : site.explicit = none)
      (declared : registry.modules.contains site.calling = true)
      (order : registry.scope site.calling = before ++ owner :: after)
      (owns : registry.Owns owner site.method)
      (earliest : ∀ earlier ∈ before, ¬ registry.Owns earlier site.method) :
      Sees registry site .staticModule owner

/-- A method suits a call whatever the types of the values. -/
structure Suits (registry : Registry) (mode : DispatchMode) (site : CallSite) (id : MethodId)
    (decl : MethodDecl) : Prop where
  declared : registry.methods.get? id = some decl
  named : decl.name = site.method
  seen : registry.Sees site mode decl.owner
  supplied : site.args.length ≤ decl.params.length
  defaulted : ∀ param ∈ decl.params.drop site.args.length, param.hasDefault = true

theorem mem_methodsNamed {name : Name} {id : MethodId} {decl : MethodDecl} :
    (id, decl) ∈ registry.methodsNamed name ↔ registry.methods.get? id = some decl ∧ decl.name = name := by
  unfold Catalog.methodsNamed
  rw [List.mem_filter, Table.mem_enum, decide_eq_true_iff]

theorem ownsMethod_iff {name : Name} {owner : ModuleId} :
    registry.ownsMethod name owner = true ↔ registry.Owns owner name := by
  unfold ownsMethod Owns
  rw [List.any_eq_true]
  constructor
  · rintro ⟨⟨id, decl⟩, inside, owned⟩
    obtain ⟨declared, named⟩ := mem_methodsNamed.1 inside
    exact ⟨id, decl, declared, by simpa using owned, named⟩
  · rintro ⟨id, decl, declared, owned, named⟩
    exact ⟨(id, decl), mem_methodsNamed.2 ⟨declared, named⟩, by simpa using owned⟩

theorem find?_ownsMethod_iff {name : Name} {scope : List ModuleId} {first : ModuleId} :
    scope.find? (registry.ownsMethod name) = some first ↔ registry.Owns first name ∧
      ∃ before after, scope = before ++ first :: after ∧ ∀ earlier ∈ before, ¬ registry.Owns earlier name := by
  rw [List.find?_eq_some_iff_append, ownsMethod_iff]
  simp only [Bool.not_eq_true', ← Bool.not_eq_true, ownsMethod_iff]

theorem callScope_cases {scope : List ModuleId} (visible : registry.callScope mode site = .ok scope) :
    (∃ owner, site.explicit = some owner ∧ mode = .twoKey ∧ registry.modules.contains owner = true ∧
      scope = [owner]) ∨
    (site.explicit = none ∧ registry.modules.contains site.calling = true ∧
      ((∃ owner, mode = .staticModule ∧ scope = [owner] ∧
          (registry.scope site.calling).find? (registry.ownsMethod site.method) = some owner) ∨
        (scope = registry.scope site.calling ∧
          (mode = .staticModule →
            (registry.scope site.calling).find? (registry.ownsMethod site.method) = none)))) := by
  unfold callScope at visible
  split at visible
  next => cases visible
  next owner named =>
    split at visible
    next declared =>
      cases visible
      exact .inl ⟨owner, named, rfl, declared, rfl⟩
    next => cases visible
  next unnamed =>
    refine .inr ⟨unnamed, ?_⟩
    split at visible
    next declared =>
      refine ⟨declared, ?_⟩
      dsimp only at visible
      split at visible
      next first found =>
        cases visible
        exact .inl ⟨first, rfl, rfl, found⟩
      next unlimited =>
        cases visible
        refine .inr ⟨rfl, fun static => ?_⟩
        cases found : (registry.scope site.calling).find? (registry.ownsMethod site.method) with
        | none => rfl
        | some owner => exact absurd found (unlimited owner static)
    next => cases visible

theorem mem_scope_iff {scope : List ModuleId} {owner : ModuleId}
    (visible : registry.callScope mode site = .ok scope) (owns : registry.Owns owner site.method) :
    owner ∈ scope ↔ registry.Sees site mode owner := by
  rcases callScope_cases visible with
    ⟨named, isNamed, rfl, declared, rfl⟩ | ⟨unnamed, declared, limited | unlimited⟩
  · rw [List.mem_singleton]
    constructor
    · rintro rfl
      exact .explicit isNamed declared
    · intro seen
      cases seen with
      | explicit same _ => exact Option.some.inj (same.symm.trans isNamed)
      | implicit unnamed _ _ => simp [isNamed] at unnamed
  · obtain ⟨first, rfl, rfl, found⟩ := limited
    obtain ⟨firstOwns, before, after, order, earliest⟩ := find?_ownsMethod_iff.1 found
    rw [List.mem_singleton]
    constructor
    · rintro rfl
      exact .first unnamed declared order firstOwns earliest
    · intro seen
      cases seen with
      | first _ _ otherOrder otherOwns otherEarliest =>
        have otherFound := find?_ownsMethod_iff.2 ⟨otherOwns, _, _, otherOrder, otherEarliest⟩
        exact Option.some.inj (otherFound.symm.trans found)
  · obtain ⟨rfl, nowhere⟩ := unlimited
    constructor
    · intro inside
      cases mode with
      | twoKey => exact .implicit unnamed declared inside
      | staticModule =>
        have none := List.find?_eq_none.1 (nowhere rfl) owner inside
        exact absurd (ownsMethod_iff.2 owns) none
    · intro seen
      cases seen with
      | explicit named _ => simp [unnamed] at named
      | implicit _ _ inside => exact inside
      | first _ _ order _ _ =>
        rw [order]
        exact List.mem_append_right _ List.mem_cons_self

theorem Sees.exists_scope {owner : ModuleId} (seen : registry.Sees site mode owner) :
    ∃ scope, registry.callScope mode site = .ok scope := by
  unfold callScope
  cases seen with
  | explicit named declared => exact ⟨[owner], by simp [named, declared]⟩
  | implicit unnamed declared inside => exact ⟨registry.scope site.calling, by simp [unnamed, declared]⟩
  | first unnamed declared order owns earliest =>
    simp only [unnamed, declared, if_true]
    split
    next found => exact ⟨_, rfl⟩
    next => exact ⟨registry.scope site.calling, rfl⟩

/-- The methods in scope are those that suit the call. -/
theorem mem_methodsInScope {scope : List ModuleId} {id : MethodId} {decl : MethodDecl}
    (visible : registry.callScope mode site = .ok scope) :
    (id, decl) ∈ registry.methodsInScope site scope ↔ registry.Suits mode site id decl := by
  unfold methodsInScope
  rw [List.mem_filter, mem_methodsNamed, Bool.and_eq_true, MethodDecl.acceptsArity_iff, List.contains_iff_mem]
  constructor
  · rintro ⟨⟨declared, named⟩, inside, supplied, defaulted⟩
    have seen := (mem_scope_iff visible ⟨id, decl, declared, rfl, named⟩).1 inside
    exact ⟨declared, named, seen, supplied, defaulted⟩
  · rintro ⟨declared, named, seen, supplied, defaulted⟩
    have inside := (mem_scope_iff visible ⟨id, decl, declared, rfl, named⟩).2 seen
    exact ⟨⟨declared, named⟩, inside, supplied, defaulted⟩

theorem methodsInScope_ascending (registry : Registry) (site : CallSite) (scope : List ModuleId) :
    (registry.methodsInScope site scope).Pairwise fun earlier later => earlier.1.raw < later.1.raw := by
  apply List.Pairwise.filter
  apply List.Pairwise.filter
  exact registry.methods.enum_ascending

end Registry

end AtomResolution
