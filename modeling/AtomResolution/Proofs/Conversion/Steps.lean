import AtomResolution.Conversion.Convert

/-!
The two steps of converting a value. The conversion that is picked leads from the atom of the value to what is
asked for. It is run by asking the host once, and the answer is passed on exactly if it is an instance of the
declared target.
-/

namespace AtomResolution

def ConverterFailure.ofAnswer : Except String Value → ConverterFailure
  | .error message => .raised message
  | .ok value => .returned value.atomId

namespace Registry

variable {registry : Registry} {source : AtomId} {target : TypeTag} {id : ConversionId} {σ : Type}

theorem accepts_atom {atom target : AtomId} : registry.accepts (.atom target) atom = true ↔ target = atom := by
  simp [accepts, isSubtype, TypeTag.acceptsWith]

/-- A conversion leads from an atom to what a pattern accepts. -/
def Converts (registry : Registry) (source : AtomId) (target : TypeTag) (id : ConversionId) : Prop :=
  ∃ decl, registry.conversions.get? id = some decl ∧ decl.source = source ∧ registry.accepts target decl.target = true

theorem mem_applicable {decl : ConversionDecl} :
    (id, decl) ∈ registry.applicable source target ↔
      registry.conversions.get? id = some decl ∧ decl.source = source ∧
        registry.accepts target decl.target = true := by
  unfold applicable Catalog.conversionsFrom
  rw [List.mem_filter, List.mem_filter, Table.mem_enum, decide_eq_true_eq, and_assoc]

theorem exact_eq_some_iff : target.atom?.bind (registry.conversionBetween? source) = some id ↔
    ∃ atom, target = .atom atom ∧ registry.conversionBetween? source atom = some id := by
  cases target with
  | atom expected => simp [TypeTag.atom?]
  | interfaces | dynamic | any => simp [TypeTag.atom?]

theorem converts_of_conversionBetween? {atom : AtomId} (between : registry.conversionBetween? source atom = some id) :
    registry.Converts source (.atom atom) id := by
  obtain ⟨decl, declared, matching⟩ := Table.get?_of_find? between
  obtain ⟨leaves, arrives⟩ := decide_eq_true_iff.1 matching
  exact ⟨decl, declared, leaves, accepts_atom.2 arrives.symm⟩

theorem converts_of_findConversion (found : registry.findConversion source target = .ok id) :
    registry.Converts source target id := by
  unfold findConversion at found
  split at found
  next exact =>
    cases found
    obtain ⟨atom, rfl, between⟩ := exact_eq_some_iff.1 exact
    exact converts_of_conversionBetween? between
  next =>
    split at found
    next => cases found
    next _ decl single =>
      cases found
      exact ⟨decl, mem_applicable.1 (single ▸ List.mem_singleton_self _)⟩
    next => cases found

theorem runConversion_cases {conversion : ConversionDecl}
    (declared : registry.conversions.get? id = some conversion) (host : Host σ) (value : Value) (state : σ) :
    (∃ converted, (host ⟨conversion.body, value, []⟩ state).1 = .ok converted ∧
      converted.atomId = conversion.target ∧
      registry.runConversion host id value state = (.ok converted, (host ⟨conversion.body, value, []⟩ state).2)) ∨
    ((∀ converted, (host ⟨conversion.body, value, []⟩ state).1 = .ok converted →
        converted.atomId ≠ conversion.target) ∧
      registry.runConversion host id value state =
        (.error (.converterFailed conversion.source conversion.target
          (.ofAnswer (host ⟨conversion.body, value, []⟩ state).1)), (host ⟨conversion.body, value, []⟩ state).2)) := by
  unfold runConversion
  rw [declared]
  dsimp only
  generalize host ⟨conversion.body, value, []⟩ state = answered
  obtain ⟨answer, after⟩ := answered
  cases answer with
  | error message =>
    refine .inr ⟨fun converted impossible => ?_, rfl⟩
    cases impossible
  | ok converted =>
    have typed : registry.isSubtype converted.typeTag (.atom conversion.target) = true ↔
        conversion.target = converted.atomId := accepts_atom
    by_cases same : converted.atomId = conversion.target
    · refine .inl ⟨converted, rfl, same, ?_⟩
      dsimp only
      rw [if_pos (typed.2 same.symm)]
    · refine .inr ⟨fun other isOther => ?_, ?_⟩
      · cases isOther
        exact same
      · dsimp only
        rw [if_neg fun accepted => same (typed.1 accepted).symm]
        rfl

theorem runConversion_transcribing {conversion : ConversionDecl}
    (declared : registry.conversions.get? id = some conversion) (host : Host σ) (value : Value) (state : σ)
    (transcript : List Exchange) :
    registry.runConversion host.transcribing id value (state, transcript) =
      ((registry.runConversion host id value state).1, (registry.runConversion host id value state).2,
        transcript ++ [(⟨conversion.body, value, []⟩, (host ⟨conversion.body, value, []⟩ state).1)]) := by
  unfold runConversion Host.transcribing
  rw [declared]
  dsimp only
  generalize host ⟨conversion.body, value, []⟩ state = answered
  obtain ⟨answer, after⟩ := answered
  cases answer with
  | error message => rfl
  | ok converted =>
    dsimp only
    split <;> rfl

end Registry

end AtomResolution
