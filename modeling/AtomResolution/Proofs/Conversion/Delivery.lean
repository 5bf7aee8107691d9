import AtomResolution.Proofs.Conversion.Lookup

/-!
Converting values, for any host. What is accepted already stays as it is. Anything else is put to the host at
most once, for the only conversion that leads to what is asked for, and what the host delivers is accepted
from then on.
-/

namespace AtomResolution

namespace Registry

variable {registry : Registry} {value : Value} {target : TypeTag}

/-- The host is asked to run the only conversion there is for a value: its body, on the value, with no arguments. -/
structure Invokes (registry : Registry) (value : Value) (target : TypeTag) (conversion : ConversionDecl)
    (invocation : Invocation) : Prop where
  rejected : registry.accepts target value.atomId = false
  alone : ∃ id, registry.conversions.get? id = some conversion ∧
    ∀ other, registry.Converts value.atomId target other ↔ other = id
  asked : invocation = ⟨conversion.body, value, []⟩

/-- What converting a value comes to, and the exchanges with the host that it takes. -/
inductive Converted (registry : Registry) (value : Value) (target : TypeTag) :
    List Exchange → Except ConversionError Value → Prop where
  | already (accepted : registry.accepts target value.atomId = true) : Converted registry value target [] (.ok value)
  | missing (rejected : registry.accepts target value.atomId = false)
      (nothing : ∀ id, ¬ registry.Converts value.atomId target id) :
      Converted registry value target [] (.error (.noConversion value.atomId target))
  | ambiguous {one other : ConversionId} (rejected : registry.accepts target value.atomId = false)
      (different : one ≠ other) (first : registry.Converts value.atomId target one)
      (second : registry.Converts value.atomId target other) :
      Converted registry value target []
        (.error (.ambiguousConversion value.atomId target (registry.destinations value.atomId target)))
  | delivered {conversion : ConversionDecl} {invocation : Invocation} {converted : Value}
      (invokes : registry.Invokes value target conversion invocation)
      (typed : converted.atomId = conversion.target) :
      Converted registry value target [(invocation, .ok converted)] (.ok converted)
  | failed {conversion : ConversionDecl} {invocation : Invocation} {answer : Except String Value}
      (invokes : registry.Invokes value target conversion invocation)
      (untyped : ∀ converted, answer = .ok converted → converted.atomId ≠ conversion.target) :
      Converted registry value target [(invocation, answer)]
        (.error (.converterFailed conversion.source conversion.target (.ofAnswer answer)))

theorem Invokes.accepts_target {conversion : ConversionDecl} {invocation : Invocation}
    (invokes : registry.Invokes value target conversion invocation) :
    registry.accepts target conversion.target = true := by
  obtain ⟨id, declared, only⟩ := invokes.alone
  obtain ⟨decl, found, -, accepted⟩ := (only id).2 rfl
  cases declared.symm.trans found
  exact accepted

theorem Converted.accepts {exchanges : List Exchange} {outcome : Except ConversionError Value} {converted : Value}
    (made : registry.Converted value target exchanges outcome) (delivers : outcome = .ok converted) :
    registry.accepts target converted.atomId = true := by
  cases made with
  | already accepted =>
    cases delivers
    exact accepted
  | delivered invokes typed =>
    cases delivers
    rw [typed]
    exact invokes.accepts_target
  | missing | ambiguous | failed => cases delivers

theorem Converted.length_le {exchanges : List Exchange} {outcome : Except ConversionError Value}
    (made : registry.Converted value target exchanges outcome) : exchanges.length ≤ 1 := by
  cases made with
  | already | missing | ambiguous => exact Nat.zero_le _
  | delivered | failed => exact Nat.le_refl _

theorem Converted.asks_iff {exchanges : List Exchange} {outcome : Except ConversionError Value}
    (made : registry.Converted value target exchanges outcome) :
    exchanges ≠ [] ↔ registry.accepts target value.atomId = false ∧
      ∃ id, ∀ other, registry.Converts value.atomId target other ↔ other = id := by
  have asked {conversion : ConversionDecl} {invocation : Invocation}
      (invokes : registry.Invokes value target conversion invocation) (answer : Except String Value) :
      [(invocation, answer)] ≠ [] ↔ registry.accepts target value.atomId = false ∧
        ∃ id, ∀ other, registry.Converts value.atomId target other ↔ other = id := by
    obtain ⟨id, -, only⟩ := invokes.alone
    exact iff_of_true (List.cons_ne_nil _ _) ⟨invokes.rejected, id, only⟩
  cases made with
  | already accepted =>
    refine iff_of_false (fun inhabited => inhabited rfl) fun ⟨rejected, _⟩ => ?_
    cases accepted.symm.trans rejected
  | missing _ nothing =>
    refine iff_of_false (fun inhabited => inhabited rfl) fun ⟨_, id, only⟩ => ?_
    exact nothing id ((only id).2 rfl)
  | ambiguous _ different first second =>
    refine iff_of_false (fun inhabited => inhabited rfl) fun ⟨_, id, only⟩ => different ?_
    exact ((only _).1 first).trans ((only _).1 second).symm
  | delivered invokes => exact asked invokes _
  | failed invokes => exact asked invokes _

variable {σ : Type}

theorem convert_of_accepts (host : Host σ) (state : σ) (accepted : registry.accepts target value.atomId = true) :
    registry.convert host value target state = (.ok value, state) := by
  unfold convert
  exact if_pos accepted

theorem convert_of_rejects (host : Host σ) (state : σ) (rejected : registry.accepts target value.atomId = false) :
    registry.convert host value target state =
      match registry.findConversion value.atomId target with
      | .error error => (.error error, state)
      | .ok id => registry.runConversion host id value state := by
  have notAccepted : ¬ registry.isSubtype value.typeTag target = true := fun accepted => by
    cases rejected.symm.trans accepted
  unfold convert
  exact if_neg notAccepted

theorem converted_convert (distinct : registry.conversions.Distinct ConversionDecl.key) (host : Host σ)
    (value : Value) (target : TypeTag) (state : σ) :
    ∃ exchanges,
      registry.convert host.transcribing value target (state, []) =
        ((registry.convert host value target state).1, (registry.convert host value target state).2, exchanges) ∧
      registry.Converted value target exchanges (registry.convert host value target state).1 := by
  cases accepted : registry.accepts target value.atomId with
  | true =>
    rw [convert_of_accepts _ _ accepted, convert_of_accepts _ _ accepted]
    exact ⟨[], rfl, .already accepted⟩
  | false =>
    rw [convert_of_rejects _ _ accepted, convert_of_rejects _ _ accepted]
    have chosen := chosen_findConversion distinct value.atomId target
    generalize registry.findConversion value.atomId target = found at chosen ⊢
    cases chosen with
    | missing nothing => exact ⟨[], rfl, .missing accepted nothing⟩
    | several different first second => exact ⟨[], rfl, .ambiguous accepted different first second⟩
    | @only id alone =>
      obtain ⟨conversion, declared, -, -⟩ := (alone id).2 rfl
      have invokes : registry.Invokes value target conversion ⟨conversion.body, value, []⟩ :=
        ⟨accepted, ⟨id, declared, alone⟩, rfl⟩
      refine ⟨_, runConversion_transcribing declared host value state [], ?_⟩
      dsimp only
      rcases runConversion_cases declared host value state with ⟨converted, answered, typed, ran⟩ | ⟨untyped, ran⟩
      · rw [ran, answered]
        exact .delivered invokes typed
      · rw [ran]
        exact .failed invokes untyped

/-- Converting in a frozen registry, with any host. A value that the target accepts is returned and the host is not
asked. Otherwise it is asked at most once, namely if one conversion stands alone, and what it delivers is accepted
and is not converted again. -/
theorem convert_outcome {operations : List Operation} (frozen : (Builder.new.run operations).freeze = .ok registry)
    (host : Host σ) (value : Value) (target : TypeTag) (state : σ) :
    ∃ exchanges,
      registry.convert host.transcribing value target (state, []) =
        ((registry.convert host value target state).1, (registry.convert host value target state).2, exchanges) ∧
      registry.Converted value target exchanges (registry.convert host value target state).1 ∧
      (registry.accepts target value.atomId = true →
        registry.convert host value target state = (.ok value, state) ∧ exchanges = []) ∧
      exchanges.length ≤ 1 ∧
      (exchanges ≠ [] ↔ registry.accepts target value.atomId = false ∧
        ∃ id, ∀ other, registry.Converts value.atomId target other ↔ other = id) ∧
      ∀ converted, (registry.convert host value target state).1 = .ok converted →
        registry.accepts target converted.atomId = true ∧
          ∀ (τ : Type) (again : Host τ) (later : τ),
            registry.convert again converted target later = (.ok converted, later) := by
  obtain ⟨exchanges, transcribed, made⟩ :=
    converted_convert (distinct_conversions_of_freeze frozen) host value target state
  refine ⟨exchanges, transcribed, made, fun accepted => ⟨convert_of_accepts host state accepted, ?_⟩,
    made.length_le, made.asks_iff, fun converted delivers => ?_⟩
  · by_contra asked
    cases accepted.symm.trans (made.asks_iff.1 asked).1
  · have accepted := made.accepts delivers
    exact ⟨accepted, fun _ again later => convert_of_accepts again later accepted⟩

def printingHost : Host Nat := fun invocation count =>
  (if invocation.body = ⟨4⟩ then .ok (.text "0.0") else .error "no body", count + 1)

theorem convert_outcome_printable :
    (Builder.new.run printable).freeze = .ok (.ofLoad printable) ∧
    (ofLoad printable).convert printingHost (.float ⟨0⟩) (.interfaces (.single ⟨0⟩)) 2 = (.ok (.text "0.0"), 3) ∧
    (∃ exchanges, (ofLoad printable).Converted (.float ⟨0⟩) (.interfaces (.single ⟨0⟩)) exchanges (.ok (.text "0.0")) ∧
      exchanges ≠ []) ∧
    (ofLoad printable).convert printingHost (.text "0.0") (.interfaces (.single ⟨0⟩)) 3 = (.ok (.text "0.0"), 3) ∧
    ∃ exchanges, (ofLoad printable).Converted (.int 1) (.atom AtomId.bool) exchanges
      (.error (.converterFailed AtomId.int AtomId.bool (.raised "no body"))) := by
  have frozen : (Builder.new.run printable).freeze = .ok (.ofLoad printable) := rfl
  obtain ⟨exchanges, _, made, _, _, _, delivered⟩ :=
    convert_outcome frozen printingHost (.float ⟨0⟩) (.interfaces (.single ⟨0⟩)) 2
  obtain ⟨others, _, failed, _⟩ := convert_outcome frozen printingHost (.int 1) (.atom AtomId.bool) 0
  have isAsked : exchanges ≠ [] := by
    rintro rfl
    cases made
  exact ⟨frozen, rfl, ⟨exchanges, made, isAsked⟩, (delivered _ rfl).2 Nat printingHost 3, others, failed⟩

end Registry

end AtomResolution
