import AtomResolution.Proofs.Lens.Readback

/-!
A strict update in one pass: down to the last field, then back up, building one instance after another and
drawing on the supply for each. The same pass goes on with what it drew where it fails, so it shows that
nothing is drawn before the last check is passed and that nothing fails after it.
-/

namespace AtomResolution

namespace Lens

def checkLast (lens : Lens) (registry : Registry) (new : Value) (previous : Option Selector)
    (guards : List Selector) (head : Instance) (fields : List Value) (position : Nat) : Except LensError Unit := do
  lens.checkClosed registry head fields previous
  match fields[position]? with
  | none => .error (lens.mismatch registry (.atom head fields) .fieldMissing)
  | some current => do
    lens.checkGuards registry current .guardFails guards
    lens.checkGuards registry new .replacementFailsGuard guards
    checkFieldType registry head.atom position new

def writeBack (missing : LensError) (head : Instance) (fields : List Value) (position : Nat) :
    Except LensError Value × Supply → Except LensError Value × Supply
  | (.error error, supply) => (.error error, supply)
  | (.ok replacement, supply) =>
    let (rebuilt, supply) := (Value.atom head fields).withField? position replacement supply
    (rebuilt.elim (.error missing) .ok, supply)

/-- A strict update from some value on, in one pass. Its outcome comes with the supply that is left, whether
it succeeds or fails. -/
def update (lens : Lens) (registry : Registry) (new : Value) :
    (previous : Option Selector) → List Selector → Value → Supply → Except LensError Value × Supply
  | _, [], _, supply => (.ok new, supply)
  | _, .guard tag :: rest, value, supply =>
    if registry.tagOf value = tag then
      match if rest.isEmpty then lens.checkGuards registry new .replacementFailsGuard [.guard tag] else .ok () with
      | .error error => (.error error, supply)
      | .ok () => lens.update registry new (some (.guard tag)) rest value supply
    else (.error (lens.mismatch registry value .guardFails), supply)
  | previous, selector :: rest, .atom head fields, supply =>
    let missing := lens.mismatch registry (.atom head fields) .fieldMissing
    match selector.position? registry head fields with
    | none => (.error missing, supply)
    | some position =>
      writeBack missing head fields position <|
        if rest.any Selector.isField then
          match fields[position]? with
          | none => (.error missing, supply)
          | some child => lens.update registry new (some selector) rest child supply
        else ((lens.checkLast registry new previous rest head fields position).map fun _ => new, supply)
  | _, _ :: _, value, supply => (.error (lens.mismatch registry value .noFields), supply)

def outcomeOf (value new : Value) (supply : Supply) :
    Except LensError (List Nat) → Except LensError Value × Supply
  | .error error => (.error error, supply)
  | .ok way => (.ok (value.replaceAt new supply way).1, (value.replaceAt new supply way).2)

variable {lens : Lens} {registry : Registry} {new : Value} {previous : Option Selector} {selector : Selector}
  {rest : List Selector} {head : Instance} {fields : List Value} {position : Nat} {current : Value}

theorem writeBack_outcomeOf (holds : fields[position]? = some current) (missing : LensError) (new : Value)
    (supply : Supply) (search : Except LensError (List Nat)) :
    writeBack missing head fields position (outcomeOf current new supply search) =
      outcomeOf (.atom head fields) new supply (search.map (position :: ·)) := by
  cases search with
  | error error => rfl
  | ok way =>
    have inside : position < fields.length := (List.getElem?_eq_some_iff.1 holds).1
    change writeBack missing head fields position (.ok _, _) = outcomeOf (.atom head fields) new supply (.ok _)
    unfold writeBack outcomeOf Value.withField?
    dsimp only
    rw [if_pos inside, Value.replaceAt_cons holds]
    rfl

theorem locate_checkLast (points : selector.position? registry head fields = some position)
    (holds : fields[position]? = some current) (isField : selector.isField = true)
    (noField : rest.any Selector.isField = false) :
    lens.locate registry new previous (selector :: rest) (.atom head fields) =
      (lens.checkLast registry new previous rest head fields position).map fun _ => [position] := by
  rw [locate_atom isField, points]
  dsimp only
  unfold checkLast
  rw [holds, noField]
  dsimp only
  rw [if_neg Bool.false_ne_true]
  change _ = (fun _ => [position]) <$> _
  simp only [map_eq_pure_bind, bind_assoc]

theorem update_atom (isField : selector.isField = true) (supply : Supply) :
    lens.update registry new previous (selector :: rest) (.atom head fields) supply =
      match selector.position? registry head fields with
      | none => (.error (lens.mismatch registry (.atom head fields) .fieldMissing), supply)
      | some position =>
        writeBack (lens.mismatch registry (.atom head fields) .fieldMissing) head fields position <|
          if rest.any Selector.isField then
            match fields[position]? with
            | none => (.error (lens.mismatch registry (.atom head fields) .fieldMissing), supply)
            | some child => lens.update registry new (some selector) rest child supply
          else ((lens.checkLast registry new previous rest head fields position).map fun _ => new, supply) := by
  cases selector with
  | position _ => rfl
  | field _ => rfl
  | guard _ => cases isField

theorem update_eq (lens : Lens) (registry : Registry) (new : Value) (previous : Option Selector)
    (selectors : List Selector) (value : Value) (supply : Supply) :
    lens.update registry new previous selectors value supply =
      outcomeOf value new supply (lens.locate registry new previous selectors value) := by
  induction selectors generalizing previous value with
  | nil => rfl
  | cons selector rest ih =>
    cases isField : selector.isField with
    | false =>
      cases selector with
      | position _ => cases isField
      | field _ => cases isField
      | guard tag =>
        rw [update, locate]
        by_cases shows : registry.tagOf value = tag
        · rw [if_pos shows, if_pos shows]
          cases rest with
          | nil =>
            rcases lens.checkGuards_cases registry new .replacementFailsGuard [.guard tag] with
              ⟨_, checked⟩ | ⟨_, failed⟩
            · rw [List.isEmpty_nil, if_pos rfl, if_pos rfl, checked]
              exact ih _ _
            · rw [List.isEmpty_nil, if_pos rfl, if_pos rfl, failed]
              rfl
          | cons _ _ => exact ih _ _
        · rw [if_neg shows, if_neg shows]
          rfl
    | true =>
      cases value with
      | atom head fields =>
        rw [update_atom isField]
        cases points : selector.position? registry head fields with
        | none =>
          rw [locate_atom isField, points]
          rfl
        | some position =>
          have inside := (Registry.position?_eq_some_iff.1 points).2
          have holds : fields[position]? = some fields[position] := List.getElem?_eq_getElem inside
          dsimp only
          cases later : rest.any Selector.isField with
          | true =>
            have goes : registry.Goes selector (.atom head fields) [position] fields[position] :=
              .field (Registry.position?_eq_some_iff.1 points).1 holds
            rw [if_pos rfl, holds, locate_goes goes later]
            dsimp only
            rw [ih, writeBack_outcomeOf holds]
            rfl
          | false =>
            rw [if_neg Bool.false_ne_true, locate_checkLast points holds isField later]
            cases lens.checkLast registry new previous rest head fields position with
            | error _ => rfl
            | ok _ => exact writeBack_outcomeOf holds _ new supply (.ok [])
      | _ =>
        cases selector with
        | position _ => rfl
        | field _ => rfl
        | guard _ => cases isField

/-- The pass does what a strict update does, and has drawn nothing where that fails. -/
theorem update_eq_setStrict (lens : Lens) (registry : Registry) (value new : Value) (supply : Supply) :
    lens.update registry new none lens.selectors value supply =
      match lens.setStrict registry value new supply with
      | .error error => (.error error, supply)
      | .ok (updated, later) => (.ok updated, later) := by
  rw [update_eq]
  unfold setStrict
  cases lens.locate registry new none lens.selectors value with
  | error _ => rfl
  | ok _ => rfl

end Lens

end AtomResolution
