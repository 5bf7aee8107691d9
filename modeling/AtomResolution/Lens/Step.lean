import AtomResolution.Text.Identifier

/-!
The syntax of access paths. A path is a sequence of steps, each a dot followed by one of four forms: an
identifier, a position in digits, a quoted name, or a tag in parentheses. `scan` reads as many steps as
there are and says what is wrong with the next one, if anything is.
-/

namespace AtomResolution

inductive Step where
  | position (index : UInt64)
  | field (name : List Char)
  | guard (tag : List Char)
  deriving DecidableEq

inductive PathFault where
  | emptyPath
  | expectedDot (rest : List Char)
  | missingSelector
  | positionTooLarge (digits : List Char)
  | unterminatedName
  | emptyName
  | missingTag
  | expectedClosing (tag : List Char)
  | unexpected (rest : List Char)
  deriving DecidableEq

def PathFault.message : PathFault → String
  | .emptyPath => "empty path"
  | .expectedDot rest => "expected `.` before `" ++ String.ofList rest ++ "`"
  | .missingSelector => "expected a selector after `.`"
  | .positionTooLarge digits => "field position `" ++ String.ofList digits ++ "` is too large"
  | .unterminatedName => "unterminated quoted field name"
  | .emptyName => "empty quoted field name"
  | .missingTag => "expected a constructor name after `(`"
  | .expectedClosing tag => "expected `)` after `" ++ String.ofList tag ++ "`"
  | .unexpected rest => "unexpected `" ++ String.ofList rest ++ "`"

namespace Step

def isDigit (char : Char) : Bool := '0' ≤ char ∧ char ≤ '9'

def numberOf (digits : List Char) : Nat :=
  digits.foldl (fun number digit => 10 * number + (digit.toNat - '0'.toNat)) 0

def scanPosition (input : List Char) : Except PathFault (Step × List Char) :=
  let digits := input.takeWhile isDigit
  if numberOf digits < UInt64.size then
    .ok (.position (UInt64.ofNat (numberOf digits)), input.dropWhile isDigit)
  else .error (.positionTooLarge digits)

def scanQuoted (input : List Char) : Except PathFault (Step × List Char) :=
  match input.dropWhile (· ≠ '"') with
  | [] => .error .unterminatedName
  | _ :: rest =>
    match input.takeWhile (· ≠ '"') with
    | [] => .error .emptyName
    | name => .ok (.field name, rest)

def scanGuard (input : List Char) : Except PathFault (Step × List Char) :=
  match Text.splitIdentifier input with
  | none => .error .missingTag
  | some (tag, ')' :: rest) => .ok (.guard tag, rest)
  | some (tag, _) => .error (.expectedClosing tag)

def scanName (input : List Char) : Except PathFault (Step × List Char) :=
  match Text.splitIdentifier input with
  | none => .error (.unexpected input)
  | some (name, rest) => .ok (.field name, rest)

def scanStep : List Char → Except PathFault (Step × List Char)
  | [] => .error .missingSelector
  | '"' :: rest => scanQuoted rest
  | '(' :: rest => scanGuard rest
  | first :: rest => if isDigit first then scanPosition (first :: rest) else scanName (first :: rest)

theorem splitIdentifier_length {input name rest : List Char}
    (found : Text.splitIdentifier input = some (name, rest)) : rest.length < input.length := by
  cases input with
  | nil => simp [Text.splitIdentifier] at found
  | cons first tail =>
    simp only [Text.splitIdentifier] at found
    split at found
    · simp only [Option.some.injEq, Prod.mk.injEq] at found
      have shorter := (List.dropWhile_sublist Text.continuesIdentifier (l := tail)).length_le
      simp only [← found.2, List.length_cons]
      omega
    · simp at found

theorem scanStep_length {input rest : List Char} {step : Step} (found : scanStep input = .ok (step, rest)) :
    rest.length < input.length := by
  unfold scanStep at found
  split at found
  · simp at found
  next tail =>
    unfold scanQuoted at found
    split at found
    · simp at found
    next opening after dropped =>
      split at found
      · simp at found
      · simp only [Except.ok.injEq, Prod.mk.injEq] at found
        have shorter := (List.dropWhile_sublist (fun char : Char => decide (char ≠ '"')) (l := tail)).length_le
        rw [dropped, found.2] at shorter
        simp only [List.length_cons] at shorter ⊢
        omega
  next tail =>
    unfold scanGuard at found
    split at found
    · simp at found
    next tag after cut =>
      simp only [Except.ok.injEq, Prod.mk.injEq] at found
      have shorter := splitIdentifier_length cut
      simp only [found.2, List.length_cons] at shorter ⊢
      omega
    · simp at found
  next first tail _ _ =>
    split at found
    next digit =>
      simp only [scanPosition] at found
      split at found
      · simp only [Except.ok.injEq, Prod.mk.injEq] at found
        have shorter := (List.dropWhile_sublist isDigit (l := tail)).length_le
        rw [← found.2, List.dropWhile_cons, if_pos digit, List.length_cons]
        omega
      · simp at found
    · unfold scanName at found
      split at found
      · simp at found
      next name after cut =>
        simp only [Except.ok.injEq, Prod.mk.injEq] at found
        exact found.2 ▸ splitIdentifier_length cut

/-- The steps that a text begins with, and what is wrong with the step after them. -/
def scan (input : List Char) : List Step × Option PathFault :=
  match input with
  | [] => ([], none)
  | '.' :: rest =>
    match _found : scanStep rest with
    | .error fault => ([], some fault)
    | .ok (step, rest) =>
      let (steps, fault) := scan rest
      (step :: steps, fault)
  | rest => ([], some (.expectedDot rest))
termination_by input.length
decreasing_by
  have shorter := scanStep_length ‹_›
  simp only [List.length_cons]
  omega

def scanPath : List Char → List Step × Option PathFault
  | [] => ([], some .emptyPath)
  | input => scan input

end Step

end AtomResolution
