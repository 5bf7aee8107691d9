import AtomResolution.Proofs.Canonical
import AtomResolution.Proofs.Store.AppendOnly

/-!
Methods that are declared twice. A declaration spells out the interfaces of a pattern in some order, some of them
more than once; its key forgets that, and with it the names and defaults of parameters and the body. Of declarations
that differ in nothing else only the first one succeeds.
-/

namespace AtomResolution

/-- A pattern as it is spelled where it is declared. -/
inductive Spelling where
  | atom (id : AtomId)
  | interfaces (listed : List InterfaceId)
  | dynamic
  | any
  deriving DecidableEq

namespace Spelling

def pattern : Spelling → TypeTag
  | .atom id => .atom id
  | .interfaces listed => .interfaces (.ofList listed)
  | .dynamic => .dynamic
  | .any => .any

/-- Two spellings are the same up to the order and the repeats of interfaces. -/
def Alike : Spelling → Spelling → Prop
  | .interfaces left, .interfaces right => ∀ interface, interface ∈ left ↔ interface ∈ right
  | left, right => left = right

theorem pattern_eq_iff {left right : Spelling} : left.pattern = right.pattern ↔ left.Alike right := by
  cases left with
  | interfaces listed =>
    cases right with
    | interfaces other =>
      change TypeTag.interfaces _ = TypeTag.interfaces _ ↔ _
      rw [TypeTag.interfaces.injEq]
      exact InterfaceSet.ofList_eq_iff
    | atom _ | dynamic | any => simp [pattern, Alike]
  | atom _ | dynamic | any => cases right <;> simp [pattern, Alike]

end Spelling

structure SpelledParam where
  name : Name
  spelling : Spelling
  hasDefault : Bool
  deriving DecidableEq

def SpelledParam.param (spelled : SpelledParam) : Param :=
  ⟨spelled.name, spelled.spelling.pattern, spelled.hasDefault⟩

structure SpelledMethod where
  owner : ModuleId
  name : Name
  receiver : Spelling
  params : List SpelledParam
  body : BodyId
  deriving DecidableEq

namespace SpelledMethod

def decl (method : SpelledMethod) : MethodDecl :=
  ⟨method.owner, method.name, method.receiver.pattern, method.params.map SpelledParam.param, method.body, .declared⟩

def operation (method : SpelledMethod) : Operation :=
  .declareMethod method.owner method.name method.receiver.pattern (method.params.map SpelledParam.param) method.body

/-- Two methods of one module and name spell their receivers alike, and so their parameters in order. -/
structure Alike (first second : SpelledMethod) : Prop where
  owner : first.owner = second.owner
  name : first.name = second.name
  receiver : first.receiver.Alike second.receiver
  params : List.Forall₂ (fun left right => left.spelling.Alike right.spelling) first.params second.params

theorem patterns_eq_iff {left right : List SpelledParam} :
    (left.map SpelledParam.param).map Param.pattern = (right.map SpelledParam.param).map Param.pattern ↔
      List.Forall₂ (fun left right => left.spelling.Alike right.spelling) left right := by
  rw [List.map_map, List.map_map, ← List.forall₂_eq_eq_eq, List.forall₂_map_left_iff, List.forall₂_map_right_iff]
  simp only [← Spelling.pattern_eq_iff]
  rfl

/-- Methods have one key exactly if they are spelled alike. -/
theorem key_eq_iff {first second : SpelledMethod} : first.decl.key = second.decl.key ↔ first.Alike second := by
  constructor
  · intro same
    exact ⟨congrArg MethodKey.owner same, congrArg MethodKey.name same,
      Spelling.pattern_eq_iff.1 (congrArg MethodKey.receiver same),
      patterns_eq_iff.1 (congrArg MethodKey.patterns same)⟩
  · intro alike
    unfold decl MethodDecl.key
    rw [alike.owner, alike.name, Spelling.pattern_eq_iff.2 alike.receiver, patterns_eq_iff.2 alike.params]

end SpelledMethod

theorem Param.mentionedBy_eq (params : List Param) :
    Param.mentionedBy params = (params.map Param.pattern).flatMap TypeTag.mentioned := by
  unfold Param.mentionedBy
  rw [List.flatMap_map]

theorem Builder.declareMethod_of_taken {builder : Builder} (sound : builder.Sound) {id : MethodId} {held : MethodDecl}
    (found : builder.methods.get? id = some held) {owner : ModuleId} {name : Name} {receiver : TypeTag}
    {params : List Param} {body : BodyId}
    (same : held.key = MethodDecl.key ⟨owner, name, receiver, params, body, .declared⟩) :
    builder.declareMethod owner name receiver params body =
      .error (.duplicateMethod ⟨owner, name, receiver, params, body, .declared⟩) := by
  obtain ⟨owned, mentioned⟩ := sound.methodsDeclared id held found
  have sameOwner : held.owner = owner := congrArg MethodKey.owner same
  have sameReceiver : held.receiver = receiver := congrArg MethodKey.receiver same
  have samePatterns : held.params.map Param.pattern = params.map Param.pattern := congrArg MethodKey.patterns same
  have sameMentioned : Param.mentionedBy held.params = Param.mentionedBy params := by
    rw [Param.mentionedBy_eq, Param.mentionedBy_eq, samePatterns]
  have matched := List.forall_mem_append.1 (List.forall_mem_append.1 mentioned).1
  have received : builder.checkInterfaces receiver.mentioned = .ok () :=
    checkInterfaces_eq_ok_iff.2 (sameReceiver ▸ matched.1)
  have typed : builder.checkParams params = .ok () := by
    rw [sameMentioned] at matched
    exact checkInterfaces_eq_ok_iff.2 matched.2
  have taken : builder.methodKeyed? (MethodDecl.key ⟨owner, name, receiver, params, body, .declared⟩) = some id :=
    sound.methodsDistinct.find?_eq_some_iff.2 ⟨held, found, same⟩
  unfold Builder.declareMethod
  rw [checkModule_eq_ok_iff.2 (sameOwner ▸ owned), received, typed]
  dsimp only
  rw [taken]
  rfl

namespace SpelledMethod

structure RefusedAfter (method : SpelledMethod) (operations : List Operation) : Prop where
  refused : (Builder.new.run operations).apply method.operation = .error (.duplicateMethod method.decl)
  unwritten : (Loading.perform method.operation).run (Store.new.serve operations).2 =
    .error (.duplicateMethod method.decl) (Store.new.serve operations).2

/-- Once a method is declared, methods that are spelled like it are refused for good. -/
theorem Alike.refusedAfter {first second : SpelledMethod} (alike : first.Alike second) {before : List Operation}
    {declared : Declared} {after : Builder}
    (accepted : (Builder.new.run before).apply first.operation = .ok (declared, after)) (between : List Operation) :
    second.RefusedAfter (before ++ first.operation :: between) := by
  have applies := Builder.apply_eq_ok_iff.1 accepted
  have later : Builder.new.run (before ++ first.operation :: between) = after.run between := by
    calc
      _ = (Builder.new.run before).run (first.operation :: between) := List.foldl_append
      _ = after.run between := Builder.run_of_applies applies between
  have sound : (after.run between).Sound := later ▸ Builder.sound_run Builder.sound_new _
  have refused : (Builder.new.run (before ++ first.operation :: between)).apply second.operation =
      .error (.duplicateMethod second.decl) := by
    rw [later]
    cases applies.designates.mono (after.continues_run between) with
    | declareMethod found =>
      unfold operation Builder.apply
      dsimp only
      rw [Builder.declareMethod_of_taken sound found (key_eq_iff.2 alike)]
      rfl
  have holds := Store.holds_new.serve (before ++ first.operation :: between)
  have carries := Loading.carries_perform holds.agrees second.operation
  rw [holds.tables, refused] at carries
  cases carries with
  | failed unwritten => exact ⟨refused, unwritten⟩

end SpelledMethod

/-- Interface sets are canonical, whatever lists they are made of, and so are the keys of the methods that mention
them: of methods that list the same interfaces in other orders only the first is ever declared. -/
theorem interfaceSets_canonical :
    (∀ set : InterfaceSet, .ofList set.members = set) ∧
      (∀ interfaces, InterfaceSet.Canonical interfaces) ∧
      (∀ left right, InterfaceSet.Comparable left right) ∧
      ∀ first second : SpelledMethod,
        (first.decl.key = second.decl.key ↔ first.Alike second) ∧
          ∀ (before between : List Operation) (declared : Declared) (after : Builder), first.Alike second →
            (Builder.new.run before).apply first.operation = .ok (declared, after) →
            second.RefusedAfter (before ++ first.operation :: between) := by
  refine ⟨InterfaceSet.ofList_members, InterfaceSet.canonical_ofList, InterfaceSet.comparable_ofList, ?_⟩
  intro first second
  refine ⟨SpelledMethod.key_eq_iff, ?_⟩
  intro before between declared after alike accepted
  exact alike.refusedAfter accepted between

def twoInterfaces : List Operation :=
  [.declareModule ⟨10⟩, .declareInterface ⟨1⟩ ⟨20⟩ [] [], .declareInterface ⟨1⟩ ⟨21⟩ [] []]

def spelledFirst : SpelledMethod :=
  ⟨⟨1⟩, ⟨30⟩, .interfaces [⟨0⟩, ⟨1⟩], [⟨⟨31⟩, .interfaces [⟨1⟩, ⟨0⟩], false⟩], ⟨7⟩⟩

def respelled : SpelledMethod :=
  ⟨⟨1⟩, ⟨30⟩, .interfaces [⟨1⟩, ⟨0⟩, ⟨1⟩], [⟨⟨32⟩, .interfaces [⟨0⟩, ⟨1⟩, ⟨1⟩], true⟩], ⟨8⟩⟩

theorem interfaceSets_canonical_respelled :
    spelledFirst.Alike respelled ∧
      (∃ after, (Builder.new.run twoInterfaces).apply spelledFirst.operation = .ok (.method ⟨0⟩, after)) ∧
      respelled.RefusedAfter (twoInterfaces ++ spelledFirst.operation :: [.importModule ⟨1⟩ ⟨0⟩]) := by
  have alike : spelledFirst.Alike respelled := SpelledMethod.key_eq_iff.1 (by decide)
  refine ⟨alike, ⟨_, rfl⟩, ?_⟩
  exact (interfaceSets_canonical.2.2.2 spelledFirst respelled).2 twoInterfaces _ _ _ alike rfl

end AtomResolution
