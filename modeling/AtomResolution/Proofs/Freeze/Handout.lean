import AtomResolution.Proofs.Freeze.Outcome
import AtomResolution.Proofs.Load.Rearrangement

/-!
The default bodies that freezing hands out. The claims are made good in their order, each in view of what the
earlier ones added. So what an atom gets for a requirement it gets from the first interface it claims that
has a default body for it, and nothing that the atom defines itself is ever met by a default body.
-/

namespace AtomResolution

def IsFirst {α : Type} (property : α → Prop) (list : List α) (entry : α) : Prop :=
  ∃ before later, list = before ++ entry :: later ∧ property entry ∧ ∀ earlier ∈ before, ¬property earlier

theorem isFirst_iff_find? {α : Type} {property : α → Prop} [DecidablePred property] {list : List α} {entry : α} :
    IsFirst property list entry ↔ list.find? (fun entry => property entry) = some entry := by
  rw [List.find?_eq_some_iff_append]
  unfold IsFirst
  simp only [decide_eq_true_iff, Bool.not_eq_true', decide_eq_false_iff_not]
  constructor
  · rintro ⟨before, later, order, holds, earliest⟩
    exact ⟨holds, before, later, order, earliest⟩
  · rintro ⟨holds, before, later, order, earliest⟩
    exact ⟨before, later, order, holds, earliest⟩

theorem isFirst_congr {α : Type} {property : α → Prop} {list other : List α} {entry : α}
    (same : ∀ test, list.find? test = other.find? test) :
    IsFirst property list entry ↔ IsFirst property other entry := by
  classical
  rw [isFirst_iff_find?, isFirst_iff_find?, same]

theorem isFirst_append_cons {α : Type} {property : α → Prop} {before later : List α} {entry : α}
    (holds : property entry) (alone : ∀ earlier ∈ before, property earlier → earlier = entry) :
    IsFirst property (before ++ entry :: later) entry := by
  classical
  rw [isFirst_iff_find?, List.find?_append]
  cases found : before.find? _ with
  | none =>
    rw [Option.none_or, List.find?_cons_of_pos]
    exact decide_eq_true holds
  | some earlier =>
    have hit := List.find?_some found
    rw [decide_eq_true_iff] at hit
    rw [alone earlier (List.mem_of_find?_eq_some found) hit]
    rfl

theorem IsFirst.unique {α : Type} {property : α → Prop} {list : List α} {entry other : α}
    (first : IsFirst property list entry) (second : IsFirst property list other) : entry = other := by
  classical
  rw [isFirst_iff_find?] at first second
  exact Option.some.inj (first.symm.trans second)

namespace Catalog

variable {catalog middle : Catalog} {atom other : AtomId} {interface : InterfaceId} {decl : MethodDecl}
  {requirement offered : Requirement} {claims : List (AtomId × InterfaceId)}

/-- A method is handed out for some claim: a default body of the interface, for a requirement that neither the
atom nor an earlier claim meets. -/
inductive AddsDefault (catalog : Catalog) (claims : List (AtomId × InterfaceId)) : MethodDecl → Prop
  | intro {before later : List (AtomId × InterfaceId)} {atom : AtomId} {interface : InterfaceId}
      {decl : InterfaceDecl} {requirement : Requirement} {body : BodyId}
      (turn : claims = before ++ (atom, interface) :: later)
      (found : catalog.interfaces.get? interface = some decl) (asked : requirement ∈ decl.requirements)
      (default : requirement.defaultBody = some body) (lacking : ¬catalog.Provides before atom requirement) :
      AddsDefault catalog claims (defaultMethod atom interface decl.owner requirement body)

theorem addsDefault_of_materialise (made : catalog.materialise atom interface = .ok middle) :
    ∃ added, middle = { catalog with methods := catalog.methods.append added } ∧
      ∀ decl ∈ added, catalog.AddsDefault [(atom, interface)] decl := by
  unfold materialise at made
  split at made
  next =>
    cases made
    exact ⟨[], by rw [Table.append_nil], List.forall_mem_nil _⟩
  next interfaceDecl found =>
    split at made
    next => cases made
    next =>
      cases made
      refine ⟨_, catalog.foldl_addMethod_eq _, fun decl inside => ?_⟩
      obtain ⟨requirement, asked, lacking, body, default, rfl⟩ := mem_defaultsFor_iff.1 (mem_of_mem_addable inside)
      have first : [(atom, interface)] = [] ++ (atom, interface) :: [] := rfl
      exact .intro first found asked default fun provided => lacking (provides_nil.1 provided)

theorem defines_of_materialise (made : catalog.materialise other interface = .ok middle) :
    middle.defines atom requirement = true ↔ catalog.Provides [(other, interface)] atom requirement := by
  have outcome := catalog.materialise_outcome other interface
  rw [made] at outcome
  cases outcome with
  | complete _ defines => exact defines atom requirement

theorem defines_of_materialiseAll (made : catalog.materialiseAll claims = .ok middle) :
    middle.defines atom requirement = true ↔ catalog.Provides claims atom requirement := by
  have outcome := catalog.materialiseAll_outcome claims
  rw [made] at outcome
  cases outcome with
  | complete _ defines => exact defines atom requirement

theorem AddsDefault.append {more : List (AtomId × InterfaceId)} (adds : catalog.AddsDefault claims decl) :
    catalog.AddsDefault (claims ++ more) decl := by
  cases adds with
  | intro turn found asked default lacking =>
    exact .intro (by rw [turn, List.append_assoc, List.cons_append]) found asked default lacking

theorem AddsDefault.cons {methods : Table .method MethodDecl}
    (made : catalog.materialise other interface = .ok { catalog with methods := methods })
    (adds : ({ catalog with methods := methods } : Catalog).AddsDefault claims decl) :
    catalog.AddsDefault ((other, interface) :: claims) decl := by
  cases adds with
  | @intro before later atom claimed interfaceDecl requirement body turn found asked default lacking =>
    have turns : (other, interface) :: claims = ((other, interface) :: before) ++ (atom, claimed) :: later := by
      rw [turn, List.cons_append]
    refine .intro turns found asked default fun provided => lacking ?_
    exact (provides_cons fun _ _ => defines_of_materialise made).2 provided

theorem addsDefault_of_materialiseAll {final : Catalog} (made : catalog.materialiseAll claims = .ok final) :
    ∃ added, final = { catalog with methods := catalog.methods.append added } ∧
      ∀ decl ∈ added, catalog.AddsDefault claims decl := by
  induction claims generalizing catalog with
  | nil =>
    cases made
    exact ⟨[], by rw [Table.append_nil], List.forall_mem_nil _⟩
  | cons claim claims ih =>
    obtain ⟨atom, interface⟩ := claim
    obtain ⟨middle, first, rest⟩ := bind_eq_ok_iff.1 made
    obtain ⟨added, rfl, handed⟩ := addsDefault_of_materialise first
    obtain ⟨more, rfl, handedLater⟩ := ih rest
    refine ⟨added ++ more, by rw [Table.append_append], ?_⟩
    rw [List.forall_mem_append]
    exact ⟨fun decl inside => (handed decl inside).append, fun decl inside => (handedLater decl inside).cons first⟩

theorem provides_congr (alike : offered.Alike requirement) :
    catalog.Provides claims atom offered ↔ catalog.Provides claims atom requirement := by
  obtain ⟨named, counted⟩ := id alike
  unfold Provides Offers Requirement.Alike
  rw [defines_congr alike, named, counted]

/-- Whatever an atom gets for a requirement it gets from the first interface it claims that offers it. -/
theorem AddsDefault.isFirst (adds : catalog.AddsDefault claims decl) (answers : decl.Answers atom requirement) :
    ¬catalog.defines atom requirement = true ∧ ∃ interface, decl.origin = .interfaceDefault interface ∧
      IsFirst (fun claim => claim.1 = atom ∧ catalog.Offers claim.2 requirement) claims (atom, interface) := by
  cases adds with
  | @intro before later claimant interface interfaceDecl offered body turn found asked default lacking =>
    obtain ⟨rfl, alike⟩ := answers_defaultMethod.1 answers
    rw [provides_congr alike] at lacking
    have offers : catalog.Offers interface requirement :=
      ⟨offered, ⟨interfaceDecl, found, asked⟩, alike, by rw [default]; rfl⟩
    refine ⟨fun defines => lacking (.inl defines), interface, rfl, before, later, turn, ⟨rfl, offers⟩, ?_⟩
    rintro ⟨_, earlier⟩ inside ⟨rfl, offersEarlier⟩
    exact lacking (.inr ⟨earlier, inside, offersEarlier⟩)

end Catalog

namespace Operation

def claims (catalog : Catalog) : Operation → List (AtomId × InterfaceId)
  | .confirm atom interface => (catalog.withSupers interface).map (Prod.mk atom)
  | _ => []

end Operation

namespace Builder

variable {builder after : Builder} {operation : Operation} {declared : Declared}
  {claims : List (AtomId × InterfaceId)}

theorem find?_addClaim (atom : AtomId) (claims : List (AtomId × InterfaceId)) (interface : InterfaceId)
    (test : AtomId × InterfaceId → Bool) :
    (addClaim atom claims interface).find? test = (claims ++ [(atom, interface)]).find? test := by
  unfold addClaim
  split
  next known =>
    rw [List.find?_append]
    cases found : claims.find? test with
    | some claim => rfl
    | none =>
      have fails := List.find?_eq_none.1 found (atom, interface) (List.contains_iff_mem.1 known)
      rw [List.find?_cons_of_neg fails]
      rfl
  next => rfl

theorem find?_addClaims (atom : AtomId) (interfaces : List InterfaceId) (test : AtomId × InterfaceId → Bool) :
    (interfaces.foldl (addClaim atom) claims).find? test =
      (claims ++ interfaces.map (Prod.mk atom)).find? test := by
  induction interfaces generalizing claims with
  | nil =>
    rw [List.map_nil, List.append_nil]
    rfl
  | cons first interfaces ih =>
    rw [List.foldl_cons, ih, List.find?_append, find?_addClaim, ← List.find?_append, List.append_assoc]
    rfl

theorem Applies.find?_confirmed (applies : builder.Applies operation declared after)
    (test : AtomId × InterfaceId → Bool) :
    after.confirmed.find? test = (builder.confirmed ++ operation.claims builder.toCatalog).find? test := by
  cases applies with
  | confirm known present => exact find?_addClaims _ _ test
  | _ => exact congrArg (List.find? test) (List.append_nil _).symm

end Builder

namespace Ledger

variable {ledger : Ledger} {builder : Builder} {registry : Registry}

/-- The claims of a ledger in the order in which they are made. A claim that is made again is listed again. -/
def claimOrder (ledger : Ledger) (catalog : Catalog) : List (AtomId × InterfaceId) :=
  ledger.flatMap fun entry => entry.1.claims catalog

theorem Loads.find?_confirmed (loads : ledger.Loads builder) (later : Catalog)
    (kept : ∀ interface decl, builder.interfaces.get? interface = some decl →
      later.interfaces.get? interface = some decl) (test : AtomId × InterfaceId → Bool) :
    builder.confirmed.find? test = (ledger.claimOrder later).find? test := by
  induction loads with
  | new => rfl
  | @step ledger builder after operation declared loads applies ih =>
    have keptBefore (interface : InterfaceId) (decl : InterfaceDecl)
        (found : builder.interfaces.get? interface = some decl) : later.interfaces.get? interface = some decl :=
      kept interface decl (applies.get?_interfaces_iff.2 (.inl found))
    have sameClaims : operation.claims later = operation.claims builder.toCatalog := by
      cases applies with
      | @confirm atom interface known present =>
        exact congrArg (List.map (Prod.mk atom)) (loads.supersBelow.withSupers_eq keptBefore present)
      | _ => rfl
    unfold claimOrder at ih ⊢
    rw [applies.find?_confirmed, List.flatMap_append, List.flatMap_singleton, List.find?_append, ih keptBefore,
      ← List.find?_append, sameClaims]

/-- A method is a default body of an interface, for something it asks for, on an atom that claims it. -/
inductive HasDefault (ledger : Ledger) : MethodDecl → Prop
  | intro {atom : AtomId} {interface : InterfaceId} {decl : InterfaceDecl} {requirement : Requirement}
      {body : BodyId} (claims : ledger.Claims atom interface) (declares : ledger.DeclaresInterface interface decl)
      (asked : requirement ∈ decl.requirements) (default : requirement.defaultBody = some body) :
      HasDefault ledger
        ⟨decl.owner, requirement.name, .atom atom, requirement.params, body, .interfaceDefault interface⟩

/-- The methods that are handed out where claims come in some order. -/
structure Handout (ledger : Ledger) (order : List (AtomId × InterfaceId)) (added : List MethodDecl) : Prop where
  defaults : ∀ decl ∈ added, ledger.HasDefault decl
  lacking : ∀ decl ∈ added, ∀ atom requirement, decl.Answers atom requirement → ¬ledger.Defines atom requirement
  complete : ∀ atom interface requirement, ledger.Claims atom interface → ledger.Requires interface requirement →
    requirement.defaultBody.isSome = true → ¬ledger.Defines atom requirement →
    ∃ decl ∈ added, decl.Answers atom requirement
  /-- All that an atom gets for one name and number of parameters comes from one interface, the first that offers
  it. -/
  first : ∀ atom requirement, (∃ decl ∈ added, decl.Answers atom requirement) →
    ∃ interface, IsFirst (fun claim => claim.1 = atom ∧ ledger.Offers claim.2 requirement) order (atom, interface) ∧
      ∀ decl ∈ added, decl.Answers atom requirement → decl.origin = .interfaceDefault interface

theorem Loads.handout (loads : ledger.Loads builder) (frozen : builder.freeze = .ok registry) :
    ∃ added, registry.methods = builder.methods.append added ∧
      ledger.Handout (ledger.claimOrder registry.toCatalog) added := by
  obtain ⟨catalog, made, rfl⟩ := Builder.freeze_eq_ok_iff.1 frozen
  obtain ⟨added, rfl, handed⟩ := Catalog.addsDefault_of_materialiseAll made
  have scans := loads.find?_confirmed { builder.toCatalog with methods := builder.methods.append added }
    fun _ _ found => found
  refine ⟨added, rfl, ?_, ?_, ?_, ?_⟩
  · intro decl inside
    cases handed decl inside with
    | @intro before later atom interface interfaceDecl requirement body turn found asked default lacking =>
      have claimed : (atom, interface) ∈ builder.confirmed := by
        rw [turn]
        exact List.mem_append_right _ List.mem_cons_self
      exact .intro (loads.mem_confirmed_iff.1 claimed) (loads.get?_interfaces_iff.1 found) asked default
  · intro decl inside atom requirement answers
    rw [← loads.defines_iff]
    exact ((handed decl inside).isFirst answers).1
  · intro atom interface requirement claims requires default undefined
    have offers : builder.Offers interface requirement :=
      ⟨requirement, loads.requires_iff.2 requires, ⟨rfl, rfl⟩, default⟩
    have defined := (Catalog.defines_of_materialiseAll made).2
      (.inr ⟨interface, loads.mem_confirmed_iff.2 claims, offers⟩)
    rw [← loads.defines_iff, Catalog.defines_iff, not_or] at undefined
    rcases Catalog.defines_iff.1 defined with ⟨decl, inside, answers⟩ | field
    · rcases List.mem_append.1 inside with old | new
      · exact absurd ⟨decl, old, answers⟩ undefined.1
      · exact ⟨decl, new, answers⟩
    · exact absurd field undefined.2
  · rintro atom requirement ⟨decl, inside, answers⟩
    obtain ⟨-, interface, origin, first⟩ := (handed decl inside).isFirst answers
    simp only [loads.offers_iff] at first
    refine ⟨interface, (isFirst_congr scans).1 first, ?_⟩
    intro other otherInside otherAnswers
    obtain ⟨-, otherInterface, otherOrigin, otherFirst⟩ := (handed other otherInside).isFirst otherAnswers
    simp only [loads.offers_iff] at otherFirst
    rw [otherOrigin, (Prod.mk.inj (otherFirst.unique first)).2]

end Ledger

namespace Builder

/-- Freezing adds to the declared methods, which keep their handles, exactly the default bodies that are due: what
an atom does not define itself it gets from the first interface it claims that has a default body for it. -/
theorem freeze_hands_out_defaults {operations : List Operation} {registry : Registry}
    (frozen : (new.run operations).freeze = .ok registry) :
    ∃ added, registry.methods = (new.run operations).methods.append added ∧
      (∀ id decl, (new.run operations).methods.get? id = some decl ↔ decl.origin = .declared ∧
        (.declareMethod decl.owner decl.name decl.receiver decl.params decl.body, .method id) ∈
          new.ledger operations) ∧
      (new.ledger operations).Handout ((new.ledger operations).claimOrder registry.toCatalog) added := by
  have loads := loads_ledger operations
  obtain ⟨added, appended, handout⟩ := loads.handout frozen
  exact ⟨added, appended, fun _ _ => loads.get?_methods_iff, handout⟩

def overloadedDefaults : List Operation :=
  [.declareModule ⟨10⟩, .declareModule ⟨11⟩, .declareAtom ⟨2⟩ ⟨⟨12⟩, .named, []⟩,
    .declareInterface ⟨1⟩ ⟨13⟩ [] [⟨⟨15⟩, [⟨⟨17⟩, .any, false⟩], some ⟨7⟩⟩],
    .declareInterface ⟨1⟩ ⟨14⟩ [⟨0⟩] [⟨⟨15⟩, [⟨⟨17⟩, .atom AtomId.int, false⟩], some ⟨8⟩⟩,
      ⟨⟨15⟩, [⟨⟨17⟩, .atom AtomId.text, false⟩], some ⟨9⟩⟩, ⟨⟨16⟩, [], some ⟨10⟩⟩],
    .declareMethod ⟨2⟩ ⟨16⟩ (.atom ⟨5⟩) [] ⟨11⟩, .confirm ⟨5⟩ ⟨1⟩]

theorem freeze_hands_out_defaults_overloaded :
    (new.run overloadedDefaults).freeze = .ok (.ofLoad overloadedDefaults) ∧
    (Registry.ofLoad overloadedDefaults).methods.entries.map MethodDecl.body = [⟨11⟩, ⟨8⟩, ⟨9⟩] ∧
    ∃ added, (Registry.ofLoad overloadedDefaults).methods = (new.run overloadedDefaults).methods.append added ∧
      (new.ledger overloadedDefaults).Handout [(⟨5⟩, ⟨1⟩), (⟨5⟩, ⟨0⟩)] added := by
  obtain ⟨added, appended, -, handout⟩ :=
    freeze_hands_out_defaults (rfl : (new.run overloadedDefaults).freeze = .ok (.ofLoad overloadedDefaults))
  exact ⟨rfl, rfl, added, appended, handout⟩

end Builder

end AtomResolution
