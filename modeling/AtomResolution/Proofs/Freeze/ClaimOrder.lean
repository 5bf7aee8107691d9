import AtomResolution.Proofs.Freeze.Conformance
import AtomResolution.Proofs.Freeze.Handout

/-!
The order of the claims. A claim touches nothing but the list of claims, so load sequences that differ in the
order of their claims have the same entries in their ledgers. Where both freeze, they lead to the same
relation. Whether they freeze does depend on the order: what one claimed interface asks for without a default
body may be offered by another one, and counts only once that one had its turn. A load sequence freezes in every
order of its claims exactly if each claim brings with it, in time, whatever the atom does not define itself.
-/

namespace AtomResolution

namespace Operation

def isClaim : Operation → Bool
  | .confirm _ _ => true
  | _ => false

theorem claims_eq_nil {operation : Operation} (noClaim : operation.isClaim = false) (catalog : Catalog) :
    operation.claims catalog = [] := by
  cases operation with
  | confirm _ _ => cases noClaim
  | _ => rfl

end Operation

theorem Ledger.Loads.declared_eq_nothing {ledger : Ledger} {builder : Builder} {operation : Operation}
    {declared : Declared} (loads : ledger.Loads builder) (claim : operation.isClaim = true)
    (inside : (operation, declared) ∈ ledger) : declared = .nothing := by
  obtain ⟨_, _, applies⟩ := loads.applies_of_mem inside
  cases applies with
  | confirm _ _ => rfl
  | _ => cases claim

namespace Builder

variable {builder after : Builder} {operation claim : Operation} {declared : Declared} {operations : List Operation}

def withoutClaims (builder : Builder) : Builder := { builder with confirmed := [] }

theorem erases_claims : Erases withoutClaims Operation.isClaim where
  initial := rfl
  dropped applies isLoose := by
    cases applies with
    | confirm _ _ => rfl
    | _ => cases isLoose
  kept {builder _ _ _} applies isFirm := by
    have family {owner : ModuleId} {name : Name} {variants : List VariantSpec}
        (fits : builder.FamilyFits owner name variants) : builder.withoutClaims.FamilyFits owner name variants :=
      fits.of_same fits.owned rfl rfl rfl
    cases applies with
    | declareModule free => exact .declareModule free
    | importModule importing exporting => exact .importModule importing exporting
    | declareAtom fits => exact .declareAtom (family fits)
    | declareFamily fits => exact .declareFamily (family fits)
    | declareInterface fits => exact .declareInterface ⟨fits.owned, fits.above, fits.typed, fits.free⟩
    | confirm _ _ => cases isFirm
    | declareMethod fits => exact .declareMethod ⟨fits.owned, fits.received, fits.typed, fits.free⟩
    | declareConversion fits => exact .declareConversion ⟨fits.owned, fits.typed, fits.defaulted, fits.free⟩

theorem Accepts.toCatalog_run (accepts : new.Accepts operations) :
    (new.run (operations.filter fun operation => !operation.isClaim)).toCatalog = (new.run operations).toCatalog :=
  (congrArg Builder.toCatalog (erases_claims.run accepts)).symm

theorem Accepts.mem_ledger_iff (accepts : new.Accepts operations) (claim : operation.isClaim = true) :
    (operation, declared) ∈ new.ledger operations ↔ declared = .nothing ∧ operation ∈ operations := by
  constructor
  · intro inside
    refine ⟨(loads_ledger operations).declared_eq_nothing claim inside, ?_⟩
    rw [← accepts]
    exact List.mem_map_of_mem inside
  · intro both
    obtain ⟨rfl, listed⟩ := both
    rw [← accepts] at listed
    obtain ⟨⟨_, given⟩, inside, rfl⟩ := List.mem_map.1 listed
    cases (loads_ledger operations).declared_eq_nothing claim inside
    exact inside

theorem accepts_claims (declared : ∀ operation ∈ operations, ∃ atom interface, operation = .confirm atom interface ∧
    builder.atoms.contains atom = true ∧ builder.interfaces.contains interface = true) :
    builder.Accepts operations := by
  induction operations generalizing builder with
  | nil => rfl
  | cons operation operations ih =>
    obtain ⟨⟨atom, interface, rfl, known, present⟩, later⟩ := List.forall_mem_cons.1 declared
    exact accepts_cons_iff.2 ⟨.nothing, _, .confirm known present, ih later⟩

/-- The declarations of two load sequences are the same, one by one, and so are their claims, in any order. -/
structure ClaimsReordered (first second : List Operation) : Prop where
  firstAccepted : new.Accepts first
  secondAccepted : new.Accepts second
  permuted : first.Perm second
  sameOthers : (first.filter fun operation => !operation.isClaim) = second.filter fun operation => !operation.isClaim

namespace ClaimsReordered

variable {first second : List Operation} (reordered : ClaimsReordered first second)
include reordered

theorem toCatalog_eq : (new.run first).toCatalog = (new.run second).toCatalog := by
  rw [← reordered.firstAccepted.toCatalog_run, reordered.sameOthers, reordered.secondAccepted.toCatalog_run]

theorem mem_ledger_iff (entry : Operation × Declared) : entry ∈ new.ledger first ↔ entry ∈ new.ledger second := by
  obtain ⟨operation, declared⟩ := entry
  cases kind : operation.isClaim with
  | true =>
    rw [reordered.firstAccepted.mem_ledger_iff kind, reordered.secondAccepted.mem_ledger_iff kind,
      reordered.permuted.mem_iff]
  | false =>
    have apart {operations : List Operation} (accepted : new.Accepts operations) :
        (operation, declared) ∈ new.ledger operations ↔
          (operation, declared) ∈ new.ledger (operations.filter fun operation => !operation.isClaim) := by
      have kept := erases_claims.ledger accepted
      rw [erases_claims.initial] at kept
      rw [← kept, List.mem_filter]
      simp [kind]
    rw [apart reordered.firstAccepted, reordered.sameOthers, ← apart reordered.secondAccepted]

end ClaimsReordered

def claimingFirst (claim : Operation) (operations : List Operation) : List Operation :=
  (operations.filter fun operation => !operation.isClaim) ++
    claim :: (operations.filter Operation.isClaim).erase claim

theorem reordered_claimingFirst (accepts : new.Accepts operations) (listed : claim ∈ operations)
    (isClaim : claim.isClaim = true) : ClaimsReordered operations (claimingFirst claim operations) := by
  have among : claim ∈ operations.filter Operation.isClaim := List.mem_filter.2 ⟨listed, isClaim⟩
  have kinds : ∀ operation ∈ claim :: (operations.filter Operation.isClaim).erase claim,
      operation ∈ operations ∧ operation.isClaim = true := by
    intro operation inside
    rw [(List.perm_cons_erase among).symm.mem_iff] at inside
    exact List.mem_filter.1 inside
  refine ⟨accepts, ?_, ?_, ?_⟩
  · refine (erases_claims.accepts accepts).append (accepts_claims fun operation inside => ?_)
    obtain ⟨belongs, claims⟩ := kinds operation inside
    cases operation with
    | confirm atom interface =>
      have loads := loads_ledger operations
      have confirms : (new.ledger operations).Confirms atom interface :=
        (accepts.mem_ledger_iff claims).2 ⟨rfl, belongs⟩
      have known := loads.contains_atoms_iff.2 (loads.declaresAtom_of_confirms confirms)
      have present := loads.contains_of_confirms confirms
      rw [← accepts.toCatalog_run] at known present
      exact ⟨atom, interface, rfl, known, present⟩
    | _ => cases claims
  · refine (List.filter_append_perm Operation.isClaim operations).symm.trans (List.perm_append_comm.trans ?_)
    exact (List.perm_cons_erase among).append_left _
  · have noClaims : ((claim :: (operations.filter Operation.isClaim).erase claim).filter
        fun operation => !operation.isClaim) = [] := by
      apply List.filter_eq_nil_iff.2
      intro operation inside
      simp [(kinds operation inside).2]
    unfold claimingFirst
    rw [List.filter_append, List.filter_filter, noClaims, List.append_nil]
    simp only [Bool.and_self]

theorem exists_claimOrder_claimingFirst {atom : AtomId} {claimed : InterfaceId} (catalog : Catalog)
    (accepts : new.Accepts (claimingFirst (.confirm atom claimed) operations)) :
    ∃ more, (new.ledger (claimingFirst (.confirm atom claimed) operations)).claimOrder catalog =
      (catalog.withSupers claimed).map (Prod.mk atom) ++ more := by
  have others : (operations.filter fun operation => !operation.isClaim).flatMap (Operation.claims catalog) = [] := by
    apply List.flatMap_eq_nil_iff.2
    intro operation inside
    exact Operation.claims_eq_nil (by simpa using (List.mem_filter.1 inside).2) catalog
  refine ⟨((operations.filter Operation.isClaim).erase (.confirm atom claimed)).flatMap
    (Operation.claims catalog), ?_⟩
  calc (new.ledger (claimingFirst (.confirm atom claimed) operations)).claimOrder catalog
    _ = (claimingFirst (.confirm atom claimed) operations).flatMap (Operation.claims catalog) := by
      conv => rhs; rw [← accepts, List.flatMap_map]
      rfl
    _ = _ := by
      unfold claimingFirst
      rw [List.flatMap_append, others, List.nil_append, List.flatMap_cons]
      rfl

end Builder

namespace Ledger

variable {ledger other : Ledger} {builder : Builder} {catalog : Catalog} {atom : AtomId}
  {claimed interface : InterfaceId} {requirement : Requirement}

/-- What decides whether an interface finds a requirement met when it has its turn: itself, or one that has a default
body for it. -/
def Decides (ledger : Ledger) (interface : InterfaceId) (requirement : Requirement) (turn : InterfaceId) : Prop :=
  turn = interface ∨ ledger.Offers turn requirement

/-- A load sequence freezes exactly if no interface without a default body for something that the atom does not
define has its turn before one that offers it. -/
theorem Loads.exists_freeze_iff (loads : ledger.Loads builder) : (∃ registry, builder.freeze = .ok registry) ↔
    ∀ atom interface requirement, ledger.Requires interface requirement → requirement.defaultBody = none →
      ledger.Defines atom requirement ∨
        ¬IsFirst (fun claim => claim.1 = atom ∧ ledger.Decides interface requirement claim.2)
          (ledger.claimOrder builder.toCatalog) (atom, interface) := by
  have scans := loads.find?_confirmed builder.toCatalog fun _ _ found => found
  have outcome := builder.materialiseAll_outcome builder.confirmed
  constructor
  · intro freezes atom interface requirement requires bare
    obtain ⟨registry, frozen⟩ := freezes
    obtain ⟨catalog, made, _⟩ := Builder.freeze_eq_ok_iff.1 frozen
    rw [made] at outcome
    cases outcome with
    | complete met _ =>
      refine or_iff_not_imp_left.2 fun lacks first => ?_
      obtain ⟨before, later, turn, _, earliest⟩ := (isFirst_congr scans).2 first
      rcases met before atom interface later turn requirement (loads.requires_iff.2 requires) bare with
        defines | ⟨offering, inside, offers⟩
      · exact lacks (loads.defines_iff.1 defines)
      · exact earliest _ inside ⟨rfl, .inr (loads.offers_iff.1 offers)⟩
  · intro met
    cases frozen : builder.freeze with
    | ok registry => exact ⟨registry, rfl⟩
    | error error =>
      exfalso
      rw [Builder.freeze_eq_error_iff.1 frozen] at outcome
      cases outcome with
      | @broken before later atom interface requirement turn requires bare lacking =>
        rcases met atom interface requirement (loads.requires_iff.1 requires) bare with defines | notFirst
        · exact lacking (.inl (loads.defines_iff.2 defines))
        · apply notFirst
          rw [← isFirst_congr scans, turn]
          refine isFirst_append_cons ⟨rfl, .inl rfl⟩ fun claim inside decides => ?_
          obtain ⟨rfl, rfl | offers⟩ := decides
          · rfl
          · exact absurd (.inr ⟨claim.2, inside, loads.offers_iff.2 offers⟩) lacking

theorem Loads.exists_confirms_of_isFirst (loads : ledger.Loads builder) {property : InterfaceId → Prop}
    (first : IsFirst (fun claim => claim.1 = atom ∧ property claim.2) (ledger.claimOrder catalog) (atom, interface)) :
    ∃ claimed, ledger.Confirms atom claimed ∧ IsFirst property (catalog.withSupers claimed) interface := by
  classical
  rw [isFirst_iff_find?] at first
  unfold claimOrder at first
  rw [List.find?_flatMap] at first
  obtain ⟨⟨operation, declared⟩, inside, hit⟩ := List.exists_of_findSome?_eq_some first
  cases operation with
  | confirm claimant claimed =>
    unfold Operation.claims at hit
    rw [List.find?_map, Option.map_eq_some_iff] at hit
    obtain ⟨_, found, same⟩ := hit
    cases same
    cases loads.declared_eq_nothing rfl inside
    refine ⟨claimed, inside, isFirst_iff_find?.2 ?_⟩
    simpa [Function.comp_def] using found
  | _ => cases hit

/-- A claim brings with it, in time, what it needs for one of its interfaces: the atom defines it, or there is a
default body in an interface that comes with the claim earlier. -/
def Secures (ledger : Ledger) (catalog : Catalog) (atom : AtomId) (claimed interface : InterfaceId)
    (requirement : Requirement) : Prop :=
  ledger.Defines atom requirement ∨
    ∃ offering ∈ (catalog.withSupers claimed).takeWhile (· ≠ interface), ledger.Offers offering requirement

/-- Every claim brings with it what it needs and has no default body for. -/
def SelfMade (ledger : Ledger) (catalog : Catalog) : Prop :=
  ∀ atom claimed interface requirement, ledger.Confirms atom claimed → ledger.Extends claimed interface →
    ledger.Requires interface requirement → requirement.defaultBody = none →
    ledger.Secures catalog atom claimed interface requirement

/-- No claim relies on a default body that comes with another claim, or with itself but too late. -/
def SelfReliant (ledger : Ledger) (catalog : Catalog) : Prop :=
  ∀ atom claimed interface requirement, ledger.Confirms atom claimed → ledger.Extends claimed interface →
    ledger.Requires interface requirement → requirement.defaultBody = none → ledger.Provides atom requirement →
    ledger.Secures catalog atom claimed interface requirement

theorem secures_congr (same : ∀ entry, entry ∈ ledger ↔ entry ∈ other) :
    ledger.Secures catalog atom claimed interface requirement ↔
      other.Secures catalog atom claimed interface requirement := by
  unfold Secures
  simp only [defines_congr same, offers_congr same]

theorem selfMade_congr (same : ∀ entry, entry ∈ ledger ↔ entry ∈ other) :
    ledger.SelfMade catalog ↔ other.SelfMade catalog := by
  unfold SelfMade Confirms
  simp only [same, extends_congr same, requires_congr same, secures_congr same]

theorem selfReliant_congr (same : ∀ entry, entry ∈ ledger ↔ entry ∈ other) :
    ledger.SelfReliant catalog ↔ other.SelfReliant catalog := by
  unfold SelfReliant Confirms
  simp only [same, extends_congr same, requires_congr same, provides_congr same, secures_congr same]

theorem SelfMade.selfReliant (selfMade : ledger.SelfMade catalog) : ledger.SelfReliant catalog :=
  fun atom claimed interface requirement confirms reaches requires bare _ =>
    selfMade atom claimed interface requirement confirms reaches requires bare

theorem SelfReliant.selfMade {registry : Registry} (reliant : ledger.SelfReliant catalog)
    (loads : ledger.Loads builder) (frozen : builder.freeze = .ok registry) : ledger.SelfMade catalog :=
  fun atom claimed interface requirement confirms reaches requires bare =>
    reliant atom claimed interface requirement confirms reaches requires bare
      (loads.provides_of_claims frozen ⟨claimed, confirms, reaches⟩ requires)

theorem takeWhile_ne_eq {before later : List InterfaceId} (absent : interface ∉ before) :
    (before ++ interface :: later).takeWhile (· ≠ interface) = before := by
  rw [List.takeWhile_append_of_pos, List.takeWhile_cons_of_neg (by simp), List.append_nil]
  intro earlier inside
  exact decide_eq_true fun same => absent (same ▸ inside)

theorem Loads.exists_freeze_of_selfMade (loads : ledger.Loads builder)
    (selfMade : ledger.SelfMade builder.toCatalog) : ∃ registry, builder.freeze = .ok registry := by
  apply loads.exists_freeze_iff.2
  intro atom interface requirement requires bare
  refine or_iff_not_imp_left.2 fun lacks first => ?_
  obtain ⟨claimed, confirms, before, later, order, _, earliest⟩ := loads.exists_confirms_of_isFirst first
  have reaches : ledger.Extends claimed interface := by
    rw [← loads.extends_iff, ← Catalog.mem_withSupers_iff, order]
    exact List.mem_append_right _ List.mem_cons_self
  rcases selfMade atom claimed interface requirement confirms reaches requires bare with
    defines | ⟨offering, inside, offers⟩
  · exact lacks defines
  · rw [order, takeWhile_ne_eq fun inside => earliest interface inside (.inl rfl)] at inside
    exact earliest offering inside (.inr offers)

end Ledger

namespace Builder

variable {first second operations : List Operation}

/-- Some order of the claims lets the one that lacks something have its turn first. -/
theorem selfMade_of_freezes (accepts : new.Accepts operations)
    (freezes : ∀ other, ClaimsReordered operations other → ∃ registry, (new.run other).freeze = .ok registry) :
    (new.ledger operations).SelfMade (new.run operations).toCatalog := by
  intro atom claimed interface requirement confirms reaches requires bare
  have listed := ((accepts.mem_ledger_iff rfl).1 confirms).2
  have reordered := reordered_claimingFirst accepts listed rfl
  have sameEntries := reordered.mem_ledger_iff
  have loads := loads_ledger (claimingFirst (.confirm atom claimed) operations)
  rcases loads.exists_freeze_iff.1 (freezes _ reordered) atom interface requirement
    ((Ledger.requires_congr sameEntries).1 requires) bare with defines | notFirst
  · exact .inl ((Ledger.defines_congr sameEntries).2 defines)
  · refine .inr (by_contra fun unsecured => notFirst ?_)
    rw [← reordered.toCatalog_eq]
    obtain ⟨more, order⟩ := exists_claimOrder_claimingFirst (new.run operations).toCatalog reordered.secondAccepted
    have inside : interface ∈ (new.run operations).withSupers claimed :=
      Catalog.mem_withSupers_iff.2 ((loads_ledger operations).extends_iff.2 reaches)
    obtain ⟨before, later, split, absent⟩ := List.eq_append_cons_of_mem inside
    rw [split, Ledger.takeWhile_ne_eq absent] at unsecured
    refine ⟨before.map (Prod.mk atom), later.map (Prod.mk atom) ++ more, ?_, ⟨rfl, .inl rfl⟩, ?_⟩
    · rw [order, split, List.map_append, List.append_assoc]
      rfl
    · intro claim earlier decides
      obtain ⟨offering, among, rfl⟩ := List.mem_map.1 earlier
      rcases decides.2 with same | offers
      · exact absent (same ▸ among)
      · exact unsecured ⟨offering, among, (Ledger.offers_congr sameEntries).2 offers⟩

/-- Load sequences that differ in the order of their claims lead to the same relation if both freeze. If no claim
relies on a default body that comes with another one, or too late, both freeze or none does. And a load sequence
freezes in every order of its claims exactly if each claim brings with it whatever it needs. -/
theorem freeze_of_claimsReordered (reordered : ClaimsReordered first second) :
    (∀ registry again, (new.run first).freeze = .ok registry → (new.run second).freeze = .ok again →
      ∀ atom interface, registry.satisfies atom interface = again.satisfies atom interface) ∧
    ((new.ledger first).SelfReliant (new.run first).toCatalog →
      ((∃ registry, (new.run first).freeze = .ok registry) ↔ ∃ again, (new.run second).freeze = .ok again)) ∧
    ((new.ledger first).SelfMade (new.run first).toCatalog ↔
      ∀ other, ClaimsReordered first other → ∃ registry, (new.run other).freeze = .ok registry) := by
  have sameEntries := reordered.mem_ledger_iff
  refine ⟨fun registry again frozen frozenAgain atom interface => ?_, fun reliant => ⟨?_, ?_⟩, ?_, ?_⟩
  · rw [Bool.eq_iff_iff, (loads_ledger first).satisfies_iff frozen, (loads_ledger second).satisfies_iff frozenAgain]
    exact Ledger.satisfies_congr sameEntries
  · intro freezes
    obtain ⟨registry, frozen⟩ := freezes
    have selfMade := reliant.selfMade (loads_ledger first) frozen
    rw [Ledger.selfMade_congr sameEntries, reordered.toCatalog_eq] at selfMade
    exact (loads_ledger second).exists_freeze_of_selfMade selfMade
  · intro freezes
    obtain ⟨again, frozen⟩ := freezes
    have selfMade := ((Ledger.selfReliant_congr sameEntries).1 reliant).selfMade (loads_ledger second) frozen
    exact (loads_ledger first).exists_freeze_of_selfMade ((Ledger.selfMade_congr sameEntries).2 selfMade)
  · intro selfMade other otherOrder
    rw [Ledger.selfMade_congr otherOrder.mem_ledger_iff, otherOrder.toCatalog_eq] at selfMade
    exact (loads_ledger other).exists_freeze_of_selfMade selfMade
  · exact selfMade_of_freezes reordered.firstAccepted

/-- An interface asks for two things and has a default body for none. An atom with a field for one of them claims, in
some order, an interface that extends it and has a default body for the other, and an interface with a rival one. -/
def rivalDefaults (earlier later : InterfaceId) : List Operation :=
  [.declareModule ⟨10⟩, .declareAtom ⟨1⟩ ⟨⟨11⟩, .named, [⟨⟨16⟩, .atom AtomId.int⟩]⟩,
    .declareInterface ⟨1⟩ ⟨12⟩ [] [⟨⟨15⟩, [], none⟩, ⟨⟨16⟩, [], none⟩],
    .declareInterface ⟨1⟩ ⟨13⟩ [⟨0⟩] [⟨⟨15⟩, [], some ⟨7⟩⟩],
    .declareInterface ⟨1⟩ ⟨14⟩ [] [⟨⟨15⟩, [], some ⟨8⟩⟩, ⟨⟨16⟩, [], none⟩],
    .confirm ⟨5⟩ earlier, .confirm ⟨5⟩ later]

/-- The order decides which default body the atom gets, and nothing else. -/
theorem freeze_of_claimsReordered_rivals :
    ClaimsReordered (rivalDefaults ⟨1⟩ ⟨2⟩) (rivalDefaults ⟨2⟩ ⟨1⟩) ∧
    (new.ledger (rivalDefaults ⟨1⟩ ⟨2⟩)).Requires ⟨0⟩ ⟨⟨15⟩, [], none⟩ ∧
    (new.run (rivalDefaults ⟨1⟩ ⟨2⟩)).defines ⟨5⟩ ⟨⟨15⟩, [], none⟩ = false ∧
    (new.ledger (rivalDefaults ⟨1⟩ ⟨2⟩)).SelfReliant (new.run (rivalDefaults ⟨1⟩ ⟨2⟩)).toCatalog ∧
    (∃ again, (new.run (rivalDefaults ⟨2⟩ ⟨1⟩)).freeze = .ok again) ∧
    (Registry.ofLoad (rivalDefaults ⟨1⟩ ⟨2⟩)).satisfies ⟨5⟩ ⟨0⟩ =
      (Registry.ofLoad (rivalDefaults ⟨2⟩ ⟨1⟩)).satisfies ⟨5⟩ ⟨0⟩ := by
  have loads := loads_ledger (rivalDefaults ⟨1⟩ ⟨2⟩)
  have reordered : ClaimsReordered (rivalDefaults ⟨1⟩ ⟨2⟩) (rivalDefaults ⟨2⟩ ⟨1⟩) := ⟨rfl, rfl, by decide, rfl⟩
  have claims : ∀ entry ∈ new.ledger (rivalDefaults ⟨1⟩ ⟨2⟩), entry.1.isClaim = true →
      entry.1 = .confirm ⟨5⟩ ⟨1⟩ ∨ entry.1 = .confirm ⟨5⟩ ⟨2⟩ := by decide
  have selfMade : (new.ledger (rivalDefaults ⟨1⟩ ⟨2⟩)).SelfMade (new.run (rivalDefaults ⟨1⟩ ⟨2⟩)).toCatalog := by
    intro atom claimed interface requirement confirms reaches requires bare
    rw [← loads.extends_iff, ← Catalog.mem_withSupers_iff] at reaches
    obtain ⟨decl, found, asked⟩ := loads.requires_iff.2 requires
    rcases claims _ confirms rfl with same | same
    · cases same
      rcases List.mem_pair.1 reaches with rfl | rfl
      · cases found
        cases List.mem_singleton.1 asked
        cases bare
      · cases found
        rcases List.mem_pair.1 asked with rfl | rfl
        · have asksItself : (new.run (rivalDefaults ⟨1⟩ ⟨2⟩)).Requires ⟨1⟩ ⟨⟨15⟩, [], some ⟨7⟩⟩ :=
            ⟨_, rfl, List.mem_singleton_self _⟩
          exact .inr ⟨⟨1⟩, by decide, loads.offers_iff.1 ⟨_, asksItself, ⟨rfl, rfl⟩, rfl⟩⟩
        · exact .inl (loads.defines_iff.1 rfl)
    · cases same
      cases List.mem_singleton.1 reaches
      cases found
      rcases List.mem_pair.1 asked with rfl | rfl
      · cases bare
      · exact .inl (loads.defines_iff.1 rfl)
  obtain ⟨sameRelation, bothFreeze, -⟩ := freeze_of_claimsReordered reordered
  exact ⟨reordered, loads.requires_iff.1 ⟨_, rfl, List.mem_cons_self⟩, rfl, selfMade.selfReliant,
    (bothFreeze selfMade.selfReliant).1 ⟨_, rfl⟩, sameRelation _ _ rfl rfl ⟨5⟩ ⟨0⟩⟩

/-- Without that condition the order of the claims decides whether a load sequence freezes. -/
theorem freeze_depends_on_claimOrder : ClaimsReordered offerFirst offerLast ∧
    (∃ registry, (new.run offerFirst).freeze = .ok registry) ∧
    ¬∃ registry, (new.run offerLast).freeze = .ok registry := by
  refine ⟨⟨rfl, rfl, by decide, rfl⟩, ⟨_, rfl⟩, ?_⟩
  rintro ⟨registry, frozen⟩
  have failed : (new.run offerLast).freeze = .error (.incompleteConformance ⟨5⟩ ⟨0⟩ ⟨14⟩) := rfl
  rw [failed] at frozen
  cases frozen

end Builder

end AtomResolution
