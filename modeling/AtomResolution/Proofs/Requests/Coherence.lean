import AtomResolution.Proofs.Requests.Typing
import AtomResolution.Proofs.Value.Coherence

/-!
The values that requests give can occur together. Their kinds are those of the declarations, since they are
well typed. Each build takes a cell that no instance before it had, and an update builds nothing else.
-/

namespace AtomResolution

namespace Value

variable {fields known : List Value} {value : Value}

theorem instancesAll_set_subset (fields : List Value) (position : Nat) (new : Value) :
    instancesAll (fields.set position new) ⊆ new.instances ++ instancesAll fields := by
  have inside : fields.set position new ⊆ new :: fields := fun field among => by
    cases List.mem_or_eq_of_mem_set among with
    | inl kept => exact List.mem_cons_of_mem new kept
    | inr same => exact same ▸ List.mem_cons_self
  exact instancesAll_subset inside

theorem instances_subset_of_input (input : value.head? = none ∨ value ∈ known) :
    value.instances ⊆ instancesAll known := by
  cases input with
  | inl plain =>
    rw [instances_of_plain plain]
    exact List.nil_subset _
  | inr knows => exact instances_subset_of_mem knows

end Value

open Value (instancesAll)

/-- Each cell in a pool was handed out, and it holds one list of fields. -/
structure Supply.Stores (supply : Supply) (pool : List (Instance × List Value)) : Prop where
  drawn : ∀ one ∈ pool, one.1.storage < supply.storages
  cells : ∀ one ∈ pool, ∀ other ∈ pool, one.1.storage = other.1.storage → one.2 = other.2

namespace Supply.Stores

variable {supply : Supply} {pool part : List (Instance × List Value)} {fields : List Value} {value new : Value}

theorem of_subset (stores : supply.Stores pool) (inside : part ⊆ pool) : supply.Stores part where
  drawn one among := stores.drawn one (inside among)
  cells one among other otherAmong := stores.cells one (inside among) other (inside otherAmong)

theorem build (stores : supply.Stores pool) (known : instancesAll fields ⊆ pool) (atom : AtomId) (tag : Name)
    (kind : AtomKind) :
    (supply.build atom tag kind fields).2.Stores ((supply.build atom tag kind fields).1.instances ++ pool) := by
  have drawn : (supply.build atom tag kind fields).2.Stores
      ((⟨atom, tag, kind, supply.identities, supply.storages⟩, fields) :: pool) := by
    constructor
    · refine List.forall_mem_cons.2 ⟨Nat.lt_succ_self _, fun one among => ?_⟩
      exact Nat.lt_succ_of_lt (stores.drawn one among)
    · refine List.forall_mem_cons.2 ⟨List.forall_mem_cons.2 ⟨fun _ => rfl, ?_⟩, ?_⟩
      · intro other among shared
        exact absurd shared (Nat.ne_of_gt (stores.drawn other among))
      · intro one among
        refine List.forall_mem_cons.2 ⟨fun shared => ?_, stores.cells one among⟩
        exact absurd shared (Nat.ne_of_lt (stores.drawn one among))
  exact drawn.of_subset (List.cons_subset_cons _ (List.append_subset.2 ⟨known, List.Subset.refl pool⟩))

theorem replaceAt (stores : supply.Stores pool) (known : value.instances ⊆ pool) (newKnown : new.instances ⊆ pool)
    (way : List Nat) :
    (value.replaceAt new supply way).2.Stores ((value.replaceAt new supply way).1.instances ++ pool) := by
  induction way generalizing value with
  | nil => exact stores.of_subset (List.append_subset.2 ⟨newKnown, List.Subset.refl pool⟩)
  | cons position way ih =>
    cases found : value.field? position with
    | none =>
      rw [Value.replaceAt_of_none found]
      exact stores.of_subset (List.append_subset.2 ⟨known, List.Subset.refl pool⟩)
    | some current =>
      obtain ⟨head, fields, isAtom, holds⟩ := Registry.field?_eq_some_iff.1 found
      subst isAtom
      have fieldsKnown : instancesAll fields ⊆ pool := (List.cons_subset.1 known).2
      have currentKnown := List.Subset.trans (Value.instances_subset_of_mem (List.mem_of_getElem? holds)) fieldsKnown
      have inner := ih currentKnown
      rw [Value.replaceAt_cons holds]
      generalize current.replaceAt new supply way = replaced at inner ⊢
      have setKnown : instancesAll (fields.set position replaced.1) ⊆ replaced.1.instances ++ pool :=
        List.Subset.trans (Value.instancesAll_set_subset fields position replaced.1)
          (List.append_subset.2 ⟨List.subset_append_left _ pool, List.subset_append_of_subset_right _ fieldsKnown⟩)
      refine (inner.build setKnown head.atom head.tag head.kind).of_subset (List.append_subset.2 ⟨?_, ?_⟩)
      · exact List.subset_append_left _ _
      · exact List.subset_append_of_subset_right _ (List.subset_append_right _ pool)

end Supply.Stores

def valuesGiven (session : List (Request × Answer)) : List Value :=
  session.filterMap fun exchange => exchange.2.value?

theorem valuesGiven_cons (request : Request) (answer : Answer) (session : List (Request × Answer)) :
    valuesGiven ((request, answer) :: session) = answer.value?.toList ++ valuesGiven session := by
  cases answer with
  | given _ => rfl
  | _ => rfl

theorem mem_valuesGiven_iff {session : List (Request × Answer)} {value : Value} :
    value ∈ valuesGiven session ↔ ∃ request, (request, .given value) ∈ session := by
  unfold valuesGiven
  rw [List.mem_filterMap]
  constructor
  · intro ⟨⟨request, answer⟩, inside, given⟩
    cases answer with
    | given result =>
      cases given
      exact ⟨request, inside⟩
    | _ => cases given
  · intro ⟨request, inside⟩
    exact ⟨_, inside, rfl⟩

namespace Registry

variable {registry : Registry} {supply later : Supply} {lens : Lens} {value target new updated : Value}
  {selectors : List Selector} {way : List Nat} {fields known : List Value} {requests : List Request}
  {pool : List (Instance × List Value)}

theorem Leads.instances_subset (leads : registry.Leads selectors value way target) :
    target.instances ⊆ value.instances := by
  induction leads with
  | done => exact List.Subset.refl _
  | step goes _ ih =>
    cases goes with
    | guard _ => exact ih
    | field _ holds =>
      have fieldInside := Value.instances_subset_of_mem (List.mem_of_getElem? holds)
      exact List.Subset.trans ih (List.subset_cons_of_subset _ fieldInside)

theorem stores_construct {atom : AtomId} (stores : supply.Stores pool) (partsKnown : instancesAll fields ⊆ pool)
    (succeeds : registry.construct atom fields supply = (.ok value, later)) :
    later.Stores (value.instances ++ pool) := by
  obtain ⟨decl, _, ⟨_, made⟩ | ⟨_, made⟩⟩ := construct_eq_ok_iff.1 succeeds
  · cases made
    exact stores
  · cases made
    exact stores.build partsKnown atom decl.tag decl.kind

theorem stores_setStrict (stores : supply.Stores pool) (valueKnown : value.instances ⊆ pool)
    (newKnown : new.instances ⊆ pool)
    (succeeds : lens.setStrict registry value new supply = .ok (updated, later)) :
    later.Stores (updated.instances ++ pool) := by
  obtain ⟨way, target, _, _, replaced⟩ := Lens.exists_leads_of_setStrict succeeds
  have rebuilt := stores.replaceAt valueKnown newKnown way
  rw [replaced] at rebuilt
  exact rebuilt

theorem stores_answer (registry : Registry) (stores : supply.Stores (instancesAll known)) (request : Request)
    (asked : ∀ input ∈ request.inputs, input.instances ⊆ instancesAll known) :
    (registry.answer supply request).2.Stores
      (instancesAll ((registry.answer supply request).1.value?.toList ++ known)) := by
  cases request with
  | construct atom fields =>
    unfold answer
    dsimp only
    split
    next succeeds => exact stores_construct stores (Value.instancesAll_subset_iff.2 asked) succeeds
    next fails =>
      rw [(construct_eq_error_iff.1 fails).2]
      exact stores
  | get lens value =>
    unfold answer
    dsimp only
    split
    next found =>
      obtain ⟨way, leads⟩ := get_eq_some_iff.1 found
      have targetKnown := List.Subset.trans leads.instances_subset (asked value List.mem_cons_self)
      exact stores.of_subset (List.append_subset.2 ⟨targetKnown, List.Subset.refl _⟩)
    · exact stores
  | setStrict lens value new =>
    obtain ⟨valueKnown, newKnown⟩ := List.forall_mem_cons.1 asked
    rw [answer_setStrict]
    split
    next succeeds => exact stores_setStrict stores valueKnown (newKnown new List.mem_cons_self) succeeds
    · exact stores
  | setSafe lens value new =>
    obtain ⟨valueKnown, newKnown⟩ := List.forall_mem_cons.1 asked
    rw [answer_setSafe]
    unfold Lens.setSafe
    split
    next succeeds => exact stores_setStrict stores valueKnown (newKnown new List.mem_cons_self) succeeds
    · exact stores.of_subset (List.append_subset.2 ⟨valueKnown, List.Subset.refl _⟩)

theorem stores_serve (registry : Registry) (supply : Supply) (requests : List Request)
    (stores : supply.Stores (instancesAll known))
    (fedBack : FedBack known (registry.serve supply requests).1) :
    (registry.serve supply requests).2.Stores
      (instancesAll (valuesGiven (registry.serve supply requests).1 ++ known)) := by
  induction requests generalizing known supply with
  | nil => exact stores
  | cons first requests ih =>
    rw [serve_cons] at fedBack ⊢
    obtain ⟨asked, later⟩ := fedBack
    have answered := registry.stores_answer stores first fun input among =>
      Value.instances_subset_of_input (asked input among)
    refine (ih _ answered later).of_subset (Value.instancesAll_subset fun value inside => ?_)
    rw [valuesGiven_cons] at inside
    simp only [List.mem_append] at inside ⊢
    exact or_left_comm.1 (or_assoc.1 inside)

theorem WellTyped.kind_of_instance (typed : registry.WellTyped value) :
    ∀ one ∈ value.instances, (registry.atoms.get? one.1.atom).map AtomDecl.kind = some one.1.kind := by
  induction typed with
  | primitive plain =>
    rw [Value.instances_of_plain plain]
    exact List.forall_mem_nil _
  | @made head fields decl declared own tag kind fills parts ih =>
    refine List.forall_mem_cons.2 ⟨?_, fun one among => ?_⟩
    · rw [declared, kind]
      rfl
    · obtain ⟨field, inside, lies⟩ := Value.mem_instancesAll_iff.1 among
      exact ih field inside one lies

/-- Whatever requests a registry serves, the values that a client is given can occur together. -/
theorem serve_coherent (registry : Registry) (requests : List Request)
    (fedBack : FedBack [] (registry.serve .new requests).1) :
    Value.Coherent (instancesAll (valuesGiven (registry.serve .new requests).1)) := by
  have nothing : Supply.new.Stores (instancesAll []) := ⟨List.forall_mem_nil _, List.forall_mem_nil _⟩
  have stores := registry.stores_serve .new requests nothing fedBack
  rw [List.append_nil] at stores
  refine ⟨fun one among other otherAmong sameAtom => ?_, stores.cells⟩
  have declared : ∀ one ∈ instancesAll (valuesGiven (registry.serve .new requests).1),
      (registry.atoms.get? one.1.atom).map AtomDecl.kind = some one.1.kind := by
    intro one among
    obtain ⟨value, inside, lies⟩ := Value.mem_instancesAll_iff.1 among
    obtain ⟨request, given⟩ := mem_valuesGiven_iff.1 inside
    have typed := wellTyped_of_fedBack (List.forall_mem_nil _) fedBack request value given
    exact typed.kind_of_instance one lies
  have kind := declared one among
  rw [sameAtom, declared other otherAmong] at kind
  exact (Option.some.inj kind).symm

end Registry

end AtomResolution
