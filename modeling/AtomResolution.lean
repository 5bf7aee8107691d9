import AtomResolution.Builder.Freeze
import AtomResolution.Conversion.Script
import AtomResolution.Dispatch.Prepare
import AtomResolution.Lens.Compile
import AtomResolution.Lens.Get
import AtomResolution.Lens.Set
import AtomResolution.Value.Display
import AtomResolution.Value.Equality
import AtomResolution.Proofs.Acceptance
import AtomResolution.Proofs.Canonical
import AtomResolution.Proofs.Checks
import AtomResolution.Proofs.Conversion.Delivery
import AtomResolution.Proofs.Dispatch.Failure
import AtomResolution.Proofs.Dispatch.Insertion
import AtomResolution.Proofs.Dispatch.Preparation
import AtomResolution.Proofs.Dispatch.Rearrangement
import AtomResolution.Proofs.Dispatch.StaticMode
import AtomResolution.Proofs.Dispatch.Winner
import AtomResolution.Proofs.Freeze.Agreement
import AtomResolution.Proofs.Freeze.ClaimOrder
import AtomResolution.Proofs.Freeze.ClosedForm
import AtomResolution.Proofs.Freeze.Conformance
import AtomResolution.Proofs.Freeze.Defaults
import AtomResolution.Proofs.Freeze.Handout
import AtomResolution.Proofs.Freeze.Outcome
import AtomResolution.Proofs.Freeze.Rearrangement
import AtomResolution.Proofs.Freeze.Satisfaction
import AtomResolution.Proofs.Interner.Tables
import AtomResolution.Proofs.Lens.ByName
import AtomResolution.Proofs.Lens.Domain
import AtomResolution.Proofs.Lens.Frame
import AtomResolution.Proofs.Lens.Independence
import AtomResolution.Proofs.Lens.OnePass
import AtomResolution.Proofs.Lens.Overwrite
import AtomResolution.Proofs.Lens.Readback
import AtomResolution.Proofs.Lens.WriteBack
import AtomResolution.Proofs.Load.Closure
import AtomResolution.Proofs.Load.Insertion
import AtomResolution.Proofs.Load.Ledger
import AtomResolution.Proofs.Path.Compile
import AtomResolution.Proofs.Path.RoundTrip
import AtomResolution.Proofs.Pattern.Strategies
import AtomResolution.Proofs.Requests.Coherence
import AtomResolution.Proofs.Requests.Construction
import AtomResolution.Proofs.Requests.Session
import AtomResolution.Proofs.Requests.Tokens
import AtomResolution.Proofs.Requests.Typing
import AtomResolution.Proofs.Store.AppendOnly
import AtomResolution.Proofs.Store.Duplicates
import AtomResolution.Proofs.Store.Invariant
import AtomResolution.Proofs.Value.Coherence
import AtomResolution.Proofs.Value.Equality
