import Conformance.Descriptor.Inspect
import Conformance.Main
import Conformance.Proofs.Acceptance
import Conformance.Proofs.Commands
import Conformance.Proofs.Commits
import Conformance.Proofs.Creation
import Conformance.Proofs.Depth
import Conformance.Proofs.ExactKeys
import Conformance.Proofs.KeyOrder
import Conformance.Proofs.Lossless
import Conformance.Proofs.Nesting
import Conformance.Proofs.Normalization
import Conformance.Proofs.Options
import Conformance.Proofs.Readers
import Conformance.Proofs.Registration
import Conformance.Proofs.Rendering
import Conformance.Proofs.Reordering
import Conformance.Proofs.Returns
import Conformance.Proofs.Strategies
import Conformance.Proofs.Unfolding
import Conformance.Proofs.Unions
