import Wiring.Proofs.Binder.Driving
import Wiring.Proofs.Key.Legible
import Wiring.Proofs.Pass.Congruence
import Wiring.Proofs.Pass.Looks
import Wiring.Proofs.Pass.Provenance
import Wiring.Proofs.Pass.Report
import Wiring.Proofs.Statement.Reordering
import Wiring.Proofs.Statement.Slots
import Wiring.Proofs.Summary.Wording
