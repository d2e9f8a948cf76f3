import Signatures.Main
import Signatures.Proofs.Signature.Events
import Signatures.Proofs.Signature.Citations
import Signatures.Proofs.Splitter.Progress
import Signatures.Proofs.Splitter.Canonical
import Signatures.Proofs.Splitter.Composition
import Signatures.Proofs.Splitter.Rejoining
import Signatures.Proofs.Report.Paths
import Signatures.Proofs.Report.Structures
import Signatures.Proofs.Report.Logging
import Signatures.Proofs.Report.Unambiguous
