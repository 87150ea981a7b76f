import Scpi.Main
import Scpi.Proofs.Checked
import Scpi.Proofs.Confinement
import Scpi.Proofs.History
import Scpi.Proofs.Interleaving
import Scpi.Proofs.Oversize
import Scpi.Proofs.Ranking
import Scpi.Proofs.Rendering
import Scpi.Proofs.Shadow
import Scpi.Proofs.Shorthand
import Scpi.Proofs.Transparency
import Scpi.Proofs.Unknown
import Scpi.Proofs.Written
import Scpi.Proofs.Admission
import Scpi.Proofs.Framing
import Scpi.Proofs.BareWords
import Scpi.Proofs.Kept
import Scpi.Proofs.Separators
import Scpi.Proofs.Reported
import Scpi.Proofs.Agreement
import Scpi.Proofs.Newcomers
import Scpi.Proofs.DemoSession
import Scpi.Proofs.ReadBack
