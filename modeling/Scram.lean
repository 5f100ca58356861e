import Scram.Proofs.Agreement
import Scram.Proofs.Binding
import Scram.Proofs.Handshake
import Scram.Proofs.Mechanism
import Scram.Proofs.Names
import Scram.Proofs.Nonce.Drawing
import Scram.Proofs.Nonce.Words
import Scram.Proofs.Offer
import Scram.Proofs.Outcome
import Scram.Proofs.Salted
import Scram.Proofs.Server.Acceptance
import Scram.Proofs.Server.Coherence
import Scram.Proofs.Server.Collaborators
import Scram.Proofs.Server.Downgrade
import Scram.Proofs.Server.KeyChain
import Scram.Proofs.Server.Refusal
import Scram.Proofs.Server.Secrecy
import Scram.Proofs.Server.Sequence
import Scram.Proofs.Server.Wire
import Scram.Proofs.Verdict
