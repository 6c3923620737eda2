import ModalLex.Diagnostic
import ModalLex.Proofs.Addresses
import ModalLex.Proofs.Composing
import ModalLex.Proofs.Covering
import ModalLex.Proofs.Cutting
import ModalLex.Proofs.Drawing
import ModalLex.Proofs.Exhausting
import ModalLex.Proofs.Identifying
import ModalLex.Proofs.Overflow
import ModalLex.Proofs.Remembering
import ModalLex.Proofs.Reporting
import ModalLex.Proofs.Restarting
import ModalLex.Unicode.Engine
