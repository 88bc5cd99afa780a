import Remit.Entry
import Remit.Service.Standard
import Remit.Json.Writer
import Remit.Proofs.Session.Conservation
import Remit.Proofs.Session.Overdraft
import Remit.Proofs.Transfer
import Remit.Proofs.Date
import Remit.Proofs.Text.Runs
import Remit.Proofs.Grammar.Position
import Remit.Proofs.Grammar.Rule
import Remit.Proofs.Grammar.Stage
import Remit.Proofs.Grammar.Reading
import Remit.Proofs.Grammar.Phrase
import Remit.Proofs.Grammar.Canonical
import Remit.Proofs.Decision
import Remit.Proofs.Standstill
import Remit.Proofs.Dependence
import Remit.Proofs.Interleaving
import Remit.Proofs.Session.Deletion
import Remit.Proofs.Grammar.Refusal
import Remit.Proofs.Grammar.Erasure
import Remit.Proofs.Grammar.Forms
import Remit.Proofs.Grammar.Omission
import Remit.Proofs.Totality
import Remit.Proofs.Stopping
import Remit.Proofs.Text.Half
import Remit.Proofs.Json.Sending
import Remit.Proofs.Json.Reading
import Remit.Proofs.Service.Request
import Remit.Proofs.Garbled
import Remit.Proofs.Service.Framework
import Remit.Proofs.Service.Standard
import Remit.Proofs.Service.Answer
import Remit.Proofs.Service.Relay
import Remit.Proofs.Checks
import Remit.Proofs.Relevance
import Remit.Proofs.Splitting
import Remit.Proofs.Grammar.Continuation
import Remit.Proofs.Grammar.CaseVariant
import Remit.Proofs.Grammar.Filler
import Remit.Proofs.Spelling
import Remit.Proofs.Views
import Remit.Proofs.WriteBack
import Remit.Proofs.Text.FixedWidth
import Remit.Proofs.Calendar
import Remit.Proofs.Maturity
import Remit.Proofs.Grammar.Spacing
import Remit.Proofs.Grammar.Shape
import Remit.Proofs.Grammar.Amount
import Remit.Proofs.WellFormed
import Remit.Proofs.Logging.Level
import Remit.Proofs.Logging.Handlers
