import Vouch.Json.Parser
import Vouch.Locks.Program
import Vouch.Main
import Vouch.Memory.Store
import Vouch.Proofs.Binary.Canonical
import Vouch.Proofs.Config
import Vouch.Proofs.Contact
import Vouch.Proofs.Durable.Exact
import Vouch.Proofs.Durable.Scans
import Vouch.Proofs.Engine.Agreement
import Vouch.Proofs.Engine.Attempts
import Vouch.Proofs.Engine.Dispatch
import Vouch.Proofs.Engine.Failures
import Vouch.Proofs.Engine.Hooks
import Vouch.Proofs.Engine.Interleaving
import Vouch.Proofs.Engine.Isolation
import Vouch.Proofs.Engine.Lapse
import Vouch.Proofs.Engine.Mail
import Vouch.Proofs.Engine.Rebind
import Vouch.Proofs.Engine.Resend
import Vouch.Proofs.Engine.Sweeping
import Vouch.Proofs.Engine.Trust
import Vouch.Proofs.Engine.Views
import Vouch.Proofs.Engine.WrongCode
import Vouch.Proofs.Faithful
import Vouch.Proofs.Locks.Exclusion
import Vouch.Proofs.Locks.Nesting
import Vouch.Proofs.Store.Delivery
import Vouch.Proofs.Store.Equivalence
import Vouch.Proofs.Store.History
import Vouch.Proofs.Store.Refusals
