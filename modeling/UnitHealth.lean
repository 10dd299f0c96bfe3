import UnitHealth.Main
import UnitHealth.Proofs.Check.Account
import UnitHealth.Proofs.Check.Ending
import UnitHealth.Proofs.Check.FaultReport
import UnitHealth.Proofs.Check.Layers
import UnitHealth.Proofs.Check.Masking
import UnitHealth.Proofs.Check.OutputLine
import UnitHealth.Proofs.Check.Protocol
import UnitHealth.Proofs.Check.Unseen
import UnitHealth.Proofs.CommandLine.Spelled
import UnitHealth.Proofs.Config.Entries
import UnitHealth.Proofs.FailedServices.Printed
import UnitHealth.Proofs.FailedServices.Types
import UnitHealth.Proofs.Fault.Folding
import UnitHealth.Proofs.Listing.Composition
import UnitHealth.Proofs.Listing.Message
import UnitHealth.Proofs.Listing.Written
import UnitHealth.Proofs.Manager.Enumeration
import UnitHealth.Proofs.Manager.History
import UnitHealth.Proofs.Unit.Spelling
import UnitHealth.Rehearsal.Basic
