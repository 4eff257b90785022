import CrateState.Drill.Answer
import CrateState.Proofs.AllOrNothing
import CrateState.Proofs.CoordinatorStatus
import CrateState.Proofs.Delivery
import CrateState.Proofs.EventWire
import CrateState.Proofs.KeyConservation
import CrateState.Proofs.LedgerReads
import CrateState.Proofs.LockExclusion
import CrateState.Proofs.MigrationTrip
import CrateState.Proofs.RetryRuns
import CrateState.Proofs.RewardQueues
import CrateState.Proofs.StartFailure
