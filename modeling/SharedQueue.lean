import SharedQueue.Main
import SharedQueue.Session.Run
import SharedQueue.Proofs.Joining
import SharedQueue.Proofs.Frame
import SharedQueue.Proofs.Ring
import SharedQueue.Proofs.Client
import SharedQueue.Proofs.Operations
import SharedQueue.Proofs.Confinement
import SharedQueue.Proofs.Traffic
import SharedQueue.Proofs.Fifo
import SharedQueue.Proofs.Counters
import SharedQueue.Proofs.Overrun
import SharedQueue.Proofs.Reservation
import SharedQueue.Proofs.Bystander
import SharedQueue.Proofs.EmptyBatch
import SharedQueue.Proofs.Calls
import SharedQueue.Proofs.Wakeup
import SharedQueue.Proofs.Crowd
import SharedQueue.Proofs.BlockingRead
import SharedQueue.Proofs.Handover
import SharedQueue.Proofs.HalfWritten
import SharedQueue.Proofs.Attaching
import SharedQueue.Proofs.Bench.Deadlock
import SharedQueue.Proofs.Refusal
import SharedQueue.Proofs.Outcome
import SharedQueue.Proofs.Places
import SharedQueue.Proofs.Validation
import SharedQueue.Proofs.Planning
import SharedQueue.Proofs.Storage
import SharedQueue.Proofs.LoneRead
import SharedQueue.Proofs.FlagHistory
