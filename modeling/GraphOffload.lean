import GraphOffload.Main
import GraphOffload.Proofs.Build.Cleanup
import GraphOffload.Proofs.Build.Delivery
import GraphOffload.Proofs.Build.Fallback
import GraphOffload.Proofs.Build.Protocol
import GraphOffload.Proofs.Build.SideBySide
import GraphOffload.Proofs.Build.Staging
import GraphOffload.Proofs.Corpus.Reads
import GraphOffload.Proofs.Storage.SharedWorlds
import GraphOffload.Proofs.Corpus.FlatFiles
import GraphOffload.Proofs.Build.Declaration
import GraphOffload.Proofs.Storage.SharedStore
import GraphOffload.Proofs.Transfer.Contention
import GraphOffload.Proofs.Polling.Course
import GraphOffload.Proofs.Polling.Budget
import GraphOffload.Proofs.Polling.Decision
import GraphOffload.Proofs.Transfer.Flight
import GraphOffload.Proofs.Transfer.Downloads
import GraphOffload.Proofs.Command.Output
import GraphOffload.Proofs.Transfer.Ordering
import GraphOffload.Proofs.Corpus.Acceptance
import GraphOffload.Proofs.Corpus.Faltering
import GraphOffload.Proofs.Transfer.Timing
import GraphOffload.Proofs.Transfer.Planning
import GraphOffload.Proofs.Corpus.Thrift
import GraphOffload.Proofs.Transfer.Listening
import GraphOffload.Proofs.Build.Balance
import GraphOffload.Proofs.Corpus.WrittenFiles
import GraphOffload.Proofs.Corpus.Truncation
import GraphOffload.Proofs.Service.Addresses
import GraphOffload.Proofs.Json.Values
import GraphOffload.Proofs.Service.Replies
import GraphOffload.Proofs.Transfer.Chunking
