import PeerCache.Bench.ClusterBench
import PeerCache.Bench.FlightBench
import PeerCache.Bench.RegistryBench
import PeerCache.Bench.TrackerBench
import PeerCache.Main
import PeerCache.Proofs.Eviction.ArenaSlots
import PeerCache.Proofs.Eviction.ListSequence
import PeerCache.Proofs.Eviction.HeapLayout
import PeerCache.Proofs.Eviction.Tracking
import PeerCache.Proofs.Storage.Consistency
import PeerCache.Proofs.Storage.Conservation
import PeerCache.Proofs.Storage.Victims
import PeerCache.Proofs.Flight.Consistency
import PeerCache.Proofs.Flight.Turns
import PeerCache.Proofs.Flight.Trajectory
import PeerCache.Proofs.Flight.SingleFlight
import PeerCache.Proofs.Flight.Agreement
import PeerCache.Proofs.Flight.Waiters
import PeerCache.Proofs.Flight.Independence
import PeerCache.Group.Run
import PeerCache.Proofs.Group.Steps
import PeerCache.Proofs.Group.Provenance
import PeerCache.Proofs.Group.Loading
import PeerCache.Proofs.Ring.Cancellation
import PeerCache.Proofs.Ring.Confluence
import PeerCache.Proofs.Ring.Disruption
import PeerCache.Proofs.Ring.Survival
import PeerCache.Proofs.Pool.Agreement
import PeerCache.Proofs.Cluster.OneHop
import PeerCache.Proofs.Group.Discipline
import PeerCache.Proofs.Cluster.Courses
import PeerCache.Proofs.Cluster.Transparency
import PeerCache.Proofs.Cluster.Admission
import PeerCache.Proofs.Group.Balance
import PeerCache.Proofs.Http.Escapes
import PeerCache.Proofs.Http.Queries
import PeerCache.Proofs.Cluster.Inquiry
import PeerCache.Eviction.Run
import PeerCache.Proofs.Eviction.Usage
import PeerCache.Proofs.Eviction.Drainage
import PeerCache.Proofs.Eviction.PriorityQueue
import PeerCache.Proofs.Eviction.ListHistory
