import PeerCache.Group.Basic
import PeerCache.Http.Message
import PeerCache.Pool
import PeerCache.Registry

/-! # Clusters

A cluster is a number of nodes, each with its pool of peers, its groups and the registry through
which peers reach them, and a table of who answers at which host. The table may leave a node out,
which is then down, and it may hold a stub that gives the same answer to every request.

Everything that happens is noted in one log, in order.
-/

namespace PeerCache

/-- A group with its loader. -/
structure Hosted where
  group : Group
  /-- What the loader gives for a key, when called for the time of this number, counted from one. -/
  load : Nat → String → Except String Bytes
  /-- Whether the calls of the loader are noted. -/
  isLogged : Bool
  /-- Whether a call of the loader returns. -/
  returns : Bool
  /-- The number of calls of the loader so far. -/
  loads : Nat := 0

/-- A member of a cluster. -/
structure ClusterNode where
  /-- The address of the node. -/
  base : String
  pool : Pool
  /-- The groups of the node, in the order in which they were built. -/
  hosted : Array Hosted
  /-- The positions of the registered groups. -/
  registry : Registry Nat

namespace ClusterNode

/-- A node without groups. -/
def create (base : String) (options : Pool.Options) : ClusterNode :=
  { base, pool := .create base options, hosted := #[], registry := .empty }

/-- The host that a node answers at. -/
def host (node : ClusterNode) : String :=
  let scheme := "http://".toList
  if scheme.isPrefixOf node.base.toList then String.ofList (node.base.toList.drop scheme.length)
  else node.base

/-- Take in a group and register it. A later group of a name replaces an earlier one in the
registry, which keeps its place on the node. -/
def add (node : ClusterNode) (hosted : Hosted) : ClusterNode :=
  { node with
    hosted := node.hosted.push hosted
    registry := (node.registry.register hosted.group.name node.hosted.size).2 }

/-- Let the pool be the peer picker of all groups. A group that has one keeps it. -/
def registerPool (node : ClusterNode) : ClusterNode :=
  { node with hosted := node.hosted.map fun hosted =>
      { hosted with group := hosted.group.registerPeers.toOption.getD hosted.group } }

/-- The position of the first group of a name, or of the first group at all. -/
def position? (node : ClusterNode) (name : Option String) : Option Nat :=
  match name with
  | some name => node.hosted.findIdx? fun hosted => hosted.group.name == name
  | none => if node.hosted.isEmpty then none else some 0

end ClusterNode

/-- Who answers at a host. -/
inductive Answerer where
  /-- The peer server of the node at this position. -/
  | node (position : Nat)
  /-- A fixed answer, and the length that it announces for its body. -/
  | stub (status : Nat) (body : Bytes) (announced : Nat)
deriving DecidableEq, Repr

/-- What happens in a cluster. -/
inductive ClusterNote where
  /-- A request of a method is sent to an address. -/
  | wire (method url : String)
  /-- The loader of a node is called. -/
  | load (base key : String)
  /-- The eviction listener of a node hears of an entry. -/
  | evict (base : String) (departure : Departure)
deriving DecidableEq, Repr

/-- Whether requests arrive. -/
inductive Network where
  /-- Requests arrive at whoever the table of hosts names. -/
  | connected
  /-- No request arrives anywhere. -/
  | severed
deriving DecidableEq, Repr

/-- Nodes, the table of hosts, and the log. -/
structure Cluster where
  network : Network
  nodes : Array ClusterNode
  hosts : Std.ExtTreeMap String Answerer
  log : List ClusterNote

namespace Cluster

/-- A cluster without nodes. -/
def empty (network : Network) : Cluster := { network, nodes := #[], hosts := ∅, log := [] }

/-- Let a node answer at its host. -/
def setUp (cluster : Cluster) (position : Nat) : Checked Cluster :=
  match cluster.nodes[position]? with
  | none => .error (.unknown position)
  | some node => .ok { cluster with hosts := cluster.hosts.insert node.host (.node position) }

/-- Let nobody answer at the host of a node. Answers whether somebody did. -/
def takeDown (cluster : Cluster) (position : Nat) : Checked (Bool × Cluster) :=
  match cluster.nodes[position]? with
  | none => .error (.unknown position)
  | some node =>
    .ok (cluster.hosts.contains node.host,
      { cluster with hosts := cluster.hosts.erase node.host })

/-- Add a node, which is up at once. -/
def add (cluster : Cluster) (node : ClusterNode) : Cluster :=
  { cluster with
    nodes := cluster.nodes.push node
    hosts := cluster.hosts.insert node.host (.node cluster.nodes.size) }

/-- Let a stub answer at a host. -/
def addStub (cluster : Cluster) (host : String) (status : Nat) (body : Bytes)
    (announced : Option Nat) : Cluster :=
  { cluster with
    hosts := cluster.hosts.insert host (.stub status body (announced.getD body.length)) }

/-- Change a node. -/
def modifyNode (cluster : Cluster) (position : Nat) (change : ClusterNode → ClusterNode) :
    Cluster :=
  { cluster with nodes := cluster.nodes.modify position change }

/-- Change a group of a node. -/
def modifyHosted (cluster : Cluster) (node group : Nat) (change : Hosted → Hosted) : Cluster :=
  cluster.modifyNode node fun member => { member with hosted := member.hosted.modify group change }

/-- A group of a node, by position. -/
def hosted? (cluster : Cluster) (node group : Nat) : Option Hosted :=
  cluster.nodes[node]?.bind fun member => member.hosted[group]?

/-- Set the peers of a node's pool. -/
def setPeers (cluster : Cluster) (node : Nat) (peers : List String) : Cluster :=
  cluster.modifyNode node fun member => { member with pool := member.pool.set peers }

/-- Write into the log. -/
def note (cluster : Cluster) (notes : List ClusterNote) : Cluster :=
  { cluster with log := cluster.log ++ notes }

/-- Empty the log. Answers what was in it. -/
def takeLog (cluster : Cluster) : List ClusterNote × Cluster :=
  (cluster.log, { cluster with log := [] })

/-- The number of groups on all nodes. -/
def groupCount (cluster : Cluster) : Nat :=
  cluster.nodes.foldl (fun count node => count + node.hosted.size) 0

end Cluster

end PeerCache
