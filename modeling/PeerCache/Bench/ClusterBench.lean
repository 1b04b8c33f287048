import PeerCache.Bench.GroupBench
import PeerCache.Cluster.Exchange

/-! # A bench for clusters

Clusters built from descriptions of their nodes, with scripted loaders.
-/

namespace PeerCache.Bench

/-- A node as it is written down for a rehearsal. -/
structure NodeDescription where
  base : String
  options : Pool.Options
  groups : List Description
  /-- Whether the pool is the peer picker of the groups. -/
  registers : Bool

/-- The group of a description, with its loader. There are no permits for a gate in a cluster. -/
def Description.hosted (description : Description) : Except BuildError Hosted := do
  let built ← description.build
  return {
    group := built.group
    load := built.source.answer
    isLogged := built.source.isLogged
    returns := !built.source.isGated }

/-- The node of a description. -/
def NodeDescription.build (description : NodeDescription) : Except BuildError ClusterNode := do
  let node ← description.groups.foldlM
    (fun node group => do return node.add (← group.hosted))
    (ClusterNode.create description.base description.options)
  return if description.registers then node.registerPool else node

/-- The cluster of some descriptions. When peers are given, all pools are set to them. -/
def buildCluster (network : Network) (nodes : List NodeDescription) (peers : Option (List String)) :
    Except BuildError Cluster := do
  let cluster ← nodes.foldlM (fun cluster node => do return cluster.add (← node.build))
    (Cluster.empty network)
  return match peers with
    | none => cluster
    | some peers => (List.range cluster.nodes.size).foldl (·.setPeers · peers) cluster

end PeerCache.Bench
