import PeerCache.Cluster.Exchange

/-! # Runs of a cluster

A cluster seen from outside: gets of keys, each at the group that some node has registered under one
name, one after the other.
-/

namespace PeerCache.Cluster

/-- Run a get at the group that a node has registered under a name. -/
def getFrom (cluster : Cluster) (name : String) (node : Nat) (key : String) :
    Checked (GetResult × Cluster) :=
  match cluster.nodes[node]?.bind fun member => member.registry.get? name with
  | none => .error (.unknown node)
  | some group => cluster.get node group key

/-- Run gets in order, each given by the position of its node and its key. Answers their results and
the cluster at the end. -/
def run (cluster : Cluster) (name : String) :
    List (Nat × String) → Checked (List GetResult × Cluster)
  | [] => .ok ([], cluster)
  | (node, key) :: rest => do
    let (result, next) ← cluster.getFrom name node key
    let (results, final) ← next.run name rest
    return (result :: results, final)

end PeerCache.Cluster
