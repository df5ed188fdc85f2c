import Hivecog.Basic
import Mathlib.Algebra.Order.BigOperators.Group.List

/-!
# Network topology awareness

`network_node_t`, `network_topology_t` and the topology functions of `autognosis.c`. The
node list is newest first; a node is found by the first matching id, as the C loops do.

`topology_update_node_health` recomputes `overall_health` over the whole list: the mean of
the health scores above `0.1`, or `0` when there is none (`overallHealthOf`). The mean is
never negative whatever the scores (`overallHealthOf_nonneg`), and it stays in `[0, 1]`
while every score does (`overallHealthOf_le_one`).
-/

namespace Hivecog

/-- `network_node_t`, without `trust_level` and `capabilities`, which are set when a node is
inserted and never read. -/
structure NetworkNode where
  nodeId : UInt32
  address : CBuf 64
  healthScore : ℚ
  lastSeen : Int
deriving DecidableEq

/-- `network_topology_t`, without `last_update`, which is written and never read. -/
structure NetworkTopology where
  nodes : List NetworkNode
  nodeCount : UInt32
  overallHealth : ℚ
deriving DecidableEq

/-- `current->node_id == id`. -/
def NetworkNode.hasId (id : UInt32) (n : NetworkNode) : Bool := decide (n.nodeId = id)

@[simp] theorem NetworkNode.hasId_eq (id : UInt32) (n : NetworkNode) :
    n.hasId id = decide (n.nodeId = id) := rfl

/-- `topology_create`. -/
def topologyCreate : NetworkTopology := ⟨[], 0, 1⟩

/-- `topology_add_node`: a known id gets the new address and is marked seen; a new id is
inserted at the head with full health. The overall health is not recomputed. -/
def topologyAddNode (topology : NetworkTopology) (id : UInt32) (address : CStr) (now : Int) :
    NetworkTopology :=
  match topology.nodes.find? (NetworkNode.hasId id) with
  | some _ =>
    { topology with
      nodes := modifyFirst (NetworkNode.hasId id)
        (fun n => { n with address := strncpy 63 address, lastSeen := now }) topology.nodes }
  | none =>
    { topology with
      nodes := ⟨id, strncpy 63 address, 1, now⟩ :: topology.nodes
      nodeCount := topology.nodeCount + 1 }

/-- The recomputation that ends `topology_update_node_health`: the mean health of the
nodes whose health exceeds `0.1`, or `0` when there is none. -/
def overallHealthOf (nodes : List NetworkNode) : ℚ :=
  let healthy := (nodes.filter (fun n => n.healthScore > 1 / 10)).map (·.healthScore)
  if healthy.length > 0 then healthy.sum / healthy.length else 0

/-- `topology_update_node_health`: the first node with the id takes the new health, then
the overall health is recomputed over all nodes. -/
def topologyUpdateNodeHealth (topology : NetworkTopology) (id : UInt32) (health : ℚ)
    (now : Int) : NetworkTopology :=
  let nodes := modifyFirst (NetworkNode.hasId id)
    (fun n => { n with healthScore := health, lastSeen := now }) topology.nodes
  { topology with nodes := nodes, overallHealth := overallHealthOf nodes }

/-- `topology_find_healthiest_node`: the first node of maximal health, if that health
exceeds `0.1`. -/
def topologyFindHealthiestNode (topology : NetworkTopology) : Option NetworkNode :=
  match topology.nodes with
  | [] => none
  | n :: rest =>
    let best := rest.foldl (fun b c => if c.healthScore > b.healthScore then c else b) n
    if best.healthScore > 1 / 10 then some best else none

/-! ## The overall health -/

/-- `topology_add_node` leaves the overall health as it was. -/
@[simp] theorem topologyAddNode_overallHealth (topology : NetworkTopology) (id : UInt32)
    (address : CStr) (now : Int) :
    (topologyAddNode topology id address now).overallHealth = topology.overallHealth := by
  unfold topologyAddNode; split <;> rfl

theorem overallHealthOf_nonneg (nodes : List NetworkNode) : 0 ≤ overallHealthOf nodes := by
  dsimp only [overallHealthOf]
  split
  · refine div_nonneg (List.sum_nonneg fun x hx => ?_) (Nat.cast_nonneg _)
    obtain ⟨n, hn, rfl⟩ := List.mem_map.1 hx
    have : 1 / 10 < n.healthScore := by simpa using (List.mem_filter.1 hn).2
    linarith
  · exact le_rfl

theorem overallHealthOf_le_one {nodes : List NetworkNode}
    (h : ∀ n ∈ nodes, n.healthScore ≤ 1) : overallHealthOf nodes ≤ 1 := by
  dsimp only [overallHealthOf]
  split
  · rename_i hpos
    rw [div_le_one (by exact_mod_cast hpos)]
    refine (List.sum_le_card_nsmul _ 1 fun x hx => ?_).trans (by simp)
    obtain ⟨n, hn, rfl⟩ := List.mem_map.1 hx
    exact h n (List.mem_filter.1 hn).1
  · exact zero_le_one

end Hivecog
