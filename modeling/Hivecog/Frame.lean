import Hivecog.Coordinator

/-!
# What a delivery may change

`receive_message` is stateless dispatch: whatever the message, it writes one part of the
coordinator and sends at most one message (`receiveMessage_frame`).

* A heartbeat writes only the topology, and in it only the entries of the sender's id.
* A knowledge packet of the right length writes only the global store, and in it only the
  fact named by the packet (the store's counters move with an insertion).
* A healing request of the right length only advances `sequence_counter`, through the one
  reply it sends.
* A topology update writes only the collective-health fact of the global store.
* Everything else, including a payload of the wrong length, changes nothing.

The collective score, the two timers and the self-image are never written.
`receiveMessage_cases` says once which of these shapes a delivery has.
-/

namespace Hivecog

section Topology

variable {t : NetworkTopology} {id : UInt32} {now : Int}

theorem filter_topologyAddNode (address : CStr) :
    (topologyAddNode t id address now).nodes.filter (fun n => !n.hasId id) =
      t.nodes.filter (fun n => !n.hasId id) := by
  unfold topologyAddNode
  split
  · refine filter_modifyFirst (fun _ => ?_) _; rfl
  · simp

theorem filter_topologyUpdateNodeHealth (health : ℚ) :
    (topologyUpdateNodeHealth t id health now).nodes.filter (fun n => !n.hasId id) =
      t.nodes.filter (fun n => !n.hasId id) := by
  refine filter_modifyFirst (fun _ => ?_) _; rfl

end Topology

section Receive

variable (c : HiveCoordinator) (m : HiveMessage) (now : Int)

/-- The four shapes of a delivery. -/
theorem receiveMessage_cases :
    (∃ t, receiveMessage c m now = (c.setTopology t, [])) ∨
    (∃ S, receiveMessage c m now = (c.setGlobalKnowledge S, [])) ∨
    (∃ out, receiveMessage c m now = ({ c with sequenceCounter := c.sequenceCounter + 1 }, [out])) ∨
    receiveMessage c m now = (c, []) := by
  unfold receiveMessage
  split
  · exact .inl ⟨_, rfl⟩
  · split
    · exact .inr (.inl ⟨_, rfl⟩)
    · exact .inr (.inr (.inr rfl))
  · split
    · exact .inr (.inr (.inl ⟨_, respondToHealingRequest_eq _ _ _⟩))
    · exact .inr (.inr (.inr rfl))
  · exact .inr (.inl ⟨_, by rw [hiveUpdateCollectiveTopology_eq]⟩)
  · exact .inr (.inr (.inr rfl))

/-- What a delivery never touches, and that it sends at most one message. -/
theorem receiveMessage_keeps :
    let r := receiveMessage c m now
    r.2.length ≤ 1 ∧ r.1.collectiveIntelligenceScore = c.collectiveIntelligenceScore ∧
      r.1.lastHeartbeat = c.lastHeartbeat ∧ r.1.lastKnowledgeSync = c.lastKnowledgeSync ∧
      r.1.localEngine.selfImage = c.localEngine.selfImage := by
  rcases receiveMessage_cases c m now with ⟨_, h⟩ | ⟨_, h⟩ | ⟨_, h⟩ | h <;>
    simp [h, HiveCoordinator.setTopology, HiveCoordinator.setGlobalKnowledge]

theorem receiveMessage_heartbeat_frame (ht : m.type = HiveMessageType.heartbeat.ordinal) :
    ∃ t, receiveMessage c m now = (c.setTopology t, []) ∧
      t.nodes.filter (fun n => !n.hasId m.senderId) =
        c.localEngine.topology.nodes.filter (fun n => !n.hasId m.senderId) :=
  ⟨_, receiveMessage_heartbeat ht, by
    rw [filter_topologyUpdateNodeHealth, filter_topologyAddNode]⟩

theorem receiveMessage_knowledgeShare_frame (ht : m.type = HiveMessageType.knowledgeShare.ordinal)
    (hl : m.dataLength = sizeofKnowledgePacket) :
    let s := c.localEngine.globalKnowledge
    let name := m.data.asKnowledgePacket.atomName.str
    ∃ S, receiveMessage c m now = (c.setGlobalKnowledge S, []) ∧
      S.atoms.filter (fun a => !a.isNamed name) = s.atoms.filter (fun a => !a.isNamed name) ∧
      (S.atomCount, S.nextId) = if atomspaceFindAtom s name = none
        then (s.atomCount + 1, s.nextId + 1) else (s.atomCount, s.nextId) := by
  have hfit := m.data.asKnowledgePacket.atomName.fits
  refine ⟨_, by rw [receiveMessage_knowledgeShare ht, if_pos hl]; rfl, ?_, ?_⟩ <;>
    rw [knowledgePacketToAtom_fst]
  · exact filter_upsert (by omega) (KnowledgePacket.merge_name _ _)
  · exact upsert_counters

theorem receiveMessage_topologyUpdate_frame (ht : m.type = HiveMessageType.topologyUpdate.ordinal) :
    let s := c.localEngine.globalKnowledge
    let name := Names.collectiveHealth c.localEngine.topology.overallHealth
    ∃ S, receiveMessage c m now = (c.setGlobalKnowledge S, []) ∧
      S.atoms.filter (fun a => !a.isNamed name) = s.atoms.filter (fun a => !a.isNamed name) ∧
      (S.atomCount, S.nextId) = if atomspaceFindAtom s name = none
        then (s.atomCount + 1, s.nextId + 1) else (s.atomCount, s.nextId) := by
  intro s name
  have hfit := (strncpy 127 (.ascii "collective_health_" (by decide) ++
    CStr.fixed2 c.localEngine.topology.overallHealth)).fits
  refine ⟨_, by rw [receiveMessage_topologyUpdate ht, hiveUpdateCollectiveTopology_eq],
    filter_upsert (by simp only [name, Names.collectiveHealth]; omega)
      (atomspaceUpdateTruthValue_name · _ _), upsert_counters⟩

end Receive

/-- `receive_message` changes one part of the coordinator, chosen by the message type. -/
theorem receiveMessage_frame (c : HiveCoordinator) (m : HiveMessage) (now : Int) :
    let r := receiveMessage c m now
    let s := c.localEngine.globalKnowledge
    (r.2.length ≤ 1 ∧ r.1.collectiveIntelligenceScore = c.collectiveIntelligenceScore ∧
      r.1.lastHeartbeat = c.lastHeartbeat ∧ r.1.lastKnowledgeSync = c.lastKnowledgeSync ∧
      r.1.localEngine.selfImage = c.localEngine.selfImage) ∧
    (m.type = HiveMessageType.heartbeat.ordinal →
      ∃ t, r = (c.setTopology t, []) ∧
        t.nodes.filter (fun n => !n.hasId m.senderId) =
          c.localEngine.topology.nodes.filter (fun n => !n.hasId m.senderId)) ∧
    (m.type = HiveMessageType.knowledgeShare.ordinal → m.dataLength = sizeofKnowledgePacket →
      let name := m.data.asKnowledgePacket.atomName.str
      ∃ S, r = (c.setGlobalKnowledge S, []) ∧
        S.atoms.filter (fun a => !a.isNamed name) = s.atoms.filter (fun a => !a.isNamed name) ∧
        (S.atomCount, S.nextId) = if atomspaceFindAtom s name = none
          then (s.atomCount + 1, s.nextId + 1) else (s.atomCount, s.nextId)) ∧
    (m.type = HiveMessageType.healingRequest.ordinal → m.dataLength = sizeofHealingRequest →
      ∃ out, r = ({ c with sequenceCounter := c.sequenceCounter + 1 }, [out])) ∧
    (m.type = HiveMessageType.topologyUpdate.ordinal →
      let name := Names.collectiveHealth c.localEngine.topology.overallHealth
      ∃ S, r = (c.setGlobalKnowledge S, []) ∧
        S.atoms.filter (fun a => !a.isNamed name) = s.atoms.filter (fun a => !a.isNamed name) ∧
        (S.atomCount, S.nextId) = if atomspaceFindAtom s name = none
          then (s.atomCount + 1, s.nextId + 1) else (s.atomCount, s.nextId)) ∧
    (m.type ∉ [HiveMessageType.heartbeat.ordinal, HiveMessageType.knowledgeShare.ordinal,
        HiveMessageType.healingRequest.ordinal, HiveMessageType.topologyUpdate.ordinal] ∨
      (m.type = HiveMessageType.knowledgeShare.ordinal ∧ m.dataLength ≠ sizeofKnowledgePacket) ∨
      (m.type = HiveMessageType.healingRequest.ordinal ∧ m.dataLength ≠ sizeofHealingRequest) →
      r = (c, [])) :=
  ⟨receiveMessage_keeps c m now, receiveMessage_heartbeat_frame c m now,
    receiveMessage_knowledgeShare_frame c m now,
    fun ht hl => by
      rw [receiveMessage_healingRequest ht, if_pos hl]
      exact ⟨_, respondToHealingRequest_eq _ _ _⟩,
    receiveMessage_topologyUpdate_frame c m now,
    fun h => by
      rcases h with h | ⟨ht, hl⟩ | ⟨ht, hl⟩
      · exact receiveMessage_other h
      · rw [receiveMessage_knowledgeShare ht, if_neg hl]
      · rw [receiveMessage_healingRequest ht, if_neg hl]⟩

end Hivecog
