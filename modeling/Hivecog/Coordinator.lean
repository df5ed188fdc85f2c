import Hivecog.Message

/-!
# The hive coordinator

`hive_coordinator_t` and the coordinator functions of `hive_coordination.c`. The method
pointers of a coordinator always hold the `_impl` functions; each is modelled under the
name of its pointer (`sendMessage` is `send_message_impl`, and so on).

Every operation that may send returns the coordinator after it and the messages it handed
to the transport, in order. `sendMessage` is the only place that stamps a sequence number
and the only one that moves `sequence_counter`. The process-wide `problem_id_counter` of
`healing_request_create` is passed in and returned by `hiveCoordinateHealing`.

`hive_coordinator_process_cycle` is split into its three phases: the heartbeat
(`heartbeatPhase`), the knowledge sync (`syncPhase`) and the scan for one recent,
important fact to share (`sharePhase`).
-/

namespace Hivecog

/-- `hive_coordinator_t`. -/
structure HiveCoordinator where
  localEngine : AutognosisEngine
  nodeId : UInt32
  sequenceCounter : UInt32
  lastHeartbeat : Int
  lastKnowledgeSync : Int
  collectiveIntelligenceScore : ℚ
deriving DecidableEq

namespace HiveCoordinator

/-- The coordinator with its engine's global knowledge store replaced. -/
def setGlobalKnowledge (c : HiveCoordinator) (space : AtomSpace) : HiveCoordinator :=
  { c with localEngine := { c.localEngine with globalKnowledge := space } }

/-- The coordinator with its engine's topology replaced. -/
def setTopology (c : HiveCoordinator) (topology : NetworkTopology) : HiveCoordinator :=
  { c with localEngine := { c.localEngine with topology := topology } }

@[simp] theorem setGlobalKnowledge_globalKnowledge (c : HiveCoordinator) (space : AtomSpace) :
    (c.setGlobalKnowledge space).localEngine.globalKnowledge = space := rfl

end HiveCoordinator

namespace Names

def remoteNode : CStr := .ascii "remote_node" (by decide)

/-- `snprintf(collective_state, 128, "collective_health_%.2f", overall_health)`. -/
def collectiveHealth (health : ℚ) : CStr :=
  (strncpy 127 (.ascii "collective_health_" (by decide) ++ CStr.fixed2 health)).str

end Names

/-! ## Sending -/

/-- `send_message_impl`: stamp the next sequence number and hand the message over. -/
def sendMessage (c : HiveCoordinator) (message : HiveMessage) :
    HiveCoordinator × List HiveMessage :=
  let seq := c.sequenceCounter + 1
  ({ c with sequenceCounter := seq }, [{ message with sequenceNumber := seq }])

/-- `hive_broadcast_knowledge`: the atom's packet in a broadcast `KNOWLEDGE_SHARE`. -/
def hiveBroadcastKnowledge (c : HiveCoordinator) (atom : Atom) (now : Int) :
    HiveCoordinator × List HiveMessage :=
  sendMessage c (hiveMessageSetData (hiveMessageCreate c.nodeId 0 .knowledgeShare now)
    (.knowledgePacket (knowledgePacketFromAtom atom)) sizeofKnowledgePacket)

/-- `share_knowledge_impl`: broadcast the atom only if its importance exceeds `0.7`. -/
def shareKnowledge (c : HiveCoordinator) (atom : Atom) (now : Int) :
    HiveCoordinator × List HiveMessage :=
  if atom.importance > 7 / 10 then hiveBroadcastKnowledge c atom now else (c, [])

/-- `request_healing_assistance_impl`: the request in a broadcast `HEALING_REQUEST`. -/
def requestHealingAssistance (c : HiveCoordinator) (request : HealingRequest) (now : Int) :
    HiveCoordinator × List HiveMessage :=
  sendMessage c (hiveMessageSetData (hiveMessageCreate c.nodeId 0 .healingRequest now)
    (.healingRequest request) sizeofHealingRequest)

/-- `respond_to_healing_request_impl`: evaluate the request's description with the local
rules and send the recommendation to the requesting node. -/
def respondToHealingRequest (c : HiveCoordinator) (request : HealingRequest) (now : Int) :
    HiveCoordinator × List HiveMessage :=
  let action := healingEvaluateProblem c.localEngine request.problemDescription.str
  let response := healingResponseCreate request.problemId c.nodeId action (4 / 5)
  sendMessage c (hiveMessageSetData
    (hiveMessageCreate c.nodeId request.requestingNode .healingResponse now)
    (.healingResponse response) sizeofHealingResponse)

/-- `hive_coordinate_healing`: evaluate locally, and ask the hive only when the local
outcome is `HEALING_NONE` or `HEALING_RETRY`. The request is created, and the problem-id
counter advanced, in either case. -/
def hiveCoordinateHealing (problemIdCounter : UInt32) (c : HiveCoordinator)
    (problemDesc : CStr) (now : Int) : UInt32 × HiveCoordinator × List HiveMessage :=
  let created := healingRequestCreate problemIdCounter problemDesc (4 / 5) c.nodeId now
  let localAction := healingEvaluateProblem c.localEngine problemDesc
  let request := { created.1 with suggestedAction := localAction }
  if localAction = .none ∨ localAction = .retry then
    (created.2, requestHealingAssistance c request now)
  else (created.2, c, [])

/-! ## Collective intelligence -/

/-- `hive_update_collective_topology`: blend the overall health, at confidence `0.9`, into
the fact `collective_health_<overall health>` of the global store. -/
def hiveUpdateCollectiveTopology (c : HiveCoordinator) (now : Int) : HiveCoordinator :=
  let health := c.localEngine.topology.overallHealth
  let added := atomspaceAddAtom c.localEngine.globalKnowledge .concept
    (Names.collectiveHealth health) now
  c.setGlobalKnowledge (added.1.modifyAtom added.2.name.str
    (fun a => atomspaceUpdateTruthValue a health (9 / 10) now))

/-- `hive_calculate_emergence_factor`: `0.4` network health, `0.3` knowledge diversity
(atom count over `100`, capped at `1`) and `0.3` of the previous score, capped at `1`. -/
def hiveCalculateEmergenceFactor (c : HiveCoordinator) : ℚ :=
  let networkHealth := c.localEngine.topology.overallHealth
  let diversity := (c.localEngine.globalKnowledge.atomCount.toNat : ℚ) / 100
  let diversity := if diversity > 1 then 1 else diversity
  let emergence := networkHealth * (2 / 5) + diversity * (3 / 10) +
    c.collectiveIntelligenceScore * (3 / 10)
  if emergence > 1 then 1 else emergence

/-- `hive_adaptive_behavior_update`: the emergence factor becomes the collective score, and
sets autonomy `0.9` above `0.8` and `0.3` below `0.3`. -/
def hiveAdaptiveBehaviorUpdate (c : HiveCoordinator) : HiveCoordinator :=
  let emergence := hiveCalculateEmergenceFactor c
  let image := c.localEngine.selfImage
  let autonomy :=
    if emergence > 4 / 5 then 9 / 10 else if emergence < 3 / 10 then 3 / 10 else image.autonomyLevel
  { c with
    localEngine := { c.localEngine with selfImage := { image with autonomyLevel := autonomy } }
    collectiveIntelligenceScore := emergence }

/-- `update_collective_knowledge_impl`. -/
def updateCollectiveKnowledge (c : HiveCoordinator) (now : Int) : HiveCoordinator :=
  hiveAdaptiveBehaviorUpdate (hiveUpdateCollectiveTopology c now)

/-- `calculate_swarm_health_impl`. -/
def calculateSwarmHealth (c : HiveCoordinator) : ℚ :=
  c.localEngine.selfImage.healthScore * (3 / 10) + c.localEngine.topology.overallHealth * (2 / 5) +
    c.collectiveIntelligenceScore * (3 / 10)

/-! ## Receiving -/

/-- `process_shared_knowledge_impl`. -/
def processSharedKnowledge (c : HiveCoordinator) (packet : KnowledgePacket) (now : Int) :
    HiveCoordinator :=
  c.setGlobalKnowledge (knowledgePacketToAtom c.localEngine.globalKnowledge packet now).1

/-- `receive_message_impl`: dispatch on the message type. A heartbeat marks its sender
alive with full health; a knowledge packet or a healing request is handled only if the
payload length is that of its struct; a topology update refreshes the collective-health
fact; anything else is ignored. -/
def receiveMessage (c : HiveCoordinator) (message : HiveMessage) (now : Int) :
    HiveCoordinator × List HiveMessage :=
  match HiveMessageType.ofOrdinal? message.type with
  | some .heartbeat =>
    let topology := topologyAddNode c.localEngine.topology message.senderId Names.remoteNode now
    (c.setTopology (topologyUpdateNodeHealth topology message.senderId 1 now), [])
  | some .knowledgeShare =>
    if message.dataLength = sizeofKnowledgePacket then
      (processSharedKnowledge c message.data.asKnowledgePacket now, [])
    else (c, [])
  | some .healingRequest =>
    if message.dataLength = sizeofHealingRequest then
      respondToHealingRequest c message.data.asHealingRequest now
    else (c, [])
  | some .topologyUpdate => (hiveUpdateCollectiveTopology c now, [])
  | _ => (c, [])

/-! ## Spec lemmas of sending and receiving -/

section Spec

variable (c : HiveCoordinator) (now : Int)

theorem sendMessage_eq (message : HiveMessage) :
    sendMessage c message = ({ c with sequenceCounter := c.sequenceCounter + 1 },
      [{ message with sequenceNumber := c.sequenceCounter + 1 }]) := rfl

/-- The one message `hive_broadcast_knowledge` sends. -/
theorem hiveBroadcastKnowledge_eq (a : Atom) :
    hiveBroadcastKnowledge c a now = ({ c with sequenceCounter := c.sequenceCounter + 1 },
      [⟨c.nodeId, 0, HiveMessageType.knowledgeShare.ordinal, c.sequenceCounter + 1, now,
        sizeofKnowledgePacket, .knowledgePacket (knowledgePacketFromAtom a)⟩]) := rfl

/-- The one message `request_healing_assistance` sends. -/
theorem requestHealingAssistance_eq (request : HealingRequest) :
    requestHealingAssistance c request now = ({ c with sequenceCounter := c.sequenceCounter + 1 },
      [⟨c.nodeId, 0, HiveMessageType.healingRequest.ordinal, c.sequenceCounter + 1, now,
        sizeofHealingRequest, .healingRequest request⟩]) := rfl

/-- The one message `respond_to_healing_request` sends. -/
theorem respondToHealingRequest_eq (request : HealingRequest) :
    respondToHealingRequest c request now = ({ c with sequenceCounter := c.sequenceCounter + 1 },
      [⟨c.nodeId, request.requestingNode, HiveMessageType.healingResponse.ordinal,
        c.sequenceCounter + 1, now, sizeofHealingResponse,
        .healingResponse ⟨request.problemId, c.nodeId,
          healingEvaluateProblem c.localEngine request.problemDescription.str, 4 / 5⟩⟩]) := rfl

/-- `hive_update_collective_topology` is the upsert of the collective-health fact. -/
theorem hiveUpdateCollectiveTopology_eq :
    hiveUpdateCollectiveTopology c now = c.setGlobalKnowledge
      (c.localEngine.globalKnowledge.upsert .concept
        (Names.collectiveHealth c.localEngine.topology.overallHealth) now
        (fun a => atomspaceUpdateTruthValue a c.localEngine.topology.overallHealth (9 / 10) now)) := by
  rw [hiveUpdateCollectiveTopology, addAtom_modifyAtom]
  have := (strncpy 127 (.ascii "collective_health_" (by decide) ++
    CStr.fixed2 c.localEngine.topology.overallHealth)).fits
  simp only [Names.collectiveHealth]
  omega

variable {c now} {m : HiveMessage}

theorem receiveMessage_heartbeat (ht : m.type = HiveMessageType.heartbeat.ordinal) :
    receiveMessage c m now = (c.setTopology (topologyUpdateNodeHealth
      (topologyAddNode c.localEngine.topology m.senderId Names.remoteNode now) m.senderId 1 now), []) := by
  rw [receiveMessage, ht]; rfl

theorem receiveMessage_knowledgeShare (ht : m.type = HiveMessageType.knowledgeShare.ordinal) :
    receiveMessage c m now = if m.dataLength = sizeofKnowledgePacket then
      (processSharedKnowledge c m.data.asKnowledgePacket now, []) else (c, []) := by
  rw [receiveMessage, ht]; rfl

theorem receiveMessage_healingRequest (ht : m.type = HiveMessageType.healingRequest.ordinal) :
    receiveMessage c m now = if m.dataLength = sizeofHealingRequest then
      respondToHealingRequest c m.data.asHealingRequest now else (c, []) := by
  rw [receiveMessage, ht]; rfl

theorem receiveMessage_topologyUpdate (ht : m.type = HiveMessageType.topologyUpdate.ordinal) :
    receiveMessage c m now = (hiveUpdateCollectiveTopology c now, []) := by
  rw [receiveMessage, ht]; rfl

/-- Every other message is ignored: a response, an emergency signal, an unknown type. -/
theorem receiveMessage_other (ht : m.type ∉ [HiveMessageType.heartbeat.ordinal,
      HiveMessageType.knowledgeShare.ordinal, HiveMessageType.healingRequest.ordinal,
      HiveMessageType.topologyUpdate.ordinal]) :
    receiveMessage c m now = (c, []) := by
  unfold receiveMessage
  split
  all_goals first
    | rfl
    | rename_i h; rw [← HiveMessageType.ordinal_of_ofOrdinal? h] at ht; simp at ht

end Spec

/-! ## Creation and the periodic cycle -/

/-- `hive_coordinator_create`. -/
def hiveCoordinatorCreate (engine : AutognosisEngine) (nodeId : UInt32) (now : Int) :
    HiveCoordinator :=
  ⟨engine, nodeId, 0, now, now, 1 / 2⟩

/-- The scan's test in `hive_coordinator_process_cycle`: "recent and important". -/
def Atom.isRecentAndImportant (now : Int) (a : Atom) : Bool :=
  decide (a.importance > 4 / 5 ∧ now - a.timestamp < 300)

/-- A heartbeat, if `30` seconds have passed since the last one. -/
def heartbeatPhase (c : HiveCoordinator) (now : Int) : HiveCoordinator × List HiveMessage :=
  if now - c.lastHeartbeat ≥ 30 then
    let sent := sendMessage c (hiveMessageCreate c.nodeId 0 .heartbeat now)
    ({ sent.1 with lastHeartbeat := now }, sent.2)
  else (c, [])

/-- The knowledge sync, if `60` seconds have passed since the last one. -/
def syncPhase (c : HiveCoordinator) (now : Int) : HiveCoordinator :=
  if now - c.lastKnowledgeSync ≥ 60 then
    { updateCollectiveKnowledge c now with lastKnowledgeSync := now }
  else c

/-- The first recent and important fact of the global store goes to `share_knowledge`. -/
def sharePhase (c : HiveCoordinator) (now : Int) : HiveCoordinator × List HiveMessage :=
  match c.localEngine.globalKnowledge.atoms.find? (Atom.isRecentAndImportant now) with
  | some atom => shareKnowledge c atom now
  | none => (c, [])

/-- `hive_coordinator_process_cycle`. -/
def hiveCoordinatorProcessCycle (c : HiveCoordinator) (now : Int) :
    HiveCoordinator × List HiveMessage :=
  let beat := heartbeatPhase c now
  let shared := sharePhase (syncPhase beat.1 now) now
  (shared.1, beat.2 ++ shared.2)

end Hivecog
