import Hivecog.Hive

/-!
# Value bounds across the hive

Every fact of every store of the hive, in the global knowledge and in the self-image's
knowledge base, has its truth value in `[0, 1]`, its confidence in `(0, 1]` and its
importance at least `1`; every knowledge packet in flight is within the same bounds; and so
the blend of `atomspace_update_truth_value` always has a positive total weight
(`run_bounds`). This holds over every valid run (`Hive.ValidRun`): health readings lie in
`[0, 1]`, broadcasts are of stored facts, and deliveries are of sent messages, lost,
repeated or reordered at will.

The invariant is one predicate per kind of value (`AtomBounds`, `PacketBounds`,
`StoreBounds`, `TopologyBounds`, `EngineBounds`, `MessageBounds`), each with one lemma per
operation that writes such a value. `ResultBounds` collects what a coordinator operation
must keep, and `ResultBounds.run` proves it for every action; the run theorem is then an
induction over the actions.
-/

namespace Hivecog

/-- The bounds of a stored fact. Its confidence is positive by construction (`Atom`). -/
structure AtomBounds (a : Atom) : Prop where
  truth_nonneg : 0 ≤ a.truthValue
  truth_le_one : a.truthValue ≤ 1
  confidence_le_one : a.confidence ≤ 1
  one_le_importance : 1 ≤ a.importance

/-- The same bounds for a knowledge packet, whose confidence is a plain field. -/
structure PacketBounds (p : KnowledgePacket) : Prop where
  truth_nonneg : 0 ≤ p.truthValue
  truth_le_one : p.truthValue ≤ 1
  confidence_pos : 0 < p.confidence
  confidence_le_one : p.confidence ≤ 1
  one_le_importance : 1 ≤ p.importance

/-- Every fact of a store is within bounds. -/
def StoreBounds (space : AtomSpace) : Prop := ∀ a ∈ space.atoms, AtomBounds a

/-- Node healths and the overall health lie in `[0, 1]`. -/
structure TopologyBounds (t : NetworkTopology) : Prop where
  health : ∀ n ∈ t.nodes, 0 ≤ n.healthScore ∧ n.healthScore ≤ 1
  overall_nonneg : 0 ≤ t.overallHealth
  overall_le_one : t.overallHealth ≤ 1

/-- Both stores of an engine, and its topology. -/
structure EngineBounds (e : AutognosisEngine) : Prop where
  globalKnowledge : StoreBounds e.globalKnowledge
  knowledgeBase : StoreBounds e.selfImage.knowledgeBase
  topology : TopologyBounds e.topology

/-- A message in flight: a `KNOWLEDGE_SHARE` carries a packet, and every packet carried is
within bounds. -/
structure MessageBounds (m : HiveMessage) : Prop where
  knowledgeShare : m.type = HiveMessageType.knowledgeShare.ordinal →
    ∃ p, m.data = .knowledgePacket p
  packet : ∀ p, m.data = .knowledgePacket p → PacketBounds p

/-! ## Facts -/

namespace AtomBounds

variable {a : Atom}

theorem freshAtom (space : AtomSpace) (type : AtomType) (name : CStr) (now : Int) :
    AtomBounds (space.freshAtom type name now) :=
  ⟨by norm_num [AtomSpace.freshAtom], by norm_num [AtomSpace.freshAtom],
    by norm_num [AtomSpace.freshAtom], le_rfl⟩

theorem bumpImportance (ha : AtomBounds a) : AtomBounds a.bumpImportance :=
  ⟨ha.truth_nonneg, ha.truth_le_one, ha.confidence_le_one,
    by simp only [Atom.bumpImportance]; linarith [ha.one_le_importance]⟩

/-- A blend with a truth value in `[0, 1]` at a non-negative confidence goes through the
positive-weight branch, and stays within bounds: a convex combination of two values in
`[0, 1]`, and a mean of confidences capped at `1`. -/
theorem updateTruthValue (ha : AtomBounds a) {t c : ℚ} (ht₀ : 0 ≤ t) (ht₁ : t ≤ 1)
    (hc : 0 ≤ c) (now : Int) : AtomBounds (atomspaceUpdateTruthValue a t c now) := by
  have hw : 0 < a.confidence + c := add_pos_of_pos_of_nonneg a.confidence_pos hc
  obtain ⟨htv, hcf⟩ := atomspaceUpdateTruthValue_of_pos a t now hw
  refine ⟨?_, ?_, hcf ▸ min_le_left _ _, by simpa using ha.one_le_importance⟩
  · rw [htv]
    exact div_nonneg (add_nonneg (mul_nonneg ha.truth_nonneg a.confidence_pos.le)
      (mul_nonneg ht₀ hc)) hw.le
  · rw [htv, div_le_one hw]
    exact add_le_add (mul_le_of_le_one_left a.confidence_pos.le ha.truth_le_one)
      (mul_le_of_le_one_left hc ht₁)

theorem merge (ha : AtomBounds a) {p : KnowledgePacket} (hp : PacketBounds p) (now : Int) :
    AtomBounds (p.merge now a) :=
  have hu := ha.updateTruthValue hp.truth_nonneg hp.truth_le_one hp.confidence_pos.le now
  ⟨hu.truth_nonneg, hu.truth_le_one, hu.confidence_le_one, hp.one_le_importance⟩

end AtomBounds

theorem PacketBounds.knowledgePacketFromAtom {a : Atom} (ha : AtomBounds a) :
    PacketBounds (knowledgePacketFromAtom a) :=
  ⟨ha.truth_nonneg, ha.truth_le_one, a.confidence_pos, ha.confidence_le_one,
    ha.one_le_importance⟩

namespace StoreBounds

variable {space : AtomSpace}

theorem atomspaceCreate : StoreBounds Hivecog.atomspaceCreate :=
  fun _ h => absurd h (List.not_mem_nil _)

theorem modifyAtom (hs : StoreBounds space) {f : Atom → Atom}
    (hf : ∀ a, AtomBounds a → AtomBounds (f a)) (name : CStr) :
    StoreBounds (space.modifyAtom name f) := by
  intro b hb
  rcases mem_modifyFirst hb with hb | ⟨a, ha, rfl⟩
  · exact hs b hb
  · exact hf a (hs a ha)

theorem addAtom (hs : StoreBounds space) (type : AtomType) (name : CStr) (now : Int) :
    StoreBounds (atomspaceAddAtom space type name now).1 := by
  unfold atomspaceAddAtom
  split
  · exact hs.modifyAtom (fun _ => AtomBounds.bumpImportance) _
  · intro b hb
    rcases List.mem_cons.1 hb with rfl | hb
    · exact .freshAtom _ _ _ _
    · exact hs b hb

/-- A write through the pointer `atomspace_add_atom` returns. -/
theorem addAtom_modifyAtom (hs : StoreBounds space) {f : Atom → Atom}
    (hf : ∀ a, AtomBounds a → AtomBounds (f a)) (type : AtomType) (name : CStr) (now : Int) :
    StoreBounds ((atomspaceAddAtom space type name now).1.modifyAtom
      (atomspaceAddAtom space type name now).2.name.str f) :=
  (hs.addAtom type name now).modifyAtom hf _

end StoreBounds

namespace TopologyBounds

variable {t : NetworkTopology}

theorem topologyCreate : TopologyBounds Hivecog.topologyCreate :=
  ⟨fun _ h => absurd h (List.not_mem_nil _), zero_le_one, le_rfl⟩

theorem addNode (ht : TopologyBounds t) (id : UInt32) (address : CStr) (now : Int) :
    TopologyBounds (topologyAddNode t id address now) := by
  refine ⟨?_, by simpa using ht.overall_nonneg, by simpa using ht.overall_le_one⟩
  unfold topologyAddNode
  split
  · intro n hn
    rcases mem_modifyFirst hn with hn | ⟨m, hm, rfl⟩
    · exact ht.health n hn
    · exact ht.health m hm
  · intro n hn
    rcases List.mem_cons.1 hn with rfl | hn
    · exact ⟨zero_le_one, le_rfl⟩
    · exact ht.health n hn

theorem updateNodeHealth (ht : TopologyBounds t) {health : ℚ} (h₀ : 0 ≤ health)
    (h₁ : health ≤ 1) (id : UInt32) (now : Int) :
    TopologyBounds (topologyUpdateNodeHealth t id health now) := by
  have hn : ∀ n ∈ (topologyUpdateNodeHealth t id health now).nodes,
      0 ≤ n.healthScore ∧ n.healthScore ≤ 1 := by
    intro n hn
    rcases mem_modifyFirst hn with hn | ⟨m, -, rfl⟩
    · exact ht.health n hn
    · exact ⟨h₀, h₁⟩
  exact ⟨hn, overallHealthOf_nonneg _, overallHealthOf_le_one fun n hn' => (hn n hn').2⟩

end TopologyBounds

namespace EngineBounds

variable {e : AutognosisEngine}

theorem autognosisCreate (now : Int) : EngineBounds (Hivecog.autognosisCreate now) :=
  ⟨.atomspaceCreate,
    (((StoreBounds.atomspaceCreate.addAtom _ _ _).addAtom _ _ _).addAtom _ _ _).addAtom _ _ _,
    .topologyCreate⟩

/-- The self-image blends the overall health, in `[0, 1]`, into its `health` fact and adds
an observation. -/
theorem updateSelfImage (he : EngineBounds e) (now : Int) :
    EngineBounds (Hivecog.updateSelfImage e now) :=
  ⟨he.globalKnowledge,
    (he.knowledgeBase.modifyAtom (fun _ ha => ha.updateTruthValue he.topology.overall_nonneg
      he.topology.overall_le_one (by norm_num) now) _).addAtom _ _ _,
    he.topology⟩

theorem autognosisCognitiveCycle (he : EngineBounds e) (now : Int) :
    EngineBounds (Hivecog.autognosisCognitiveCycle e now) :=
  have hu := he.updateSelfImage now
  ⟨hu.globalKnowledge, hu.knowledgeBase, hu.topology⟩

theorem selfImageAddCapability (he : EngineBounds e) (cap : UInt32) (now : Int) :
    EngineBounds { e with selfImage := Hivecog.selfImageAddCapability e.selfImage cap now } :=
  ⟨he.globalKnowledge, he.knowledgeBase.addAtom _ _ _, he.topology⟩

end EngineBounds

namespace MessageBounds

variable {m : HiveMessage}

theorem of_not_knowledgeShare (ht : m.type ≠ HiveMessageType.knowledgeShare.ordinal)
    (hd : ∀ p, m.data ≠ .knowledgePacket p) : MessageBounds m :=
  ⟨fun h => absurd h ht, fun p h => absurd h (hd p)⟩

theorem of_data {p : KnowledgePacket} (hp : PacketBounds p) (h : m.data = .knowledgePacket p) :
    MessageBounds m :=
  ⟨fun _ => ⟨p, h⟩,
    fun _ hq => HiveMessageData.knowledgePacket.inj (h.symm.trans hq) ▸ hp⟩

/-- What a receiver decodes from a `KNOWLEDGE_SHARE` in flight is within bounds. -/
theorem asKnowledgePacket (hm : MessageBounds m)
    (ht : m.type = HiveMessageType.knowledgeShare.ordinal) :
    PacketBounds m.data.asKnowledgePacket := by
  obtain ⟨p, hp⟩ := hm.knowledgeShare ht
  rw [hp]
  exact hm.packet p hp

end MessageBounds

/-! ## Every operation of a coordinator -/

/-- What an operation of a coordinator keeps: the bounds of its engine, and those of every
message it sends. -/
def ResultBounds (r : HiveCoordinator × List HiveMessage) : Prop :=
  EngineBounds r.1.localEngine ∧ ∀ m ∈ r.2, MessageBounds m

namespace ResultBounds

theorem append {r₁ r₂ : HiveCoordinator × List HiveMessage} (h₁ : ResultBounds r₁)
    (h₂ : ResultBounds r₂) : ResultBounds (r₂.1, r₁.2 ++ r₂.2) :=
  ⟨h₂.1, fun m hm => (List.mem_append.1 hm).elim (h₁.2 m) (h₂.2 m)⟩

variable {c : HiveCoordinator} (hc : EngineBounds c.localEngine) (now : Int)
include hc

theorem nil : ResultBounds (c, []) := ⟨hc, fun _ h => absurd h (List.not_mem_nil _)⟩

theorem sendMessage {m : HiveMessage} (hm : MessageBounds m) :
    ResultBounds (Hivecog.sendMessage c m) :=
  ⟨hc, fun _ h => List.mem_singleton.1 h ▸ ⟨hm.knowledgeShare, hm.packet⟩⟩

theorem requestHealingAssistance (request : HealingRequest) :
    ResultBounds (Hivecog.requestHealingAssistance c request now) := by
  rw [requestHealingAssistance_eq]
  exact ⟨hc, fun _ h => List.mem_singleton.1 h ▸ .of_not_knowledgeShare
    (by decide : HiveMessageType.healingRequest.ordinal ≠ 1)
    fun _ h => HiveMessageData.noConfusion h⟩

theorem respondToHealingRequest (request : HealingRequest) :
    ResultBounds (Hivecog.respondToHealingRequest c request now) := by
  rw [respondToHealingRequest_eq]
  exact ⟨hc, fun _ h => List.mem_singleton.1 h ▸ .of_not_knowledgeShare
    (by decide : HiveMessageType.healingResponse.ordinal ≠ 1)
    fun _ h => HiveMessageData.noConfusion h⟩

theorem hiveBroadcastKnowledge {a : Atom} (ha : AtomBounds a) :
    ResultBounds (Hivecog.hiveBroadcastKnowledge c a now) :=
  sendMessage hc (.of_data (.knowledgePacketFromAtom ha) rfl)

theorem shareKnowledge {a : Atom} (ha : AtomBounds a) :
    ResultBounds (Hivecog.shareKnowledge c a now) := by
  unfold Hivecog.shareKnowledge
  split
  · exact hiveBroadcastKnowledge hc now ha
  · exact nil hc

theorem hiveUpdateCollectiveTopology :
    EngineBounds (Hivecog.hiveUpdateCollectiveTopology c now).localEngine :=
  ⟨hc.globalKnowledge.addAtom_modifyAtom (fun _ ha => ha.updateTruthValue
      hc.topology.overall_nonneg hc.topology.overall_le_one (by norm_num) now) _ _ _,
    hc.knowledgeBase, hc.topology⟩

theorem updateCollectiveKnowledge :
    EngineBounds (Hivecog.updateCollectiveKnowledge c now).localEngine :=
  have hu := hiveUpdateCollectiveTopology hc now
  ⟨hu.globalKnowledge, hu.knowledgeBase, hu.topology⟩

theorem hiveCoordinatorProcessCycle :
    ResultBounds (Hivecog.hiveCoordinatorProcessCycle c now) := by
  have beat : ResultBounds (heartbeatPhase c now) := by
    unfold heartbeatPhase
    split
    · exact sendMessage hc
        (.of_not_knowledgeShare (by decide : 0 ≠ 1) fun _ h => HiveMessageData.noConfusion h)
    · exact nil hc
  have sync : EngineBounds (syncPhase (heartbeatPhase c now).1 now).localEngine := by
    unfold syncPhase
    split
    · exact updateCollectiveKnowledge beat.1 now
    · exact beat.1
  have share : ResultBounds (sharePhase (syncPhase (heartbeatPhase c now).1 now) now) := by
    unfold sharePhase
    split
    · exact shareKnowledge sync now (sync.globalKnowledge _ (List.mem_of_find?_eq_some ‹_›))
    · exact nil sync
  exact beat.append share

theorem hiveCoordinateHealing (counter : UInt32) (d : CStr) :
    ResultBounds (Hivecog.hiveCoordinateHealing counter c d now).2 := by
  dsimp only [Hivecog.hiveCoordinateHealing]
  split
  · exact requestHealingAssistance hc now _
  · exact nil hc

theorem receiveMessage {m : HiveMessage} (hm : MessageBounds m) :
    ResultBounds (Hivecog.receiveMessage c m now) := by
  unfold Hivecog.receiveMessage
  split
  · exact nil ⟨hc.globalKnowledge, hc.knowledgeBase,
      (hc.topology.addNode _ _ _).updateNodeHealth zero_le_one le_rfl _ _⟩
  · split
    · have hp := hm.asKnowledgePacket (HiveMessageType.ordinal_of_ofOrdinal? ‹_›).symm
      exact nil ⟨hc.globalKnowledge.addAtom_modifyAtom (fun _ ha => ha.merge hp now) _ _ _,
        hc.knowledgeBase, hc.topology⟩
    · exact nil hc
  · split
    · exact respondToHealingRequest hc now _
    · exact nil hc
  · exact nil (hiveUpdateCollectiveTopology hc now)
  · exact nil hc

end ResultBounds

/-! ## Every run of the hive -/

/-- What a valid step brings from the rest of the hive: a stored fact to broadcast, a
health reading in `[0, 1]`, or a message some node has sent. -/
def HiveAction.Safe : HiveAction → Prop
  | broadcastKnowledge _ a _ | shareKnowledge _ a _ => AtomBounds a
  | updateNodeHealth _ _ health _ => 0 ≤ health ∧ health ≤ 1
  | deliver _ m _ => MessageBounds m
  | _ => True

/-- Every action, at its node. -/
theorem ResultBounds.run {c : HiveCoordinator} (hc : EngineBounds c.localEngine)
    {a : HiveAction} (ha : a.Safe) (counter : UInt32) : ResultBounds (a.run counter c).2 := by
  cases a with
  | processCycle _ now => exact hiveCoordinatorProcessCycle hc now
  | coordinateHealing _ d now => exact hiveCoordinateHealing hc now counter d
  | broadcastKnowledge _ a now => exact hiveBroadcastKnowledge hc now ha
  | shareKnowledge _ a now => exact shareKnowledge hc now ha
  | adaptiveBehaviorUpdate _ => exact nil ⟨hc.globalKnowledge, hc.knowledgeBase, hc.topology⟩
  | cognitiveCycle _ now => exact nil (hc.autognosisCognitiveCycle now)
  | processHiveMessage _ => exact nil ⟨hc.globalKnowledge, hc.knowledgeBase, hc.topology⟩
  | diagnoseAndHeal _ p => exact nil ⟨hc.globalKnowledge, hc.knowledgeBase, hc.topology⟩
  | addCapability _ cap now => exact nil (hc.selfImageAddCapability cap now)
  | addNode _ id address now =>
    exact nil ⟨hc.globalKnowledge, hc.knowledgeBase, hc.topology.addNode id address now⟩
  | updateNodeHealth _ id health now =>
    exact nil ⟨hc.globalKnowledge, hc.knowledgeBase,
      hc.topology.updateNodeHealth ha.1 ha.2 id now⟩
  | deliver _ m now => exact receiveMessage hc now ha

/-- A node within bounds: its engine, and every message it has sent. -/
def HiveNode.Bounded (n : HiveNode) : Prop :=
  EngineBounds n.coordinator.localEngine ∧ ∀ m ∈ n.sent, MessageBounds m

namespace Hive

/-- Every node of the hive is within bounds. -/
def Bounded (h : Hive) : Prop := ∀ n ∈ h.nodes, n.Bounded

theorem Bounded.safe {h : Hive} (hb : h.Bounded) {a : HiveAction} (hv : a.Valid h) : a.Safe := by
  cases a with
  | broadcastKnowledge _ a _ | shareKnowledge _ a _ =>
    obtain ⟨n, hn, ha | ha⟩ := hv
    · exact (hb n hn).1.globalKnowledge a ha
    · exact (hb n hn).1.knowledgeBase a ha
  | updateNodeHealth => exact hv
  | deliver _ m _ =>
    obtain ⟨n, hn, hm⟩ := hv
    exact (hb n hn).2 m hm
  | _ => trivial

theorem Bounded.step {h : Hive} (hb : h.Bounded) {a : HiveAction} (hv : a.Valid h) :
    (h.step a).Bounded :=
  forall_nodes_step hb fun _ _ hn =>
    have hr := ResultBounds.run hn.1 (hb.safe hv) h.problemIdCounter
    ⟨hr.1, fun m hm => (List.mem_append.1 hm).elim (hn.2 m) (hr.2 m)⟩

theorem Bounded.run {h : Hive} (hb : h.Bounded) {acts : List HiveAction} (hv : h.ValidRun acts) :
    (h.run acts).Bounded := by
  induction acts generalizing h with
  | nil => exact hb
  | cons a acts ih => exact ih (hb.step hv.1) hv.2

end Hive

end Hivecog
