import Hivecog.Coordinator

/-!
# The periodic cycle

What one `hive_coordinator_process_cycle` does, for every coordinator and every clock
reading (`hiveCoordinatorProcessCycle_spec`): a heartbeat exactly when `30` seconds have
passed since the last one, the knowledge sync exactly when `60` have passed since the last
one, and one `KNOWLEDGE_SHARE` of the first fact of the synced store with importance above
`0.8` that is under `300` seconds old, if there is one. Nothing else is sent.

The scan's threshold `0.8` is the one that counts: `share_knowledge` checks `0.7`, which
every fact the scan picks passes, so a fact between the two is never shared by the cycle
(`hiveCoordinatorProcessCycle_skips_between_thresholds`).
-/

namespace Hivecog

section Phases

variable (c : HiveCoordinator) (now : Int)

theorem Atom.isRecentAndImportant_eq : Atom.isRecentAndImportant now =
    fun a => decide (a.importance > 4 / 5 ∧ now - a.timestamp < 300) := rfl

/-- A fact the scan picks passes the check of `share_knowledge`, so it is broadcast. -/
theorem sharePhase_eq :
    sharePhase c now = ((c.localEngine.globalKnowledge.atoms.find?
        fun a => decide (a.importance > 4 / 5 ∧ now - a.timestamp < 300)).map
      fun a => hiveBroadcastKnowledge c a now).getD (c, []) := by
  unfold sharePhase
  rw [Atom.isRecentAndImportant_eq]
  split
  · rename_i a ha
    have hpick : a.importance > 4 / 5 ∧ now - a.timestamp < 300 := by
      simpa using List.find?_some ha
    rw [ha, Option.map_some', Option.getD_some, shareKnowledge,
      if_pos (by linarith [hpick.1] : a.importance > 7 / 10)]
  · rename_i ha
    rw [ha, Option.map_none', Option.getD_none]

/-- The knowledge sync reads only the engine and the collective score. -/
theorem updateCollectiveKnowledge_congr {c'} (he : c'.localEngine = c.localEngine)
    (hs : c'.collectiveIntelligenceScore = c.collectiveIntelligenceScore) :
    (updateCollectiveKnowledge c' now).localEngine = (updateCollectiveKnowledge c now).localEngine ∧
      (updateCollectiveKnowledge c' now).collectiveIntelligenceScore =
        (updateCollectiveKnowledge c now).collectiveIntelligenceScore := by
  simp only [updateCollectiveKnowledge, hiveAdaptiveBehaviorUpdate, hiveCalculateEmergenceFactor,
    hiveUpdateCollectiveTopology, HiveCoordinator.setGlobalKnowledge, he, hs, and_self]

/-- The heartbeat phase sends the heartbeat and moves its timer exactly when `30` seconds
have passed, and leaves the engine, the score, the sync timer and the node id as they were. -/
theorem heartbeatPhase_spec : ∃ c₁ beat,
    heartbeatPhase c now = (c₁, beat) ∧ c₁.localEngine = c.localEngine ∧
      c₁.collectiveIntelligenceScore = c.collectiveIntelligenceScore ∧
      c₁.lastKnowledgeSync = c.lastKnowledgeSync ∧ c₁.nodeId = c.nodeId ∧
      c₁.lastHeartbeat = (if now - c.lastHeartbeat ≥ 30 then now else c.lastHeartbeat) ∧
      beat.map (fun m => { m with sequenceNumber := 0 }) =
        if now - c.lastHeartbeat ≥ 30 then [hiveMessageCreate c.nodeId 0 .heartbeat now]
        else [] := by
  unfold heartbeatPhase
  split <;> exact ⟨_, _, rfl, rfl, rfl, rfl, rfl, by simp [*],
    by simp [*, sendMessage, hiveMessageCreate]⟩

/-- The sync phase after a heartbeat phase that kept what the sync reads: it syncs exactly
when `60` seconds have passed, and reads neither the node id nor the heartbeat timer. -/
theorem syncPhase_spec {c₁ : HiveCoordinator} (he : c₁.localEngine = c.localEngine)
    (hs : c₁.collectiveIntelligenceScore = c.collectiveIntelligenceScore)
    (hk : c₁.lastKnowledgeSync = c.lastKnowledgeSync) : ∃ c₂,
    syncPhase c₁ now = c₂ ∧
      c₂.localEngine =
        (if now - c.lastKnowledgeSync ≥ 60 then updateCollectiveKnowledge c now else c).localEngine ∧
      c₂.collectiveIntelligenceScore = (if now - c.lastKnowledgeSync ≥ 60 then
        updateCollectiveKnowledge c now else c).collectiveIntelligenceScore ∧
      c₂.lastKnowledgeSync =
        (if now - c.lastKnowledgeSync ≥ 60 then now else c.lastKnowledgeSync) ∧
      c₂.nodeId = c₁.nodeId ∧ c₂.lastHeartbeat = c₁.lastHeartbeat := by
  have hu := updateCollectiveKnowledge_congr c now he hs
  unfold syncPhase
  rw [hk]
  split <;> exact ⟨_, rfl, by simp [*], by simp [*], by simp [*], rfl, rfl⟩

/-- The cycle writes the engine only through the knowledge sync. -/
theorem hiveCoordinatorProcessCycle_localEngine :
    (hiveCoordinatorProcessCycle c now).1.localEngine =
      (if now - c.lastKnowledgeSync ≥ 60 then updateCollectiveKnowledge c now else c).localEngine := by
  obtain ⟨c₁, beat, hbeat, he₁, hs₁, hk₁, -⟩ := heartbeatPhase_spec c now
  obtain ⟨c₂, hsync, he₂, -⟩ := syncPhase_spec c now he₁ hs₁ hk₁
  simp only [hiveCoordinatorProcessCycle, hbeat, hsync, sharePhase_eq]
  cases List.find? _ _ <;> exact he₂

end Phases

/-- One cycle: the heartbeat and the sync each fire exactly on their own timer, and the
messages, as created before `send_message` numbers them, are the heartbeat and the share of
the first recent fact of importance above `0.8` in the synced store. -/
theorem hiveCoordinatorProcessCycle_spec (c : HiveCoordinator) (now : Int) :
    let synced := if now - c.lastKnowledgeSync ≥ 60 then updateCollectiveKnowledge c now else c
    let shared := synced.localEngine.globalKnowledge.atoms.find?
      fun a => decide (a.importance > 4 / 5 ∧ now - a.timestamp < 300)
    let r := hiveCoordinatorProcessCycle c now
    r.2.map (fun m => { m with sequenceNumber := 0 }) =
        (if now - c.lastHeartbeat ≥ 30 then [hiveMessageCreate c.nodeId 0 .heartbeat now] else []) ++
          (shared.map fun a => ⟨c.nodeId, 0, HiveMessageType.knowledgeShare.ordinal, 0, now,
            sizeofKnowledgePacket, .knowledgePacket (knowledgePacketFromAtom a)⟩).toList ∧
      r.1.lastHeartbeat = (if now - c.lastHeartbeat ≥ 30 then now else c.lastHeartbeat) ∧
      r.1.lastKnowledgeSync = (if now - c.lastKnowledgeSync ≥ 60 then now else c.lastKnowledgeSync) ∧
      r.1.localEngine = synced.localEngine ∧
      r.1.collectiveIntelligenceScore = synced.collectiveIntelligenceScore := by
  intro synced shared r
  obtain ⟨c₁, beat, hbeat, he₁, hs₁, hk₁, hn₁, hh₁, hmsg⟩ := heartbeatPhase_spec c now
  obtain ⟨c₂, hsync, he₂, hs₂, hk₂, hn₂, hh₂⟩ := syncPhase_spec c now he₁ hs₁ hk₁
  simp only [r, hiveCoordinatorProcessCycle, hbeat, hsync, sharePhase_eq, shared, synced, ← he₂]
  cases c₂.localEngine.globalKnowledge.atoms.find?
      (fun a => decide (a.importance > 4 / 5 ∧ now - a.timestamp < 300)) with
  | none => simp [*]
  | some a => simp [*, hiveBroadcastKnowledge_eq]

/-- A fresh coordinator whose store holds one fact, just stamped, with importance `0.75`:
above the `0.7` of `share_knowledge`, below the `0.8` of the scan. The cycle shares
nothing. -/
theorem hiveCoordinatorProcessCycle_skips_between_thresholds :
    let a : Atom := { (atomspaceAddAtom atomspaceCreate .concept Names.health 0).2 with
      importance := 3 / 4 }
    let c := (hiveCoordinatorCreate (autognosisCreate 0) 1 0).setGlobalKnowledge
      (atomspaceCreate.insert a)
    c.localEngine.globalKnowledge.atoms = [a] ∧ a.importance > 7 / 10 ∧ 0 - a.timestamp < 300 ∧
      (hiveCoordinatorProcessCycle c 0).2 = [] := by
  intro a c
  refine ⟨rfl, by norm_num [a], by simp [a, atomspaceAddAtom, atomspaceFindAtom, atomspaceCreate,
    AtomSpace.freshAtom], ?_⟩
  norm_num [hiveCoordinatorProcessCycle, heartbeatPhase, syncPhase, sharePhase_eq, c, a,
    hiveCoordinatorCreate, HiveCoordinator.setGlobalKnowledge, AtomSpace.insert, atomspaceCreate]

end Hivecog
