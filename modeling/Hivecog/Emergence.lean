import Hivecog.Hive

/-!
# The collective intelligence score

`collective_intelligence_score` starts at `0.5` and is written only by
`hive_adaptive_behavior_update`, with the emergence factor: `0.4` overall health, `0.3`
knowledge diversity and `0.3` of the previous score, capped at `1`.

* `ScoreBounds`: the overall health of a coordinator's topology is never negative, whatever
  health readings it gets (the mean counts only nodes above `0.1`), so the factor is never
  negative either, and the score stays in `[0, 1]` over every run of the hive
  (`Hive.scoreBounded_run`).
* `hiveAdaptiveBehaviorUpdate_score_sub`: with the overall health in `[0, 1]`, the cap is
  never reached, and an update moves the score `0.7` of the way to the fixed point
  `emergenceFixedPoint`; along a stretch of updates, which change neither the topology nor
  the store, the distance shrinks geometrically (`iterate_score_sub`).
* `collectiveIntelligenceScore_run` puts the two together for every node of every run.
-/

namespace Hivecog

/-- The cap at `1` that `hive_calculate_emergence_factor` applies twice. -/
theorem ite_one_lt_eq_min (x : ℚ) : (if x > 1 then 1 else x) = min 1 x := by
  split_ifs with h
  · exact (min_eq_left h.le).symm
  · exact (min_eq_right (not_lt.1 h)).symm

theorem hiveCalculateEmergenceFactor_eq (c : HiveCoordinator) :
    hiveCalculateEmergenceFactor c =
      min 1 (c.localEngine.topology.overallHealth * (2 / 5) +
        min 1 ((c.localEngine.globalKnowledge.atomCount.toNat : ℚ) / 100) * (3 / 10) +
        c.collectiveIntelligenceScore * (3 / 10)) := by
  rw [hiveCalculateEmergenceFactor, ite_one_lt_eq_min, ite_one_lt_eq_min]

/-! ## Bounds over every run -/

/-- What every coordinator of a hive keeps. -/
structure ScoreBounds (c : HiveCoordinator) : Prop where
  /-- The overall health is a mean of healths above `0.1`, or `0`, or the initial `1`. -/
  health_nonneg : 0 ≤ c.localEngine.topology.overallHealth
  score_nonneg : 0 ≤ c.collectiveIntelligenceScore
  score_le_one : c.collectiveIntelligenceScore ≤ 1

namespace ScoreBounds

variable {c c' : HiveCoordinator}

theorem of_eq (hc : ScoreBounds c)
    (h : c'.localEngine.topology.overallHealth = c.localEngine.topology.overallHealth ∧
      c'.collectiveIntelligenceScore = c.collectiveIntelligenceScore) : ScoreBounds c' :=
  ⟨h.1 ▸ hc.health_nonneg, h.2 ▸ hc.score_nonneg, h.2 ▸ hc.score_le_one⟩

theorem hiveAdaptiveBehaviorUpdate (hc : ScoreBounds c) :
    ScoreBounds (Hivecog.hiveAdaptiveBehaviorUpdate c) := by
  refine ⟨hc.health_nonneg, ?_, ?_⟩ <;> simp only [Hivecog.hiveAdaptiveBehaviorUpdate,
    hiveCalculateEmergenceFactor_eq]
  · have := hc.health_nonneg
    have := hc.score_nonneg
    positivity
  · exact min_le_left _ _

theorem setTopology (hc : ScoreBounds c) {t : NetworkTopology} (ht : 0 ≤ t.overallHealth) :
    ScoreBounds (c.setTopology t) :=
  ⟨ht, hc.score_nonneg, hc.score_le_one⟩

theorem hiveCoordinatorProcessCycle (hc : ScoreBounds c) (now : Int) :
    ScoreBounds (Hivecog.hiveCoordinatorProcessCycle c now).1 := by
  have beat : ScoreBounds (heartbeatPhase c now).1 :=
    hc.of_eq (by unfold heartbeatPhase; split <;> exact ⟨rfl, rfl⟩)
  have sync : ScoreBounds (syncPhase (heartbeatPhase c now).1 now) := by
    unfold syncPhase
    split
    · have topo : ScoreBounds (hiveUpdateCollectiveTopology (heartbeatPhase c now).1 now) :=
        beat.of_eq ⟨rfl, rfl⟩
      exact topo.hiveAdaptiveBehaviorUpdate.of_eq ⟨rfl, rfl⟩
    · exact beat
  have share : ∀ c' : HiveCoordinator,
      (sharePhase c' now).1.localEngine.topology.overallHealth =
        c'.localEngine.topology.overallHealth ∧
      (sharePhase c' now).1.collectiveIntelligenceScore = c'.collectiveIntelligenceScore := by
    intro c'
    unfold sharePhase shareKnowledge
    split
    · split <;> exact ⟨rfl, rfl⟩
    · exact ⟨rfl, rfl⟩
  exact sync.of_eq (share _)

theorem receiveMessage (hc : ScoreBounds c) (m : HiveMessage) (now : Int) :
    ScoreBounds (Hivecog.receiveMessage c m now).1 := by
  unfold Hivecog.receiveMessage
  split
  · exact hc.setTopology (overallHealthOf_nonneg _)
  · split <;> exact hc.of_eq ⟨rfl, rfl⟩
  · split <;> exact hc.of_eq ⟨rfl, rfl⟩
  · exact hc.of_eq ⟨rfl, rfl⟩
  · exact hc

/-- Every action of the hive, at its node. -/
theorem run (hc : ScoreBounds c) (counter : UInt32) (a : HiveAction) :
    ScoreBounds (a.run counter c).2.1 := by
  cases a with
  | processCycle _ now => exact hc.hiveCoordinatorProcessCycle now
  | coordinateHealing _ d now =>
    exact hc.of_eq (by dsimp only [HiveAction.run, hiveCoordinateHealing]; split <;> exact ⟨rfl, rfl⟩)
  | shareKnowledge _ a now =>
    exact hc.of_eq (by dsimp only [HiveAction.run, Hivecog.shareKnowledge]; split <;> exact ⟨rfl, rfl⟩)
  | adaptiveBehaviorUpdate _ => exact hc.hiveAdaptiveBehaviorUpdate
  | addNode _ id address now =>
    exact hc.setTopology ((topologyAddNode_overallHealth _ _ _ _).symm ▸ hc.health_nonneg)
  | updateNodeHealth _ id h now => exact hc.setTopology (overallHealthOf_nonneg _)
  | deliver _ m now => exact hc.receiveMessage m now
  | _ => exact hc.of_eq ⟨rfl, rfl⟩

end ScoreBounds

namespace Hive

/-- Every coordinator of the hive keeps `ScoreBounds`. -/
def ScoreBounded (h : Hive) : Prop := ∀ n ∈ h.nodes, ScoreBounds n.coordinator

theorem scoreBounded_init (nodes : List (UInt32 × Int)) : (init nodes).ScoreBounded := by
  simp only [ScoreBounded, init, List.mem_map]
  rintro _ ⟨_, _, rfl⟩
  exact ⟨zero_le_one, by norm_num [hiveCoordinatorCreate], by norm_num [hiveCoordinatorCreate]⟩

theorem scoreBounded_run (nodes : List (UInt32 × Int)) (acts : List HiveAction) :
    ((init nodes).run acts).ScoreBounded :=
  forall_nodes_run (P := fun n => ScoreBounds n.coordinator) (fun _ a _ hn => hn.run _ a)
    (scoreBounded_init nodes) acts

end Hive

/-! ## Convergence -/

@[simp] theorem hiveAdaptiveBehaviorUpdate_topology (c : HiveCoordinator) :
    (hiveAdaptiveBehaviorUpdate c).localEngine.topology = c.localEngine.topology := rfl

@[simp] theorem hiveAdaptiveBehaviorUpdate_globalKnowledge (c : HiveCoordinator) :
    (hiveAdaptiveBehaviorUpdate c).localEngine.globalKnowledge = c.localEngine.globalKnowledge :=
  rfl

/-- The score at which `hive_adaptive_behavior_update` stands still, for overall health `h`
and `n` atoms. -/
def emergenceFixedPoint (h : ℚ) (n : UInt32) : ℚ :=
  (2 / 5 * h + 3 / 10 * min 1 ((n.toNat : ℚ) / 100)) / (7 / 10)

theorem ScoreBounds.iterate {c : HiveCoordinator} (hc : ScoreBounds c) (k : Nat) :
    ScoreBounds (Hivecog.hiveAdaptiveBehaviorUpdate^[k] c) := by
  induction k with
  | zero => exact hc
  | succ k ih => rw [Function.iterate_succ_apply']; exact ih.hiveAdaptiveBehaviorUpdate

@[simp] theorem iterate_hiveAdaptiveBehaviorUpdate_topology (c : HiveCoordinator) (k : Nat) :
    (hiveAdaptiveBehaviorUpdate^[k] c).localEngine.topology = c.localEngine.topology := by
  induction k with
  | zero => rfl
  | succ k ih => rw [Function.iterate_succ_apply', hiveAdaptiveBehaviorUpdate_topology, ih]

@[simp] theorem iterate_hiveAdaptiveBehaviorUpdate_globalKnowledge (c : HiveCoordinator) (k : Nat) :
    (hiveAdaptiveBehaviorUpdate^[k] c).localEngine.globalKnowledge =
      c.localEngine.globalKnowledge := by
  induction k with
  | zero => rfl
  | succ k ih => rw [Function.iterate_succ_apply', hiveAdaptiveBehaviorUpdate_globalKnowledge, ih]

section Convergence

variable {c : HiveCoordinator} (hc : ScoreBounds c) (h₁ : c.localEngine.topology.overallHealth ≤ 1)
include hc h₁

/-- One update, below the cap: the distance to the fixed point shrinks to `0.3` of itself. -/
theorem hiveAdaptiveBehaviorUpdate_score_sub :
    (hiveAdaptiveBehaviorUpdate c).collectiveIntelligenceScore -
        emergenceFixedPoint c.localEngine.topology.overallHealth
          c.localEngine.globalKnowledge.atomCount =
      3 / 10 * (c.collectiveIntelligenceScore - emergenceFixedPoint
        c.localEngine.topology.overallHealth c.localEngine.globalKnowledge.atomCount) := by
  have hd := min_le_left 1 ((c.localEngine.globalKnowledge.atomCount.toNat : ℚ) / 100)
  simp only [hiveAdaptiveBehaviorUpdate, hiveCalculateEmergenceFactor_eq, emergenceFixedPoint]
  rw [min_eq_right (by linarith [hc.score_le_one])]
  ring

/-- The same for every update of a stretch of them, which change neither the topology nor
the store. -/
theorem iterate_succ_score_sub (k : Nat) :
    (hiveAdaptiveBehaviorUpdate^[k + 1] c).collectiveIntelligenceScore -
        emergenceFixedPoint c.localEngine.topology.overallHealth
          c.localEngine.globalKnowledge.atomCount =
      3 / 10 * ((hiveAdaptiveBehaviorUpdate^[k] c).collectiveIntelligenceScore -
        emergenceFixedPoint c.localEngine.topology.overallHealth
          c.localEngine.globalKnowledge.atomCount) := by
  have step := hiveAdaptiveBehaviorUpdate_score_sub (hc.iterate k)
    (by rwa [iterate_hiveAdaptiveBehaviorUpdate_topology])
  rw [iterate_hiveAdaptiveBehaviorUpdate_topology,
    iterate_hiveAdaptiveBehaviorUpdate_globalKnowledge] at step
  rw [Function.iterate_succ_apply', step]

/-- So the distance to the fixed point after `k` updates is `0.3^k` of the first. -/
theorem iterate_score_sub (k : Nat) :
    (hiveAdaptiveBehaviorUpdate^[k] c).collectiveIntelligenceScore -
        emergenceFixedPoint c.localEngine.topology.overallHealth
          c.localEngine.globalKnowledge.atomCount =
      (3 / 10) ^ k * (c.collectiveIntelligenceScore - emergenceFixedPoint
        c.localEngine.topology.overallHealth c.localEngine.globalKnowledge.atomCount) := by
  induction k with
  | zero => simp
  | succ k ih => rw [iterate_succ_score_sub hc h₁, ih, pow_succ]; ring

end Convergence

/-- Over every run of the hive, every node's collective score lies in `[0, 1]`; and from
every node of the run whose overall health is at most `1`, a stretch of adaptive updates
moves the score `0.7` of the way to the fixed point at each step, never reaching the cap, so
it converges to the fixed point geometrically. -/
theorem collectiveIntelligenceScore_run (nodes : List (UInt32 × Int)) (acts : List HiveAction) :
    ∀ n ∈ ((Hive.init nodes).run acts).nodes,
      let c := n.coordinator
      let fixedPoint := emergenceFixedPoint c.localEngine.topology.overallHealth
        c.localEngine.globalKnowledge.atomCount
      (0 ≤ c.collectiveIntelligenceScore ∧ c.collectiveIntelligenceScore ≤ 1) ∧
      (c.localEngine.topology.overallHealth ≤ 1 → ∀ k,
        (hiveAdaptiveBehaviorUpdate^[k + 1] c).collectiveIntelligenceScore - fixedPoint =
            3 / 10 * ((hiveAdaptiveBehaviorUpdate^[k] c).collectiveIntelligenceScore - fixedPoint) ∧
          (hiveAdaptiveBehaviorUpdate^[k] c).collectiveIntelligenceScore - fixedPoint =
            (3 / 10) ^ k * (c.collectiveIntelligenceScore - fixedPoint)) := by
  intro n hn
  have hc := Hive.scoreBounded_run nodes acts n hn
  exact ⟨⟨hc.score_nonneg, hc.score_le_one⟩,
    fun h₁ k => ⟨iterate_succ_score_sub hc h₁ k, iterate_score_sub hc h₁ k⟩⟩

/-- A fresh node: its first update moves the score from `0.5` to `0.3` of its distance from
the fixed point. -/
theorem collectiveIntelligenceScore_run_fresh :
    (hiveAdaptiveBehaviorUpdate (hiveCoordinatorCreate (autognosisCreate 0) 1 0)).collectiveIntelligenceScore -
        emergenceFixedPoint 1 0 = 3 / 10 * (1 / 2 - emergenceFixedPoint 1 0) :=
  ((collectiveIntelligenceScore_run [(1, 0)] [] _ (List.mem_singleton_self _)).2 le_rfl 0).1

end Hivecog
