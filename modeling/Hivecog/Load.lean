import Hivecog.Hive
import Hivecog.Frame
import Hivecog.Cycle

/-!
# The cognitive load and the autonomy it sets

`process_network_events` adds `0.1` to `cognitive_load` and caps it at `1`;
`autognosis_cognitive_cycle` first lets `update_self_image` set the autonomy to
`1 - cognitive_load`, then multiplies the load by `1 - 0.1 · (now - last_cognitive_cycle) / 60`
and clamps it at `0` from below only. The factor exceeds `1` exactly when the clock reads
earlier than the previous cycle, and nothing caps the product.

* `autognosisCognitiveCycle_backward_clock`: on a fresh engine, one hive message and a
  cycle `6000` seconds back in time leave the load at `1.1`, and the next cycle derives an
  autonomy of `-0.1`.
* `Hive.loadBounds_run`: on a run of the hive whose cycles never read a clock behind their
  engine's previous cycle (`Hive.ForwardRun`), the load and the autonomy stay in `[0, 1]`
  (`LoadBounds`). On other runs the rational load can only grow past `1`, while the C
  `float` load can overflow and then become NaN.
-/

namespace Hivecog

/-! ## The fields the cycle writes -/

section Fields

variable (e : AutognosisEngine) (now : Int)

@[simp] theorem updateSelfImage_cognitiveLoad : (updateSelfImage e now).cognitiveLoad = e.cognitiveLoad :=
  rfl

@[simp] theorem updateSelfImage_lastCognitiveCycle :
    (updateSelfImage e now).lastCognitiveCycle = e.lastCognitiveCycle := rfl

@[simp] theorem updateSelfImage_autonomyLevel :
    (updateSelfImage e now).selfImage.autonomyLevel = 1 - e.cognitiveLoad := rfl

@[simp] theorem autognosisCognitiveCycle_cognitiveLoad :
    (autognosisCognitiveCycle e now).cognitiveLoad =
      max 0 (e.cognitiveLoad * (1 - 1 / 10 * (((now - e.lastCognitiveCycle : Int) : ℚ) / 60))) := by
  simp only [autognosisCognitiveCycle, updateSelfImage_cognitiveLoad,
    updateSelfImage_lastCognitiveCycle]
  split_ifs with h
  · exact (max_eq_left h.le).symm
  · exact (max_eq_right (not_lt.1 h)).symm

@[simp] theorem autognosisCognitiveCycle_lastCognitiveCycle :
    (autognosisCognitiveCycle e now).lastCognitiveCycle = now := rfl

@[simp] theorem autognosisCognitiveCycle_autonomyLevel :
    (autognosisCognitiveCycle e now).selfImage.autonomyLevel = 1 - e.cognitiveLoad := rfl

@[simp] theorem processNetworkEvents_cognitiveLoad :
    (processNetworkEvents e).cognitiveLoad = min 1 (e.cognitiveLoad + 1 / 10) := by
  simp only [processNetworkEvents]
  split_ifs with h
  · exact (min_eq_left h.le).symm
  · exact (min_eq_right (not_lt.1 h)).symm

@[simp] theorem processNetworkEvents_selfImage : (processNetworkEvents e).selfImage = e.selfImage :=
  rfl

@[simp] theorem processNetworkEvents_lastCognitiveCycle :
    (processNetworkEvents e).lastCognitiveCycle = e.lastCognitiveCycle := rfl

@[simp] theorem autognosisCreate_cognitiveLoad : (autognosisCreate now).cognitiveLoad = 0 := rfl

@[simp] theorem autognosisCreate_lastCognitiveCycle :
    (autognosisCreate now).lastCognitiveCycle = now := rfl

end Fields

/-- One hive message raises the load of a fresh engine to `0.1`; a cycle whose clock reads
`6000` seconds before the engine's creation multiplies it by `1 + 10`, and the next cycle
sets the autonomy to `1 - 1.1`. -/
theorem autognosisCognitiveCycle_backward_clock :
    (autognosisCognitiveCycle (autognosisProcessHiveMessage (autognosisCreate 0))
        (-6000)).cognitiveLoad = 11 / 10 ∧
      (autognosisCognitiveCycle (autognosisCognitiveCycle
        (autognosisProcessHiveMessage (autognosisCreate 0)) (-6000)) (-6000)).selfImage.autonomyLevel =
        -1 / 10 := by
  norm_num [autognosisProcessHiveMessage]

/-! ## Bounds over runs -/

/-- The load, and the autonomy derived from it, lie in `[0, 1]`. -/
structure LoadBounds (e : AutognosisEngine) : Prop where
  load_nonneg : 0 ≤ e.cognitiveLoad
  load_le_one : e.cognitiveLoad ≤ 1
  autonomy_nonneg : 0 ≤ e.selfImage.autonomyLevel
  autonomy_le_one : e.selfImage.autonomyLevel ≤ 1

namespace LoadBounds

variable {e e' : AutognosisEngine}

theorem of_eq (h : LoadBounds e) (hl : e'.cognitiveLoad = e.cognitiveLoad)
    (ha : e'.selfImage.autonomyLevel = e.selfImage.autonomyLevel) : LoadBounds e' :=
  ⟨hl ▸ h.load_nonneg, hl ▸ h.load_le_one, ha ▸ h.autonomy_nonneg, ha ▸ h.autonomy_le_one⟩

theorem autognosisCreate (now : Int) : LoadBounds (Hivecog.autognosisCreate now) :=
  ⟨le_rfl, zero_le_one, by norm_num [Hivecog.autognosisCreate, selfImageCreate, healingAddRule],
    by norm_num [Hivecog.autognosisCreate, selfImageCreate, healingAddRule]⟩

/-- An event caps the load at `1`, whatever it was. -/
theorem processNetworkEvents (h : LoadBounds e) : LoadBounds (Hivecog.processNetworkEvents e) := by
  refine ⟨?_, ?_, h.autonomy_nonneg, h.autonomy_le_one⟩ <;>
    rw [processNetworkEvents_cognitiveLoad]
  · exact le_min zero_le_one (by linarith [h.load_nonneg])
  · exact min_le_left _ _

/-- A cycle whose clock does not read behind the previous cycle decays the load. -/
theorem autognosisCognitiveCycle (h : LoadBounds e) {now : Int} (hnow : e.lastCognitiveCycle ≤ now) :
    LoadBounds (Hivecog.autognosisCognitiveCycle e now) := by
  have hf : (0 : ℚ) ≤ ((now - e.lastCognitiveCycle : Int) : ℚ) := by exact_mod_cast by omega
  refine ⟨by simp, ?_, by simpa using h.load_le_one, by simpa using h.load_nonneg⟩
  simp only [autognosisCognitiveCycle_cognitiveLoad, max_le_iff, zero_le_one, true_and]
  nlinarith [h.load_nonneg, h.load_le_one]

/-- `hive_adaptive_behavior_update` sets the autonomy to `0.9`, to `0.3`, or leaves it. -/
theorem hiveAdaptiveBehaviorUpdate {c : HiveCoordinator} (h : LoadBounds c.localEngine) :
    LoadBounds (Hivecog.hiveAdaptiveBehaviorUpdate c).localEngine := by
  refine ⟨h.load_nonneg, h.load_le_one, ?_, ?_⟩ <;> simp only [Hivecog.hiveAdaptiveBehaviorUpdate] <;>
    split_ifs <;> first | exact h.autonomy_nonneg | exact h.autonomy_le_one | norm_num

end LoadBounds

/-- The cognitive cycles of a run read a clock that is not behind the previous cycle of
their engine. -/
def HiveAction.ClockForward (h : Hive) : HiveAction → Prop
  | cognitiveCycle i now => ∀ n, h.nodes[i]? = some n → n.coordinator.localEngine.lastCognitiveCycle ≤ now
  | _ => True

/-- Every step of the run reads the clock forward. -/
def Hive.ForwardRun : Hive → List HiveAction → Prop
  | _, [] => True
  | h, a :: acts => a.ClockForward h ∧ ForwardRun (h.step a) acts

/-- A delivery writes neither the load nor the self-image. -/
theorem receiveMessage_load (c : HiveCoordinator) (m : HiveMessage) (now : Int) :
    (receiveMessage c m now).1.localEngine.cognitiveLoad = c.localEngine.cognitiveLoad ∧
      (receiveMessage c m now).1.localEngine.selfImage = c.localEngine.selfImage := by
  rcases receiveMessage_cases c m now with ⟨_, h⟩ | ⟨_, h⟩ | ⟨_, h⟩ | h <;> rw [h] <;>
    exact ⟨rfl, rfl⟩

/-- Every action but a cognitive cycle keeps the bounds; a cycle keeps them when its clock
reads forward. -/
theorem LoadBounds.run {c : HiveCoordinator} (h : LoadBounds c.localEngine) (counter : UInt32)
    (a : HiveAction)
    (hclock : ∀ i now, a = .cognitiveCycle i now → c.localEngine.lastCognitiveCycle ≤ now) :
    LoadBounds (a.run counter c).2.1.localEngine := by
  cases a with
  | processCycle _ now =>
    show LoadBounds (hiveCoordinatorProcessCycle c now).1.localEngine
    rw [hiveCoordinatorProcessCycle_localEngine]
    split
    · exact LoadBounds.hiveAdaptiveBehaviorUpdate (h.of_eq rfl rfl)
    · exact h
  | coordinateHealing _ d now =>
    exact h.of_eq (by dsimp only [HiveAction.run, hiveCoordinateHealing]; split <;> rfl)
      (by dsimp only [HiveAction.run, hiveCoordinateHealing]; split <;> rfl)
  | shareKnowledge _ a now =>
    exact h.of_eq (by dsimp only [HiveAction.run, Hivecog.shareKnowledge]; split <;> rfl)
      (by dsimp only [HiveAction.run, Hivecog.shareKnowledge]; split <;> rfl)
  | adaptiveBehaviorUpdate _ => exact h.hiveAdaptiveBehaviorUpdate
  | cognitiveCycle i now => exact h.autognosisCognitiveCycle (hclock i now rfl)
  | processHiveMessage _ => exact h.processNetworkEvents
  | deliver _ m now =>
    exact h.of_eq (receiveMessage_load c m now).1
      (congrArg SelfImage.autonomyLevel (receiveMessage_load c m now).2)
  | _ => exact h.of_eq rfl rfl

/-- On every run of the hive whose cognitive cycles read the clock forward, the load and
the autonomy of every node stay in `[0, 1]`. A clock that reads backward is excluded, not
only because the load then leaves `[0, 1]`: repeated, it drives the C `float` load to
infinity, which a later factor of exactly `0` turns into NaN. -/
theorem Hive.loadBounds_run (nodes : List (UInt32 × Int)) (acts : List HiveAction)
    (hf : (Hive.init nodes).ForwardRun acts) :
    ∀ n ∈ ((Hive.init nodes).run acts).nodes, LoadBounds n.coordinator.localEngine := by
  have hinit : ∀ n ∈ (Hive.init nodes).nodes, LoadBounds n.coordinator.localEngine := by
    simp only [Hive.init, List.mem_map]
    rintro _ ⟨x, _, rfl⟩
    exact LoadBounds.autognosisCreate x.2
  suffices ∀ h : Hive, (∀ n ∈ h.nodes, LoadBounds n.coordinator.localEngine) → h.ForwardRun acts →
      ∀ n ∈ (h.run acts).nodes, LoadBounds n.coordinator.localEngine from this _ hinit hf
  clear hf
  induction acts with
  | nil => exact fun _ hb _ => hb
  | cons a acts ih =>
    intro h hb ⟨ha, hrest⟩
    refine ih _ (Hive.forall_nodes_step_at hb fun n hn hL => hL.run _ a ?_) hrest
    rintro i now rfl
    exact ha n hn

/-- Two hive messages, a cycle five minutes after the engine's creation and a cycle two
minutes after that: the load goes `0.1, 0.2, 0.1, 0.08`. -/
theorem Hive.loadBounds_run_events :
    let acts := [.processHiveMessage 0, .processHiveMessage 0, .cognitiveCycle 0 300,
      .cognitiveCycle 0 420]
    (Hive.init [(1, 0)]).ForwardRun acts ∧
      ∃ n ∈ ((Hive.init [(1, 0)]).run acts).nodes,
        n.coordinator.localEngine.cognitiveLoad = 2 / 25 ∧ LoadBounds n.coordinator.localEngine := by
  intro acts
  have hf : (Hive.init [(1, 0)]).ForwardRun acts :=
    ⟨trivial, trivial, fun n hn => by cases hn; decide, fun n hn => by cases hn; decide, trivial⟩
  obtain ⟨n, hn, hload⟩ : ∃ n ∈ ((Hive.init [(1, 0)]).run acts).nodes,
      n.coordinator.localEngine.cognitiveLoad = 2 / 25 := by
    refine ⟨_, List.mem_singleton_self _, ?_⟩
    simp only [acts, Hive.run_cons, Hive.run_nil, Hive.step, HiveAction.node, Hive.init, List.map,
      List.getElem?_cons_zero, List.set_cons_zero, HiveAction.run, HiveAction.onEngine,
      autognosisProcessHiveMessage, processNetworkEvents_cognitiveLoad,
      autognosisCognitiveCycle_cognitiveLoad, processNetworkEvents_lastCognitiveCycle,
      autognosisCognitiveCycle_lastCognitiveCycle, hiveCoordinatorCreate,
      autognosisCreate_cognitiveLoad, autognosisCreate_lastCognitiveCycle]
    norm_num
  exact ⟨hf, n, hn, hload, Hive.loadBounds_run _ _ hf n hn⟩

end Hivecog
