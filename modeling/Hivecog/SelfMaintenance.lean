import Hivecog.Anticipation
import Hivecog.Feedforward

/-!
# The self-maintenance system

`self_maintenance_create` builds three feedforward engines of twenty slots, the stability,
performance and health predictors; three predictive models, a linear `stability` model, an
exponential `performance` model and an oscillatory `entropy` model, their coefficients drawn
from `rand()`; and three anticipatory actions with trigger thresholds `0.4`, `0.5` and `0.3`.
It keeps a pointer to a homeostatic system it does not own, and each cycle reads that system
as it stands. `self_maintenance_cycle` runs, at most once a second, six phases: it projects
the virtual engine `5`, `25` and `100` cycles ahead into three fresh images; feeds each
engine the variable its name selects and trains it; plans, which only prints; fires every
action whose condition `1 - performance` reaches its threshold, at the fixed confidence
`0.8`, and lets it learn from a monitored effectiveness; trains the `stability` model on one
sample; and assesses the autopoiesis index, the vitality and the adaptation effectiveness.

* Every run of public calls on a system created over a homeostatic system faults nowhere,
  and keeps the engines' buffers, learning rates, accuracies and model stabilities, every
  action, the predictive power, the healing efficiency and the adaptation aggressiveness in
  their ranges (`MaintenanceWF`, `selfMaintenanceRun_wf`).
* The image projected `100` cycles ahead takes the medium term branch of
  `homeostatic_image_project` (`cycles_ahead <= 100`), and each cycle replaces the images by
  fresh ones: no image ever holds a long term projection, the long term confidence `0.4`, or
  a resilience above `0.51` (`selfMaintenanceRun_no_longTermProjection`).
* Only the model named `stability` is ever trained: the performance and entropy models keep
  the coefficients they were drawn with (`selfMaintenanceRun_untrained_models`).
* The cycle offers every action the confidence `0.8`, and only a fired action learns. An action
  whose required confidence has risen above `0.8`, as three poor results in a row raise the
  initial `0.7` to about `0.81` (`anticipatoryActionLearn_poor_run`), never fires again: its required confidence, execution count,
  success rate and average effectiveness never change again
  (`selfMaintenanceRun_action_locked`).
* `self_maintenance_update_models_impl` reads `system->homeostatic->virtual_engine` without the
  NULL check every other phase makes, so a system created over a NULL homeostatic system
  dereferences it at the first cycle that runs, whatever calls came before, and never
  completes a cycle (`selfMaintenanceRun_null_homeostatic`).
-/

namespace Hivecog

/-- How a self-maintenance call ends early: a fault in a feedforward engine's buffer, or the
dereference of a NULL homeostatic system. -/
inductive MaintenanceFault
  | fault (f : Fault)
  | nullDereference
deriving DecidableEq, Repr

/-! ## Feedforward engines with their training parameters -/

/-- `feedforward_engine_t` with the fields the self-maintenance system reads beyond the
history buffer: the name it dispatches on, the learning rate, the prediction accuracy and the
model stability. -/
structure FeedforwardPredictor extends FeedforwardEngine where
  name : CBuf 64
  learningRate : ℚ
  predictionAccuracy : ℚ
  modelStability : ℚ

/-- `feedforward_engine_create(name, id, history_size)`, the fields beyond the buffer
included. -/
def feedforwardPredictorCreate (name : CStr) (historySize : UInt32) : FeedforwardPredictor :=
  { feedforwardEngineCreate historySize with
    name := strncpy 63 name
    learningRate := 1 / 100
    predictionAccuracy := 1 / 2
    modelStability := 4 / 5 }

/-- `feedforward_engine_add_state` on the buffer of a predictor. -/
def FeedforwardPredictor.addState (e : FeedforwardPredictor) (stateValue : ℚ) :
    Except MaintenanceFault FeedforwardPredictor := do
  let engine ← (feedforwardEngineAddState e.toFeedforwardEngine stateValue).mapError .fault
  pure { e with toFeedforwardEngine := engine }

/-- `feedforward_engine_train`. -/
def feedforwardEngineTrain (e : FeedforwardPredictor) : FeedforwardPredictor :=
  let accuracy := capAtOne (e.predictionAccuracy + e.learningRate * (1 / 100))
  { e with
    predictionAccuracy := accuracy
    modelStability := 19 / 20 * e.modelStability + 1 / 20 * accuracy }

/-! ## The system -/

/-- `self_maintenance_system_t`. The homeostatic system is not owned: `homeostaticSet` says
whether the pointer is non-NULL, and each cycle is given the system it points to as it
stands. The anticipation horizon is read by no function and the intervention threshold only
by the messages `plan_maintenance_actions` prints; both are left out, with the function
pointers, which always hold the `_impl` functions. -/
structure SelfMaintenanceSystem where
  homeostaticSet : Bool
  feedforwardEngines : List FeedforwardPredictor
  predictiveModels : List PredictiveModel
  anticipatoryActions : List AnticipatoryAction
  projectedImages : List HomeostaticImage
  autopoiesisIndex : ℚ
  adaptationAggressiveness : ℚ
  systemVitality : ℚ
  adaptationEffectiveness : ℚ
  predictivePower : ℚ
  healingEfficiency : ℚ
  running : Bool
  lastCycle : Int
  maintenanceCycles : UInt32

/-- `self_maintenance_create(homeostatic)` at time `now`, with `homeostaticSet` whether
`homeostatic` is non-NULL and `draw i` the `i`-th value of `(float)rand() / RAND_MAX` the
three models draw. -/
def selfMaintenanceCreate (homeostaticSet : Bool) (draw : Nat → ℚ) (now : Int) :
    SelfMaintenanceSystem where
  homeostaticSet := homeostaticSet
  feedforwardEngines := [feedforwardPredictorCreate Names.stabilityPredictor 20,
    feedforwardPredictorCreate Names.performancePredictor 20,
    feedforwardPredictorCreate Names.healthPredictor 20]
  predictiveModels := [predictiveModelCreate .linear Names.stability draw,
    predictiveModelCreate .exponential Names.performance fun i => draw (3 + i),
    predictiveModelCreate .oscillatory Names.entropy fun i => draw (6 + i)]
  anticipatoryActions := [{ anticipatoryActionCreate with triggerThreshold := 2 / 5 },
    { anticipatoryActionCreate with triggerThreshold := 1 / 2 },
    { anticipatoryActionCreate with triggerThreshold := 3 / 10 }]
  projectedImages := []
  autopoiesisIndex := 1 / 2
  adaptationAggressiveness := 1 / 2
  systemVitality := 4 / 5
  adaptationEffectiveness := 1 / 2
  predictivePower := 1 / 2
  healingEfficiency := 1 / 2
  running := false
  lastCycle := now
  maintenanceCycles := 0

/-- `self_maintenance_start`. -/
def selfMaintenanceStart (sm : SelfMaintenanceSystem) (now : Int) : SelfMaintenanceSystem :=
  { sm with running := true, lastCycle := now }

/-- `self_maintenance_stop`. -/
def selfMaintenanceStop (sm : SelfMaintenanceSystem) : SelfMaintenanceSystem :=
  { sm with running := false }

/-! ## The phases of a cycle -/

section Phases

variable (m : LibM) (sm : SelfMaintenanceSystem) (homeostatic : HomeostaticSystem)

/-- `self_maintenance_project_images_impl`: three fresh images, projected `5`, `25` and `100`
cycles ahead, replace the old ones. -/
def selfMaintenanceProjectImages : SelfMaintenanceSystem :=
  if !sm.homeostaticSet then sm
  else { sm with projectedImages := [5, 25, 100].map fun n =>
    homeostaticImageProject m homeostaticImageCreate homeostatic.virtualEngine n }

/-- The state `self_maintenance_predict_evolution_impl` adds to an engine, chosen by `strcmp`
on the engine's name. -/
def predictorInput (v : VirtualEngineState) (name : CStr) : Option ℚ :=
  if name = Names.stabilityPredictor then some v.stabilityIndex
  else if name = Names.performancePredictor then some (virtualEngineMeasurePerformance v)
  else if name = Names.healthPredictor then some ((v.energyLevel + v.stabilityIndex) / 2)
  else none

/-- The body of the loop of `self_maintenance_predict_evolution_impl`, on one engine. -/
def predictEvolutionStep (v : VirtualEngineState) (e : FeedforwardPredictor) :
    Except MaintenanceFault FeedforwardPredictor := do
  let e ← match predictorInput v e.name.str with
    | some x => e.addState x
    | none => pure e
  pure (feedforwardEngineTrain e)

/-- `self_maintenance_predict_evolution_impl`. -/
def selfMaintenancePredictEvolution : Except MaintenanceFault SelfMaintenanceSystem :=
  if !sm.homeostaticSet then pure sm
  else do
    let engines ← sm.feedforwardEngines.mapM (predictEvolutionStep homeostatic.virtualEngine)
    pure { sm with feedforwardEngines := engines }

/-- The loop of `self_maintenance_execute_healing_impl` from the `k`-th action on, threading
the healing efficiency; `draw k` is the value of `(float)rand() / RAND_MAX` when the `k`-th
action is monitored. -/
def executeHealing (performance : ℚ) (draw : Nat → ℚ) :
    Nat → List AnticipatoryAction → ℚ → List AnticipatoryAction × ℚ
  | _, [], healingEfficiency => ([], healingEfficiency)
  | k, a :: actions, healingEfficiency =>
    if anticipatoryActionShouldTrigger a (1 - performance) (4 / 5) then
      let a := anticipatoryActionExecute a
      let effectiveness := anticipatoryMonitorResults a (draw k)
      let r := executeHealing performance draw (k + 1) actions
        (9 / 10 * healingEfficiency + 1 / 10 * effectiveness)
      (anticipatoryActionLearn a effectiveness :: r.1, r.2)
    else
      let r := executeHealing performance draw (k + 1) actions healingEfficiency
      (a :: r.1, r.2)

/-- `self_maintenance_execute_healing_impl`; `plan_maintenance_actions` before it only
prints. -/
def selfMaintenanceExecuteHealing (draw : Nat → ℚ) : SelfMaintenanceSystem :=
  if !sm.homeostaticSet || sm.anticipatoryActions.isEmpty then sm
  else
    let r := executeHealing (virtualEngineMeasurePerformance homeostatic.virtualEngine) draw 0
      sm.anticipatoryActions sm.healingEfficiency
    { sm with anticipatoryActions := r.1, healingEfficiency := r.2 }

/-- The body of the loop of `self_maintenance_update_models_impl`, on one model: the model
named `stability` is trained on the stability index and `0.95` of it, read through
`system->homeostatic` with no NULL check. -/
def updateModel (homeostaticSet : Bool) (model : PredictiveModel) :
    Except MaintenanceFault PredictiveModel :=
  if model.targetParameter.str = Names.stability then
    if !homeostaticSet then throw .nullDereference
    else
      let input := homeostatic.virtualEngine.stabilityIndex
      let output := input * (19 / 20)
      pure (predictiveModelTrain m model [(input, output)])
  else pure model

/-- `self_maintenance_update_models_impl`. -/
def selfMaintenanceUpdateModels : Except MaintenanceFault SelfMaintenanceSystem :=
  if sm.predictiveModels.isEmpty then pure sm
  else do
    let models ← sm.predictiveModels.mapM (updateModel m homeostatic sm.homeostaticSet)
    pure { sm with
      predictiveModels := models
      predictivePower := capAtOne (sm.predictivePower + 1 / 100) }

/-- `self_maintenance_assess_health_impl`. -/
def selfMaintenanceAssessHealth : SelfMaintenanceSystem :=
  if !sm.homeostaticSet then sm
  else
    let performance := virtualEngineMeasurePerformance homeostatic.virtualEngine
    let homeostaticQuality := measureHomeostaticQuality homeostatic
    let index := (performance + homeostaticQuality + sm.predictivePower +
      sm.healingEfficiency) / 4
    { sm with
      autopoiesisIndex := index
      systemVitality := index * homeostatic.virtualEngine.energyLevel
      adaptationEffectiveness := (sm.healingEfficiency + homeostatic.adaptationEfficiency) / 2 }

/-- `self_maintenance_cycle` at time `now`: nothing unless the system runs and a second has
passed since the last cycle. -/
def selfMaintenanceCycle (draw : Nat → ℚ) (now : Int) :
    Except MaintenanceFault SelfMaintenanceSystem :=
  if !sm.running then pure sm
  else if now - sm.lastCycle < 1 then pure sm
  else do
    let sm := selfMaintenanceProjectImages m sm homeostatic
    let sm ← selfMaintenancePredictEvolution sm homeostatic
    let sm := selfMaintenanceExecuteHealing sm homeostatic draw
    let sm ← selfMaintenanceUpdateModels m sm homeostatic
    let sm := selfMaintenanceAssessHealth sm homeostatic
    pure { sm with maintenanceCycles := sm.maintenanceCycles + 1, lastCycle := now }

end Phases

/-! ## Tuning calls and runs -/

/-- `enhance_predictive_power`. -/
def enhancePredictivePower (sm : SelfMaintenanceSystem) : SelfMaintenanceSystem :=
  { sm with
    feedforwardEngines := sm.feedforwardEngines.map fun e =>
      let rate := e.learningRate * (21 / 20)
      { e with learningRate := if rate > 1 / 10 then 1 / 10 else rate }
    predictivePower := capAtOne (sm.predictivePower + 1 / 50) }

/-- `optimize_healing_efficiency`. -/
def optimizeHealingEfficiency (sm : SelfMaintenanceSystem) : SelfMaintenanceSystem :=
  { sm with
    anticipatoryActions := sm.anticipatoryActions.map fun a =>
      { a with
        actionStrength := capAtOne (a.actionStrength * (103 / 100))
        expectedBenefit := capAtOne (a.expectedBenefit * (51 / 50)) }
    healingEfficiency := capAtOne (sm.healingEfficiency + 3 / 100) }

/-- `adapt_to_environmental_changes`. -/
def adaptToEnvironmentalChanges (sm : SelfMaintenanceSystem) : SelfMaintenanceSystem :=
  { sm with adaptationAggressiveness := capAtOne (sm.adaptationAggressiveness + 1 / 20) }

/-- A public call on the system: the lifecycle, a cycle over the homeostatic system as it
stands with the draws of its monitoring, and the tuning calls. -/
inductive SelfMaintenanceOp
  | start (now : Int)
  | stop
  | cycle (homeostatic : HomeostaticSystem) (draw : Nat → ℚ) (now : Int)
  | enhancePredictivePower
  | optimizeHealingEfficiency
  | adaptToEnvironmentalChanges

/-- The system after a call. -/
def SelfMaintenanceOp.apply (m : LibM) (sm : SelfMaintenanceSystem) :
    SelfMaintenanceOp → Except MaintenanceFault SelfMaintenanceSystem
  | start now => pure (selfMaintenanceStart sm now)
  | stop => pure (selfMaintenanceStop sm)
  | cycle homeostatic draw now => selfMaintenanceCycle m sm homeostatic draw now
  | enhancePredictivePower => pure (Hivecog.enhancePredictivePower sm)
  | optimizeHealingEfficiency => pure (Hivecog.optimizeHealingEfficiency sm)
  | adaptToEnvironmentalChanges => pure (Hivecog.adaptToEnvironmentalChanges sm)

/-- The system after a run of calls; the first fault ends the run. -/
def selfMaintenanceRun (m : LibM) (sm : SelfMaintenanceSystem) (ops : List SelfMaintenanceOp) :
    Except MaintenanceFault SelfMaintenanceSystem :=
  ops.foldlM (SelfMaintenanceOp.apply m) sm

/-! ## Lists of engines and models -/

/-- A `mapM` whose every step succeeds from, and into, elements with an invariant. -/
theorem mapM_invariant {α ε : Type} {f : α → Except ε α} (P : α → Prop)
    (hf : ∀ a, P a → ∃ b, f a = .ok b ∧ P b) :
    ∀ l : List α, (∀ a ∈ l, P a) → ∃ l', l.mapM f = .ok l' ∧ ∀ b ∈ l', P b
  | [], _ => ⟨[], rfl, fun _ h => absurd h (List.not_mem_nil _)⟩
  | a :: l, h => by
    obtain ⟨b, hb, hPb⟩ := hf a (h a (List.mem_cons_self a l))
    obtain ⟨l', hl', hPl'⟩ := mapM_invariant P hf l fun x hx => h x (List.mem_cons_of_mem a hx)
    refine ⟨b :: l', ?_, List.forall_mem_cons.2 ⟨hPb, hPl'⟩⟩
    rw [List.mapM_cons, hb, hl']
    rfl

/-- A `mapM` whose every step succeeds is the `map` of the results. -/
theorem mapM_eq_ok {α β ε : Type} {f : α → Except ε β} {g : α → β} :
    ∀ {l : List α}, (∀ a ∈ l, f a = .ok (g a)) → l.mapM f = .ok (l.map g)
  | [], _ => rfl
  | a :: l, h => by
    rw [List.mapM_cons, h a (List.mem_cons_self a l),
      mapM_eq_ok fun x hx => h x (List.mem_cons_of_mem a hx)]
    rfl

/-- A `mapM` whose every step keeps its element or fails with `e`, and one step fails, fails
with `e`. -/
theorem mapM_eq_error {α ε : Type} {f : α → Except ε α} {e : ε} :
    ∀ {l : List α}, (∀ a ∈ l, f a = .ok a ∨ f a = .error e) → (∃ a ∈ l, f a = .error e) →
      l.mapM f = .error e
  | [], _, ⟨_, ha, _⟩ => absurd ha (List.not_mem_nil _)
  | a :: l, h, ⟨b, hb, hfb⟩ => by
    rw [List.mapM_cons]
    rcases h a (List.mem_cons_self a l) with ha | ha
    · have hb : b ∈ l := by
        rcases List.mem_cons.1 hb with rfl | hb
        · exact absurd (ha.symm.trans hfb) (fun h => Except.noConfusion h)
        · exact hb
      rw [ha, mapM_eq_error (fun x hx => h x (List.mem_cons_of_mem a hx)) ⟨b, hb, hfb⟩]
      rfl
    · rw [ha]
      rfl

/-! ## Well-formed systems -/

/-- A predictor as the system keeps it: twenty slots that hold a view of the states added, a
learning rate in `(0, 0.1]`, an accuracy in `[0.5, 1]` and a model stability in `[0, 1]`. -/
structure PredictorWF (e : FeedforwardPredictor) : Prop where
  size : e.historySize = 20
  ring : ∃ vs, RingView e.toFeedforwardEngine vs
  learningRate : 0 < e.learningRate ∧ e.learningRate ≤ 1 / 10
  accuracy : 1 / 2 ≤ e.predictionAccuracy ∧ e.predictionAccuracy ≤ 1
  stability : 0 ≤ e.modelStability ∧ e.modelStability ≤ 1

namespace PredictorWF

theorem create (name : CStr) : PredictorWF (feedforwardPredictorCreate name 20) where
  size := rfl
  ring := ⟨[], RingView.create 20⟩
  learningRate := by norm_num [feedforwardPredictorCreate]
  accuracy := by norm_num [feedforwardPredictorCreate]
  stability := by norm_num [feedforwardPredictorCreate]

variable {e : FeedforwardPredictor}

theorem addState (h : PredictorWF e) (x : ℚ) :
    ∃ e', e.addState x = .ok e' ∧ PredictorWF e' := by
  obtain ⟨vs, hv⟩ := h.ring
  obtain ⟨engine, he, hsize, hv'⟩ := hv.addState (by rw [h.size]; decide) x
  refine ⟨{ e with toFeedforwardEngine := engine }, ?_,
    ⟨hsize.trans h.size, ⟨_, hv'⟩, h.learningRate, h.accuracy, h.stability⟩⟩
  simp only [FeedforwardPredictor.addState, he]
  rfl

theorem train (h : PredictorWF e) : PredictorWF (feedforwardEngineTrain e) := by
  have ha : 1 / 2 ≤ capAtOne (e.predictionAccuracy + e.learningRate * (1 / 100)) :=
    le_capAtOne (by norm_num) (by linarith [h.accuracy.1, h.learningRate.1])
  have ha' := capAtOne_le_one (e.predictionAccuracy + e.learningRate * (1 / 100))
  refine ⟨h.size, h.ring, h.learningRate, ⟨ha, ha'⟩, ?_, ?_⟩ <;>
    simp only [feedforwardEngineTrain] <;> linarith [h.stability.1, h.stability.2]

theorem predictEvolutionStep (h : PredictorWF e) (v : VirtualEngineState) :
    ∃ e', predictEvolutionStep v e = .ok e' ∧ PredictorWF e' := by
  rcases hx : predictorInput v e.name.str with _ | x
  · exact ⟨_, by simp only [Hivecog.predictEvolutionStep, hx]; rfl, h.train⟩
  · obtain ⟨e', he', h'⟩ := h.addState x
    exact ⟨_, by simp only [Hivecog.predictEvolutionStep, hx, he']; rfl, h'.train⟩

theorem enhance (h : PredictorWF e) :
    PredictorWF { e with learningRate :=
      if e.learningRate * (21 / 20) > 1 / 10 then 1 / 10 else e.learningRate * (21 / 20) } :=
  ⟨h.size, h.ring, by have := h.learningRate.1; split_ifs <;> constructor <;> linarith,
    h.accuracy, h.stability⟩

end PredictorWF

/-- A projected image: no long term projection, the short or medium term confidence, and a
resilience in `[0, 0.51]`. -/
structure ImageWF (image : HomeostaticImage) : Prop where
  longTerm : image.longTermProjection = 1 / 2
  confidence : image.projectionConfidence = 9 / 10 ∨ image.projectionConfidence = 7 / 10
  resilience : 0 ≤ image.resilienceProjection ∧ image.resilienceProjection ≤ 51 / 100

theorem ImageWF.project (m : LibM) (v : VirtualEngineState) {n : UInt32} (hn : n ≤ 100) :
    ImageWF (homeostaticImageProject m homeostaticImageCreate v n) where
  longTerm := homeostaticImageProject_longTermProjection m _ v hn
  confidence := homeostaticImageProject_projectionConfidence m _ v hn
  resilience := homeostaticImageProject_resilienceProjection m v n

/-- A model's type and target, which no call changes. -/
def PredictiveModel.key (model : PredictiveModel) : PredictionModelType × CStr :=
  (model.type, model.targetParameter.str)

/-- The models of `self_maintenance_create`, by type and target. -/
def defaultModelKeys : List (PredictionModelType × CStr) :=
  [(.linear, Names.stability), (.exponential, Names.performance), (.oscillatory, Names.entropy)]

/-- The invariant of a system created over a homeostatic system: the three engines and
models, every action and every image well formed, and the three rates in range. -/
structure MaintenanceWF (sm : SelfMaintenanceSystem) : Prop where
  homeostaticSet : sm.homeostaticSet = true
  engines : ∀ e ∈ sm.feedforwardEngines, PredictorWF e
  models : sm.predictiveModels.map PredictiveModel.key = defaultModelKeys
  actions : ∀ a ∈ sm.anticipatoryActions, ActionBounds a
  images : ∀ image ∈ sm.projectedImages, ImageWF image
  predictivePower : 1 / 2 ≤ sm.predictivePower ∧ sm.predictivePower ≤ 1
  healingEfficiency : 0 ≤ sm.healingEfficiency ∧ sm.healingEfficiency ≤ 1
  aggressiveness : 1 / 2 ≤ sm.adaptationAggressiveness ∧ sm.adaptationAggressiveness ≤ 1

/-- An action that has neither fired nor learned: all but its strength and expected benefit
as before. -/
structure AnticipatoryAction.Idle (a a' : AnticipatoryAction) : Prop where
  triggerThreshold : a'.triggerThreshold = a.triggerThreshold
  confidenceRequired : a'.confidenceRequired = a.confidenceRequired
  executionCount : a'.executionCount = a.executionCount
  successRate : a'.successRate = a.successRate
  averageEffectiveness : a'.averageEffectiveness = a.averageEffectiveness

theorem AnticipatoryAction.Idle.refl (a : AnticipatoryAction) : a.Idle a :=
  ⟨rfl, rfl, rfl, rfl, rfl⟩

theorem AnticipatoryAction.Idle.trans {a a' a'' : AnticipatoryAction} (h : a.Idle a')
    (h' : a'.Idle a'') : a.Idle a'' :=
  ⟨h'.1.trans h.1, h'.2.trans h.2, h'.3.trans h.3, h'.4.trans h.4, h'.5.trans h.5⟩

/-- What a system keeps from an earlier one in a run: the performance and entropy models, and
every action that required more than the cycle's confidence `0.8`, idle. -/
structure MaintenanceFrame (sm sm' : SelfMaintenanceSystem) : Prop where
  models : sm'.predictiveModels.drop 1 = sm.predictiveModels.drop 1
  locked : ∀ (i : Nat) (a : AnticipatoryAction), sm.anticipatoryActions[i]? = some a →
    4 / 5 < a.confidenceRequired → ∃ a', sm'.anticipatoryActions[i]? = some a' ∧ a.Idle a'

namespace MaintenanceFrame

theorem of_eq {sm sm' : SelfMaintenanceSystem} (hm : sm'.predictiveModels = sm.predictiveModels)
    (ha : sm'.anticipatoryActions = sm.anticipatoryActions) : MaintenanceFrame sm sm' :=
  ⟨by rw [hm], fun _ a h _ => ⟨a, ha ▸ h, .refl a⟩⟩

theorem refl (sm : SelfMaintenanceSystem) : MaintenanceFrame sm sm := of_eq rfl rfl

theorem trans {sm sm' sm'' : SelfMaintenanceSystem} (h : MaintenanceFrame sm sm')
    (h' : MaintenanceFrame sm' sm'') : MaintenanceFrame sm sm'' where
  models := h'.models.trans h.models
  locked i a ha hc := by
    obtain ⟨a', ha', hi⟩ := h.locked i a ha hc
    obtain ⟨a'', ha'', hi'⟩ := h'.locked i a' ha' (hi.confidenceRequired ▸ hc)
    exact ⟨a'', ha'', hi.trans hi'⟩

end MaintenanceFrame

/-! ## Each call keeps the invariant -/

theorem predictiveModelCreate_key (type : PredictionModelType) (target : CStr)
    (h : target.bytes.length ≤ 63) (draw : Nat → ℚ) :
    (predictiveModelCreate type target draw).key = (type, target) := by
  simp only [PredictiveModel.key, predictiveModelCreate, strncpy_str_of_length_le h]

theorem MaintenanceWF.create (draw : Nat → ℚ) (now : Int) :
    MaintenanceWF (selfMaintenanceCreate true draw now) where
  homeostaticSet := rfl
  engines e he := by
    simp only [selfMaintenanceCreate, List.mem_cons, List.not_mem_nil, or_false] at he
    rcases he with rfl | rfl | rfl <;> exact .create _
  models := by
    simp only [selfMaintenanceCreate, List.map_cons, List.map_nil,
      predictiveModelCreate_key _ Names.stability (by decide),
      predictiveModelCreate_key _ Names.performance (by decide),
      predictiveModelCreate_key _ Names.entropy (by decide)]
    rfl
  actions a ha := by
    simp only [selfMaintenanceCreate, List.mem_cons, List.not_mem_nil, or_false] at ha
    rcases ha with rfl | rfl | rfl <;> exact .create _
  images _ h := absurd h (List.not_mem_nil _)
  predictivePower := by norm_num [selfMaintenanceCreate]
  healingEfficiency := by norm_num [selfMaintenanceCreate]
  aggressiveness := by norm_num [selfMaintenanceCreate]

/-- The loop over the actions keeps every action and the healing efficiency in range. -/
theorem executeHealing_bounds (performance : ℚ) (draw : Nat → ℚ) :
    ∀ (k : Nat) (actions : List AnticipatoryAction) (he : ℚ), (∀ a ∈ actions, ActionBounds a) →
      0 ≤ he ∧ he ≤ 1 →
      (∀ a ∈ (executeHealing performance draw k actions he).1, ActionBounds a) ∧
        0 ≤ (executeHealing performance draw k actions he).2 ∧
        (executeHealing performance draw k actions he).2 ≤ 1
  | _, [], _, _, hhe => ⟨fun _ h => absurd h (List.not_mem_nil _), hhe⟩
  | k, a :: actions, he, ha, hhe => by
    have ha₀ := ha a (List.mem_cons_self a actions)
    have hrest := fun x hx => ha x (List.mem_cons_of_mem a hx)
    simp only [executeHealing]
    split
    · have heff := anticipatoryMonitorResults_mem (anticipatoryActionExecute a) (draw k)
      have ih := executeHealing_bounds performance draw (k + 1) actions
        (9 / 10 * he + 1 / 10 * anticipatoryMonitorResults (anticipatoryActionExecute a) (draw k))
        hrest ⟨by linarith [hhe.1, heff.1], by linarith [hhe.2, heff.2]⟩
      exact ⟨List.forall_mem_cons.2 ⟨ha₀.execute.learn heff, ih.1⟩, ih.2⟩
    · have ih := executeHealing_bounds performance draw (k + 1) actions he hrest hhe
      exact ⟨List.forall_mem_cons.2 ⟨ha₀, ih.1⟩, ih.2⟩

/-- An action that requires more than `0.8` is passed over by the loop, untouched. -/
theorem executeHealing_getElem?_of_lt (performance : ℚ) (draw : Nat → ℚ) :
    ∀ (k : Nat) (actions : List AnticipatoryAction) (he : ℚ) (i : Nat) (a : AnticipatoryAction),
      actions[i]? = some a → 4 / 5 < a.confidenceRequired →
      (executeHealing performance draw k actions he).1[i]? = some a
  | _, [], _, _, _, h, _ => absurd h (by simp)
  | k, b :: actions, he, 0, a, h, hc => by
    obtain rfl : b = a := Option.some.inj ((List.getElem?_cons_zero).symm.trans h)
    simp only [executeHealing, anticipatoryActionShouldTrigger_of_lt hc, Bool.false_eq_true,
      ite_false, List.getElem?_cons_zero]
  | k, b :: actions, he, i + 1, a, h, hc => by
    rw [List.getElem?_cons_succ] at h
    simp only [executeHealing]
    split <;> simp only [List.getElem?_cons_succ] <;>
      exact executeHealing_getElem?_of_lt performance draw _ actions _ i a h hc

theorem ActionBounds.optimize {a : AnticipatoryAction} (h : ActionBounds a) :
    ActionBounds { a with
      actionStrength := capAtOne (a.actionStrength * (103 / 100))
      expectedBenefit := capAtOne (a.expectedBenefit * (51 / 50)) } :=
  { h with
    strength := ⟨le_capAtOne (by norm_num) (by linarith [h.strength.1]), capAtOne_le_one _⟩
    benefit := ⟨le_capAtOne zero_le_one (by linarith [h.benefit.1]), capAtOne_le_one _⟩ }

theorem updateModel_of_ne (m : LibM) (homeostatic : HomeostaticSystem) (set : Bool)
    {model : PredictiveModel} (hk : model.targetParameter.str ≠ Names.stability) :
    updateModel m homeostatic set model = .ok model :=
  if_neg hk

theorem updateModel_stability (m : LibM) (homeostatic : HomeostaticSystem)
    {model : PredictiveModel} (hk : model.targetParameter.str = Names.stability) :
    updateModel m homeostatic true model = .ok (predictiveModelTrain m model
      [(homeostatic.virtualEngine.stabilityIndex,
        homeostatic.virtualEngine.stabilityIndex * (19 / 20))]) := by
  simp only [updateModel, hk, Bool.not_true, Bool.false_eq_true, ite_true, ite_false]
  rfl

/-- Over a NULL homeostatic system, the model named `stability` dereferences it. -/
theorem updateModel_null (m : LibM) (homeostatic : HomeostaticSystem)
    {model : PredictiveModel} (hk : model.targetParameter.str = Names.stability) :
    updateModel m homeostatic false model = .error .nullDereference := by
  simp only [updateModel, hk, Bool.not_false, ite_true]
  rfl

section Steps

variable (m : LibM) {sm : SelfMaintenanceSystem} (h : MaintenanceWF sm)
  (homeostatic : HomeostaticSystem)
include h

theorem MaintenanceWF.not_homeostaticSet : (!sm.homeostaticSet) = false := by
  rw [h.homeostaticSet]
  rfl

theorem MaintenanceWF.projectImages :
    MaintenanceWF (selfMaintenanceProjectImages m sm homeostatic) ∧
      MaintenanceFrame sm (selfMaintenanceProjectImages m sm homeostatic) := by
  simp only [selfMaintenanceProjectImages, h.not_homeostaticSet, Bool.false_eq_true, ite_false]
  refine ⟨{ h with images := ?_ }, .of_eq rfl rfl⟩
  intro image himage
  obtain ⟨n, hn, rfl⟩ := List.mem_map.1 himage
  simp only [List.mem_cons, List.not_mem_nil, or_false] at hn
  exact ImageWF.project m _ (by rcases hn with rfl | rfl | rfl <;> decide)

theorem MaintenanceWF.predictEvolution : ∃ sm',
    selfMaintenancePredictEvolution sm homeostatic = .ok sm' ∧ MaintenanceWF sm' ∧
      MaintenanceFrame sm sm' := by
  obtain ⟨engines, he, hw⟩ := mapM_invariant PredictorWF
    (fun _ he => he.predictEvolutionStep homeostatic.virtualEngine) _ h.engines
  refine ⟨{ sm with feedforwardEngines := engines }, ?_, { h with engines := hw },
    .of_eq rfl rfl⟩
  simp only [selfMaintenancePredictEvolution, h.not_homeostaticSet, Bool.false_eq_true,
    ite_false, he]
  rfl

theorem MaintenanceWF.executeHealing (draw : Nat → ℚ) :
    MaintenanceWF (selfMaintenanceExecuteHealing sm homeostatic draw) ∧
      MaintenanceFrame sm (selfMaintenanceExecuteHealing sm homeostatic draw) := by
  unfold selfMaintenanceExecuteHealing
  split
  · exact ⟨h, .refl sm⟩
  · have hb := executeHealing_bounds (virtualEngineMeasurePerformance homeostatic.virtualEngine)
      draw 0 sm.anticipatoryActions sm.healingEfficiency h.actions h.healingEfficiency
    exact ⟨{ h with actions := hb.1, healingEfficiency := hb.2 }, rfl,
      fun i a ha hc => ⟨a, executeHealing_getElem?_of_lt _ draw 0 _ _ i a ha hc, .refl a⟩⟩

theorem MaintenanceWF.updateModels : ∃ sm',
    selfMaintenanceUpdateModels m sm homeostatic = .ok sm' ∧ MaintenanceWF sm' ∧
      MaintenanceFrame sm sm' := by
  obtain ⟨x, y, z, hl, hx, hy, hz⟩ := List.exists_of_map_eq_triple h.models
  have hp := h.predictivePower
  let x' := predictiveModelTrain m x [(homeostatic.virtualEngine.stabilityIndex,
    homeostatic.virtualEngine.stabilityIndex * (19 / 20))]
  refine ⟨{ sm with
      predictiveModels := [x', y, z]
      predictivePower := capAtOne (sm.predictivePower + 1 / 100) }, ?_, { h with
      models := ?_
      predictivePower := ⟨le_capAtOne (by norm_num) (by linarith), capAtOne_le_one _⟩ },
    ⟨by simp only [hl, List.drop_succ_cons, List.drop_zero], fun i a ha _ => ⟨a, ha, .refl a⟩⟩⟩
  · rw [selfMaintenanceUpdateModels, h.homeostaticSet, hl, List.isEmpty_cons,
      if_neg Bool.false_ne_true, List.mapM_cons,
      List.mapM_cons, List.mapM_cons, List.mapM_nil,
      updateModel_stability m homeostatic (congrArg Prod.snd hx),
      updateModel_of_ne m homeostatic true
        (by rw [show y.targetParameter.str = _ from congrArg Prod.snd hy]; decide),
      updateModel_of_ne m homeostatic true
        (by rw [show z.targetParameter.str = _ from congrArg Prod.snd hz]; decide)]
    rfl
  · rw [← h.models, hl]
    simp only [List.map_cons, List.map_nil, PredictiveModel.key, x', predictiveModelTrain_type,
      predictiveModelTrain_targetParameter]

theorem MaintenanceWF.assessHealth :
    MaintenanceWF (selfMaintenanceAssessHealth sm homeostatic) ∧
      MaintenanceFrame sm (selfMaintenanceAssessHealth sm homeostatic) := by
  unfold selfMaintenanceAssessHealth
  split
  · exact ⟨h, .refl sm⟩
  · exact ⟨{ h with }, .of_eq rfl rfl⟩

theorem MaintenanceWF.cycle (draw : Nat → ℚ) (now : Int) : ∃ sm',
    selfMaintenanceCycle m sm homeostatic draw now = .ok sm' ∧ MaintenanceWF sm' ∧
      MaintenanceFrame sm sm' := by
  unfold selfMaintenanceCycle
  split_ifs
  · exact ⟨sm, rfl, h, .refl sm⟩
  · exact ⟨sm, rfl, h, .refl sm⟩
  · obtain ⟨h₁, f₁⟩ := h.projectImages m homeostatic
    obtain ⟨sm₂, e₂, h₂, f₂⟩ := h₁.predictEvolution homeostatic
    obtain ⟨h₃, f₃⟩ := h₂.executeHealing homeostatic draw
    obtain ⟨sm₄, e₄, h₄, f₄⟩ := h₃.updateModels m homeostatic
    obtain ⟨h₅, f₅⟩ := h₄.assessHealth homeostatic
    let sm₅ := selfMaintenanceAssessHealth sm₄ homeostatic
    refine ⟨{ sm₅ with maintenanceCycles := sm₅.maintenanceCycles + 1, lastCycle := now }, ?_,
      { h₅ with }, f₁.trans (f₂.trans (f₃.trans (f₄.trans (f₅.trans (.of_eq rfl rfl)))))⟩
    simp only [bind, Except.bind, e₂, e₄]
    rfl

theorem MaintenanceWF.optimize :
    MaintenanceWF (optimizeHealingEfficiency sm) ∧
      MaintenanceFrame sm (optimizeHealingEfficiency sm) := by
  have he := h.healingEfficiency
  refine ⟨{ h with
    actions := fun a ha => ?_
    healingEfficiency := ⟨le_capAtOne zero_le_one (by linarith), capAtOne_le_one _⟩ },
    rfl, fun i a ha _ => ⟨{ a with
      actionStrength := capAtOne (a.actionStrength * (103 / 100))
      expectedBenefit := capAtOne (a.expectedBenefit * (51 / 50)) }, by
        simp only [optimizeHealingEfficiency, List.getElem?_map, ha, Option.map_some'],
      ⟨rfl, rfl, rfl, rfl, rfl⟩⟩⟩
  obtain ⟨a₀, ha₀, rfl⟩ := List.mem_map.1 ha
  exact (h.actions a₀ ha₀).optimize

theorem MaintenanceWF.apply (op : SelfMaintenanceOp) : ∃ sm',
    op.apply m sm = .ok sm' ∧ MaintenanceWF sm' ∧ MaintenanceFrame sm sm' := by
  cases op with
  | start now => exact ⟨_, rfl, { h with }, .of_eq rfl rfl⟩
  | stop => exact ⟨_, rfl, { h with }, .of_eq rfl rfl⟩
  | cycle homeostatic draw now => exact h.cycle m homeostatic draw now
  | enhancePredictivePower =>
    have hp := h.predictivePower
    refine ⟨_, rfl, { h with
      engines := fun e he => ?_
      predictivePower := ⟨le_capAtOne (by norm_num) (by linarith), capAtOne_le_one _⟩ },
      .of_eq rfl rfl⟩
    obtain ⟨e₀, he₀, rfl⟩ := List.mem_map.1 he
    exact (h.engines e₀ he₀).enhance
  | optimizeHealingEfficiency => exact ⟨_, rfl, h.optimize⟩
  | adaptToEnvironmentalChanges =>
    have ha := h.aggressiveness
    exact ⟨_, rfl, { h with
      aggressiveness := ⟨le_capAtOne (by norm_num) (by linarith), capAtOne_le_one _⟩ },
      .of_eq rfl rfl⟩

end Steps

theorem MaintenanceWF.run (m : LibM) (ops : List SelfMaintenanceOp) {sm : SelfMaintenanceSystem}
    (h : MaintenanceWF sm) : ∃ sm',
      selfMaintenanceRun m sm ops = .ok sm' ∧ MaintenanceWF sm' ∧ MaintenanceFrame sm sm' :=
  foldlM_invariant (fun sm' => MaintenanceWF sm' ∧ MaintenanceFrame sm sm')
    (fun _ op ⟨hs, fs⟩ => let ⟨sm', e, hs', fs'⟩ := hs.apply m op; ⟨sm', e, hs', fs.trans fs'⟩)
    ops ⟨h, .refl sm⟩

/-! ## Runs -/

/-- Over every run of public calls on a system created over a homeostatic system, with any
homeostatic system and any draws at each cycle, no call faults and the system stays well
formed: every engine keeps twenty slots holding a view of the states added, a learning rate
in `(0, 0.1]`, an accuracy in `[0.5, 1]` and a model stability in `[0, 1]`; the models keep
their types and targets; every action keeps its strength in `[0.1, 1]`, its required
confidence in `[0.1, 0.95]` and its rates in `[0, 1]`; the predictive power stays in
`[0.5, 1]`, the healing efficiency in `[0, 1]` and the adaptation aggressiveness in
`[0.5, 1]`. -/
theorem selfMaintenanceRun_wf (m : LibM) (draw : Nat → ℚ) (t₀ : Int)
    (ops : List SelfMaintenanceOp) :
    ∃ sm, selfMaintenanceRun m (selfMaintenanceCreate true draw t₀) ops = .ok sm ∧
      MaintenanceWF sm :=
  let ⟨sm, e, h, _⟩ := (MaintenanceWF.create draw t₀).run m ops
  ⟨sm, e, h⟩

/-- Over every run, no projected image holds a long term projection: its long term slot
keeps the `0.5` of `homeostatic_image_create`, its confidence is never the long term `0.4`,
and its resilience never builds up past `0.51`. -/
theorem selfMaintenanceRun_no_longTermProjection (m : LibM) (draw : Nat → ℚ) (t₀ : Int)
    (ops : List SelfMaintenanceOp) :
    ∃ sm, selfMaintenanceRun m (selfMaintenanceCreate true draw t₀) ops = .ok sm ∧
      ∀ image ∈ sm.projectedImages, image.longTermProjection = 1 / 2 ∧
        image.projectionConfidence ≠ 2 / 5 ∧ image.resilienceProjection ≤ 51 / 100 := by
  obtain ⟨sm, e, h, _⟩ := (MaintenanceWF.create draw t₀).run m ops
  refine ⟨sm, e, fun image hi => ?_⟩
  have hw := h.images image hi
  refine ⟨hw.longTerm, ?_, hw.resilience.2⟩
  rcases hw.confidence with hc | hc <;> rw [hc] <;> norm_num

/-- The theorem on a run that starts the system and cycles once over a fresh homeostatic
system. -/
theorem selfMaintenanceRun_no_longTermProjection_once :
    ∃ sm, selfMaintenanceRun LibM.approx (selfMaintenanceCreate true (fun _ => 1 / 2) 0)
        [.start 0, .cycle (homeostaticSystemCreate 0) (fun _ => 1 / 2) 1] = .ok sm ∧
      ∀ image ∈ sm.projectedImages, image.longTermProjection = 1 / 2 ∧
        image.projectionConfidence ≠ 2 / 5 ∧ image.resilienceProjection ≤ 51 / 100 :=
  selfMaintenanceRun_no_longTermProjection LibM.approx _ 0 _

/-- Over every run, the performance and entropy models are never trained: they keep the
coefficients, bias, variance and `r_squared` they were created with. -/
theorem selfMaintenanceRun_untrained_models (m : LibM) (draw : Nat → ℚ) (t₀ : Int)
    (ops : List SelfMaintenanceOp) :
    ∃ sm, selfMaintenanceRun m (selfMaintenanceCreate true draw t₀) ops = .ok sm ∧
      sm.predictiveModels.drop 1 =
        [predictiveModelCreate .exponential Names.performance fun i => draw (3 + i),
          predictiveModelCreate .oscillatory Names.entropy fun i => draw (6 + i)] :=
  let ⟨sm, e, _, f⟩ := (MaintenanceWF.create draw t₀).run m ops
  ⟨sm, e, f.models⟩

/-- From every well-formed system, an action that requires more confidence than the `0.8`
the cycle offers stays where it is and never fires or learns again, over every run: its
required confidence, execution count, success rate and average effectiveness never change.
Since only a fired action learns, nothing lowers its required confidence again. -/
theorem selfMaintenanceRun_action_locked (m : LibM) {sm : SelfMaintenanceSystem}
    (h : MaintenanceWF sm) (ops : List SelfMaintenanceOp) {i : Nat} {a : AnticipatoryAction}
    (ha : sm.anticipatoryActions[i]? = some a) (hc : 4 / 5 < a.confidenceRequired) :
    ∃ sm', selfMaintenanceRun m sm ops = .ok sm' ∧ ∃ a', sm'.anticipatoryActions[i]? = some a' ∧
      a'.confidenceRequired = a.confidenceRequired ∧ a'.executionCount = a.executionCount ∧
      a'.successRate = a.successRate ∧ a'.averageEffectiveness = a.averageEffectiveness := by
  obtain ⟨sm', e, -, f⟩ := h.run m ops
  obtain ⟨a', ha', hi⟩ := f.locked i a ha hc
  exact ⟨sm', e, a', ha', hi.confidenceRequired, hi.executionCount, hi.successRate,
    hi.averageEffectiveness⟩

/-- The theorem on the system `self_maintenance_create` builds, its one action requiring
`0.9`, started and cycled once. -/
theorem selfMaintenanceRun_action_locked_cautious :
    let a : AnticipatoryAction := { anticipatoryActionCreate with confidenceRequired := 9 / 10 }
    let sm := { selfMaintenanceCreate true (fun _ => 1 / 2) 0 with anticipatoryActions := [a] }
    let ops := [SelfMaintenanceOp.start 0, .cycle (homeostaticSystemCreate 0) (fun _ => 0) 1]
    MaintenanceWF sm ∧ sm.anticipatoryActions[0]? = some a ∧ 4 / 5 < a.confidenceRequired ∧
      ∃ sm', selfMaintenanceRun LibM.approx sm ops = .ok sm' ∧
        ∃ a', sm'.anticipatoryActions[0]? = some a' ∧
        a'.confidenceRequired = a.confidenceRequired ∧ a'.executionCount = a.executionCount ∧
        a'.successRate = a.successRate ∧ a'.averageEffectiveness = a.averageEffectiveness := by
  intro a sm ops
  have hc : 4 / 5 < a.confidenceRequired := by norm_num [a]
  have h : MaintenanceWF sm := { MaintenanceWF.create (fun _ => 1 / 2) 0 with
    actions := fun b hb => by
      rw [List.mem_singleton.1 hb]
      constructor <;> norm_num [a, anticipatoryActionCreate] }
  exact ⟨h, rfl, hc, selfMaintenanceRun_action_locked LibM.approx h ops rfl hc⟩

/-- A cycle of a running system created over a NULL homeostatic system, a second or more
after the last, reaches `self_maintenance_update_models_impl`, which dereferences the NULL
pointer at the first model named `stability`: every phase before it checks the pointer,
this one does not. -/
theorem selfMaintenanceCycle_null_homeostatic (m : LibM) (sm : SelfMaintenanceSystem)
    (homeostatic : HomeostaticSystem) (draw : Nat → ℚ) (now : Int)
    (hn : sm.homeostaticSet = false) (hr : sm.running = true) (ht : 1 ≤ now - sm.lastCycle)
    (hs : ∃ model ∈ sm.predictiveModels, model.targetParameter.str = Names.stability) :
    selfMaintenanceCycle m sm homeostatic draw now = .error .nullDereference := by
  obtain ⟨model, hmem, hk⟩ := hs
  have hu : selfMaintenanceUpdateModels m sm homeostatic = .error .nullDereference := by
    rw [selfMaintenanceUpdateModels, hn, List.isEmpty_eq_false.2 (List.ne_nil_of_mem hmem),
      if_neg Bool.false_ne_true,
      mapM_eq_error (fun model _ => ?_) ⟨model, hmem, updateModel_null m homeostatic hk⟩]
    · rfl
    · by_cases hk' : model.targetParameter.str = Names.stability
      · exact .inr (updateModel_null m homeostatic hk')
      · exact .inl (updateModel_of_ne m homeostatic false hk')
  have hp : selfMaintenanceProjectImages m sm homeostatic = sm := by
    simp only [selfMaintenanceProjectImages, hn, Bool.not_false, ite_true]
  have he : selfMaintenancePredictEvolution sm homeostatic = .ok sm := by
    simp only [selfMaintenancePredictEvolution, hn, Bool.not_false, ite_true]
    rfl
  have hx : selfMaintenanceExecuteHealing sm homeostatic draw = sm := by
    simp only [selfMaintenanceExecuteHealing, hn, Bool.not_false, Bool.true_or, ite_true]
  rw [selfMaintenanceCycle, hr, Bool.not_true, if_neg Bool.false_ne_true, if_neg (not_lt.2 ht), hp]
  simp only [bind, Except.bind, he, hx, hu]

/-- A system over a NULL homeostatic system that has completed no cycle and holds a model
named `stability`. -/
structure NullHomeostatic (sm : SelfMaintenanceSystem) : Prop where
  homeostaticSet : sm.homeostaticSet = false
  stability : ∃ model ∈ sm.predictiveModels, model.targetParameter.str = Names.stability
  maintenanceCycles : sm.maintenanceCycles = 0

namespace NullHomeostatic

theorem create (draw : Nat → ℚ) (now : Int) :
    NullHomeostatic (selfMaintenanceCreate false draw now) :=
  ⟨rfl, ⟨_, List.mem_cons_self _ _, strncpy_str_of_length_le (by decide)⟩, rfl⟩

/-- A cycle that runs faults; every other call keeps the system as it was in these three
fields. -/
theorem apply (m : LibM) {sm : SelfMaintenanceSystem} (h : NullHomeostatic sm)
    (op : SelfMaintenanceOp) :
    op.apply m sm = .error .nullDereference ∨ ∃ sm', op.apply m sm = .ok sm' ∧ NullHomeostatic sm' := by
  cases op with
  | cycle homeostatic draw now =>
    by_cases hr : sm.running = true
    · by_cases ht : 1 ≤ now - sm.lastCycle
      · exact .inl (selfMaintenanceCycle_null_homeostatic m sm homeostatic draw now
          h.homeostaticSet hr ht h.stability)
      · refine .inr ⟨sm, ?_, h⟩
        rw [SelfMaintenanceOp.apply, selfMaintenanceCycle, hr, Bool.not_true,
          if_neg Bool.false_ne_true, if_pos (by omega)]
        rfl
    · refine .inr ⟨sm, ?_, h⟩
      rw [SelfMaintenanceOp.apply, selfMaintenanceCycle, Bool.eq_false_iff.2 hr]
      rfl
  | _ => exact .inr ⟨_, rfl, h.homeostaticSet, h.stability, h.maintenanceCycles⟩

theorem run (m : LibM) :
    ∀ (ops : List SelfMaintenanceOp) {sm : SelfMaintenanceSystem}, NullHomeostatic sm →
      selfMaintenanceRun m sm ops = .error .nullDereference ∨
        ∃ sm', selfMaintenanceRun m sm ops = .ok sm' ∧ NullHomeostatic sm'
  | [], sm, h => .inr ⟨sm, rfl, h⟩
  | op :: ops, sm, h => by
    rw [selfMaintenanceRun, List.foldlM_cons]
    rcases h.apply m op with he | ⟨sm₁, he, h₁⟩ <;> rw [he]
    · exact .inl rfl
    · exact run m ops h₁

end NullHomeostatic

/-- Every run of calls on a system created over a NULL homeostatic system, in any order and
with any homeostatic system and draws at each cycle, dereferences the NULL pointer at the
first cycle that runs, or has completed no cycle; and from where such a run stands, the
next cycle that runs faults. No maintenance cycle of such a system ever completes. -/
theorem selfMaintenanceRun_null_homeostatic (m : LibM) (draw : Nat → ℚ) (t₀ : Int)
    (ops : List SelfMaintenanceOp) :
    selfMaintenanceRun m (selfMaintenanceCreate false draw t₀) ops = .error .nullDereference ∨
      ∃ sm, selfMaintenanceRun m (selfMaintenanceCreate false draw t₀) ops = .ok sm ∧
        sm.maintenanceCycles = 0 ∧
        ∀ (homeostatic : HomeostaticSystem) (draw' : Nat → ℚ) (now : Int),
          sm.running = true → 1 ≤ now - sm.lastCycle →
            selfMaintenanceCycle m sm homeostatic draw' now = .error .nullDereference :=
  (NullHomeostatic.run m ops (.create draw t₀)).imp_right fun ⟨sm, e, h⟩ =>
    ⟨sm, e, h.maintenanceCycles, fun homeostatic draw' now hr ht =>
      selfMaintenanceCycle_null_homeostatic m sm homeostatic draw' now h.homeostaticSet hr ht
        h.stability⟩

/-- The theorem on a system created over a NULL homeostatic system, started at `0`, tuned,
cycled at `0`, which does nothing, and then at `1`, which faults. -/
theorem selfMaintenanceRun_null_homeostatic_start :
    let ops : List SelfMaintenanceOp := [.start 0, .enhancePredictivePower,
      .cycle (homeostaticSystemCreate 0) (fun _ => 1 / 2) 0,
      .cycle (homeostaticSystemCreate 0) (fun _ => 1 / 2) 1]
    selfMaintenanceRun LibM.approx (selfMaintenanceCreate false (fun _ => 1 / 2) 0) ops =
        .error .nullDereference ∨
      ∃ sm, selfMaintenanceRun LibM.approx (selfMaintenanceCreate false (fun _ => 1 / 2) 0) ops =
          .ok sm ∧ sm.maintenanceCycles = 0 ∧
        ∀ (homeostatic : HomeostaticSystem) (draw' : Nat → ℚ) (now : Int),
          sm.running = true → 1 ≤ now - sm.lastCycle →
            selfMaintenanceCycle LibM.approx sm homeostatic draw' now = .error .nullDereference :=
  selfMaintenanceRun_null_homeostatic LibM.approx _ 0 _

end Hivecog
