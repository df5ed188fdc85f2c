import Hivecog.Engine
import Hivecog.Equilibrium

/-!
# The homeostatic feedback system

`homeostatic_feedback.c` keeps a virtual engine, five state variables read from an
autognosis engine, three setpoints and three feedback loops, paired in list order, and an
equilibrium detector. `homeostatic_system_cycle` runs four phases. `update_state` reads the
autognosis engine into the virtual engine and copies each controlled variable into its
setpoint's `current_value`. `control_loops` runs each loop on its setpoint: the error
`target - current` becomes a control signal according to the loop's type, and is added,
scaled and clamped, to the variable the loop's name selects. `train_system` adapts the
loops to the engine's performance, and `maintain_equilibrium` feeds the performance to the
detector. The tuning calls change only loop parameters and system metrics.

Every reachable system keeps the three default loops with positive gains, the three default
setpoints and a well-formed detector, and no run faults (`Shape`, `homeostaticRun_safe`). At
the state `control_loops` starts from, each setpoint's current value is its loop's variable
(`Synced`, `Shape.synced_updateState`). The processing loop is of type `FEEDBACK_NEGATIVE`,
whose signal `-|gain · error|` is never positive, so it lowers the processing capacity
whatever the sign of the error. In every reachable system, a cycle over an autognosis engine
whose cognitive load lies strictly between `1/5` and `9/10` reads a capacity below its target
`4/5` and moves it further away (`homeostaticRun_cycle_moves_capacity_away`).
-/

namespace Hivecog

/-! ## The virtual engine -/

/-- `virtual_engine_state_t`, without the adaptation rate and the timestamp, which no
modelled function reads. -/
structure VirtualEngineState where
  processingCapacity : ℚ
  memoryUtilization : ℚ
  networkBandwidth : ℚ
  energyLevel : ℚ
  stabilityIndex : ℚ

/-- `virtual_engine_create`. -/
def virtualEngineCreate : VirtualEngineState := ⟨1, 3 / 10, 1, 1, 1⟩

/-- `virtual_engine_update`, over an engine whose topology, self-image and global store are
all present. -/
def virtualEngineUpdate (v : VirtualEngineState) (a : AutognosisEngine) : VirtualEngineState :=
  let memoryUtilization : ℚ := (a.globalKnowledge.atomCount.toNat : ℚ) / 1000
  { v with
    processingCapacity := 1 - a.cognitiveLoad
    networkBandwidth := a.topology.overallHealth
    stabilityIndex := a.selfImage.healthScore
    energyLevel := a.selfImage.autonomyLevel
    memoryUtilization := if memoryUtilization > 1 then 1 else memoryUtilization }

/-- `virtual_engine_measure_performance`. -/
def virtualEngineMeasurePerformance (v : VirtualEngineState) : ℚ :=
  (v.processingCapacity + (1 - v.memoryUtilization) + v.networkBandwidth + v.energyLevel +
    v.stabilityIndex) / 5

/-! ## Setpoints and feedback loops -/

namespace Names

def processing : CStr := .ascii "processing" (by decide)
def stability : CStr := .ascii "stability" (by decide)
def energy : CStr := .ascii "energy" (by decide)
def processingCapacity : CStr := .ascii "processing_capacity" (by decide)
def stabilityIndex : CStr := .ascii "stability_index" (by decide)
def energyLevel : CStr := .ascii "energy_level" (by decide)
def processingControl : CStr := .ascii "processing_control" (by decide)
def stabilityControl : CStr := .ascii "stability_control" (by decide)
def energyControl : CStr := .ascii "energy_control" (by decide)

end Names

/-- `homeostatic_setpoint_t`, without the tolerance band, the PID gains and the timestamp,
which only `setpoint_pid_control` and `setpoint_tune_pid` read. -/
structure HomeostaticSetpoint where
  parameterName : CBuf 64
  targetValue : ℚ
  currentValue : ℚ
  errorIntegral : ℚ
  errorDerivative : ℚ
  lastError : ℚ

/-- `setpoint_create(name, target, tolerance)`: the current value starts at the target. -/
def setpointCreate (name : CStr) (target : ℚ) : HomeostaticSetpoint :=
  ⟨strncpy 63 name, target, target, 0, 0, 0⟩

/-- `setpoint_update_error`, with the integral kept within `[-10, 10]`. -/
def setpointUpdateError (sp : HomeostaticSetpoint) (currentValue : ℚ) : HomeostaticSetpoint :=
  let error := sp.targetValue - currentValue
  let integral := sp.errorIntegral + error
  let integral := if integral > 10 then 10 else integral
  let integral := if integral < -10 then -10 else integral
  { sp with currentValue := currentValue, errorIntegral := integral,
            errorDerivative := error - sp.lastError, lastError := error }

/-- `feedback_type_t`. -/
inductive FeedbackType
  | negative
  | positive
  | adaptive
  | predictive
  | metamorphic
deriving DecidableEq

/-- `feedback_loop_t`, without the id, the phase delay and the timestamp. -/
structure FeedbackLoop where
  name : CBuf 64
  type : FeedbackType
  gain : ℚ
  stabilityMargin : ℚ
  effectiveness : ℚ
  trainingIterations : UInt32
  learningRate : ℚ

/-- `feedback_loop_create(name, type, id)`. -/
def feedbackLoopCreate (name : CStr) (type : FeedbackType) : FeedbackLoop :=
  ⟨strncpy 63 name, type, 1, 1 / 2, 1 / 2, 0, 1 / 100⟩

/-- `feedback_compute_control_impl`. -/
def feedbackComputeControl (l : FeedbackLoop) (error : ℚ) : ℚ :=
  let control := l.gain * error
  match l.type with
  | .negative => -|control|
  | .positive => |control|
  | .adaptive => control * (1 + l.effectiveness)
  | .predictive => control * (6 / 5)
  | .metamorphic => if |error| > 1 / 2 then control * 2 else control

/-- `v += signal * step`, then clamped to `[lo, 1]`: each branch of
`feedback_apply_control_impl`, with its own step and lower bound. -/
def nudge (v signal step lo : ℚ) : ℚ :=
  let v := v + signal * step
  let v := if v > 1 then 1 else v
  if v < lo then lo else v

/-- `feedback_apply_control_impl`: the variable is chosen by `strstr` on the loop's name. -/
def feedbackApplyControl (l : FeedbackLoop) (signal : ℚ) (v : VirtualEngineState) :
    VirtualEngineState :=
  if strstr l.name.str Names.processing then
    { v with processingCapacity := nudge v.processingCapacity signal (1 / 10) (1 / 10) }
  else if strstr l.name.str Names.stability then
    { v with stabilityIndex := nudge v.stabilityIndex signal (1 / 20) 0 }
  else if strstr l.name.str Names.energy then
    { v with energyLevel := nudge v.energyLevel signal (2 / 25) (1 / 10) }
  else v

/-- `feedback_loop_process`: sensing does nothing, the error is `target - current`. -/
def feedbackLoopProcess (l : FeedbackLoop) (v : VirtualEngineState) (sp : HomeostaticSetpoint) :
    VirtualEngineState :=
  feedbackApplyControl l (feedbackComputeControl l (sp.targetValue - sp.currentValue)) v

/-- `feedback_train_loop_impl`. -/
def feedbackTrainLoop (l : FeedbackLoop) (performanceMetric : ℚ) : FeedbackLoop :=
  let effectiveness := l.effectiveness + l.learningRate * (1 - performanceMetric)
  let effectiveness := if effectiveness > 1 then 1 else effectiveness
  let effectiveness := if effectiveness < 0 then 0 else effectiveness
  let gain :=
    if effectiveness > 4 / 5 then l.gain * (101 / 100)
    else if effectiveness < 3 / 10 then l.gain * (19 / 20)
    else l.gain
  let gain := if gain > 5 then 5 else gain
  let gain := if gain < 1 / 10 then 1 / 10 else gain
  { l with effectiveness := effectiveness, gain := gain }

/-- `feedback_loop_train`. -/
def feedbackLoopTrain (l : FeedbackLoop) (performance : ℚ) : FeedbackLoop :=
  { feedbackTrainLoop l performance with trainingIterations := l.trainingIterations + 1 }

/-- `feedback_adapt_parameters_impl` (through `feedback_loop_adapt`). -/
def feedbackAdaptParameters (l : FeedbackLoop) : FeedbackLoop :=
  let learningRate :=
    if l.trainingIterations > 100 then
      let rate := l.learningRate * (999 / 1000)
      if rate < 1 / 1000 then 1 / 1000 else rate
    else l.learningRate
  let margin :=
    if l.effectiveness > 7 / 10 then l.stabilityMargin * (101 / 100)
    else l.stabilityMargin * (49 / 50)
  let margin := if margin > 9 / 10 then 9 / 10 else margin
  let margin := if margin < 1 / 10 then 1 / 10 else margin
  { l with learningRate := learningRate, stabilityMargin := margin }

/-! ## The system -/

/-- `homeostatic_system_t`. The bootstrap engine is not stored: each cycle is given the
autognosis engine it holds at that time. The active training session, always `NULL`, is
left out. -/
structure HomeostaticSystem where
  virtualEngine : VirtualEngineState
  feedbackLoops : List FeedbackLoop
  setpoints : List HomeostaticSetpoint
  equilibrium : EquilibriumDetector
  globalStability : ℚ
  adaptationEfficiency : ℚ
  homeostaticIndex : ℚ
  resilienceFactor : ℚ
  running : Bool
  lastCycle : Int
  cycleCount : UInt32

/-- `homeostatic_system_create` at time `now`, with every allocation taken to succeed. -/
def homeostaticSystemCreate (now : Int) : HomeostaticSystem where
  virtualEngine := virtualEngineCreate
  feedbackLoops := [feedbackLoopCreate Names.processingControl .negative,
    feedbackLoopCreate Names.stabilityControl .adaptive,
    feedbackLoopCreate Names.energyControl .predictive]
  setpoints := [setpointCreate Names.processingCapacity (4 / 5),
    setpointCreate Names.stabilityIndex (9 / 10), setpointCreate Names.energyLevel (17 / 20)]
  equilibrium := equilibriumDetectorCreate 50
  globalStability := 1 / 2
  adaptationEfficiency := 1 / 2
  homeostaticIndex := 1 / 2
  resilienceFactor := 1 / 2
  running := false
  lastCycle := now
  cycleCount := 0

/-- `homeostatic_system_start`. -/
def homeostaticSystemStart (s : HomeostaticSystem) (now : Int) : HomeostaticSystem :=
  { s with running := true, lastCycle := now }

/-- `homeostatic_system_stop`. -/
def homeostaticSystemStop (s : HomeostaticSystem) : HomeostaticSystem :=
  { s with running := false }

/-- The variable `homeostatic_update_state_impl` copies into a setpoint, chosen by `strcmp` on
the setpoint's name. -/
def setpointVariable (v : VirtualEngineState) (name : CStr) : Option ℚ :=
  if name = Names.processingCapacity then some v.processingCapacity
  else if name = Names.stabilityIndex then some v.stabilityIndex
  else if name = Names.energyLevel then some v.energyLevel
  else none

/-- `homeostatic_update_state_impl`, over the autognosis engine of the bootstrap engine;
`none` when there is none, and then it does nothing. -/
def homeostaticUpdateState (s : HomeostaticSystem) (autognosis : Option AutognosisEngine) :
    HomeostaticSystem :=
  match autognosis with
  | none => s
  | some a =>
    let v := virtualEngineUpdate s.virtualEngine a
    { s with
      virtualEngine := v
      setpoints := s.setpoints.map fun sp =>
        match setpointVariable v sp.parameterName.str with
        | some x => setpointUpdateError sp x
        | none => sp }

/-- `homeostatic_control_loops_impl`: the loops and the setpoints in step, until either list
ends. -/
def homeostaticControlLoops (s : HomeostaticSystem) : HomeostaticSystem :=
  let v := (s.feedbackLoops.zip s.setpoints).foldl (fun v p => feedbackLoopProcess p.1 v p.2)
    s.virtualEngine
  { s with virtualEngine := v }

/-- `homeostatic_train_system_impl`. -/
def homeostaticTrainSystem (s : HomeostaticSystem) : HomeostaticSystem :=
  let performance := virtualEngineMeasurePerformance s.virtualEngine
  { s with
    feedbackLoops := s.feedbackLoops.map fun l =>
      feedbackAdaptParameters (feedbackLoopTrain l performance)
    adaptationEfficiency := performance
    globalStability := s.virtualEngine.stabilityIndex }

/-- `homeostatic_maintain_equilibrium_impl`. -/
def homeostaticMaintainEquilibrium (s : HomeostaticSystem) : Except Fault HomeostaticSystem := do
  let overallPerformance := virtualEngineMeasurePerformance s.virtualEngine
  let detector ← equilibriumDetectorUpdate s.equilibrium overallPerformance
  let inEquilibrium ← equilibriumDetectorCheck detector
  let (index, resilience, detector) :=
    if inEquilibrium then (s.homeostaticIndex + 1 / 100, s.resilienceFactor + 1 / 200, detector)
    else (s.homeostaticIndex - 1 / 200, s.resilienceFactor,
      equilibriumAdjustDamping detector (1 - overallPerformance))
  let index := if index > 1 then 1 else index
  let index := if index < 0 then 0 else index
  let resilience := if resilience > 1 then 1 else resilience
  let resilience := if resilience < 0 then 0 else resilience
  pure { s with equilibrium := detector, homeostaticIndex := index, resilienceFactor := resilience }

/-- `homeostatic_system_cycle` at time `now`: nothing unless the system runs and a second has
passed since the last cycle. -/
def homeostaticSystemCycle (s : HomeostaticSystem) (autognosis : Option AutognosisEngine)
    (now : Int) : Except Fault HomeostaticSystem :=
  if !s.running then pure s
  else if now - s.lastCycle < 1 then pure s
  else do
    let s := homeostaticTrainSystem (homeostaticControlLoops (homeostaticUpdateState s autognosis))
    let s ← homeostaticMaintainEquilibrium s
    pure { s with cycleCount := s.cycleCount + 1, lastCycle := now }

/-! ## Tuning calls -/

/-- `optimize_global_stability`. Nothing caps the gain it scales by `1.1`: the rational gain
grows without bound, the C `float` gain overflows to infinity (`GainsBelow`). -/
def optimizeGlobalStability (s : HomeostaticSystem) : HomeostaticSystem :=
  { s with feedbackLoops := s.feedbackLoops.map fun l =>
      if s.globalStability < 7 / 10 then { l with gain := l.gain * (11 / 10) }
      else if s.globalStability > 19 / 20 then { l with gain := l.gain * (19 / 20) }
      else l }

/-- `adapt_to_environment`. -/
def adaptToEnvironment (s : HomeostaticSystem) : HomeostaticSystem :=
  if 1 - s.virtualEngine.stabilityIndex > 3 / 10 then
    { s with feedbackLoops := s.feedbackLoops.map fun l =>
        let rate := l.learningRate * (21 / 20)
        { l with learningRate := if rate > 1 / 10 then 1 / 10 else rate } }
  else s

/-- `enhance_resilience`. -/
def enhanceResilience (s : HomeostaticSystem) : HomeostaticSystem :=
  let resilience := s.resilienceFactor + 1 / 100
  { s with
    resilienceFactor := if resilience > 1 then 1 else resilience
    feedbackLoops := s.feedbackLoops.map fun l =>
      let margin := l.stabilityMargin + 1 / 200
      { l with stabilityMargin := if margin > 9 / 10 then 9 / 10 else margin } }

/-- `apply_healing_feedback`. -/
def applyHealingFeedback (s : HomeostaticSystem) : HomeostaticSystem :=
  { s with feedbackLoops := s.feedbackLoops.map fun l =>
      let effectiveness := l.effectiveness + 1 / 50
      let margin := l.stabilityMargin + 1 / 100
      { l with effectiveness := if effectiveness > 1 then 1 else effectiveness,
               stabilityMargin := if margin > 9 / 10 then 9 / 10 else margin } }

/-- `promote_system_health`. -/
def promoteSystemHealth (s : HomeostaticSystem) : HomeostaticSystem :=
  let energy := s.virtualEngine.energyLevel + 1 / 20
  let stability := s.virtualEngine.stabilityIndex + 3 / 100
  let globalStability := s.globalStability + 1 / 50
  { s with
    virtualEngine := { s.virtualEngine with
      energyLevel := if energy > 1 then 1 else energy
      stabilityIndex := if stability > 1 then 1 else stability }
    globalStability := if globalStability > 1 then 1 else globalStability }

/-- `measure_homeostatic_quality`. -/
def measureHomeostaticQuality (s : HomeostaticSystem) : ℚ :=
  (virtualEngineMeasurePerformance s.virtualEngine + s.globalStability + s.homeostaticIndex +
    s.resilienceFactor) / 4

/-- `training_session_t`, reduced to the fields `training_session_step` reads or writes. -/
structure TrainingSession where
  performanceTarget : ℚ
  currentPerformance : ℚ
  currentIteration : UInt32
  learningRate : ℚ
  convergenceThreshold : ℚ
  converged : Bool

/-- `training_update_parameters_impl`. -/
def trainingUpdateParameters (t : TrainingSession) (l : FeedbackLoop) : FeedbackLoop :=
  let performanceGradient := t.currentPerformance - t.performanceTarget
  let gain := l.gain - t.learningRate * (performanceGradient * (1 / 10))
  let gain := if gain > 5 then 5 else gain
  let gain := if gain < 1 / 10 then 1 / 10 else gain
  let effectiveness := l.effectiveness + t.learningRate * performanceGradient
  let effectiveness := if effectiveness > 1 then 1 else effectiveness
  let effectiveness := if effectiveness < 0 then 0 else effectiveness
  { l with gain := gain, effectiveness := effectiveness }

/-- `training_session_step`: the session, the system, and whether the session converged. -/
def trainingSessionStep (t : TrainingSession) (s : HomeostaticSystem) :
    TrainingSession × HomeostaticSystem × Bool :=
  let t := { t with currentPerformance := virtualEngineMeasurePerformance s.virtualEngine }
  let s := { s with feedbackLoops := s.feedbackLoops.map (trainingUpdateParameters t) }
  let converged := decide (|t.currentPerformance - t.performanceTarget| < t.convergenceThreshold)
  ({ t with currentIteration := t.currentIteration + 1, converged := t.converged || converged },
    s, converged)

/-- A public call on the system: the lifecycle, a cycle over the autognosis engine the
bootstrap engine holds, and the tuning calls, a training step with any session. -/
inductive HomeostaticOp
  | start (now : Int)
  | stop
  | cycle (autognosis : Option AutognosisEngine) (now : Int)
  | optimizeGlobalStability
  | adaptToEnvironment
  | enhanceResilience
  | applyHealingFeedback
  | trainingSessionStep (session : TrainingSession)

/-- The system after a call. -/
def HomeostaticOp.apply (s : HomeostaticSystem) : HomeostaticOp → Except Fault HomeostaticSystem
  | start now => pure (homeostaticSystemStart s now)
  | stop => pure (homeostaticSystemStop s)
  | cycle a now => homeostaticSystemCycle s a now
  | optimizeGlobalStability => pure (Hivecog.optimizeGlobalStability s)
  | adaptToEnvironment => pure (Hivecog.adaptToEnvironment s)
  | enhanceResilience => pure (Hivecog.enhanceResilience s)
  | applyHealingFeedback => pure (Hivecog.applyHealingFeedback s)
  | trainingSessionStep t => pure (Hivecog.trainingSessionStep t s).2.1

/-- The system after a run of calls; the first fault ends the run. -/
def homeostaticRun (s : HomeostaticSystem) (ops : List HomeostaticOp) :
    Except Fault HomeostaticSystem :=
  ops.foldlM HomeostaticOp.apply s

/-! ## Reachable systems -/

/-- A loop's name and type, which no call changes. -/
def FeedbackLoop.key (l : FeedbackLoop) : CStr × FeedbackType := (l.name.str, l.type)

/-- A setpoint's name and target, which no call changes. -/
def HomeostaticSetpoint.key (sp : HomeostaticSetpoint) : CStr × ℚ :=
  (sp.parameterName.str, sp.targetValue)

/-- What every reachable system keeps: the three default loops in order, each with a
positive gain, the three default setpoints in order, and a well-formed detector. -/
structure HomeostaticSystem.Shape (s : HomeostaticSystem) : Prop where
  loops : s.feedbackLoops.map FeedbackLoop.key = [(Names.processingControl, .negative),
    (Names.stabilityControl, .adaptive), (Names.energyControl, .predictive)]
  gain : ∀ l ∈ s.feedbackLoops, 0 < l.gain
  setpoints : s.setpoints.map HomeostaticSetpoint.key = [(Names.processingCapacity, 4 / 5),
    (Names.stabilityIndex, 9 / 10), (Names.energyLevel, 17 / 20)]
  detector : DetectorWF s.equilibrium

namespace HomeostaticSystem.Shape

variable {s : HomeostaticSystem}

theorem create (now : Int) : Shape (homeostaticSystemCreate now) where
  loops := by simp only [homeostaticSystemCreate]; decide
  gain := by simp [homeostaticSystemCreate, feedbackLoopCreate]
  setpoints := by
    simp only [homeostaticSystemCreate, setpointCreate, HomeostaticSetpoint.key, List.map_cons,
      List.map_nil, List.cons.injEq, Prod.mk.injEq, and_true]
    decide
  detector := DetectorWF.create (by decide)

/-- A call that rewrites each loop and each setpoint without changing its key or making a
gain nonpositive, and leaves a well-formed detector, keeps the shape. -/
theorem map {s' : HomeostaticSystem} (h : Shape s) {f : FeedbackLoop → FeedbackLoop}
    {g : HomeostaticSetpoint → HomeostaticSetpoint}
    (hl : s'.feedbackLoops = s.feedbackLoops.map f) (hs : s'.setpoints = s.setpoints.map g)
    (hf : ∀ l, (f l).key = l.key ∧ (0 < l.gain → 0 < (f l).gain))
    (hg : ∀ sp, (g sp).key = sp.key) (hd : DetectorWF s'.equilibrium) : Shape s' where
  loops := by
    rw [hl, List.map_map]
    exact (List.map_congr_left fun l _ => (hf l).1).trans h.loops
  gain l hl' := by
    rw [hl] at hl'
    obtain ⟨l₀, hl₀, rfl⟩ := List.mem_map.1 hl'
    exact (hf l₀).2 (h.gain l₀ hl₀)
  setpoints := by
    rw [hs, List.map_map]
    exact (List.map_congr_left fun sp _ => hg sp).trans h.setpoints
  detector := hd

/-- A call that changes no loop, setpoint or detector keeps the shape. -/
theorem of_eq {s' : HomeostaticSystem} (h : Shape s) (hl : s'.feedbackLoops = s.feedbackLoops)
    (hs : s'.setpoints = s.setpoints) (he : s'.equilibrium = s.equilibrium) : Shape s' :=
  h.map (f := id) (g := id) (by rw [hl, List.map_id]) (by rw [hs, List.map_id])
    (fun _ => ⟨rfl, id⟩) (fun _ => rfl) (he ▸ h.detector)

end HomeostaticSystem.Shape

open HomeostaticSystem

theorem le_clampLow (lo x : ℚ) : lo ≤ if x < lo then lo else x := by
  split_ifs with h
  · exact le_rfl
  · exact not_lt.1 h

/-- Training leaves a gain of at least `1/10`. -/
theorem feedbackTrainLoop_gain_pos (l : FeedbackLoop) (p : ℚ) : 0 < (feedbackTrainLoop l p).gain :=
  lt_of_lt_of_le (by norm_num) (le_clampLow _ _)

theorem trainingUpdateParameters_gain_pos (t : TrainingSession) (l : FeedbackLoop) :
    0 < (trainingUpdateParameters t l).gain :=
  lt_of_lt_of_le (by norm_num) (le_clampLow _ _)

namespace HomeostaticSystem.Shape

variable {s : HomeostaticSystem}

theorem updateState (h : Shape s) (autognosis : Option AutognosisEngine) :
    Shape (homeostaticUpdateState s autognosis) := by
  cases autognosis with
  | none => exact h
  | some a =>
    refine h.map (List.map_id _).symm rfl (fun _ => ⟨rfl, id⟩) (fun sp => ?_) h.detector
    dsimp only
    split <;> rfl

theorem controlLoops (h : Shape s) : Shape (homeostaticControlLoops s) :=
  h.of_eq rfl rfl rfl

theorem trainSystem (h : Shape s) : Shape (homeostaticTrainSystem s) :=
  h.map rfl (List.map_id _).symm (fun l => ⟨rfl, fun _ => feedbackTrainLoop_gain_pos l _⟩)
    (fun _ => rfl) h.detector

/-- `maintain_equilibrium` faults nowhere and changes only the detector, which stays
well-formed, and two metrics. -/
theorem maintainEquilibrium (h : Shape s) :
    ∃ s', homeostaticMaintainEquilibrium s = .ok s' ∧ Shape s' ∧
      s'.virtualEngine = s.virtualEngine := by
  obtain ⟨d₁, hupd, hd₁⟩ := h.detector.update (virtualEngineMeasurePerformance s.virtualEngine)
  refine ⟨_, by simp only [homeostaticMaintainEquilibrium, hupd, hd₁.check_ok, bind, Except.bind]; rfl,
    ?_, ?_⟩
  · refine h.map (List.map_id _).symm (List.map_id _).symm (fun _ => ⟨rfl, id⟩) (fun _ => rfl) ?_
    split
    · exact hd₁
    · exact ⟨hd₁.length, hd₁.index⟩
  · rfl

/-- A cycle that runs performs its four phases; the last two leave the virtual engine as
`control_loops` left it. -/
theorem cycle_eq (h : Shape s) (autognosis : Option AutognosisEngine) {now : Int}
    (hrun : s.running = true) (htime : s.lastCycle + 1 ≤ now) :
    ∃ s', homeostaticSystemCycle s autognosis now = .ok s' ∧ Shape s' ∧
      s'.virtualEngine = (homeostaticControlLoops (homeostaticUpdateState s autognosis)).virtualEngine := by
  obtain ⟨s₄, hm, h₄, hv⟩ := (h.updateState autognosis).controlLoops.trainSystem.maintainEquilibrium
  refine ⟨{ s₄ with cycleCount := s₄.cycleCount + 1, lastCycle := now }, ?_,
    h₄.of_eq rfl rfl rfl, hv⟩
  rw [homeostaticSystemCycle, hrun, if_neg (by decide), if_neg (by omega)]
  simp only [hm, bind, Except.bind]
  rfl

theorem apply (h : Shape s) (op : HomeostaticOp) : ∃ s', op.apply s = .ok s' ∧ Shape s' := by
  cases op with
  | start now => exact ⟨_, rfl, h.of_eq rfl rfl rfl⟩
  | stop => exact ⟨_, rfl, h.of_eq rfl rfl rfl⟩
  | cycle a now =>
    by_cases hrun : s.running = true
    · by_cases htime : s.lastCycle + 1 ≤ now
      · obtain ⟨s', hs', hsh, -⟩ := h.cycle_eq a hrun htime
        exact ⟨s', hs', hsh⟩
      · refine ⟨s, ?_, h⟩
        rw [HomeostaticOp.apply, homeostaticSystemCycle, hrun, if_neg (by decide),
          if_pos (by omega)]
        rfl
    · refine ⟨s, ?_, h⟩
      rw [HomeostaticOp.apply, homeostaticSystemCycle, Bool.eq_false_iff.2 hrun]
      rfl
  | optimizeGlobalStability =>
    refine ⟨_, rfl, h.map rfl (List.map_id _).symm (fun l => ⟨?_, fun hg => ?_⟩) (fun _ => rfl)
      h.detector⟩
    · split_ifs <;> rfl
    · split_ifs
      · exact mul_pos hg (by norm_num)
      · exact mul_pos hg (by norm_num)
      · exact hg
  | adaptToEnvironment =>
    refine ⟨_, rfl, ?_⟩
    unfold Hivecog.adaptToEnvironment
    split
    · exact h.map rfl (List.map_id _).symm (fun _ => ⟨rfl, id⟩) (fun _ => rfl) h.detector
    · exact h
  | enhanceResilience =>
    exact ⟨_, rfl, h.map rfl (List.map_id _).symm (fun _ => ⟨rfl, id⟩)
      (fun _ => rfl) h.detector⟩
  | applyHealingFeedback =>
    exact ⟨_, rfl, h.map rfl (List.map_id _).symm (fun _ => ⟨rfl, id⟩)
      (fun _ => rfl) h.detector⟩
  | trainingSessionStep t =>
    exact ⟨_, rfl, h.map rfl (List.map_id _).symm
      (fun l => ⟨rfl, fun _ => trainingUpdateParameters_gain_pos _ l⟩) (fun _ => rfl) h.detector⟩

/-- Every run keeps the shape, and faults nowhere. -/
theorem run (h : Shape s) (ops : List HomeostaticOp) :
    ∃ s', homeostaticRun s ops = .ok s' ∧ Shape s' :=
  foldlM_invariant Shape (fun _ op h => h.apply op) ops h

end HomeostaticSystem.Shape

/-! ## The gains stay finite

`optimize_global_stability` is the one call that multiplies a gain by `1.1` without a cap;
every training clamps the gain to at most `5`. After `k` calls of it, every gain is at most
`5 · 1.1^k` (`GainsBelow`), a rational for every `k`, while the C `float` gain passes
`FLT_MAX` after `931` of them from the default `1` and becomes infinite; a control signal
`gain · error` with a zero error is then NaN. -/

/-- `optimize_global_stability`, the call that scales the gains by `1.1`. -/
def HomeostaticOp.isOptimize : HomeostaticOp → Bool
  | optimizeGlobalStability => true
  | _ => false

/-- Every gain is at most `5 · 1.1^k`. -/
def GainsBelow (k : Nat) (s : HomeostaticSystem) : Prop :=
  ∀ l ∈ s.feedbackLoops, l.gain ≤ 5 * (11 / 10) ^ k

/-- The clamps `if (gain > 5) gain = 5; if (gain < 0.1) gain = 0.1;` leave at most `5`. -/
theorem clampGain_le (x : ℚ) :
    (if (if x > 5 then 5 else x) < 1 / 10 then 1 / 10 else if x > 5 then 5 else x) ≤ 5 := by
  have h : (if x > 5 then 5 else x) ≤ (5 : ℚ) := by
    split
    · exact le_rfl
    · exact not_lt.1 ‹_›
  by_cases hl : (if x > 5 then 5 else x) < (1 : ℚ) / 10
  · rw [if_pos hl]
    norm_num1
  · rw [if_neg hl]
    exact h

theorem homeostaticMaintainEquilibrium_feedbackLoops {s s' : HomeostaticSystem}
    (h : homeostaticMaintainEquilibrium s = .ok s') : s'.feedbackLoops = s.feedbackLoops := by
  unfold homeostaticMaintainEquilibrium at h
  cases hu : equilibriumDetectorUpdate s.equilibrium (virtualEngineMeasurePerformance s.virtualEngine) <;>
    simp only [hu, bind, Except.bind, reduceCtorEq] at h
  rename_i d
  cases hc : equilibriumDetectorCheck d <;> simp only [hc, reduceCtorEq] at h
  exact (Except.ok.inj h).symm ▸ rfl

/-- A cycle leaves the loops as they were, or trained, each with a gain of at most `5`. -/
theorem homeostaticSystemCycle_feedbackLoops {s s' : HomeostaticSystem}
    {autognosis : Option AutognosisEngine} {now : Int}
    (h : homeostaticSystemCycle s autognosis now = .ok s') :
    s'.feedbackLoops = s.feedbackLoops ∨ ∀ l ∈ s'.feedbackLoops, l.gain ≤ 5 := by
  unfold homeostaticSystemCycle at h
  split_ifs at h
  · exact .inl (Except.ok.inj h ▸ rfl)
  · exact .inl (Except.ok.inj h ▸ rfl)
  · refine .inr ?_
    cases hm : homeostaticMaintainEquilibrium
      (homeostaticTrainSystem (homeostaticControlLoops (homeostaticUpdateState s autognosis))) <;>
      simp only [hm, bind, Except.bind, reduceCtorEq] at h
    rw [← Except.ok.inj h]
    intro l hl
    rw [homeostaticMaintainEquilibrium_feedbackLoops hm] at hl
    obtain ⟨l₀, -, rfl⟩ := List.mem_map.1 hl
    exact clampGain_le _

namespace GainsBelow

variable {k : Nat} {s : HomeostaticSystem}

theorem create (now : Int) : GainsBelow 0 (homeostaticSystemCreate now) := by
  simp only [GainsBelow, homeostaticSystemCreate, feedbackLoopCreate, List.mem_cons,
    List.not_mem_nil, or_false, pow_zero, mul_one]
  rintro l (rfl | rfl | rfl) <;> norm_num

theorem of_le_five (h : ∀ l ∈ s.feedbackLoops, l.gain ≤ 5) : GainsBelow k s :=
  fun l hl => (h l hl).trans (le_mul_of_one_le_right (by norm_num) (one_le_pow₀ (by norm_num)))

theorem of_eq {s' : HomeostaticSystem} (h : GainsBelow k s)
    (hl : s'.feedbackLoops = s.feedbackLoops) : GainsBelow k s' :=
  fun l hm => h l (hl ▸ hm)

/-- One call: `optimize_global_stability` raises the bound by a factor `1.1`, every other call
keeps it. -/
theorem apply (hs : s.Shape) (h : GainsBelow k s) {op : HomeostaticOp} {s' : HomeostaticSystem}
    (hop : op.apply s = .ok s') : GainsBelow (k + if op.isOptimize then 1 else 0) s' := by
  cases op with
  | optimizeGlobalStability =>
    show GainsBelow (k + 1) _
    rw [← Except.ok.inj hop]
    intro l' hl'
    obtain ⟨l, hl, rfl⟩ := List.mem_map.1 hl'
    have hg := hs.gain l hl
    have hb : l.gain * (11 / 10) ≤ 5 * (11 / 10) ^ (k + 1) := by
      rw [pow_succ, ← mul_assoc]
      exact mul_le_mul_of_nonneg_right (h l hl) (by norm_num)
    split_ifs
    · exact hb
    · exact (mul_le_mul_of_nonneg_left (by norm_num) hg.le).trans hb
    · exact (le_mul_of_one_le_right hg.le (by norm_num)).trans hb
  | cycle a now =>
    rcases homeostaticSystemCycle_feedbackLoops hop with hl | hl
    · exact h.of_eq hl
    · exact of_le_five hl
  | trainingSessionStep t =>
    rw [← Except.ok.inj hop]
    intro l' hl'
    obtain ⟨l, -, rfl⟩ := List.mem_map.1 hl'
    exact (clampGain_le _).trans (le_mul_of_one_le_right (by norm_num) (one_le_pow₀ (by norm_num)))
  | adaptToEnvironment =>
    rw [← Except.ok.inj hop]
    intro l' hl'
    unfold Hivecog.adaptToEnvironment at hl'
    split_ifs at hl'
    · obtain ⟨l, hl, rfl⟩ := List.mem_map.1 hl'
      exact h l hl
    · exact h l' hl'
  | _ =>
    rw [← Except.ok.inj hop]
    first
    | exact h
    | intro l' hl'
      obtain ⟨l, hl, rfl⟩ := List.mem_map.1 hl'
      exact h l hl

/-- A run of calls raises the bound by a factor `1.1` per call of
`optimize_global_stability`, and faults nowhere. -/
theorem run (hs : s.Shape) (h : GainsBelow k s) (ops : List HomeostaticOp) :
    ∃ s', homeostaticRun s ops = .ok s' ∧ s'.Shape ∧
      GainsBelow (k + ops.countP HomeostaticOp.isOptimize) s' := by
  induction ops generalizing s k with
  | nil => exact ⟨s, rfl, hs, h⟩
  | cons op ops ih =>
    obtain ⟨s₁, hop, hs₁⟩ := hs.apply op
    obtain ⟨s', hrun, hs', hg'⟩ := ih hs₁ (h.apply hs hop)
    refine ⟨s', by rw [homeostaticRun, List.foldlM_cons, hop]; exact hrun, hs', ?_⟩
    rw [List.countP_cons]
    convert hg' using 1
    split <;> omega

end GainsBelow

/-- The variable `feedback_apply_control_impl` writes for a loop, chosen by `strstr` on its
name as there. -/
def controlledVariable (l : FeedbackLoop) (v : VirtualEngineState) : Option ℚ :=
  if strstr l.name.str Names.processing then some v.processingCapacity
  else if strstr l.name.str Names.stability then some v.stabilityIndex
  else if strstr l.name.str Names.energy then some v.energyLevel
  else none

/-- Each setpoint's current value is the variable its paired loop controls. -/
def Synced (s : HomeostaticSystem) : Prop :=
  ∀ p ∈ s.feedbackLoops.zip s.setpoints,
    controlledVariable p.1 s.virtualEngine = some p.2.currentValue

theorem List.exists_of_map_eq_triple {α β : Type} {f : α → β} {l : List α} {a b c : β}
    (h : l.map f = [a, b, c]) : ∃ x y z, l = [x, y, z] ∧ f x = a ∧ f y = b ∧ f z = c := by
  rcases l with _ | ⟨x, _ | ⟨y, _ | ⟨z, _ | ⟨w, l⟩⟩⟩⟩ <;> simp at h
  exact ⟨x, y, z, rfl, h.1, h.2.1, h.2.2⟩

/-- Which of the three words each default loop's name contains. -/
theorem strstr_controlNames :
    strstr Names.processingControl Names.processing = true ∧
    ¬ strstr Names.stabilityControl Names.processing = true ∧
    strstr Names.stabilityControl Names.stability = true ∧
    ¬ strstr Names.energyControl Names.processing = true ∧
    ¬ strstr Names.energyControl Names.stability = true ∧
    strstr Names.energyControl Names.energy = true := by
  decide

theorem setpointNames_ne : Names.stabilityIndex ≠ Names.processingCapacity ∧
    Names.energyLevel ≠ Names.processingCapacity ∧ Names.energyLevel ≠ Names.stabilityIndex := by
  decide

theorem setpointVariable_names (v : VirtualEngineState) :
    setpointVariable v Names.processingCapacity = some v.processingCapacity ∧
    setpointVariable v Names.stabilityIndex = some v.stabilityIndex ∧
    setpointVariable v Names.energyLevel = some v.energyLevel := by
  obtain ⟨h₁, h₂, h₃⟩ := setpointNames_ne
  exact ⟨if_pos rfl, by rw [setpointVariable, if_neg h₁, if_pos rfl],
    by rw [setpointVariable, if_neg h₂, if_neg h₃, if_pos rfl]⟩

section LoopNames

variable {l : FeedbackLoop} (signal : ℚ) (v : VirtualEngineState)

theorem feedbackApplyControl_processing (h : l.name.str = Names.processingControl) :
    feedbackApplyControl l signal v =
      { v with processingCapacity := nudge v.processingCapacity signal (1 / 10) (1 / 10) } := by
  rw [feedbackApplyControl, h, if_pos strstr_controlNames.1]

theorem processingCapacity_feedbackApplyControl_stability
    (h : l.name.str = Names.stabilityControl) :
    (feedbackApplyControl l signal v).processingCapacity = v.processingCapacity := by
  rw [feedbackApplyControl, h, if_neg strstr_controlNames.2.1, if_pos strstr_controlNames.2.2.1]

theorem processingCapacity_feedbackApplyControl_energy (h : l.name.str = Names.energyControl) :
    (feedbackApplyControl l signal v).processingCapacity = v.processingCapacity := by
  obtain ⟨-, -, -, h₁, h₂, h₃⟩ := strstr_controlNames
  rw [feedbackApplyControl, h, if_neg h₁, if_neg h₂, if_pos h₃]

theorem controlledVariable_processing (h : l.name.str = Names.processingControl) :
    controlledVariable l v = some v.processingCapacity := by
  rw [controlledVariable, h, if_pos strstr_controlNames.1]

theorem controlledVariable_stability (h : l.name.str = Names.stabilityControl) :
    controlledVariable l v = some v.stabilityIndex := by
  rw [controlledVariable, h, if_neg strstr_controlNames.2.1, if_pos strstr_controlNames.2.2.1]

theorem controlledVariable_energy (h : l.name.str = Names.energyControl) :
    controlledVariable l v = some v.energyLevel := by
  obtain ⟨-, -, -, h₁, h₂, h₃⟩ := strstr_controlNames
  rw [controlledVariable, h, if_neg h₁, if_neg h₂, if_pos h₃]

end LoopNames

/-- A `FEEDBACK_NEGATIVE` loop's signal is `-|gain · error|`, never positive. -/
theorem feedbackComputeControl_negative {l : FeedbackLoop} (h : l.type = .negative) (error : ℚ) :
    feedbackComputeControl l error = -|l.gain * error| := by
  simp only [feedbackComputeControl, h]

/-- A negative signal leaves a value of `(lo, 1]` lower than it was, clamped or not. -/
theorem nudge_lt {v signal step lo : ℚ} (hlo : lo < v) (hv : v ≤ 1) (hs : signal < 0)
    (hstep : 0 < step) : nudge v signal step lo < v := by
  have : signal * step < 0 := mul_neg_of_neg_of_pos hs hstep
  simp only [nudge]
  split_ifs <;> linarith

namespace HomeostaticSystem.Shape

variable {s : HomeostaticSystem}

/-- `update_state` leaves every setpoint holding the variable its loop controls. -/
theorem synced_updateState (h : Shape s) (a : AutognosisEngine) :
    Synced (homeostaticUpdateState s (some a)) := by
  obtain ⟨l₁, l₂, l₃, hl, k₁, k₂, k₃⟩ := List.exists_of_map_eq_triple h.loops
  obtain ⟨p₁, p₂, p₃, hp, q₁, q₂, q₃⟩ := List.exists_of_map_eq_triple h.setpoints
  simp only [FeedbackLoop.key, HomeostaticSetpoint.key, Prod.mk.injEq] at k₁ k₂ k₃ q₁ q₂ q₃
  obtain ⟨n₁, n₂, n₃⟩ := setpointVariable_names (virtualEngineUpdate s.virtualEngine a)
  intro p hp'
  simp only [homeostaticUpdateState, hl, hp, List.map_cons, List.map_nil, List.zip_cons_cons,
    List.zip_nil_left, List.mem_cons, List.not_mem_nil, or_false, q₁.1, q₂.1, q₃.1, n₁, n₂,
    n₃] at hp'
  rcases hp' with rfl | rfl | rfl
  · exact controlledVariable_processing _ k₁.1
  · exact controlledVariable_stability _ k₂.1
  · exact controlledVariable_energy _ k₃.1

/-- The control step sets the processing capacity through the processing loop alone, from
the processing setpoint, whose target is `4/5`. -/
theorem controlLoops_capacity (h : Shape s) :
    ∃ l sp, (l, sp) ∈ s.feedbackLoops.zip s.setpoints ∧ l.name.str = Names.processingControl ∧
      l.type = .negative ∧ sp.parameterName.str = Names.processingCapacity ∧
      sp.targetValue = 4 / 5 ∧
      (homeostaticControlLoops s).virtualEngine.processingCapacity =
        nudge s.virtualEngine.processingCapacity
          (feedbackComputeControl l (sp.targetValue - sp.currentValue)) (1 / 10) (1 / 10) := by
  obtain ⟨l₁, l₂, l₃, hl, k₁, k₂, k₃⟩ := List.exists_of_map_eq_triple h.loops
  obtain ⟨p₁, p₂, p₃, hp, q₁, q₂, q₃⟩ := List.exists_of_map_eq_triple h.setpoints
  simp only [FeedbackLoop.key, HomeostaticSetpoint.key, Prod.mk.injEq] at k₁ k₂ k₃ q₁ q₂ q₃
  refine ⟨l₁, p₁, by simp [hl, hp], k₁.1, k₁.2, q₁.1, q₁.2, ?_⟩
  simp only [homeostaticControlLoops, hl, hp, List.zip_cons_cons, List.zip_nil_left,
    List.foldl_cons, List.foldl_nil, feedbackLoopProcess]
  rw [processingCapacity_feedbackApplyControl_energy _ _ k₃.1,
    processingCapacity_feedbackApplyControl_stability _ _ k₂.1,
    feedbackApplyControl_processing _ _ k₁.1]

end HomeostaticSystem.Shape

/-- In every system reachable from `homeostatic_system_create` by any calls, a cycle over an
autognosis engine whose cognitive load lies strictly between `1/5` and `9/10` first brings
every setpoint to the variable its loop controls, with the processing capacity at
`1 - load`, below its target `4/5`. The control step then moves the capacity further from
that target: the processing loop's signal `-|gain · error|` is negative although the error
is positive. A cycle that runs ends with the capacity that step left. -/
theorem homeostaticRun_cycle_moves_capacity_away {t₀ : Int} {ops : List HomeostaticOp}
    {s : HomeostaticSystem} (hrun : homeostaticRun (homeostaticSystemCreate t₀) ops = .ok s)
    (a : AutognosisEngine) (hload : 1 / 5 < a.cognitiveLoad ∧ a.cognitiveLoad < 9 / 10) :
    let s₁ := homeostaticUpdateState s (some a)
    Synced s₁ ∧
      (∃ sp ∈ s₁.setpoints, sp.parameterName.str = Names.processingCapacity ∧
        |sp.targetValue - s₁.virtualEngine.processingCapacity| <
          |sp.targetValue - (homeostaticControlLoops s₁).virtualEngine.processingCapacity|) ∧
      ∀ now, s.running = true → s.lastCycle + 1 ≤ now →
        ∃ s', homeostaticSystemCycle s (some a) now = .ok s' ∧
          s'.virtualEngine = (homeostaticControlLoops s₁).virtualEngine := by
  obtain ⟨s', hs', hshape⟩ := (Shape.create t₀).run ops
  obtain rfl : s' = s := Except.ok.inj (hs'.symm.trans hrun)
  dsimp only
  set s₁ := homeostaticUpdateState s' (some a) with hs₁
  have h₁ : Shape s₁ := hshape.updateState (some a)
  have hsync : Synced s₁ := hshape.synced_updateState a
  refine ⟨hsync, ?_, fun now hr ht => ?_⟩
  · obtain ⟨l, sp, hmem, hname, htype, hspname, htarget, hcap⟩ := h₁.controlLoops_capacity
    have hc : s₁.virtualEngine.processingCapacity = 1 - a.cognitiveLoad := rfl
    have hcur : sp.currentValue = s₁.virtualEngine.processingCapacity :=
      Option.some.inj ((hsync _ hmem).symm.trans (controlledVariable_processing _ hname))
    have hgain : 0 < l.gain := h₁.gain l (List.of_mem_zip hmem).1
    have hsignal : feedbackComputeControl l (sp.targetValue - sp.currentValue) < 0 := by
      rw [feedbackComputeControl_negative htype, htarget, hcur, hc]
      exact neg_neg_of_pos (abs_pos.2 (mul_pos hgain (by linarith)).ne')
    have hlo : (1 : ℚ) / 10 < s₁.virtualEngine.processingCapacity := by rw [hc]; linarith
    have hle : s₁.virtualEngine.processingCapacity ≤ 1 := by rw [hc]; linarith
    have hlt := nudge_lt hlo hle hsignal (by norm_num : (0 : ℚ) < 1 / 10)
    have hpos : 0 < sp.targetValue - s₁.virtualEngine.processingCapacity := by
      rw [htarget, hc]; linarith
    refine ⟨sp, (List.of_mem_zip hmem).2, hspname, ?_⟩
    rw [hcap]
    exact (abs_of_pos hpos).trans_lt (lt_of_lt_of_le (by linarith) (le_abs_self _))
  · exact (hshape.cycle_eq (some a) hr ht).imp fun _ h => ⟨h.1, h.2.2⟩

/-- The theorem at a fresh system started at time `0`, with an autognosis engine that has
handled five hive messages, whose cognitive load is therefore `1/2`: the cycle reads the
capacity as `1/2` and the control step lowers it to `47/100`. -/
theorem homeostaticRun_cycle_moves_capacity_away_at_half :
    homeostaticRun (homeostaticSystemCreate 0) [.start 0] =
        .ok (homeostaticSystemStart (homeostaticSystemCreate 0) 0) ∧
      (1 / 5 < (autognosisProcessHiveMessage^[5] (autognosisCreate 0)).cognitiveLoad ∧
        (autognosisProcessHiveMessage^[5] (autognosisCreate 0)).cognitiveLoad < 9 / 10) ∧
      let s := homeostaticSystemStart (homeostaticSystemCreate 0) 0
      let s₁ := homeostaticUpdateState s (some (autognosisProcessHiveMessage^[5] (autognosisCreate 0)))
      Synced s₁ ∧
        (∃ sp ∈ s₁.setpoints, sp.parameterName.str = Names.processingCapacity ∧
          |sp.targetValue - s₁.virtualEngine.processingCapacity| <
            |sp.targetValue - (homeostaticControlLoops s₁).virtualEngine.processingCapacity|) ∧
        ∀ now, s.running = true → s.lastCycle + 1 ≤ now →
          ∃ s', homeostaticSystemCycle s
            (some (autognosisProcessHiveMessage^[5] (autognosisCreate 0))) now = .ok s' ∧
            s'.virtualEngine = (homeostaticControlLoops s₁).virtualEngine := by
  have hrun : homeostaticRun (homeostaticSystemCreate 0) [.start 0] =
      .ok (homeostaticSystemStart (homeostaticSystemCreate 0) 0) := rfl
  have hload : 1 / 5 < (autognosisProcessHiveMessage^[5] (autognosisCreate 0)).cognitiveLoad ∧
      (autognosisProcessHiveMessage^[5] (autognosisCreate 0)).cognitiveLoad < 9 / 10 := by
    norm_num [Function.iterate_succ_apply', autognosisProcessHiveMessage, processNetworkEvents,
      autognosisCreate, healingAddRule]
  exact ⟨hrun, hload, homeostaticRun_cycle_moves_capacity_away hrun _ hload⟩

end Hivecog
