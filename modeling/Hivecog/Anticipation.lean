import Hivecog.Homeostatic

/-!
# Homeostatic images, anticipatory actions and predictive models

The parts of `feedforward_autopoiesis.c` the self-maintenance system is built from.

A homeostatic image projects the virtual engine some cycles ahead: every projection is the
current value damped by `expf(-cycles_ahead / 1000)`, and the projection lands in the short,
medium or long term slot by `cycles_ahead ≤ 10`, `≤ 100` or more. An image projected at most
`100` cycles ahead keeps its long term slot (`homeostaticImageProject_longTermProjection`).

An anticipatory action fires when the condition reaches its trigger threshold and the
confidence its required confidence; `anticipatory_action_learn` moves its success rate and
average effectiveness towards the effectiveness observed, and strengthens or weakens it,
lowering or raising the confidence it requires. Every action keeps its strength in
`[0.1, 1]`, its required confidence in `[0.1, 0.95]` and its rates in `[0, 1]`
(`ActionBounds`).

A predictive model holds three coefficients, which no call adds or removes
(`PredictiveModel.coefficients_length`). Training makes ten passes of one gradient step per
sample on the first coefficient and the bias. On a linear model and one sample `(x, y)`, each
step multiplies the residual by `1 - (1 + x²) / 100`, so ten passes multiply it by the tenth
power (`predictiveModelTrain_linear_residual`): the residual shrinks for `x² < 199` and grows
for `x² > 199`.
-/

namespace Hivecog

namespace Names

def stabilityPredictor : CStr := .ascii "stability_predictor" (by decide)
def performancePredictor : CStr := .ascii "performance_predictor" (by decide)
def healthPredictor : CStr := .ascii "health_predictor" (by decide)
def performance : CStr := .ascii "performance" (by decide)
def entropy : CStr := .ascii "entropy" (by decide)

end Names

/-! ## Homeostatic images -/

/-- `homeostatic_image_t`, without the name, the timestamps and the link, which no modelled
function reads. -/
structure HomeostaticImage where
  stabilityProjection : ℚ
  healthProjection : ℚ
  performanceProjection : ℚ
  resilienceProjection : ℚ
  entropyProjection : ℚ
  shortTermProjection : ℚ
  mediumTermProjection : ℚ
  longTermProjection : ℚ
  projectionConfidence : ℚ
  uncertaintyBound : ℚ

/-- `homeostatic_image_create`. -/
def homeostaticImageCreate : HomeostaticImage :=
  ⟨1 / 2, 1 / 2, 1 / 2, 1 / 2, 1 / 2, 1 / 2, 1 / 2, 1 / 2, 1 / 2, 1 / 5⟩

/-- The decay factor `expf(-time_factor * 0.1f)` of a projection `cycles_ahead` cycles ahead. -/
def decayFactor (m : LibM) (cyclesAhead : UInt32) : ℚ :=
  m.expf (-((cyclesAhead.toNat : ℚ) / 100) * (1 / 10))

/-- `homeostatic_image_project(image, current_state, cycles_ahead)`. -/
def homeostaticImageProject (m : LibM) (image : HomeostaticImage) (v : VirtualEngineState)
    (cyclesAhead : UInt32) : HomeostaticImage :=
  let timeFactor : ℚ := (cyclesAhead.toNat : ℚ) / 100
  let decay := decayFactor m cyclesAhead
  let stability := v.stabilityIndex * decay
  let performance := (v.processingCapacity + (1 - v.memoryUtilization) + v.networkBandwidth +
    v.energyLevel + v.stabilityIndex) / 5 * decay
  let image := { image with
    stabilityProjection := stability
    healthProjection := (v.energyLevel + v.stabilityIndex) * (1 / 2) * decay
    performanceProjection := performance
    resilienceProjection :=
      if v.stabilityIndex > 7 / 10 then min 1 (image.resilienceProjection + 1 / 100)
      else image.resilienceProjection * decay
    entropyProjection := 1 - stability
    uncertaintyBound := 1 / 10 + timeFactor * (3 / 10) }
  if cyclesAhead ≤ 10 then
    { image with shortTermProjection := performance, projectionConfidence := 9 / 10 }
  else if cyclesAhead ≤ 100 then
    { image with mediumTermProjection := performance, projectionConfidence := 7 / 10 }
  else { image with longTermProjection := performance, projectionConfidence := 2 / 5 }

/-- `homeostatic_image_update_confidence(image, actual_outcome)`. -/
def homeostaticImageUpdateConfidence (image : HomeostaticImage) (actualOutcome : ℚ) :
    HomeostaticImage :=
  let predictionError := |image.performanceProjection - actualOutcome|
  let accuracy := 1 - min 1 predictionError
  { image with
    projectionConfidence := 9 / 10 * image.projectionConfidence + 1 / 10 * accuracy
    uncertaintyBound := 4 / 5 * image.uncertaintyBound + 1 / 5 * predictionError }

theorem decayFactor_nonneg (m : LibM) (n : UInt32) : 0 ≤ decayFactor m n := m.expf_nonneg _

theorem decayFactor_le_one (m : LibM) (n : UInt32) : decayFactor m n ≤ 1 :=
  m.expf_le_one _ (mul_nonpos_of_nonpos_of_nonneg
    (neg_nonpos.2 (div_nonneg (Nat.cast_nonneg _) (by norm_num))) (by norm_num))

/-- A projection at most `100` cycles ahead leaves the long term slot as it was. -/
theorem homeostaticImageProject_longTermProjection (m : LibM) (image : HomeostaticImage)
    (v : VirtualEngineState) {n : UInt32} (hn : n ≤ 100) :
    (homeostaticImageProject m image v n).longTermProjection = image.longTermProjection := by
  unfold homeostaticImageProject
  split_ifs <;> rfl

/-- A projection at most `100` cycles ahead claims a confidence of `0.9` or `0.7`. -/
theorem homeostaticImageProject_projectionConfidence (m : LibM) (image : HomeostaticImage)
    (v : VirtualEngineState) {n : UInt32} (hn : n ≤ 100) :
    (homeostaticImageProject m image v n).projectionConfidence = 9 / 10 ∨
      (homeostaticImageProject m image v n).projectionConfidence = 7 / 10 := by
  unfold homeostaticImageProject
  split_ifs <;> simp only [true_or, or_true]

theorem homeostaticImageProject_resilienceProjection_eq (m : LibM) (image : HomeostaticImage)
    (v : VirtualEngineState) (n : UInt32) :
    (homeostaticImageProject m image v n).resilienceProjection =
      if v.stabilityIndex > 7 / 10 then min 1 (image.resilienceProjection + 1 / 100)
      else image.resilienceProjection * decayFactor m n := by
  unfold homeostaticImageProject
  split_ifs <;> rfl

/-- Projected from a fresh image, the resilience lies in `[0, 0.51]`: one projection adds
`0.01` to `0.5`, or damps it. -/
theorem homeostaticImageProject_resilienceProjection (m : LibM) (v : VirtualEngineState)
    (n : UInt32) :
    let r := (homeostaticImageProject m homeostaticImageCreate v n).resilienceProjection
    0 ≤ r ∧ r ≤ 51 / 100 := by
  have h₀ := decayFactor_nonneg m n
  have h₁ := decayFactor_le_one m n
  simp only [homeostaticImageProject_resilienceProjection_eq, homeostaticImageCreate]
  split_ifs
  · norm_num
  · constructor <;> linarith

/-- `homeostatic_image_update_confidence` keeps the confidence in `[0, 1]` and the
uncertainty non-negative. -/
theorem homeostaticImageUpdateConfidence_bounds {image : HomeostaticImage}
    (hc : 0 ≤ image.projectionConfidence ∧ image.projectionConfidence ≤ 1)
    (hu : 0 ≤ image.uncertaintyBound) (actualOutcome : ℚ) :
    let image' := homeostaticImageUpdateConfidence image actualOutcome
    (0 ≤ image'.projectionConfidence ∧ image'.projectionConfidence ≤ 1) ∧
      0 ≤ image'.uncertaintyBound := by
  have he := abs_nonneg (image.performanceProjection - actualOutcome)
  have hm₁ := min_le_left 1 |image.performanceProjection - actualOutcome|
  have hm₀ := le_min zero_le_one he
  simp only [homeostaticImageUpdateConfidence]
  refine ⟨⟨?_, ?_⟩, ?_⟩ <;> linarith [hc.1, hc.2]

/-! ## Anticipatory actions -/

/-- `anticipatory_action_t`, without the id, the name, the type, the trigger text, the
duration, the cost, the timestamp and the link: the type and the name are read only by the
messages `prepare_action` and `execute_action` print, the others by no function. -/
structure AnticipatoryAction where
  triggerThreshold : ℚ
  confidenceRequired : ℚ
  actionStrength : ℚ
  expectedBenefit : ℚ
  executionCount : UInt32
  successRate : ℚ
  averageEffectiveness : ℚ

/-- `anticipatory_action_create`. -/
def anticipatoryActionCreate : AnticipatoryAction :=
  ⟨1 / 2, 7 / 10, 1 / 2, 3 / 10, 0, 1 / 2, 1 / 2⟩

/-- `anticipatory_action_should_trigger(action, condition_value, confidence)`. -/
def anticipatoryActionShouldTrigger (a : AnticipatoryAction) (conditionValue confidence : ℚ) :
    Bool :=
  decide (conditionValue ≥ a.triggerThreshold) && decide (confidence ≥ a.confidenceRequired)

/-- `anticipatory_action_execute`: `prepare_action` and `execute_action` only print, and the
timestamp is not modelled. -/
def anticipatoryActionExecute (a : AnticipatoryAction) : AnticipatoryAction :=
  { a with executionCount := a.executionCount + 1 }

/-- `anticipatory_monitor_results_impl`, with `draw` the value of `(float)rand() / RAND_MAX`:
the average effectiveness with noise, clamped to `[0, 1]`. -/
def anticipatoryMonitorResults (a : AnticipatoryAction) (draw : ℚ) : ℚ :=
  clampUnit (a.averageEffectiveness + (draw - 1 / 2) * (1 / 5))

/-- `anticipatory_action_learn(action, effectiveness)`. -/
def anticipatoryActionLearn (a : AnticipatoryAction) (effectiveness : ℚ) : AnticipatoryAction :=
  let successRate :=
    if effectiveness > 7 / 10 then 9 / 10 * a.successRate + 1 / 10 * 1
    else 9 / 10 * a.successRate + 1 / 10 * 0
  let averageEffectiveness := 4 / 5 * a.averageEffectiveness + 1 / 5 * effectiveness
  let strength :=
    if effectiveness > 4 / 5 then a.actionStrength * (21 / 20)
    else if effectiveness < 3 / 10 then a.actionStrength * (9 / 10)
    else a.actionStrength
  let confidence :=
    if effectiveness > 4 / 5 then a.confidenceRequired * (19 / 20)
    else if effectiveness < 3 / 10 then a.confidenceRequired * (21 / 20)
    else a.confidenceRequired
  let strength := if strength > 1 then 1 else strength
  let strength := if strength < 1 / 10 then 1 / 10 else strength
  let confidence := if confidence > 19 / 20 then 19 / 20 else confidence
  let confidence := if confidence < 1 / 10 then 1 / 10 else confidence
  { a with
    successRate := successRate
    averageEffectiveness := averageEffectiveness
    actionStrength := strength
    confidenceRequired := confidence }

/-- An upper then a lower clamp, as `anticipatory_action_learn` writes them, lands in
`[lo, hi]`. -/
theorem clamp_mem {lo hi : ℚ} (h : lo ≤ hi) (x : ℚ) :
    lo ≤ (if (if x > hi then hi else x) < lo then lo else if x > hi then hi else x) ∧
      (if (if x > hi then hi else x) < lo then lo else if x > hi then hi else x) ≤ hi := by
  split_ifs <;> constructor <;> linarith

/-- The ranges every action keeps: strength in `[0.1, 1]`, required confidence in
`[0.1, 0.95]`, expected benefit, success rate and average effectiveness in `[0, 1]`. -/
structure ActionBounds (a : AnticipatoryAction) : Prop where
  strength : 1 / 10 ≤ a.actionStrength ∧ a.actionStrength ≤ 1
  confidence : 1 / 10 ≤ a.confidenceRequired ∧ a.confidenceRequired ≤ 19 / 20
  benefit : 0 ≤ a.expectedBenefit ∧ a.expectedBenefit ≤ 1
  successRate : 0 ≤ a.successRate ∧ a.successRate ≤ 1
  effectiveness : 0 ≤ a.averageEffectiveness ∧ a.averageEffectiveness ≤ 1

namespace ActionBounds

theorem create (threshold : ℚ) :
    ActionBounds { anticipatoryActionCreate with triggerThreshold := threshold } := by
  constructor <;> simp only [anticipatoryActionCreate] <;> norm_num

variable {a : AnticipatoryAction}

theorem execute (h : ActionBounds a) : ActionBounds (anticipatoryActionExecute a) :=
  ⟨h.1, h.2, h.3, h.4, h.5⟩

theorem learn (h : ActionBounds a) {e : ℚ} (he : 0 ≤ e ∧ e ≤ 1) :
    ActionBounds (anticipatoryActionLearn a e) where
  strength := clamp_mem (by norm_num) _
  confidence := clamp_mem (by norm_num) _
  benefit := h.benefit
  successRate := by
    have := h.successRate
    dsimp only [anticipatoryActionLearn]
    split_ifs <;> constructor <;> linarith
  effectiveness := by
    have := h.effectiveness
    dsimp only [anticipatoryActionLearn]
    constructor <;> linarith

end ActionBounds

theorem anticipatoryMonitorResults_mem (a : AnticipatoryAction) (draw : ℚ) :
    0 ≤ anticipatoryMonitorResults a draw ∧ anticipatoryMonitorResults a draw ≤ 1 :=
  ⟨clampUnit_nonneg _, clampUnit_le_one _⟩

/-- An action that requires more confidence than `confidence` does not fire. -/
theorem anticipatoryActionShouldTrigger_of_lt {a : AnticipatoryAction} {confidence : ℚ}
    (h : confidence < a.confidenceRequired) (conditionValue : ℚ) :
    anticipatoryActionShouldTrigger a conditionValue confidence = false := by
  simp [anticipatoryActionShouldTrigger, not_le.2 h]

@[simp]
theorem anticipatoryActionExecute_confidenceRequired (a : AnticipatoryAction) :
    (anticipatoryActionExecute a).confidenceRequired = a.confidenceRequired :=
  rfl

/-- A poor result (below `0.3`) raises the required confidence by `5%`, up to its cap `0.95`. -/
theorem anticipatoryActionLearn_confidenceRequired_of_poor {a : AnticipatoryAction} {e : ℚ}
    (he : e < 3 / 10) (hlo : 1 / 10 ≤ a.confidenceRequired) :
    (anticipatoryActionLearn a e).confidenceRequired =
      min (a.confidenceRequired * (21 / 20)) (19 / 20) := by
  have hlo' : 1 / 10 ≤ a.confidenceRequired * (21 / 20) :=
    hlo.trans (le_mul_of_one_le_right ((by norm_num1 : (0 : ℚ) ≤ 1 / 10).trans hlo) (by norm_num1))
  simp only [anticipatoryActionLearn, if_neg (not_lt.2 (he.le.trans (by norm_num1 : (3 : ℚ) / 10 ≤ 4 / 5))),
    if_pos he]
  rcases le_or_lt (a.confidenceRequired * (21 / 20)) (19 / 20) with h | h
  · rw [min_eq_left h, if_neg (not_lt.2 h), if_neg (not_lt.2 hlo')]
  · rw [min_eq_right h.le, if_pos h, if_neg (by norm_num1)]

/-- A run of poor results, each learned after the action fired: the required confidence grows
by `5%` a result up to its cap `0.95`, whatever it started from within its bounds. From the
`0.7` of `anticipatory_action_create`, the third poor result takes it past the `0.8` the
self-maintenance cycle offers, and the action never fires again. -/
theorem anticipatoryActionLearn_poor_run {a : AnticipatoryAction}
    (hlo : 1 / 10 ≤ a.confidenceRequired) (hhi : a.confidenceRequired ≤ 19 / 20) (es : List ℚ)
    (hes : ∀ e ∈ es, e < 3 / 10) :
    (es.foldl (fun a e => anticipatoryActionLearn (anticipatoryActionExecute a) e) a).confidenceRequired =
      min (a.confidenceRequired * (21 / 20) ^ es.length) (19 / 20) := by
  induction es generalizing a with
  | nil => simp only [List.foldl_nil, List.length_nil, pow_zero, mul_one, min_eq_left hhi]
  | cons e es ih =>
    have hc := anticipatoryActionLearn_confidenceRequired_of_poor (a := anticipatoryActionExecute a)
      (hes e (List.mem_cons_self _ _)) hlo
    rw [anticipatoryActionExecute_confidenceRequired] at hc
    have hlo' : 1 / 10 ≤ a.confidenceRequired * (21 / 20) :=
      hlo.trans (le_mul_of_one_le_right ((by norm_num1 : (0 : ℚ) ≤ 1 / 10).trans hlo) (by norm_num1))
    rw [List.foldl_cons, ih (hc ▸ le_min hlo' (by norm_num1)) (hc ▸ min_le_right _ _)
      fun e he => hes e (List.mem_cons_of_mem _ he), hc,
      min_min_mul_of_one_le (one_le_pow₀ (by norm_num1)) (by norm_num1), List.length_cons,
      pow_succ', mul_assoc]

/-- The actions of `self_maintenance_create`, with three results of the worst effectiveness:
the required confidence goes `0.735`, `0.772`, `0.810`. -/
theorem anticipatoryActionLearn_poor_run_create :
    1 / 10 ≤ anticipatoryActionCreate.confidenceRequired ∧
      anticipatoryActionCreate.confidenceRequired ≤ 19 / 20 ∧ (∀ e ∈ [(0 : ℚ), 0, 0], e < 3 / 10) ∧
      ([(0 : ℚ), 0, 0].foldl (fun a e => anticipatoryActionLearn (anticipatoryActionExecute a) e)
          anticipatoryActionCreate).confidenceRequired =
        min (anticipatoryActionCreate.confidenceRequired * (21 / 20) ^ [(0 : ℚ), 0, 0].length)
          (19 / 20) :=
  have hc : anticipatoryActionCreate.confidenceRequired = 7 / 10 := rfl
  have hlo : 1 / 10 ≤ anticipatoryActionCreate.confidenceRequired := hc ▸ by norm_num1
  have hhi : anticipatoryActionCreate.confidenceRequired ≤ 19 / 20 := hc ▸ by norm_num1
  have hes : ∀ e ∈ [(0 : ℚ), 0, 0], e < 3 / 10 := fun e he => by
    simp only [List.mem_cons, List.not_mem_nil, or_false, or_self] at he
    rw [he]
    norm_num1
  ⟨hlo, hhi, hes, anticipatoryActionLearn_poor_run hlo hhi _ hes⟩

/-! ## Predictive models -/

/-- `prediction_model_type_t`. -/
inductive PredictionModelType
  | linear
  | exponential
  | oscillatory
  | chaotic
  | neural
  | ensemble
deriving DecidableEq, Repr

/-- `M_PI`. -/
def mPi : ℚ := 3.14159265358979323846

/-- `predictive_model_t`, without the correlation, the training buffers, the timestamp and
the link, which no function reads. The coefficient array has `coefficient_count = 3`
entries, which no function changes. -/
structure PredictiveModel where
  type : PredictionModelType
  targetParameter : CBuf 64
  coefficients : List ℚ
  coefficients_length : coefficients.length = 3
  bias : ℚ
  variance : ℚ
  rSquared : ℚ

/-- `coefficients[i]`. -/
def PredictiveModel.coeff (model : PredictiveModel) (i : Fin 3) : ℚ :=
  model.coefficients.get (i.cast model.coefficients_length.symm)

/-- `predictive_model_create(type, target)`, with `draw i` the `i`-th value of
`(float)rand() / RAND_MAX` it takes. -/
def predictiveModelCreate (type : PredictionModelType) (target : CStr) (draw : Nat → ℚ) :
    PredictiveModel where
  type := type
  targetParameter := strncpy 63 target
  coefficients := (List.range 3).map fun i => draw i * (1 / 5) - 1 / 10
  coefficients_length := by simp only [List.length_map, List.length_range]
  bias := 0
  variance := 1 / 10
  rSquared := 0

/-- The loop `for i < fminf(input_count, n)` adding `coefficients[i] * f(inputs[i])`. -/
def weightedSum (f : ℚ → ℚ) (coefficients inputs : List ℚ) : ℚ :=
  (List.zipWith (fun c x => c * f x) coefficients inputs).sum

/-- `predictive_model_predict_impl(model, inputs, input_count)`, the inputs as a list. -/
def predictiveModelPredict (m : LibM) (model : PredictiveModel) (inputs : List ℚ) : ℚ :=
  match model.type with
  | .linear => model.bias + weightedSum id model.coefficients inputs
  | .exponential => model.bias + weightedSum m.expf model.coefficients inputs
  | .oscillatory =>
    model.bias + weightedSum (fun x => m.sinf (x * 2 * mPi)) model.coefficients inputs
  | .chaotic =>
    match inputs with
    | x :: _ => model.coeff 0 * x * (1 - x)
    | [] => model.bias
  | .neural =>
    let hidden := weightedSum id (model.coefficients.take 2) inputs
    model.coeff 2 * m.tanhf hidden
  | .ensemble =>
    let x := inputs.headD 0
    (model.coeff 0 * x + model.coeff 1 * m.expf x) / 2

/-- One step of the inner loop of `predictive_model_train_impl`, on the sample
`(inputs[sample], outputs[sample])`: the coefficient loop `i < coefficient_count && i < 1`
updates `coefficients[0]` only. -/
def trainSample (m : LibM) (model : PredictiveModel) (sample : ℚ × ℚ) : PredictiveModel :=
  let learningRate : ℚ := 1 / 100
  let error := sample.2 - predictiveModelPredict m model [sample.1]
  { model with
    coefficients := model.coefficients.modifyHead (· + learningRate * error * sample.1)
    coefficients_length := by rw [List.length_modifyHead, model.coefficients_length]
    bias := model.bias + learningRate * error }

/-- One epoch: every sample in order. -/
def trainEpoch (m : LibM) (samples : List (ℚ × ℚ)) (model : PredictiveModel) : PredictiveModel :=
  samples.foldl (trainSample m) model

/-- `predictive_model_train_impl(model, inputs, outputs, data_size)`: ten epochs, nothing
for `data_size = 0`. -/
def predictiveModelTrain (m : LibM) (model : PredictiveModel) (samples : List (ℚ × ℚ)) :
    PredictiveModel :=
  if samples = [] then model else (trainEpoch m samples)^[10] model

/-- `predictive_model_validate_impl(model, test_inputs, test_outputs, test_size)`. -/
def predictiveModelValidate (m : LibM) (model : PredictiveModel) (tests : List (ℚ × ℚ)) :
    PredictiveModel :=
  if tests = [] then model
  else
    let n : ℚ := tests.length
    let meanOutput := (tests.map Prod.snd).sum / n
    let errors := tests.map fun t => t.2 - predictiveModelPredict m model [t.1]
    let totalError := (errors.map abs).sum
    let ssRes := (errors.map fun e => e * e).sum
    let ssTot := (tests.map fun t => (t.2 - meanOutput) * (t.2 - meanOutput)).sum
    { model with variance := totalError / n, rSquared := 1 - ssRes / (ssTot + 1 / 1000) }

@[simp] theorem trainSample_type (m : LibM) (model : PredictiveModel) (s : ℚ × ℚ) :
    (trainSample m model s).type = model.type := rfl

theorem trainEpoch_singleton (m : LibM) (s : ℚ × ℚ) (model : PredictiveModel) :
    trainEpoch m [s] model = trainSample m model s := rfl

theorem List.headD_modifyHead {cs : List ℚ} (h : cs ≠ []) (f : ℚ → ℚ) :
    (cs.modifyHead f).headD 0 = f (cs.headD 0) := by
  cases cs with
  | nil => exact absurd rfl h
  | cons c cs => rfl

/-- What no gradient step changes, no number of epochs changes. -/
theorem iterate_trainEpoch_eq {β : Type} (m : LibM) (g : PredictiveModel → β)
    (hg : ∀ model s, g (trainSample m model s) = g model) (samples : List (ℚ × ℚ)) :
    ∀ (n : Nat) (model : PredictiveModel), g ((trainEpoch m samples)^[n] model) = g model := by
  have epoch : ∀ model, g (trainEpoch m samples model) = g model := by
    unfold trainEpoch
    induction samples with
    | nil => intro; rfl
    | cons s samples ih => intro model; exact (ih _).trans (hg model s)
  intro n
  induction n with
  | zero => intro; rfl
  | succ n ih => intro model; rw [Function.iterate_succ_apply, ih, epoch]

@[simp] theorem predictiveModelTrain_type (m : LibM) (model : PredictiveModel)
    (samples : List (ℚ × ℚ)) : (predictiveModelTrain m model samples).type = model.type := by
  unfold predictiveModelTrain
  split
  · rfl
  · exact iterate_trainEpoch_eq m PredictiveModel.type (fun _ _ => rfl) samples 10 model

@[simp] theorem predictiveModelTrain_targetParameter (m : LibM) (model : PredictiveModel)
    (samples : List (ℚ × ℚ)) :
    (predictiveModelTrain m model samples).targetParameter = model.targetParameter := by
  unfold predictiveModelTrain
  split
  · rfl
  · exact iterate_trainEpoch_eq m PredictiveModel.targetParameter (fun _ _ => rfl) samples 10 model

theorem weightedSum_singleton (f : ℚ → ℚ) {cs : List ℚ} (h : cs ≠ []) (x : ℚ) :
    weightedSum f cs [x] = cs.headD 0 * f x := by
  cases cs with
  | nil => exact absurd rfl h
  | cons c cs => simp only [weightedSum, List.zipWith_cons_cons, List.zipWith_nil_right,
      List.sum_cons, List.sum_nil, add_zero, List.headD_cons]

theorem PredictiveModel.coefficients_ne_nil (model : PredictiveModel) : model.coefficients ≠ [] :=
  List.ne_nil_of_length_pos (by rw [model.coefficients_length]; norm_num)

/-- A linear model's prediction on one input. -/
theorem predictiveModelPredict_linear (m : LibM) {model : PredictiveModel}
    (h : model.type = .linear) (x : ℚ) :
    predictiveModelPredict m model [x] = model.bias + model.coefficients.headD 0 * x := by
  simp only [predictiveModelPredict, h, weightedSum_singleton id model.coefficients_ne_nil, id]

/-- One gradient step on a linear model multiplies the residual at its sample by
`1 - (1 + x²) / 100`. -/
theorem trainSample_linear_residual (m : LibM) {model : PredictiveModel}
    (h : model.type = .linear) (x y : ℚ) :
    y - predictiveModelPredict m (trainSample m model (x, y)) [x] =
      (1 - (1 + x ^ 2) / 100) * (y - predictiveModelPredict m model [x]) := by
  rw [predictiveModelPredict_linear m (by rwa [trainSample_type]),
    predictiveModelPredict_linear m h]
  simp only [trainSample, List.headD_modifyHead model.coefficients_ne_nil,
    predictiveModelPredict_linear m h]
  ring

/-- Training a linear model on one sample `(x, y)` multiplies the residual at `x` by
`(1 - (1 + x²) / 100) ^ 10`: it shrinks when `x² < 199`, and for `x² > 199` every pass
overshoots and the error grows. -/
theorem predictiveModelTrain_linear_residual (m : LibM) (model : PredictiveModel)
    (h : model.type = .linear) (x y : ℚ) :
    y - predictiveModelPredict m (predictiveModelTrain m model [(x, y)]) [x] =
      (1 - (1 + x ^ 2) / 100) ^ 10 * (y - predictiveModelPredict m model [x]) := by
  have key : ∀ n (model : PredictiveModel), model.type = .linear →
      y - predictiveModelPredict m ((trainEpoch m [(x, y)])^[n] model) [x] =
        (1 - (1 + x ^ 2) / 100) ^ n * (y - predictiveModelPredict m model [x]) := by
    intro n
    induction n with
    | zero => intro model _; rw [pow_zero, one_mul]; rfl
    | succ n ih =>
      intro model hm
      rw [Function.iterate_succ_apply, trainEpoch_singleton, ih _ (by rwa [trainSample_type]),
        trainSample_linear_residual m hm]
      ring
  simp only [predictiveModelTrain, List.cons_ne_nil, ite_false]
  exact key 10 model h

/-- The theorem on the stability model `self_maintenance_create` builds with every draw at
`0.5`, trained on `(0.9, 0.855)` as `self_maintenance_update_models_impl` does at a stability
index of `0.9`. -/
theorem predictiveModelTrain_linear_residual_stability :
    (predictiveModelCreate .linear Names.stability fun _ => 1 / 2).type = .linear ∧
      19 / 20 * (9 / 10) - predictiveModelPredict LibM.approx
          (predictiveModelTrain LibM.approx (predictiveModelCreate .linear Names.stability
            fun _ => 1 / 2) [(9 / 10, 19 / 20 * (9 / 10))]) [9 / 10] =
        (1 - (1 + (9 / 10) ^ 2) / 100) ^ 10 * (19 / 20 * (9 / 10) - predictiveModelPredict
          LibM.approx (predictiveModelCreate .linear Names.stability fun _ => 1 / 2) [9 / 10]) :=
  ⟨rfl, predictiveModelTrain_linear_residual LibM.approx _ rfl _ _⟩

/-- `predictive_model_validate` leaves `r_squared` at most `1` and the variance non-negative. -/
theorem predictiveModelValidate_bounds (m : LibM) {model : PredictiveModel}
    (hv : 0 ≤ model.variance) (hr : model.rSquared ≤ 1) (tests : List (ℚ × ℚ)) :
    0 ≤ (predictiveModelValidate m model tests).variance ∧
      (predictiveModelValidate m model tests).rSquared ≤ 1 := by
  unfold predictiveModelValidate
  split
  · exact ⟨hv, hr⟩
  · refine ⟨div_nonneg (List.sum_nonneg ?_) (Nat.cast_nonneg _), sub_le_self _ (div_nonneg
      (List.sum_nonneg ?_) (add_nonneg (List.sum_nonneg ?_) (by norm_num)))⟩ <;>
    · intro e he
      obtain ⟨t, -, rfl⟩ := List.mem_map.1 he
      first | exact abs_nonneg _ | exact mul_self_nonneg _

end Hivecog
