import Hivecog.Feedforward
import Mathlib.Tactic.LinearCombination

/-!
# The equilibrium detector

`equilibrium_detector_t` of `homeostatic_feedback.c` keeps a ring buffer of recent values as
the feedforward engine does. `equilibrium_detector_create(history_size)` allocates
`history_size` zeroed floats without checking the size. `equilibrium_detector_update`
writes the slot `buffer_index`, advances the index modulo the size and runs
`equilibrium_analyze_dynamics_impl`, which, for at least two slots, computes the mean and
the variance of the buffer and the slope of a least-squares line through it.
`equilibrium_detector_check` reads the latest value and compares the variance with the
threshold. Every `%`, division and buffer access is checked (`Basic`).

* For every size `N ≥ 1` a run of `update`, `check` and `analyze` calls faults nowhere
  (`detectorRun_safe`). The slope's denominator `n Σ x² - (Σ x)² + 0.001` is positive
  because `n Σ i² - (Σ i)² = n² (n² - 1) / 12` over `i < n` (`foldl_regressionStep`).
* Size `0` faults in the first call of either buffer, and size `1` in the feedforward
  engine's `predict`, which divides by `half_size = 0` (`historySize_small_faults`).
-/

namespace Hivecog

/-- `equilibrium_detector_t`, reduced to the fields the modelled functions read or write.
The settling time, the overshoot limit and the periodicity are written only by the
constructor. -/
structure EquilibriumDetector where
  stabilityThreshold : ℚ
  oscillationDamping : ℚ
  historyBuffer : List ℚ
  bufferSize : UInt32
  bufferIndex : UInt32
  variance : ℚ
  trend : ℚ

/-- `equilibrium_detector_create`, with the allocation taken to succeed as for
`feedforwardEngineCreate`. -/
def equilibriumDetectorCreate (historySize : UInt32) : EquilibriumDetector where
  stabilityThreshold := 1 / 20
  oscillationDamping := 1 / 10
  historyBuffer := List.replicate historySize.toNat 0
  bufferSize := historySize
  bufferIndex := 0
  variance := 0
  trend := 0

/-- A loop over `i < n` that reads `buf[i]` once per step and folds it into an
accumulator: the shape of the three loops of `equilibrium_analyze_dynamics_impl`. -/
def readLoop {β : Type} (buf : List ℚ) (n : UInt32) (step : β → Nat → ℚ → β) (init : β) :
    Except Fault β :=
  (List.range n.toNat).foldlM (fun acc i => step acc i <$> load buf i.toUInt32) init

/-- The body of the regression loop: `x = (float)i` and `y = buffer[i]` added to
`(sum_x, sum_y, sum_xy, sum_xx)`. -/
def regressionStep (s : ℚ × ℚ × ℚ × ℚ) (i : Nat) (y : ℚ) : ℚ × ℚ × ℚ × ℚ :=
  let x : ℚ := i
  (s.1 + x, s.2.1 + y, s.2.2.1 + x * y, s.2.2.2 + x * x)

/-- `equilibrium_analyze_dynamics_impl`. -/
def equilibriumAnalyzeDynamics (d : EquilibriumDetector) : Except Fault EquilibriumDetector :=
  if d.bufferSize < 2 then pure d else do
    let total ← readLoop d.historyBuffer d.bufferSize (fun mean _ y => mean + y) 0
    let mean ← fdiv total d.bufferSize.toNat
    let squares ← readLoop d.historyBuffer d.bufferSize
      (fun variance _ y => variance + (y - mean) * (y - mean)) 0
    let variance ← fdiv squares d.bufferSize.toNat
    let s ← readLoop d.historyBuffer d.bufferSize regressionStep (0, 0, 0, 0)
    let n : ℚ := d.bufferSize.toNat
    let trend ← fdiv (n * s.2.2.1 - s.1 * s.2.1) (n * s.2.2.2 - s.1 * s.1 + 1 / 1000)
    pure { d with variance := variance, trend := trend }

/-- `equilibrium_detector_update`. -/
def equilibriumDetectorUpdate (d : EquilibriumDetector) (value : ℚ) :
    Except Fault EquilibriumDetector := do
  let historyBuffer ← store d.historyBuffer d.bufferIndex value
  let bufferIndex ← umod (d.bufferIndex + 1) d.bufferSize
  equilibriumAnalyzeDynamics { d with historyBuffer := historyBuffer, bufferIndex := bufferIndex }

/-- `equilibrium_detector_check`: it reads the latest value, which `equilibrium_detect_impl`
ignores, and reports whether the variance is below the threshold. -/
def equilibriumDetectorCheck (d : EquilibriumDetector) : Except Fault Bool := do
  let latest ← umod (d.bufferIndex - 1 + d.bufferSize) d.bufferSize
  let _ ← load d.historyBuffer latest
  pure (decide (d.variance < d.stabilityThreshold))

/-- `equilibrium_adjust_damping_impl`. -/
def equilibriumAdjustDamping (d : EquilibriumDetector) (instability : ℚ) : EquilibriumDetector :=
  let damping :=
    if instability > 1 / 2 then d.oscillationDamping + 1 / 100
    else if instability < 1 / 10 then d.oscillationDamping - 1 / 200
    else d.oscillationDamping
  let damping := if damping > 1 / 2 then 1 / 2 else damping
  let damping := if damping < 1 / 100 then 1 / 100 else damping
  { d with oscillationDamping := damping }

/-- A public call on one detector. -/
inductive DetectorOp
  | update (value : ℚ)
  | check
  | analyze

/-- The detector after a call. -/
def DetectorOp.apply (d : EquilibriumDetector) : DetectorOp → Except Fault EquilibriumDetector
  | update v => equilibriumDetectorUpdate d v
  | check => (fun _ => d) <$> equilibriumDetectorCheck d
  | analyze => equilibriumAnalyzeDynamics d

/-- The detector after a run of calls; the first fault ends the run. -/
def detectorRun (d : EquilibriumDetector) (ops : List DetectorOp) :
    Except Fault EquilibriumDetector :=
  ops.foldlM DetectorOp.apply d

/-! ## The loops of the analysis -/

theorem readLoop_eq {β : Type} {buf : List ℚ} {n : UInt32} (h : buf.length = n.toNat)
    (step : β → Nat → ℚ → β) (init : β) :
    readLoop buf n step init =
      .ok ((List.range n.toNat).foldl (fun acc i => step acc i (buf.getD i 0)) init) := by
  refine foldlM_eq_ok (fun acc i hi => ?_) init
  have hi : i < buf.length := h ▸ List.mem_range.1 hi
  have hread : buf[i.toUInt32.toNat]? = some (buf.getD i 0) := by
    rw [Nat.toUInt32_toNat (by have := n.toNat_lt; omega), List.getD_eq_getElem?_getD,
      List.getElem?_eq_getElem hi]
    rfl
  rw [load_of_getElem? hread]
  rfl

@[simp] theorem regressionStep_sumX (s : ℚ × ℚ × ℚ × ℚ) (i : Nat) (y : ℚ) :
    (regressionStep s i y).1 = s.1 + i := rfl

@[simp] theorem regressionStep_sumXX (s : ℚ × ℚ × ℚ × ℚ) (i : Nat) (y : ℚ) :
    (regressionStep s i y).2.2.2 = s.2.2.2 + i * i := rfl

/-- Over `i < n`, `2 Σ i = n (n - 1)` and `6 Σ i² = n (n - 1) (2 n - 1)`, whatever the
values read. -/
theorem foldl_regressionStep (f : Nat → ℚ) (n : Nat) :
    let s := (List.range n).foldl (fun s i => regressionStep s i (f i)) (0, 0, 0, 0)
    s.1 * 2 = n * (n - 1) ∧ s.2.2.2 * 6 = n * (n - 1) * (2 * n - 1) := by
  induction n with
  | zero => simp
  | succ n ih =>
    obtain ⟨h1, h2⟩ := ih
    simp only [List.range_succ, List.foldl_append, List.foldl_cons, List.foldl_nil,
      regressionStep_sumX, regressionStep_sumXX, Nat.cast_succ]
    exact ⟨by linear_combination h1, by linear_combination h2⟩

/-- The slope's denominator is positive: `n Σ i² - (Σ i)² = n² (n² - 1) / 12 ≥ 0`. -/
theorem regression_denominator_pos (f : Nat → ℚ) (n : Nat) :
    let s := (List.range n).foldl (fun s i => regressionStep s i (f i)) (0, 0, 0, 0)
    0 < (n : ℚ) * s.2.2.2 - s.1 * s.1 + 1 / 1000 := by
  intro s
  obtain ⟨h1, h2⟩ := foldl_regressionStep f n
  have hsq : (n : ℚ) * s.2.2.2 - s.1 * s.1 = n ^ 2 * (n ^ 2 - 1) / 12 := by
    rw [show s.1 = n * (n - 1) / 2 by linarith, show s.2.2.2 = n * (n - 1) * (2 * n - 1) / 6 by
      linarith]
    ring
  have hn : 0 ≤ (n : ℚ) ^ 2 * (n ^ 2 - 1) := by
    rcases Nat.eq_zero_or_pos n with rfl | hn
    · simp
    · have : (1 : ℚ) ≤ n := by exact_mod_cast hn
      exact mul_nonneg (sq_nonneg _) (sub_nonneg.2 (one_le_pow₀ this))
  linarith

theorem UInt32.two_le_toNat_of_not_lt {n : UInt32} (h : ¬ n < 2) : 2 ≤ n.toNat := by
  simp only [UInt32.lt_def, BitVec.lt_def] at h
  exact Nat.le_of_not_lt h

/-- With the buffer the size of its allocation, the analysis faults nowhere and writes only
the variance and the trend. -/
theorem equilibriumAnalyzeDynamics_ok {d : EquilibriumDetector}
    (h : d.historyBuffer.length = d.bufferSize.toNat) :
    ∃ v t, equilibriumAnalyzeDynamics d = .ok { d with variance := v, trend := t } := by
  unfold equilibriumAnalyzeDynamics
  split
  · exact ⟨d.variance, d.trend, rfl⟩
  · rename_i h2
    have hn : ((d.bufferSize.toNat : Nat) : ℚ) ≠ 0 :=
      Nat.cast_ne_zero.2 (by have := UInt32.two_le_toNat_of_not_lt h2; omega)
    have hden := regression_denominator_pos (d.historyBuffer.getD · 0) d.bufferSize.toNat
    simp only [readLoop_eq h, bind, Except.bind, fdiv_of_ne_zero _ hn,
      fdiv_of_ne_zero _ hden.ne']
    exact ⟨_, _, rfl⟩

/-! ## Runs -/

/-- The buffer is the allocation of `bufferSize` floats and the index a slot of it. -/
structure DetectorWF (d : EquilibriumDetector) : Prop where
  length : d.historyBuffer.length = d.bufferSize.toNat
  index : d.bufferIndex.toNat < d.bufferSize.toNat

theorem DetectorWF.create {historySize : UInt32} (h : 0 < historySize.toNat) :
    DetectorWF (equilibriumDetectorCreate historySize) :=
  ⟨List.length_replicate _ _, h⟩

theorem DetectorWF.update {d : EquilibriumDetector} (h : DetectorWF d) (value : ℚ) :
    ∃ d', equilibriumDetectorUpdate d value = .ok d' ∧ DetectorWF d' := by
  have hN : d.bufferSize ≠ 0 := UInt32.ne_zero_of_pos (by have := h.index; omega)
  have hidx := umod_of_ne_zero (d.bufferIndex + 1) hN
  obtain ⟨v, t, hv⟩ := equilibriumAnalyzeDynamics_ok
    (d := { d with historyBuffer := d.historyBuffer.set d.bufferIndex.toNat value,
                   bufferIndex := (d.bufferIndex + 1) % d.bufferSize })
    ((List.length_set _ _ _).trans h.length)
  refine ⟨{ d with historyBuffer := d.historyBuffer.set d.bufferIndex.toNat value,
                   bufferIndex := (d.bufferIndex + 1) % d.bufferSize, variance := v,
                   trend := t }, ?_, (List.length_set _ _ _).trans h.length, toNat_umod_lt hidx⟩
  simp only [equilibriumDetectorUpdate, store_of_lt (h.length ▸ h.index), hidx, bind,
    Except.bind, hv]

theorem DetectorWF.check_ok {d : EquilibriumDetector} (h : DetectorWF d) :
    equilibriumDetectorCheck d = .ok (decide (d.variance < d.stabilityThreshold)) := by
  have hN : d.bufferSize ≠ 0 := UInt32.ne_zero_of_pos (by have := h.index; omega)
  have hl := umod_of_ne_zero (d.bufferIndex - 1 + d.bufferSize) hN
  have hread := load_of_lt (h.length ▸ toNat_umod_lt hl)
  simp only [equilibriumDetectorCheck, hl, hread, bind, Except.bind]
  rfl

theorem DetectorWF.apply {d : EquilibriumDetector} (h : DetectorWF d) (op : DetectorOp) :
    ∃ d', op.apply d = .ok d' ∧ DetectorWF d' := by
  cases op with
  | update v => exact h.update v
  | check => exact ⟨d, by simp only [DetectorOp.apply, h.check_ok]; rfl, h⟩
  | analyze =>
    obtain ⟨v, t, hv⟩ := equilibriumAnalyzeDynamics_ok h.length
    exact ⟨_, hv, h.length, h.index⟩

/-- From any size of at least `1`, a run of `update`, `check` and `analyze` calls performs no
modulus or division by zero and no access outside the buffer. -/
theorem detectorRun_safe (N : UInt32) (hN : 1 ≤ N.toNat) (ops : List DetectorOp) :
    ∃ d, detectorRun (equilibriumDetectorCreate N) ops = .ok d ∧ DetectorWF d :=
  foldlM_invariant DetectorWF (fun _ op h => h.apply op) ops (DetectorWF.create hN)

/-- Three slots, so that every `update` and `analyze` runs the mean, variance and
regression loops, over a buffer that wraps around. -/
theorem detectorRun_safe_three :
    1 ≤ (3 : UInt32).toNat ∧ ∃ d, detectorRun (equilibriumDetectorCreate 3)
      [.update 1, .update 2, .check, .update 4, .update (-1), .analyze, .check] = .ok d ∧
        DetectorWF d :=
  ⟨by decide, detectorRun_safe 3 (by decide) _⟩

/-- Neither constructor checks its size, and the smallest sizes fault: with `0` slots the
first `add_state` or `update` writes outside the buffer and `check` takes `% 0`; with one
slot `feedforward_engine_predict` divides by `half_size = 0`. -/
theorem historySize_small_faults (v : ℚ) (stepsAhead : UInt32) (draw : ℚ) :
    feedforwardRun (feedforwardEngineCreate 0) [.addState v] = .error .outOfBounds ∧
    feedforwardRun (feedforwardEngineCreate 1) [.predict stepsAhead draw] =
      .error .divisionByZero ∧
    detectorRun (equilibriumDetectorCreate 0) [.update v] = .error .outOfBounds ∧
    detectorRun (equilibriumDetectorCreate 0) [.check] = .error .moduloByZero :=
  ⟨rfl, rfl, rfl, rfl⟩

end Hivecog
