import Hivecog.Homeostatic

/-!
# Training sessions and PID tuning

`training_session_run` repeats `training_session_step` while the session is below its
`max_iterations` and has not converged, and stops at the first step that converges. A step
measures the virtual engine's performance, moves every loop's gain down and its effectiveness
up by amounts proportional to the performance gradient, each clamped to its range, and
converges when the performance lies within the convergence threshold of the target.

No step changes the virtual engine, so every step measures the same performance and moves the
loops by the same amounts. A session therefore converges at its first step or never, and a
run makes one step or `max_iterations - current_iteration` steps of one size. A clamped step
repeated in one direction saturates at most once, so each loop's gain and effectiveness end
as one clamped step of that many times the size (`trainingSessionRun_eq`).

`setpoint_tune_pid` scales the three PID gains up on a poor performance (below `0.5`) and down
on a good one (above `0.9`), by factors that do not cancel: a poor and then a good performance
leave each gain `2.9%`, `0.98%` and `0.495%` higher, capped at `0.98`, `0.99` and `0.995` of
its upper bound, so a performance that alternates between the two ratchets every gain up to
that ceiling and holds it there (`setpointTunePid_alternating`).
-/

namespace Hivecog

theorem UInt32.toNat_add_one_of_lt {a b : UInt32} (h : a < b) : (a + 1).toNat = a.toNat + 1 := by
  have h' : a.toNat < b.toNat := h
  rw [UInt32.toNat_add_one, Nat.mod_eq_of_lt (by have := b.toNat_lt; omega)]

/-- The clamp `training_update_parameters_impl` writes: the upper bound first, then the
lower. -/
def clampHiLo (lo hi x : ℚ) : ℚ :=
  let x := if x > hi then hi else x
  if x < lo then lo else x

/-- `training_session_create(algorithm, max_iter)`: the fields `TrainingSession` keeps. The
algorithm, the momentum, the exploration rate and the gradient buffers are read by no
function, and `max_iter` is the argument of `trainingSessionRun`. -/
def trainingSessionCreate : TrainingSession :=
  ⟨4 / 5, 0, 0, 1 / 100, 1 / 1000, false⟩

/-- The loop of `training_session_run` with `fuel` steps at most. -/
def trainingSessionLoop (maxIterations : UInt32) :
    Nat → TrainingSession → HomeostaticSystem → TrainingSession × HomeostaticSystem
  | 0, t, s => (t, s)
  | fuel + 1, t, s =>
    if t.currentIteration < maxIterations && !t.converged then
      let r := trainingSessionStep t s
      if r.2.2 then (r.1, r.2.1) else trainingSessionLoop maxIterations fuel r.1 r.2.1
    else (t, s)

/-- `training_session_run(session, system)`, with the session's `max_iterations`, which
`TrainingSession` leaves out. Every step advances `current_iteration`, so the loop ends
within `max_iterations` steps, the fuel given. -/
def trainingSessionRun (t : TrainingSession) (s : HomeostaticSystem) (maxIterations : UInt32) :
    TrainingSession × HomeostaticSystem :=
  trainingSessionLoop maxIterations maxIterations.toNat t s

theorem clampHiLo_of_mem {lo hi x : ℚ} (h₁ : lo ≤ x) (h₂ : x ≤ hi) : clampHiLo lo hi x = x := by
  simp only [clampHiLo, if_neg (not_lt.2 h₂), if_neg (not_lt.2 h₁)]

theorem clampHiLo_of_hi_le {lo hi x : ℚ} (h : lo ≤ hi) (hx : hi ≤ x) : clampHiLo lo hi x = hi := by
  rcases hx.lt_or_eq with hx | rfl
  · simp only [clampHiLo, if_pos hx, if_neg (not_lt.2 h)]
  · exact clampHiLo_of_mem h le_rfl

theorem clampHiLo_of_le_lo {lo hi x : ℚ} (h : lo ≤ hi) (hx : x ≤ lo) : clampHiLo lo hi x = lo := by
  rcases hx.lt_or_eq with hx | rfl
  · simp only [clampHiLo, if_neg (not_lt.2 (hx.le.trans h)), if_pos hx]
  · exact clampHiLo_of_mem le_rfl h

theorem clampHiLo_mem {lo hi : ℚ} (h : lo ≤ hi) (x : ℚ) :
    lo ≤ clampHiLo lo hi x ∧ clampHiLo lo hi x ≤ hi := by
  rcases le_total x lo with hx | hx
  · rw [clampHiLo_of_le_lo h hx]
    exact ⟨le_rfl, h⟩
  rcases le_total hi x with hx' | hx'
  · rw [clampHiLo_of_hi_le h hx']
    exact ⟨h, le_rfl⟩
  · rw [clampHiLo_of_mem hx hx']
    exact ⟨hx, hx'⟩

/-- One more clamped step after `n` equals one clamped step of `n + 1` times the size: the
steps move one way, so the clamp at the far end, once reached, stays. -/
theorem clampHiLo_add_step {lo hi x d : ℚ} (h : lo ≤ hi) (h₁ : lo ≤ x) (h₂ : x ≤ hi) (n : ℚ)
    (hn : 0 ≤ n) :
    clampHiLo lo hi (clampHiLo lo hi (x + n * d) + d) = clampHiLo lo hi (x + (n + 1) * d) := by
  have hs : x + (n + 1) * d = x + n * d + d := by ring
  rw [hs]
  rcases le_total 0 d with hd | hd
  · have hx : x ≤ x + n * d := le_add_of_nonneg_right (mul_nonneg hn hd)
    rcases le_total (x + n * d) hi with hy | hy
    · rw [clampHiLo_of_mem (h₁.trans hx) hy]
    · rw [clampHiLo_of_hi_le h hy, clampHiLo_of_hi_le h (le_add_of_nonneg_right hd),
        clampHiLo_of_hi_le h (le_add_of_le_of_nonneg hy hd)]
  · have hx : x + n * d ≤ x := add_le_of_nonpos_right (mul_nonpos_of_nonneg_of_nonpos hn hd)
    rcases le_total lo (x + n * d) with hy | hy
    · rw [clampHiLo_of_mem hy (hx.trans h₂)]
    · rw [clampHiLo_of_le_lo h hy, clampHiLo_of_le_lo h (add_le_of_nonpos_right hd),
        clampHiLo_of_le_lo h (add_le_of_le_of_nonpos hy hd)]

/-- `training_update_parameters_impl` on a loop: both parameters move by one clamped step. -/
theorem trainingUpdateParameters_eq (t : TrainingSession) (l : FeedbackLoop) :
    trainingUpdateParameters t l = { l with
      gain := clampHiLo (1 / 10) 5
        (l.gain - t.learningRate * ((t.currentPerformance - t.performanceTarget) * (1 / 10)))
      effectiveness := clampHiLo 0 1
        (l.effectiveness + t.learningRate * (t.currentPerformance - t.performanceTarget)) } :=
  rfl

/-- `n` updates of a loop whose gain lies in `[0.1, 5]` and effectiveness in `[0, 1]` are
one update of `n` times the size. -/
theorem iterate_trainingUpdateParameters (t : TrainingSession) {l : FeedbackLoop}
    (hl : 1 / 10 ≤ l.gain ∧ l.gain ≤ 5 ∧ 0 ≤ l.effectiveness ∧ l.effectiveness ≤ 1) (n : Nat) :
    (trainingUpdateParameters t)^[n] l = { l with
      gain := clampHiLo (1 / 10) 5 (l.gain - n * (t.learningRate *
        ((t.currentPerformance - t.performanceTarget) * (1 / 10))))
      effectiveness := clampHiLo 0 1 (l.effectiveness +
        n * (t.learningRate * (t.currentPerformance - t.performanceTarget))) } := by
  obtain ⟨hg₁, hg₂, he₁, he₂⟩ := hl
  induction n with
  | zero => simp only [Function.iterate_zero_apply, Nat.cast_zero, zero_mul, sub_zero,
      add_zero, clampHiLo_of_mem hg₁ hg₂, clampHiLo_of_mem he₁ he₂]
  | succ n ih =>
    have hg := clampHiLo_add_step (by norm_num) hg₁ hg₂ n (Nat.cast_nonneg n)
      (d := -(t.learningRate * ((t.currentPerformance - t.performanceTarget) * (1 / 10))))
    have he := clampHiLo_add_step zero_le_one he₁ he₂ n (Nat.cast_nonneg n)
      (d := t.learningRate * (t.currentPerformance - t.performanceTarget))
    simp only [mul_neg, ← sub_eq_add_neg] at hg
    rw [Function.iterate_succ_apply', ih, trainingUpdateParameters_eq, hg, he, Nat.cast_succ]

/-- What a step does: it measures the performance, updates every loop at that performance
and advances the iteration, and converges when the performance is within the threshold. -/
theorem trainingSessionStep_eq (t : TrainingSession) (s : HomeostaticSystem) :
    trainingSessionStep t s =
      ({ t with
          currentPerformance := virtualEngineMeasurePerformance s.virtualEngine
          currentIteration := t.currentIteration + 1
          converged := t.converged || decide (|virtualEngineMeasurePerformance s.virtualEngine -
            t.performanceTarget| < t.convergenceThreshold) },
        { s with
          feedbackLoops := s.feedbackLoops.map (trainingUpdateParameters
            { t with currentPerformance := virtualEngineMeasurePerformance s.virtualEngine }) },
        decide (|virtualEngineMeasurePerformance s.virtualEngine - t.performanceTarget| <
          t.convergenceThreshold)) :=
  rfl

section Loop

variable (maxIterations : UInt32) (target rate threshold p : ℚ)

/-- The update every step of a session with this target and learning rate makes, at the
performance `p`. -/
def stepUpdate : FeedbackLoop → FeedbackLoop :=
  trainingUpdateParameters ⟨target, p, 0, rate, threshold, false⟩

/-- At or past `max_iterations` the loop stops. -/
theorem trainingSessionLoop_of_not_lt {t : TrainingSession} (h : ¬t.currentIteration < maxIterations)
    (fuel : Nat) (s : HomeostaticSystem) : trainingSessionLoop maxIterations fuel t s = (t, s) := by
  cases fuel <;>
    simp only [trainingSessionLoop, h, decide_False, Bool.false_and, Bool.false_eq_true, ite_false]

/-- Below `max_iterations`, a step that does not converge hands the loop on. -/
theorem trainingSessionLoop_succ {t : TrainingSession} {s : HomeostaticSystem}
    (h : t.currentIteration < maxIterations) (hc : t.converged = false)
    (hs : (trainingSessionStep t s).2.2 = false) (fuel : Nat) :
    trainingSessionLoop maxIterations (fuel + 1) t s = trainingSessionLoop maxIterations fuel
      (trainingSessionStep t s).1 (trainingSessionStep t s).2.1 := by
  simp only [trainingSessionLoop, h, hc, hs, decide_True, Bool.not_false, Bool.and_self, ite_true,
    Bool.false_eq_true, ite_false]

theorem trainingUpdateParameters_of_eq {t : TrainingSession} (ht : t.performanceTarget = target)
    (hr : t.learningRate = rate) :
    trainingUpdateParameters { t with currentPerformance := p } =
      stepUpdate target rate threshold p := by
  funext l
  simp only [stepUpdate, trainingUpdateParameters, ht, hr]

/-- A session with this target, rate and threshold that has not converged, over a system
whose performance `p` is not within the threshold of the target: the loop runs to
`max_iterations` and applies the update once per step. -/
theorem trainingSessionLoop_of_not_converges
    (hd : ¬|p - target| < threshold) :
    ∀ (fuel : Nat) (t : TrainingSession) (s : HomeostaticSystem),
      t.performanceTarget = target → t.learningRate = rate → t.convergenceThreshold = threshold →
      t.converged = false → virtualEngineMeasurePerformance s.virtualEngine = p →
      t.currentIteration ≤ maxIterations →
      maxIterations.toNat - t.currentIteration.toNat ≤ fuel →
      let r := trainingSessionLoop maxIterations fuel t s
      r.2 = { s with
          feedbackLoops := s.feedbackLoops.map
            (stepUpdate target rate threshold p)^[maxIterations.toNat - t.currentIteration.toNat] } ∧
        r.1.converged = false ∧ r.1.currentIteration = maxIterations := by
  intro fuel
  induction fuel with
  | zero =>
    intro t s _ _ _ hc _ hi hf
    have hi : t.currentIteration.toNat ≤ maxIterations.toNat := hi
    have he : t.currentIteration = maxIterations := UInt32.toNat.inj (by omega)
    refine ⟨?_, hc, he⟩
    simp only [trainingSessionLoop, he, Nat.sub_self, Function.iterate_zero, List.map_id]
  | succ fuel ih =>
    intro t s ht hr hθ hc hp hi hf
    have hi : t.currentIteration.toNat ≤ maxIterations.toNat := hi
    by_cases hlt : t.currentIteration < maxIterations
    · have hlt' : t.currentIteration.toNat < maxIterations.toNat := hlt
      have hsucc := UInt32.toNat_add_one_of_lt hlt
      have hstep : trainingSessionStep t s =
          ({ t with currentPerformance := p, currentIteration := t.currentIteration + 1 },
            { s with feedbackLoops := s.feedbackLoops.map (stepUpdate target rate threshold p) },
            false) := by
        rw [trainingSessionStep_eq, trainingUpdateParameters_of_eq target rate threshold _ ht hr,
          hp, ht, hθ, decide_eq_false hd, Bool.or_false]
      obtain ⟨h₁, h₂⟩ := ih
        { t with currentPerformance := p, currentIteration := t.currentIteration + 1 }
        { s with feedbackLoops := s.feedbackLoops.map (stepUpdate target rate threshold p) }
        ht hr hθ hc hp
        (show (t.currentIteration + 1).toNat ≤ maxIterations.toNat by omega)
        (show maxIterations.toNat - (t.currentIteration + 1).toNat ≤ fuel by omega)
      rw [trainingSessionLoop_succ maxIterations hlt hc (by rw [hstep]) fuel, hstep]
      refine ⟨?_, h₂⟩
      rw [h₁, List.map_map, ← Function.iterate_succ, hsucc, Nat.succ_eq_add_one,
        show maxIterations.toNat - (t.currentIteration.toNat + 1) + 1 =
          maxIterations.toNat - t.currentIteration.toNat by omega]
    · have he : t.currentIteration = maxIterations :=
        UInt32.toNat.inj (by have : ¬t.currentIteration.toNat < maxIterations.toNat := hlt; omega)
      rw [trainingSessionLoop_of_not_lt maxIterations hlt]
      exact ⟨by simp only [he, Nat.sub_self, Function.iterate_zero, List.map_id], hc, he⟩

end Loop

/-- A run of a session that has not converged and is below its `max_iterations`, over a
system whose loops' gains lie in `[0.1, 5]` and effectiveness in `[0, 1]`: the performance
`p` every step measures is the same, so the run converges at its first step, if `p` is within
the threshold of the target, or never, and then makes `max_iterations - current_iteration`
steps. Every loop's gain and effectiveness end as one clamped step of `n` times the size,
where `n` is the number of steps. -/
theorem trainingSessionRun_eq (t : TrainingSession) (s : HomeostaticSystem)
    (maxIterations : UInt32) (hc : t.converged = false) (hi : t.currentIteration < maxIterations)
    (hl : ∀ l ∈ s.feedbackLoops,
      1 / 10 ≤ l.gain ∧ l.gain ≤ 5 ∧ 0 ≤ l.effectiveness ∧ l.effectiveness ≤ 1) :
    let g := virtualEngineMeasurePerformance s.virtualEngine - t.performanceTarget
    let converges := decide (|g| < t.convergenceThreshold)
    let n : Nat := if converges then 1 else maxIterations.toNat - t.currentIteration.toNat
    let r := trainingSessionRun t s maxIterations
    r.2 = { s with
        feedbackLoops := s.feedbackLoops.map fun l => { l with
          gain := clampHiLo (1 / 10) 5 (l.gain - n * (t.learningRate * (g * (1 / 10))))
          effectiveness := clampHiLo 0 1 (l.effectiveness + n * (t.learningRate * g)) } } ∧
      r.1.converged = converges ∧ r.1.currentIteration.toNat = t.currentIteration.toNat + n := by
  intro g converges n r
  have hi' : t.currentIteration.toNat < maxIterations.toNat := hi
  let F := stepUpdate t.performanceTarget t.learningRate t.convergenceThreshold
    (virtualEngineMeasurePerformance s.virtualEngine)
  suffices h : r.2 = { s with feedbackLoops := s.feedbackLoops.map F^[n] } ∧
      r.1.converged = converges ∧ r.1.currentIteration.toNat = t.currentIteration.toNat + n by
    refine ⟨h.1.trans ?_, h.2⟩
    congr 1
    exact List.map_congr_left fun l hl' => iterate_trainingUpdateParameters _ (hl l hl') n
  by_cases hconv : |g| < t.convergenceThreshold
  · have hn : n = 1 := if_pos (decide_eq_true hconv)
    obtain ⟨k, hk⟩ : ∃ k, maxIterations.toNat = k + 1 := ⟨_, (Nat.succ_pred_eq_of_pos
      (Nat.zero_lt_of_lt hi')).symm⟩
    have hsucc := UInt32.toNat_add_one_of_lt hi
    simp only [g] at hconv
    simp only [r, trainingSessionRun, hk, trainingSessionLoop, hi, hc, decide_True,
      Bool.not_false, Bool.and_self, ite_true, trainingSessionStep_eq, converges, g, hconv,
      Bool.or_true, hn, hsucc, Function.iterate_one, and_true]
    rfl
  · have hn : n = maxIterations.toNat - t.currentIteration.toNat :=
      if_neg fun h => hconv (of_decide_eq_true h)
    obtain ⟨h₁, h₂, h₃⟩ := trainingSessionLoop_of_not_converges maxIterations t.performanceTarget
      t.learningRate t.convergenceThreshold _ hconv maxIterations.toNat t s rfl rfl rfl hc rfl
      (show t.currentIteration.toNat ≤ maxIterations.toNat by omega) (Nat.sub_le _ _)
    refine ⟨by rw [hn]; exact h₁, h₂.trans (decide_eq_false hconv).symm, ?_⟩
    show (trainingSessionLoop maxIterations maxIterations.toNat t s).1.currentIteration.toNat = _
    rw [h₃, hn]
    omega

/-- The theorem on a session as `training_session_create(TRAINING_GRADIENT_DESCENT, 20)`
builds it, over a system as `homeostatic_system_create` builds it. -/
theorem trainingSessionRun_eq_create :
    let t : TrainingSession := ⟨4 / 5, 0, 0, 1 / 100, 1 / 1000, false⟩
    let s := homeostaticSystemCreate 0
    t.converged = false ∧ t.currentIteration < 20 ∧
      (∀ l ∈ s.feedbackLoops,
        1 / 10 ≤ l.gain ∧ l.gain ≤ 5 ∧ 0 ≤ l.effectiveness ∧ l.effectiveness ≤ 1) ∧
      let g := virtualEngineMeasurePerformance s.virtualEngine - t.performanceTarget
      let converges := decide (|g| < t.convergenceThreshold)
      let n : Nat := if converges then 1 else (20 : UInt32).toNat - t.currentIteration.toNat
      let r := trainingSessionRun t s 20
      r.2 = { s with
          feedbackLoops := s.feedbackLoops.map fun l => { l with
            gain := clampHiLo (1 / 10) 5 (l.gain - n * (t.learningRate * (g * (1 / 10))))
            effectiveness := clampHiLo 0 1 (l.effectiveness + n * (t.learningRate * g)) } } ∧
        r.1.converged = converges ∧ r.1.currentIteration.toNat = t.currentIteration.toNat + n := by
  intro t s
  have hl : ∀ l ∈ s.feedbackLoops,
      1 / 10 ≤ l.gain ∧ l.gain ≤ 5 ∧ 0 ≤ l.effectiveness ∧ l.effectiveness ≤ 1 := by
    intro l hl
    simp only [s, homeostaticSystemCreate, List.mem_cons, List.not_mem_nil, or_false] at hl
    rcases hl with rfl | rfl | rfl <;> norm_num [feedbackLoopCreate]
  exact ⟨rfl, by decide, hl, trainingSessionRun_eq t s 20 rfl (by decide) hl⟩

/-! ## PID gains -/

/-- The PID gains of a `homeostatic_setpoint_t`, which only `setpoint_pid_control` and
`setpoint_tune_pid` read. -/
structure PidGains where
  kp : ℚ
  ki : ℚ
  kd : ℚ

/-- The gains `setpoint_create` sets. -/
def pidGainsCreate : PidGains := ⟨1, 1 / 10, 1 / 20⟩

/-- `setpoint_pid_control(setpoint)`: the control signal, saturated to `[-1, 1]`. -/
def setpointPidControl (sp : HomeostaticSetpoint) (g : PidGains) : ℚ :=
  clampHiLo (-1) 1 (g.kp * sp.lastError + g.ki * sp.errorIntegral + g.kd * sp.errorDerivative)

/-- `setpoint_tune_pid(setpoint, performance)`: each gain scaled up on a poor performance and
down on a good one, then clamped, the upper bound first. -/
def setpointTunePid (g : PidGains) (performance : ℚ) : PidGains :=
  let g : PidGains :=
    if performance < 1 / 2 then ⟨g.kp * (21 / 20), g.ki * (51 / 50), g.kd * (101 / 100)⟩
    else if performance > 9 / 10 then ⟨g.kp * (49 / 50), g.ki * (99 / 100), g.kd * (199 / 200)⟩
    else g
  ⟨clampHiLo (1 / 10) 5 g.kp, clampHiLo (1 / 100) 2 g.ki, clampHiLo (1 / 1000) 1 g.kd⟩

theorem setpointPidControl_mem (sp : HomeostaticSetpoint) (g : PidGains) :
    -1 ≤ setpointPidControl sp g ∧ setpointPidControl sp g ≤ 1 :=
  clampHiLo_mem (by norm_num) _

theorem setpointTunePid_poor {g : PidGains} {p : ℚ} (hp : p < 1 / 2) :
    setpointTunePid g p = ⟨clampHiLo (1 / 10) 5 (g.kp * (21 / 20)),
      clampHiLo (1 / 100) 2 (g.ki * (51 / 50)), clampHiLo (1 / 1000) 1 (g.kd * (101 / 100))⟩ := by
  simp only [setpointTunePid, if_pos hp]

theorem setpointTunePid_good {g : PidGains} {q : ℚ} (hq : 9 / 10 < q) :
    setpointTunePid g q = ⟨clampHiLo (1 / 10) 5 (g.kp * (49 / 50)),
      clampHiLo (1 / 100) 2 (g.ki * (99 / 100)), clampHiLo (1 / 1000) 1 (g.kd * (199 / 200))⟩ := by
  simp only [setpointTunePid, if_neg (not_lt.2 ((by norm_num : (1 : ℚ) / 2 ≤ 9 / 10).trans hq.le)),
    if_pos hq]

/-- One gain tuned up by `c ≥ 1` and then down by `d ≤ 1`, each time clamped to `[lo, hi]`:
from within the bounds, a scaling by `c * d ≥ 1` capped at `hi * d`. -/
theorem clampHiLo_scale_scale {lo hi c d x : ℚ} (hlo : 0 ≤ lo) (hc : 1 ≤ c) (hd₀ : 0 ≤ d)
    (hd : d ≤ 1) (hcd : 1 ≤ c * d) (hhi : lo ≤ hi * d) (h₁ : lo ≤ x) (h₂ : x ≤ hi) :
    clampHiLo lo hi (clampHiLo lo hi (x * c) * d) = min (x * (c * d)) (hi * d) := by
  have hx : x ≤ x * c := le_mul_of_one_le_right (hlo.trans h₁) hc
  have hup : clampHiLo lo hi (x * c) = min (x * c) hi := by
    rcases le_total (x * c) hi with h | h
    · rw [clampHiLo_of_mem (h₁.trans hx) h, min_eq_left h]
    · rw [clampHiLo_of_hi_le (h₁.trans h₂) h, min_eq_right h]
  have hlo' : lo ≤ x * (c * d) := h₁.trans (le_mul_of_one_le_right (hlo.trans h₁) hcd)
  rw [hup, min_mul_of_nonneg _ _ hd₀, mul_assoc]
  exact clampHiLo_of_mem (le_min hlo' hhi) ((min_le_right _ _).trans (mul_le_of_le_one_right
    (hlo.trans (h₁.trans h₂)) hd))

/-- A poor and then a good performance scale the gains by `1.029`, `1.0098` and `1.00495`,
capped at `4.9`, `1.98` and `0.995`: the two tunings do not cancel. -/
theorem setpointTunePid_poor_good {g : PidGains} {p q : ℚ} (hp : p < 1 / 2) (hq : 9 / 10 < q)
    (hkp : 1 / 10 ≤ g.kp ∧ g.kp ≤ 5) (hki : 1 / 100 ≤ g.ki ∧ g.ki ≤ 2)
    (hkd : 1 / 1000 ≤ g.kd ∧ g.kd ≤ 1) :
    setpointTunePid (setpointTunePid g p) q = ⟨min (g.kp * (1029 / 1000)) (49 / 10),
      min (g.ki * (5049 / 5000)) (99 / 50), min (g.kd * (20099 / 20000)) (199 / 200)⟩ := by
  rw [setpointTunePid_poor hp, setpointTunePid_good hq]
  simp only [PidGains.mk.injEq]
  refine ⟨?_, ?_, ?_⟩
  · rw [clampHiLo_scale_scale (by norm_num1) (by norm_num1) (by norm_num1) (by norm_num1)
      (by norm_num1) (by norm_num1) hkp.1 hkp.2]
    norm_num1
    rfl
  · rw [clampHiLo_scale_scale (by norm_num1) (by norm_num1) (by norm_num1) (by norm_num1)
      (by norm_num1) (by norm_num1) hki.1 hki.2]
    norm_num1
    rfl
  · rw [clampHiLo_scale_scale (by norm_num1) (by norm_num1) (by norm_num1) (by norm_num1)
      (by norm_num1) (by norm_num1) hkd.1 hkd.2]
    norm_num1
    rfl

/-- One more round of a scaling by `r ≥ 1` capped at `cap`, after `k` of them. -/
theorem min_mul_pow_succ {x r cap : ℚ} (hr : 1 ≤ r) (hcap : 0 ≤ cap) (k : Nat) :
    min (min (x * r ^ k) cap * r) cap = min (x * r ^ (k + 1)) cap := by
  rw [min_min_mul_of_one_le hr hcap, pow_succ, mul_assoc]

/-- Tuning the gains of `setpoint_create` with a poor and then a good performance, `k` times
over, raises them by `2.9%`, `0.98%` and `0.495%` a round until each reaches `4.9`, `1.98`
and `0.995`, just below its cap: performance that alternates between poor and good ratchets
every gain up towards its cap. -/
theorem setpointTunePid_alternating {p q : ℚ} (hp : p < 1 / 2) (hq : 9 / 10 < q) (k : Nat) :
    (fun g => setpointTunePid (setpointTunePid g p) q)^[k] pidGainsCreate =
      ⟨min ((1029 / 1000) ^ k) (49 / 10), min (1 / 10 * (5049 / 5000) ^ k) (99 / 50),
        min (1 / 20 * (20099 / 20000) ^ k) (199 / 200)⟩ := by
  induction k with
  | zero => simp only [Function.iterate_zero, id, pow_zero, mul_one, pidGainsCreate]; norm_num
  | succ k ih =>
    have hp₁ : (1 : ℚ) ≤ (1029 / 1000) ^ k := one_le_pow₀ (by norm_num1)
    have hi₁ : (1 : ℚ) ≤ (5049 / 5000) ^ k := one_le_pow₀ (by norm_num1)
    have hd₁ : (1 : ℚ) ≤ (20099 / 20000) ^ k := one_le_pow₀ (by norm_num1)
    rw [Function.iterate_succ_apply', ih, setpointTunePid_poor_good hp hq]
    · simp only [PidGains.mk.injEq]
      refine ⟨?_, min_mul_pow_succ (by norm_num1) (by norm_num1) k,
        min_mul_pow_succ (by norm_num1) (by norm_num1) k⟩
      simpa only [one_mul] using min_mul_pow_succ (x := 1) (by norm_num1) (by norm_num1) k
    · exact ⟨le_min ((by norm_num1 : (1 : ℚ) / 10 ≤ 1).trans hp₁) (by norm_num1),
        (min_le_right _ _).trans (by norm_num1)⟩
    · exact ⟨le_min ((by norm_num1 : (1 : ℚ) / 100 ≤ 1 / 10).trans
        (le_mul_of_one_le_right (by norm_num1) hi₁)) (by norm_num1),
        (min_le_right _ _).trans (by norm_num1)⟩
    · exact ⟨le_min ((by norm_num1 : (1 : ℚ) / 1000 ≤ 1 / 20).trans
        (le_mul_of_one_le_right (by norm_num1) hd₁)) (by norm_num1),
        (min_le_right _ _).trans (by norm_num1)⟩

/-- The theorem on the test's tuning, a performance of `0.3` and then `0.95`, a hundred
rounds over: every gain ends at its ceiling. -/
theorem setpointTunePid_alternating_hundred :
    (3 / 10 : ℚ) < 1 / 2 ∧ (9 / 10 : ℚ) < 19 / 20 ∧
      (fun g => setpointTunePid (setpointTunePid g (3 / 10)) (19 / 20))^[100] pidGainsCreate =
        ⟨min ((1029 / 1000) ^ 100) (49 / 10), min (1 / 10 * (5049 / 5000) ^ 100) (99 / 50),
          min (1 / 20 * (20099 / 20000) ^ 100) (199 / 200)⟩ :=
  ⟨by norm_num, by norm_num, setpointTunePid_alternating (by norm_num) (by norm_num) 100⟩

end Hivecog
