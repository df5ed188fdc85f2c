import Hivecog.Basic
import Mathlib.Algebra.BigOperators.Group.List

/-!
# Resonance coordination of the inference vortices

`bootstrap_vortex_coordination_impl` in `entropic_bootstrap.c` walks the vortex list with
two nested loops, `v1` in list order and `v2` over the vortices after it, and moves both
resonances of the pair `0.9` of the way towards their mean, each from the value it had
before the pair. The pair update conserves the sum of the two and gives each a convex
combination of the two, so the whole pass conserves the total resonance and keeps every
resonance within any interval that held all of them before
(`bootstrapVortexCoordination_sum_range`). Resonances are exact rationals here, as every
`float` of the model is.
-/

namespace Hivecog

/-- `inference_vortex_t`, reduced to the field the coordination pass reads and writes. The
others (energy, coherence, metamorphic potential, the event queue) are neither read nor
written by the pass; `VortexState` extends this structure with them, for the vortex
functions of `Hivecog.Vortex`. -/
structure InferenceVortex where
  resonance : ℚ
deriving DecidableEq

/-- The body of the inner loop for the vortices at positions `p.1` and `p.2`: both move to
`0.9` of their mean plus `0.1` of their own value before the update. -/
def synchronizeResonance (vortices : List InferenceVortex) (p : Nat × Nat) :
    List InferenceVortex :=
  match vortices[p.1]?, vortices[p.2]? with
  | some v1, some v2 =>
    let avgResonance := (v1.resonance + v2.resonance) / 2
    (vortices.set p.1 ⟨avgResonance * (9 / 10) + v1.resonance * (1 / 10)⟩).set p.2
      ⟨avgResonance * (9 / 10) + v2.resonance * (1 / 10)⟩
  | _, _ => vortices

/-- The positions the two loops visit, in order: `v1` through the list and, for each, every
`v2` after it. -/
def vortexPairs (n : Nat) : List (Nat × Nat) :=
  (List.range n).flatMap fun i => (List.range' (i + 1) (n - (i + 1))).map fun j => (i, j)

/-- `bootstrap_vortex_coordination_impl`. -/
def bootstrapVortexCoordination (vortices : List InferenceVortex) : List InferenceVortex :=
  (vortexPairs vortices.length).foldl synchronizeResonance vortices

/-! ## One pair -/

theorem mem_vortexPairs {n : Nat} {p : Nat × Nat} (h : p ∈ vortexPairs n) : p.1 < p.2 := by
  simp only [vortexPairs, List.mem_flatMap, List.mem_map, List.mem_range'_1] at h
  obtain ⟨i, -, j, hj, rfl⟩ := h
  exact hj.1

/-- Writing one entry changes the sum by the difference. -/
theorem sum_set_add (l : List ℚ) {i : Nat} (hi : i < l.length) (a : ℚ) :
    (l.set i a).sum + l[i] = l.sum + a := by
  induction l generalizing i with
  | nil => exact absurd hi (Nat.not_lt_zero _)
  | cons x xs ih =>
    cases i with
    | zero => simp only [List.set_cons_zero, List.sum_cons, List.getElem_cons_zero]; ring
    | succ i =>
      simp only [List.set_cons_succ, List.sum_cons, List.getElem_cons_succ]
      have := ih (Nat.lt_of_succ_lt_succ hi)
      linarith

/-- A pair update conserves the total resonance. -/
theorem sum_synchronizeResonance (vortices : List InferenceVortex) {p : Nat × Nat}
    (hp : p.1 ≠ p.2) :
    ((synchronizeResonance vortices p).map (·.resonance)).sum =
      (vortices.map (·.resonance)).sum := by
  unfold synchronizeResonance
  split
  · rename_i v1 v2 h1 h2
    obtain ⟨hi, rfl⟩ := List.getElem?_eq_some_iff.1 h1
    obtain ⟨hj, rfl⟩ := List.getElem?_eq_some_iff.1 h2
    have hs1 := sum_set_add (vortices.map (·.resonance)) (i := p.1) (by simpa using hi)
      ((vortices[p.1].resonance + vortices[p.2].resonance) / 2 * (9 / 10) +
        vortices[p.1].resonance * (1 / 10))
    have hs2 := sum_set_add ((vortices.map (·.resonance)).set p.1
        ((vortices[p.1].resonance + vortices[p.2].resonance) / 2 * (9 / 10) +
          vortices[p.1].resonance * (1 / 10))) (i := p.2) (by simpa using hj)
      ((vortices[p.1].resonance + vortices[p.2].resonance) / 2 * (9 / 10) +
        vortices[p.2].resonance * (1 / 10))
    simp only [List.getElem_set_ne hp, List.getElem_map] at hs1 hs2
    simp only [List.map_set]
    linarith
  · rfl

/-- A pair update keeps every resonance within an interval that held all of them. -/
theorem bounds_synchronizeResonance {lo hi : ℚ} {vortices : List InferenceVortex}
    (hb : ∀ v ∈ vortices, lo ≤ v.resonance ∧ v.resonance ≤ hi) (p : Nat × Nat) :
    ∀ v ∈ synchronizeResonance vortices p, lo ≤ v.resonance ∧ v.resonance ≤ hi := by
  unfold synchronizeResonance
  split
  · rename_i v1 v2 h1 h2
    have b1 := hb v1 (List.getElem?_mem h1)
    have b2 := hb v2 (List.getElem?_mem h2)
    intro v hv
    rcases List.mem_or_eq_of_mem_set hv with hv | rfl
    · rcases List.mem_or_eq_of_mem_set hv with hv | rfl
      · exact hb v hv
      · constructor <;> dsimp only <;> linarith [b1.1, b1.2, b2.1, b2.2]
    · constructor <;> dsimp only <;> linarith [b1.1, b1.2, b2.1, b2.2]
  · exact hb

/-! ## The whole pass -/

/-- The pass conserves the total resonance and keeps every resonance within any interval
that held all resonances before it, in particular within their minimum and maximum. -/
theorem bootstrapVortexCoordination_sum_range (vortices : List InferenceVortex) :
    ((bootstrapVortexCoordination vortices).map (·.resonance)).sum =
      (vortices.map (·.resonance)).sum ∧
    ∀ lo hi, (∀ v ∈ vortices, lo ≤ v.resonance ∧ v.resonance ≤ hi) →
      ∀ v ∈ bootstrapVortexCoordination vortices, lo ≤ v.resonance ∧ v.resonance ≤ hi := by
  unfold bootstrapVortexCoordination
  have hpairs : ∀ p ∈ vortexPairs vortices.length, p.1 < p.2 := fun _ h => mem_vortexPairs h
  generalize vortexPairs vortices.length = ps at hpairs
  induction ps generalizing vortices with
  | nil => exact ⟨rfl, fun _ _ hb => hb⟩
  | cons p ps ih =>
    have hp := hpairs p (List.mem_cons_self _ _)
    obtain ⟨hsum, hrange⟩ := ih (synchronizeResonance vortices p)
      fun q hq => hpairs q (List.mem_cons_of_mem _ hq)
    exact ⟨hsum.trans (sum_synchronizeResonance vortices hp.ne),
      fun lo hi hb => hrange lo hi (bounds_synchronizeResonance hb p)⟩

end Hivecog
