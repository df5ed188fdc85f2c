import Hivecog.Engine

/-!
# Entropy measurement and the agency bootstrap

The first half of `entropic_bootstrap.c`. An entropy metric reads four entropies off an
autognosis engine: an information entropy from the mean truth value of the global store,
the cognitive load, the missing topology health and the missing autonomy. Their mean,
subtracted from `1` and clamped to `[0, 1]`, is the metric's coherence, and the drift rate
is the change of their sum per second since the previous measurement.

The agency bootstrap keeps four scores and a level. Every update of a score adds a
non-negative amount and cuts the result back to `1`, and the level only ever moves one
step up, below `AGENCY_METAMORPHIC`. So scores that start in `[0.1, 1]` stay there and
never decrease, and the level never decreases (`AgencyBounds` and its step lemmas below),
whatever the metric says: the information entropy goes through `log2f`, of which nothing
is assumed. That holds of rationals only: the C `log2f` of a negative argument is NaN, which
the clamps pass on, so the runs of the bootstrap engine assume stores whose mean truth value
lies in `[0, 1]` (`EntropyDomain`).
-/

namespace Hivecog

/-! ## Entropy metrics -/

/-- `entropy_metric_t`. -/
structure EntropyMetric where
  informationEntropy : ℚ
  thermodynamicEntropy : ℚ
  organizationalEntropy : ℚ
  cognitiveEntropy : ℚ
  measurementTime : Int
  driftRate : ℚ
  coherenceLevel : ℚ

/-- `entropy_metric_create` at time `now`. -/
def entropyMetricCreate (now : Int) : EntropyMetric := ⟨0, 0, 0, 0, now, 0, 1⟩

/-- The sum of the four entropies, which the coherence, the drift rate and the entropy
detection of the agency all read. -/
def EntropyMetric.total (metric : EntropyMetric) : ℚ :=
  metric.informationEntropy + metric.thermodynamicEntropy + metric.organizationalEntropy +
    metric.cognitiveEntropy

/-- The mean truth value of `entropy_measure_system`: the sum over the list divided by
`atom_count`, not by the length of the list it sums. -/
def AtomSpace.meanTruth (space : AtomSpace) : ℚ :=
  (space.atoms.map (·.truthValue)).sum / (space.atomCount.toNat : ℚ)

/-- `entropy_measure_system` at time `now`, over an engine whose global store, topology and
self-image are present. The clamp of the coherence catches every rational, but not the NaN
the C `log2f` returns when the mean truth value exceeds `1.001` (`EntropyDomain`). -/
def entropyMeasureSystem (m : LibM) (metric : EntropyMetric) (a : AutognosisEngine)
    (now : Int) : EntropyMetric :=
  let avgTruth := a.globalKnowledge.meanTruth
  let information :=
    if a.globalKnowledge.atomCount > 0 then
      -avgTruth * m.log2f (avgTruth + 1 / 1000) -
        (1 - avgTruth) * m.log2f (1 - avgTruth + 1 / 1000)
    else metric.informationEntropy
  let metric := { metric with
    informationEntropy := information
    thermodynamicEntropy := a.cognitiveLoad
    organizationalEntropy := 1 - a.topology.overallHealth
    cognitiveEntropy := 1 - a.selfImage.autonomyLevel }
  { metric with coherenceLevel := clampUnit (1 - metric.total / 4), measurementTime := now }

/-- `entropy_calculate_drift_rate`. -/
def entropyCalculateDriftRate (current previous : EntropyMetric) : ℚ :=
  let timeDiff := current.measurementTime - previous.measurementTime
  if timeDiff ≤ 0 then 0 else (current.total - previous.total) / (timeDiff : ℚ)

/-- `entropy_record_measurement`: the metric that becomes the engine's history, with its
drift rate from the previous one if there is one. -/
def entropyRecordMeasurement (history : Option EntropyMetric) (metric : EntropyMetric) :
    EntropyMetric :=
  match history with
  | some previous => { metric with driftRate := entropyCalculateDriftRate metric previous }
  | none => metric

/-- A store `entropy_measure_system` reads without leaving the domain of `log2f`: truth
values in `[0, 1]`, and an `atom_count` no smaller than the list, as in every store the code
builds while the counter has not wrapped. -/
structure EntropyDomain (space : AtomSpace) : Prop where
  truth : ∀ x ∈ space.atoms, 0 ≤ x.truthValue ∧ x.truthValue ≤ 1
  count : space.atoms.length ≤ space.atomCount.toNat

theorem EntropyDomain.atomspaceCreate : EntropyDomain atomspaceCreate :=
  ⟨fun _ h => absurd h (List.not_mem_nil _), Nat.zero_le _⟩

/-- A measured metric's coherence lies in `[0, 1]`, whatever rational `log2f` returns. -/
theorem entropyMeasureSystem_coherenceLevel (m : LibM) (metric : EntropyMetric)
    (a : AutognosisEngine) (now : Int) :
    0 ≤ (entropyMeasureSystem m metric a now).coherenceLevel ∧
      (entropyMeasureSystem m metric a now).coherenceLevel ≤ 1 :=
  ⟨clampUnit_nonneg _, clampUnit_le_one _⟩

theorem entropyRecordMeasurement_coherenceLevel (history : Option EntropyMetric)
    (metric : EntropyMetric) :
    (entropyRecordMeasurement history metric).coherenceLevel = metric.coherenceLevel := by
  cases history <;> rfl

/-! ## The agency bootstrap -/

/-- `agency_level_t`. -/
inductive AgencyLevel
  | none
  | reactive
  | adaptive
  | proactive
  | creative
  | metamorphic
deriving DecidableEq, Repr

/-- The value of an `agency_level_t` constant. -/
def AgencyLevel.ordinal : AgencyLevel → Nat
  | none => 0
  | reactive => 1
  | adaptive => 2
  | proactive => 3
  | creative => 4
  | metamorphic => 5

/-- `current_level++`, which the code only runs below `AGENCY_METAMORPHIC`. -/
def AgencyLevel.succ : AgencyLevel → AgencyLevel
  | none => reactive
  | reactive => adaptive
  | adaptive => proactive
  | proactive => creative
  | creative => metamorphic
  | metamorphic => metamorphic

theorem AgencyLevel.ordinal_succ {l : AgencyLevel} (h : l.ordinal < 5) :
    l.succ.ordinal = l.ordinal + 1 := by
  cases l <;> first | rfl | exact absurd h (by decide)

/-- `agency_bootstrap_t`, without its function pointers. -/
structure AgencyBootstrap where
  currentLevel : AgencyLevel
  agencyStrength : ℚ
  autonomyIndex : ℚ
  intentionalityScore : ℚ
  creativityFactor : ℚ
  bootstrapCycles : UInt32
  lastBootstrap : Int

/-- `agency_bootstrap_create` at time `now`. -/
def agencyBootstrapCreate (now : Int) : AgencyBootstrap :=
  ⟨.reactive, 1 / 10, 1 / 10, 1 / 10, 1 / 10, 0, now⟩

/-- The mean of the four scores: `total_agency` of `agency_increase_level`, and the agency
factor of `calculate_emergence_factor`. -/
def AgencyBootstrap.totalAgency (a : AgencyBootstrap) : ℚ :=
  (a.agencyStrength + a.autonomyIndex + a.intentionalityScore + a.creativityFactor) / 4

/-- `agency_detect_entropy_impl`. -/
def agencyDetectEntropy (a : AgencyBootstrap) (metric : EntropyMetric) : AgencyBootstrap :=
  let a := if metric.driftRate > 1 / 100 then
    { a with intentionalityScore := capAtOne (a.intentionalityScore + 1 / 20) } else a
  if metric.total > 2 then { a with autonomyIndex := capAtOne (a.autonomyIndex + 3 / 100) }
  else a

/-- `agency_overcome_drift_impl`: it writes the agency and the metric's coherence. -/
def agencyOvercomeDrift (a : AgencyBootstrap) (metric : EntropyMetric) :
    AgencyBootstrap × EntropyMetric :=
  let a := if metric.driftRate > 0 then
    { a with
      agencyStrength := capAtOne (a.agencyStrength + 1 / 50 * metric.driftRate)
      creativityFactor := capAtOne (a.creativityFactor + 1 / 100 * metric.driftRate) }
    else a
  (a, { metric with coherenceLevel := capAtOne (metric.coherenceLevel + a.agencyStrength * (1 / 10)) })

/-- `agency_increase_level`. -/
def agencyIncreaseLevel (a : AgencyBootstrap) : AgencyBootstrap :=
  if a.totalAgency > 4 / 5 ∧ a.currentLevel.ordinal < AgencyLevel.metamorphic.ordinal then
    { a with currentLevel := a.currentLevel.succ }
  else a

/-- `agency_bootstrap_cycle` at time `now`: the improvement grows with the square root of the
number of cycles. -/
def agencyBootstrapCycle (m : LibM) (a : AgencyBootstrap) (now : Int) : AgencyBootstrap :=
  let cycles := a.bootstrapCycles + 1
  let improvement := 1 / 1000 * m.sqrtf (cycles.toNat : ℚ)
  { a with
    bootstrapCycles := cycles
    lastBootstrap := now
    agencyStrength := capAtOne (a.agencyStrength + improvement)
    autonomyIndex := capAtOne (a.autonomyIndex + improvement) }

/-! ## Bounds and monotonicity -/

/-- Each of the four scores lies in `[0.1, 1]`. -/
structure AgencyBounds (a : AgencyBootstrap) : Prop where
  strength : 1 / 10 ≤ a.agencyStrength ∧ a.agencyStrength ≤ 1
  autonomy : 1 / 10 ≤ a.autonomyIndex ∧ a.autonomyIndex ≤ 1
  intentionality : 1 / 10 ≤ a.intentionalityScore ∧ a.intentionalityScore ≤ 1
  creativity : 1 / 10 ≤ a.creativityFactor ∧ a.creativityFactor ≤ 1

/-- `a'` has each score and the level of `a`, or more. -/
structure AgencyBootstrap.Le (a a' : AgencyBootstrap) : Prop where
  level : a.currentLevel.ordinal ≤ a'.currentLevel.ordinal
  strength : a.agencyStrength ≤ a'.agencyStrength
  autonomy : a.autonomyIndex ≤ a'.autonomyIndex
  intentionality : a.intentionalityScore ≤ a'.intentionalityScore
  creativity : a.creativityFactor ≤ a'.creativityFactor

theorem AgencyBootstrap.Le.refl (a : AgencyBootstrap) : a.Le a :=
  ⟨le_rfl, le_rfl, le_rfl, le_rfl, le_rfl⟩

theorem AgencyBootstrap.Le.trans {a b c : AgencyBootstrap} (h₁ : a.Le b) (h₂ : b.Le c) :
    a.Le c :=
  ⟨h₁.level.trans h₂.level, h₁.strength.trans h₂.strength, h₁.autonomy.trans h₂.autonomy,
    h₁.intentionality.trans h₂.intentionality, h₁.creativity.trans h₂.creativity⟩

/-- A score in `[0.1, 1]` raised by a non-negative amount and cut back stays in `[0.1, 1]`
and does not decrease. -/
theorem capAtOne_add_bounds {x d : ℚ} (hx : 1 / 10 ≤ x ∧ x ≤ 1) (hd : 0 ≤ d) :
    (1 / 10 ≤ capAtOne (x + d) ∧ capAtOne (x + d) ≤ 1) ∧ x ≤ capAtOne (x + d) :=
  ⟨⟨le_capAtOne (by norm_num) (by linarith), capAtOne_le_one _⟩,
    le_capAtOne hx.2 (by linarith)⟩

theorem agencyBootstrapCreate_bounds (now : Int) : AgencyBounds (agencyBootstrapCreate now) := by
  constructor <;> norm_num [agencyBootstrapCreate]

section Steps

variable {a : AgencyBootstrap} (h : AgencyBounds a)
include h

theorem AgencyBounds.agencyDetectEntropy (metric : EntropyMetric) :
    AgencyBounds (Hivecog.agencyDetectEntropy a metric) ∧ a.Le (Hivecog.agencyDetectEntropy a metric) := by
  have hi := capAtOne_add_bounds h.intentionality (by norm_num : (0 : ℚ) ≤ 1 / 20)
  have ha := capAtOne_add_bounds h.autonomy (by norm_num : (0 : ℚ) ≤ 3 / 100)
  unfold Hivecog.agencyDetectEntropy
  split_ifs
  · exact ⟨⟨h.strength, ha.1, hi.1, h.creativity⟩, ⟨le_rfl, le_rfl, ha.2, hi.2, le_rfl⟩⟩
  · exact ⟨⟨h.strength, h.autonomy, hi.1, h.creativity⟩, ⟨le_rfl, le_rfl, le_rfl, hi.2, le_rfl⟩⟩
  · exact ⟨⟨h.strength, ha.1, h.intentionality, h.creativity⟩, ⟨le_rfl, le_rfl, ha.2, le_rfl, le_rfl⟩⟩
  · exact ⟨h, .refl a⟩

theorem AgencyBounds.agencyOvercomeDrift (metric : EntropyMetric) :
    AgencyBounds (Hivecog.agencyOvercomeDrift a metric).1 ∧
      a.Le (Hivecog.agencyOvercomeDrift a metric).1 := by
  unfold Hivecog.agencyOvercomeDrift
  split_ifs with hd
  · have hs := capAtOne_add_bounds h.strength (by linarith : (0 : ℚ) ≤ 1 / 50 * metric.driftRate)
    have hc := capAtOne_add_bounds h.creativity
      (by linarith : (0 : ℚ) ≤ 1 / 100 * metric.driftRate)
    exact ⟨⟨hs.1, h.autonomy, h.intentionality, hc.1⟩, ⟨le_rfl, hs.2, le_rfl, le_rfl, hc.2⟩⟩
  · exact ⟨h, .refl a⟩

theorem AgencyBounds.agencyIncreaseLevel :
    AgencyBounds (Hivecog.agencyIncreaseLevel a) ∧ a.Le (Hivecog.agencyIncreaseLevel a) := by
  unfold Hivecog.agencyIncreaseLevel
  split_ifs with hl
  · refine ⟨⟨h.strength, h.autonomy, h.intentionality, h.creativity⟩, ⟨?_, le_rfl, le_rfl, le_rfl, le_rfl⟩⟩
    rw [AgencyLevel.ordinal_succ hl.2]
    exact Nat.le_succ _
  · exact ⟨h, .refl a⟩

theorem AgencyBounds.agencyBootstrapCycle (m : LibM) (now : Int) :
    AgencyBounds (Hivecog.agencyBootstrapCycle m a now) ∧
      a.Le (Hivecog.agencyBootstrapCycle m a now) := by
  have hi : 0 ≤ 1 / 1000 * m.sqrtf ((a.bootstrapCycles + 1).toNat : ℚ) :=
    mul_nonneg (by norm_num) (m.sqrtf_nonneg _ (Nat.cast_nonneg _))
  have hs := capAtOne_add_bounds h.strength hi
  have ha := capAtOne_add_bounds h.autonomy hi
  exact ⟨⟨hs.1, ha.1, h.intentionality, h.creativity⟩, ⟨le_rfl, hs.2, ha.2, le_rfl, le_rfl⟩⟩

/-- A coherence boost of the strength, as `bootstrap_agency_amplification_impl` adds it. -/
theorem AgencyBounds.boostStrength {d : ℚ} (hd : 0 ≤ d) :
    AgencyBounds { a with agencyStrength := capAtOne (a.agencyStrength + d) } ∧
      a.Le { a with agencyStrength := capAtOne (a.agencyStrength + d) } :=
  have hs := capAtOne_add_bounds h.strength hd
  ⟨⟨hs.1, h.autonomy, h.intentionality, h.creativity⟩, ⟨le_rfl, hs.2, le_rfl, le_rfl, le_rfl⟩⟩

end Steps

/-- The coherence `agency_overcome_drift_impl` leaves: in `[0, 1]` when it was, and the
strength is non-negative. -/
theorem agencyOvercomeDrift_coherenceLevel {a : AgencyBootstrap} (h : AgencyBounds a)
    {metric : EntropyMetric} (hc : 0 ≤ metric.coherenceLevel) :
    0 ≤ (agencyOvercomeDrift a metric).2.coherenceLevel ∧
      (agencyOvercomeDrift a metric).2.coherenceLevel ≤ 1 := by
  have hs := (h.agencyOvercomeDrift metric).1.strength.1
  refine ⟨le_capAtOne zero_le_one ?_, capAtOne_le_one _⟩
  show 0 ≤ metric.coherenceLevel + (agencyOvercomeDrift a metric).1.agencyStrength * (1 / 10)
  linarith

end Hivecog
