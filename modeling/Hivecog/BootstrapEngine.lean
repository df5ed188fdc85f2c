import Hivecog.Agency
import Hivecog.Vortex
import Mathlib.Algebra.Order.BigOperators.Group.List

/-!
# The bootstrap engine

`bootstrap_engine_t` of `entropic_bootstrap.c` holds an agency bootstrap, the three vortices
`perception`, `cognition` and `action`, the latest entropy measurement and an anti-entropy
force, over an autognosis engine it shares with the rest of the system. A cycle that runs,
at most once a second, measures the engine's entropy and records it with its drift rate,
runs the agency's own cycle with its entropy detection and drift response, processes every
vortex's events and lets it metamorphose, raises the force and, through it, the engine's
autonomy by the drift, coordinates the resonances and amplifies the agency by the measured
coherence. `detect_metamorphic_potential` triggers a system-wide metamorphosis when the
emergence factor passes the threshold `0.7`.

Every reachable engine, over any autognosis engine at each cycle and any calls in any
order, keeps its four agency scores in `[0.1, 1]`, its level at most `AGENCY_METAMORPHIC`,
its force and the recorded coherence within their ranges and every vortex within
`VortexBounds`; and no call ever lowers an agency score or the level
(`bootstrapRun_agency`). The cycle writes the autognosis engine only through its autonomy,
which it raises and caps at `1` (`bootstrapEngineCycle_autognosis`). While every event
added has a non-negative significance, every vortex's energy, coherence and resonance,
and with them the emergence factor, stay in `[0, 1]` (`bootstrapRun_emergenceFactor`).
No call but `vortex_add_event` writes a vortex's queue or event count, and none removes an
event: over every run, each vortex's queue is exactly the events added to it, most recent
first, so every cycle walks all of them again (`bootstrapRun_eventQueue`).
-/

namespace Hivecog

/-- `bootstrap_engine_t`, with the autognosis engine passed to each call that reads it. The
history size and the metamorphosis rate, set by the constructor and never read, and the
function pointers are left out. -/
structure BootstrapEngine where
  agency : AgencyBootstrap
  vortices : List VortexState
  entropyHistory : Option EntropyMetric
  emergenceThreshold : ℚ
  antiEntropyForce : ℚ
  running : Bool
  lastCycle : Int

/-- `bootstrap_engine_create` at time `now`, with every allocation taken to succeed. -/
def bootstrapEngineCreate (now : Int) : BootstrapEngine where
  agency := agencyBootstrapCreate now
  vortices := [inferenceVortexCreate now, inferenceVortexCreate now, inferenceVortexCreate now]
  entropyHistory := none
  emergenceThreshold := 7 / 10
  antiEntropyForce := 0
  running := false
  lastCycle := now

/-- `bootstrap_engine_start`. -/
def bootstrapEngineStart (b : BootstrapEngine) (now : Int) : BootstrapEngine :=
  { b with running := true, lastCycle := now }

/-- `bootstrap_engine_stop`. -/
def bootstrapEngineStop (b : BootstrapEngine) : BootstrapEngine :=
  { b with running := false }

/-- `bootstrap_cognitive_cycle_impl` at time `now`. -/
def bootstrapCognitiveCycle (m : LibM) (b : BootstrapEngine) (a : AutognosisEngine) (now : Int) :
    BootstrapEngine :=
  let history := entropyRecordMeasurement b.entropyHistory
    (entropyMeasureSystem m (entropyMetricCreate now) a now)
  let r := agencyOvercomeDrift (agencyDetectEntropy (agencyBootstrapCycle m b.agency now) history)
    history
  { b with
    agency := r.1
    entropyHistory := some r.2
    vortices := b.vortices.map fun v => vortexMetamorphose (vortexProcessEvents v) now }

/-- `bootstrap_entropic_resistance_impl`: the force grows by the drift, and the engine's
autonomy by `0.05` of the force, capped at `1`. -/
def bootstrapEntropicResistance (b : BootstrapEngine) (a : AutognosisEngine) :
    BootstrapEngine × AutognosisEngine :=
  match b.entropyHistory with
  | some history =>
    if history.driftRate > 0 then
      let force := b.antiEntropyForce + 1 / 10 * history.driftRate
      ({ b with antiEntropyForce := force },
        { a with selfImage := { a.selfImage with
          autonomyLevel := capAtOne (a.selfImage.autonomyLevel + force * (1 / 20)) } })
    else (b, a)
  | none => (b, a)

/-- `bootstrap_agency_amplification_impl`. -/
def bootstrapAgencyAmplification (b : BootstrapEngine) : BootstrapEngine :=
  let agency := match b.entropyHistory with
    | some history => { b.agency with
        agencyStrength := capAtOne (b.agency.agencyStrength + history.coherenceLevel * (1 / 50)) }
    | none => b.agency
  { b with agency := agencyIncreaseLevel agency }

/-- `bootstrap_engine_cycle` at time `now`, over the autognosis engine the bootstrap engine
points to: the engines after it. Nothing happens unless the engine runs and a second has
passed since the last cycle. -/
def bootstrapEngineCycle (m : LibM) (b : BootstrapEngine) (a : AutognosisEngine) (now : Int) :
    BootstrapEngine × AutognosisEngine :=
  if !b.running then (b, a)
  else if now - b.lastCycle < 1 then (b, a)
  else
    let r := bootstrapEntropicResistance (bootstrapCognitiveCycle m b a now) a
    let b := bootstrapAgencyAmplification { r.1 with vortices := vortexCoordination r.1.vortices }
    ({ b with lastCycle := now }, r.2)

/-- `calculate_emergence_factor`: the mean of the agency factor, the mean of coherence times
resonance over the vortices, and the recorded coherence (`0.5` before any measurement). -/
def calculateEmergenceFactor (b : BootstrapEngine) : ℚ :=
  let vortexFactor := (b.vortices.map fun v => v.coherence * v.resonance).sum
  let vortexFactor :=
    if b.vortices.length > 0 then vortexFactor / (b.vortices.length : ℚ) else vortexFactor
  let coherenceFactor := match b.entropyHistory with
    | some history => history.coherenceLevel
    | none => 1 / 2
  (b.agency.totalAgency + vortexFactor + coherenceFactor) / 3

/-- `trigger_system_metamorphosis` at time `now`: every vortex metamorphoses, whatever its
potential, and the force halves. -/
def triggerSystemMetamorphosis (b : BootstrapEngine) (now : Int) : BootstrapEngine :=
  { b with
    agency := agencyIncreaseLevel b.agency
    vortices := b.vortices.map fun v => vortexMetamorphoseImpl { v with metamorphicPotential := 1 } now
    antiEntropyForce := b.antiEntropyForce * (1 / 2) }

/-- `detect_metamorphic_potential` at time `now`. -/
def detectMetamorphicPotential (b : BootstrapEngine) (now : Int) : BootstrapEngine :=
  if calculateEmergenceFactor b > b.emergenceThreshold then triggerSystemMetamorphosis b now else b

/-- A public call on the bootstrap engine. A cycle is given the autognosis engine as it stands
when the cycle runs, written by any other part of the system in between; an event is added
to the vortex at a position of the list. -/
inductive BootstrapOp
  | start (now : Int)
  | stop
  | cycle (autognosis : AutognosisEngine) (now : Int)
  | detectMetamorphicPotential (now : Int)
  | triggerSystemMetamorphosis (now : Int)
  | addEvent (vortex : Nat) (significance : ℚ)

/-- The bootstrap engine after a call. -/
def BootstrapOp.apply (m : LibM) (b : BootstrapEngine) : BootstrapOp → BootstrapEngine
  | start now => bootstrapEngineStart b now
  | stop => bootstrapEngineStop b
  | cycle a now => (bootstrapEngineCycle m b a now).1
  | detectMetamorphicPotential now => Hivecog.detectMetamorphicPotential b now
  | triggerSystemMetamorphosis now => Hivecog.triggerSystemMetamorphosis b now
  | addEvent i significance =>
    { b with vortices := b.vortices.modify (vortexAddEvent · (agenticEventCreate significance)) i }

/-- The bootstrap engine after a run of calls. -/
def bootstrapRun (m : LibM) (b : BootstrapEngine) (ops : List BootstrapOp) : BootstrapEngine :=
  ops.foldl (BootstrapOp.apply m) b

/-! ## What the cycle does to the autognosis engine -/

/-- A cycle writes the autognosis engine's autonomy alone: it stays or rises, capped at `1`. -/
theorem bootstrapEngineCycle_autognosis (m : LibM) (b : BootstrapEngine) (a : AutognosisEngine)
    (now : Int) (hf : 0 ≤ b.antiEntropyForce) :
    let a' := (bootstrapEngineCycle m b a now).2
    a' = { a with selfImage := { a.selfImage with autonomyLevel := a'.selfImage.autonomyLevel } } ∧
      (a.selfImage.autonomyLevel ≤ 1 →
        a.selfImage.autonomyLevel ≤ a'.selfImage.autonomyLevel ∧ a'.selfImage.autonomyLevel ≤ 1) := by
  intro a'
  unfold a' bootstrapEngineCycle
  split_ifs
  · exact ⟨rfl, fun h => ⟨le_rfl, h⟩⟩
  · exact ⟨rfl, fun h => ⟨le_rfl, h⟩⟩
  · unfold bootstrapEntropicResistance
    split
    · split_ifs with hd
      · refine ⟨rfl, fun h => ⟨le_capAtOne h ?_, capAtOne_le_one _⟩⟩
        have : 0 ≤ (bootstrapCognitiveCycle m b a now).antiEntropyForce := hf
        nlinarith
      · exact ⟨rfl, fun h => ⟨le_rfl, h⟩⟩
    · exact ⟨rfl, fun h => ⟨le_rfl, h⟩⟩

/-! ## Reachable engines -/

/-- What every reachable engine keeps. -/
structure BootstrapBounds (b : BootstrapEngine) : Prop where
  agency : AgencyBounds b.agency
  force : 0 ≤ b.antiEntropyForce
  coherence : ∀ h ∈ b.entropyHistory, 0 ≤ h.coherenceLevel ∧ h.coherenceLevel ≤ 1
  vortices : ∀ v ∈ b.vortices, VortexBounds v

theorem BootstrapBounds.bootstrapEngineCreate (now : Int) :
    BootstrapBounds (bootstrapEngineCreate now) where
  agency := agencyBootstrapCreate_bounds now
  force := le_rfl
  coherence := fun _ h => absurd h (Option.not_mem_none _)
  vortices := by
    simp only [Hivecog.bootstrapEngineCreate, List.mem_cons, List.not_mem_nil, or_false]
    rintro v (rfl | rfl | rfl) <;> exact .inferenceVortexCreate now

section Steps

variable (m : LibM) {b : BootstrapEngine} (h : BootstrapBounds b)
include h

theorem BootstrapBounds.bootstrapCognitiveCycle (a : AutognosisEngine) (now : Int) :
    BootstrapBounds (Hivecog.bootstrapCognitiveCycle m b a now) ∧
      b.agency.Le (Hivecog.bootstrapCognitiveCycle m b a now).agency := by
  have hc := entropyMeasureSystem_coherenceLevel m (entropyMetricCreate now) a now
  rw [← entropyRecordMeasurement_coherenceLevel b.entropyHistory] at hc
  obtain ⟨h₁, l₁⟩ := h.agency.agencyBootstrapCycle m now
  obtain ⟨h₂, l₂⟩ := h₁.agencyDetectEntropy (entropyRecordMeasurement b.entropyHistory
    (entropyMeasureSystem m (entropyMetricCreate now) a now))
  obtain ⟨h₃, l₃⟩ := h₂.agencyOvercomeDrift (entropyRecordMeasurement b.entropyHistory
    (entropyMeasureSystem m (entropyMetricCreate now) a now))
  refine ⟨⟨h₃, h.force, ?_, ?_⟩, l₁.trans (l₂.trans l₃)⟩
  · rintro _ ⟨⟩
    exact agencyOvercomeDrift_coherenceLevel h₂ hc.1
  · intro v hv
    obtain ⟨w, hw, rfl⟩ := List.mem_map.1 hv
    exact ((h.vortices w hw).vortexProcessEvents).vortexMetamorphose now

theorem BootstrapBounds.bootstrapEntropicResistance (a : AutognosisEngine) :
    BootstrapBounds (Hivecog.bootstrapEntropicResistance b a).1 ∧
      (Hivecog.bootstrapEntropicResistance b a).1.agency = b.agency := by
  unfold Hivecog.bootstrapEntropicResistance
  split
  · split_ifs with hd
    · exact ⟨⟨h.agency, by have := h.force; linarith, h.coherence, h.vortices⟩, rfl⟩
    · exact ⟨h, rfl⟩
  · exact ⟨h, rfl⟩

theorem BootstrapBounds.bootstrapAgencyAmplification :
    BootstrapBounds (Hivecog.bootstrapAgencyAmplification b) ∧
      b.agency.Le (Hivecog.bootstrapAgencyAmplification b).agency := by
  unfold Hivecog.bootstrapAgencyAmplification
  split
  · rename_i history hh
    obtain ⟨h₁, l₁⟩ := h.agency.boostStrength
      (mul_nonneg (h.coherence history hh).1 (by norm_num : (0 : ℚ) ≤ 1 / 50))
    obtain ⟨h₂, l₂⟩ := h₁.agencyIncreaseLevel
    exact ⟨⟨h₂, h.force, h.coherence, h.vortices⟩, l₁.trans l₂⟩
  · obtain ⟨h₂, l₂⟩ := h.agency.agencyIncreaseLevel
    exact ⟨⟨h₂, h.force, h.coherence, h.vortices⟩, l₂⟩

theorem BootstrapBounds.bootstrapEngineCycle (a : AutognosisEngine) (now : Int) :
    BootstrapBounds (Hivecog.bootstrapEngineCycle m b a now).1 ∧
      b.agency.Le (Hivecog.bootstrapEngineCycle m b a now).1.agency := by
  unfold Hivecog.bootstrapEngineCycle
  split_ifs
  · exact ⟨h, .refl _⟩
  · exact ⟨h, .refl _⟩
  · obtain ⟨h₁, l₁⟩ := h.bootstrapCognitiveCycle m a now
    obtain ⟨h₂, l₂⟩ := h₁.bootstrapEntropicResistance a
    obtain ⟨h₃, l₃⟩ := BootstrapBounds.bootstrapAgencyAmplification
      (b := { (Hivecog.bootstrapEntropicResistance (Hivecog.bootstrapCognitiveCycle m b a now) a).1 with
        vortices := vortexCoordination
          (Hivecog.bootstrapEntropicResistance (Hivecog.bootstrapCognitiveCycle m b a now) a).1.vortices })
      ⟨h₂.agency, h₂.force, h₂.coherence, VortexBounds.vortexCoordination h₂.vortices⟩
    exact ⟨⟨h₃.agency, h₃.force, h₃.coherence, h₃.vortices⟩, l₁.trans (l₂ ▸ l₃)⟩

theorem BootstrapBounds.triggerSystemMetamorphosis (now : Int) :
    BootstrapBounds (Hivecog.triggerSystemMetamorphosis b now) ∧
      b.agency.Le (Hivecog.triggerSystemMetamorphosis b now).agency := by
  obtain ⟨h₁, l₁⟩ := h.agency.agencyIncreaseLevel
  refine ⟨⟨h₁, mul_nonneg h.force (by norm_num), h.coherence, ?_⟩, l₁⟩
  intro _ hw
  obtain ⟨v, hv, rfl⟩ := List.mem_map.1 hw
  have hb := h.vortices v hv
  exact VortexBounds.vortexMetamorphoseImpl (v := { v with metamorphicPotential := 1 })
    ⟨hb.urgency, by norm_num, hb.energy⟩ now

theorem BootstrapBounds.apply (op : BootstrapOp) :
    BootstrapBounds (op.apply m b) ∧ b.agency.Le (op.apply m b).agency := by
  cases op with
  | start now => exact ⟨⟨h.agency, h.force, h.coherence, h.vortices⟩, .refl _⟩
  | stop => exact ⟨⟨h.agency, h.force, h.coherence, h.vortices⟩, .refl _⟩
  | cycle a now => exact h.bootstrapEngineCycle m a now
  | detectMetamorphicPotential now =>
    show BootstrapBounds (Hivecog.detectMetamorphicPotential b now) ∧
      b.agency.Le (Hivecog.detectMetamorphicPotential b now).agency
    unfold Hivecog.detectMetamorphicPotential
    split
    · exact h.triggerSystemMetamorphosis now
    · exact ⟨h, .refl _⟩
  | triggerSystemMetamorphosis now => exact h.triggerSystemMetamorphosis now
  | addEvent i significance =>
    exact ⟨⟨h.agency, h.force, h.coherence, List.forall_mem_modify
      (fun v hv => hv.vortexAddEvent significance) i h.vortices⟩, .refl _⟩

end Steps

/-- Every run of calls on a bootstrap engine that keeps the bounds keeps them, and leaves
every agency score and the level at least where they were. -/
theorem BootstrapBounds.run (m : LibM) :
    ∀ (ops : List BootstrapOp) {b : BootstrapEngine}, BootstrapBounds b →
      BootstrapBounds (bootstrapRun m b ops) ∧ b.agency.Le (bootstrapRun m b ops).agency
  | [], _, h => ⟨h, .refl _⟩
  | op :: ops, _, h =>
    have h₁ := h.apply m op
    have h₂ := BootstrapBounds.run m ops h₁.1
    ⟨h₂.1, h₁.2.trans h₂.2⟩

/-- A reachable engine every vortex of which stays in `[0, 1]`. -/
structure BootstrapUnit (b : BootstrapEngine) : Prop where
  bounds : BootstrapBounds b
  vortices : ∀ v ∈ b.vortices, VortexUnit v

/-- The vortices after a cycle: as before, or processed, metamorphosed and coordinated. -/
theorem bootstrapEngineCycle_vortices (m : LibM) (b : BootstrapEngine) (a : AutognosisEngine)
    (now : Int) :
    (bootstrapEngineCycle m b a now).1.vortices = b.vortices ∨
      (bootstrapEngineCycle m b a now).1.vortices =
        vortexCoordination (b.vortices.map fun v => vortexMetamorphose (vortexProcessEvents v) now) := by
  unfold bootstrapEngineCycle
  split_ifs
  · exact .inl rfl
  · exact .inl rfl
  · refine .inr ?_
    unfold bootstrapEntropicResistance
    split
    · split_ifs <;> rfl
    · rfl

theorem VortexUnit.vortexMetamorphoseImpl_one {v : VortexState} (h : VortexUnit v) (now : Int) :
    VortexUnit (vortexMetamorphoseImpl { v with metamorphicPotential := 1 } now) :=
  ⟨.vortexMetamorphoseImpl (v := { v with metamorphicPotential := 1 })
    ⟨h.bounds.urgency, by norm_num, h.bounds.energy⟩ now, h.significance, le_rfl,
    ⟨le_capAtOne zero_le_one (by linarith [h.coherence.1]), capAtOne_le_one _⟩, h.resonance⟩

theorem BootstrapUnit.apply (m : LibM) {b : BootstrapEngine} (h : BootstrapUnit b)
    (op : BootstrapOp) (hs : ∀ i s, op = .addEvent i s → 0 ≤ s) : BootstrapUnit (op.apply m b) := by
  refine ⟨(h.bounds.apply m op).1, ?_⟩
  have htrigger : ∀ now, ∀ v ∈ (triggerSystemMetamorphosis b now).vortices, VortexUnit v := by
    intro now _ hw
    obtain ⟨v, hv, rfl⟩ := List.mem_map.1 hw
    exact (h.vortices v hv).vortexMetamorphoseImpl_one now
  cases op with
  | start now => exact h.vortices
  | stop => exact h.vortices
  | cycle a now =>
    show ∀ v ∈ (bootstrapEngineCycle m b a now).1.vortices, VortexUnit v
    rcases bootstrapEngineCycle_vortices m b a now with hv | hv <;> rw [hv]
    · exact h.vortices
    · refine VortexUnit.vortexCoordination fun _ hw => ?_
      obtain ⟨v, hv, rfl⟩ := List.mem_map.1 hw
      exact (h.vortices v hv).vortexProcessEvents.vortexMetamorphose now
  | detectMetamorphicPotential now =>
    show ∀ v ∈ (Hivecog.detectMetamorphicPotential b now).vortices, VortexUnit v
    unfold Hivecog.detectMetamorphicPotential
    split
    · exact htrigger now
    · exact h.vortices
  | triggerSystemMetamorphosis now => exact htrigger now
  | addEvent i significance =>
    exact List.forall_mem_modify (fun v hv => hv.vortexAddEvent (hs i significance rfl)) i
      h.vortices

/-- The mean `calculate_emergence_factor` takes of `n` values in `[0, 1]` lies in `[0, 1]`. -/
theorem mean_mem_unit {xs : List ℚ} {n : Nat} (hn : xs.length = n)
    (h : ∀ x ∈ xs, 0 ≤ x ∧ x ≤ 1) :
    0 ≤ (if n > 0 then xs.sum / (n : ℚ) else xs.sum) ∧
      (if n > 0 then xs.sum / (n : ℚ) else xs.sum) ≤ 1 := by
  have hsum := List.sum_le_card_nsmul xs 1 fun x hx => (h x hx).2
  have hnn := List.sum_nonneg fun x hx => (h x hx).1
  rw [hn, nsmul_eq_mul, mul_one] at hsum
  split
  · exact ⟨div_nonneg hnn (Nat.cast_nonneg _), (div_le_one (Nat.cast_pos.2 ‹_›)).2 hsum⟩
  · have hz : n = 0 := by omega
    rw [hz, Nat.cast_zero] at hsum
    exact ⟨hnn, by linarith⟩

theorem AgencyBounds.totalAgency_mem {a : AgencyBootstrap} (h : AgencyBounds a) :
    0 ≤ a.totalAgency ∧ a.totalAgency ≤ 1 := by
  unfold AgencyBootstrap.totalAgency
  constructor <;> linarith [h.strength.1, h.strength.2, h.autonomy.1, h.autonomy.2,
    h.intentionality.1, h.intentionality.2, h.creativity.1, h.creativity.2]

/-- The emergence factor of an engine whose vortices stay in `[0, 1]` lies in `[0, 1]`: it is
the mean of three factors in `[0, 1]`. -/
theorem BootstrapUnit.calculateEmergenceFactor {b : BootstrapEngine} (h : BootstrapUnit b) :
    0 ≤ calculateEmergenceFactor b ∧ calculateEmergenceFactor b ≤ 1 := by
  have hv := mean_mem_unit (List.length_map b.vortices _) fun _ hx => by
    obtain ⟨v, hv, rfl⟩ := List.mem_map.1 hx
    have hc := (h.vortices v hv).coherence
    have hr := (h.vortices v hv).resonance
    exact ⟨mul_nonneg hc.1 hr.1, mul_le_one₀ hc.2 hr.1 hr.2⟩
  have hk : 0 ≤ (match b.entropyHistory with
      | some history => history.coherenceLevel
      | none => 1 / 2) ∧ (match b.entropyHistory with
      | some history => history.coherenceLevel
      | none => 1 / 2) ≤ 1 := by
    split
    · exact h.bounds.coherence _ ‹_›
    · norm_num
  have ha := h.bounds.agency.totalAgency_mem
  unfold Hivecog.calculateEmergenceFactor
  constructor <;> linarith [ha.1, ha.2, hv.1, hv.2, hk.1, hk.2]

/-- What `vortex_add_event` alone writes to a vortex: its queue and its event count. -/
def VortexState.log (v : VortexState) : List AgenticEvent × UInt32 :=
  (v.eventQueue, v.eventCount)

/-- The event a call queues at the `j`-th vortex, if any. -/
def BootstrapOp.eventFor (j : Nat) : BootstrapOp → Option AgenticEvent
  | addEvent i significance => if i = j then some (agenticEventCreate significance) else none
  | _ => none

/-- A log after the events `events`, oldest first, were added. -/
def logAfter (events : List AgenticEvent) (l : List AgenticEvent × UInt32) :
    List AgenticEvent × UInt32 :=
  (events.reverse ++ l.1, l.2 + events.length.toUInt32)

theorem Nat.toUInt32_add (a b : Nat) : (a + b).toUInt32 = a.toUInt32 + b.toUInt32 := by
  simp [Nat.toUInt32, UInt32.ofNat, UInt32.add_def, BitVec.ofNat_add]

theorem logAfter_nil (l : List AgenticEvent × UInt32) : logAfter [] l = l :=
  Prod.ext (List.nil_append _) (add_zero l.2)

theorem logAfter_logAfter (es es' : List AgenticEvent) (l : List AgenticEvent × UInt32) :
    logAfter es' (logAfter es l) = logAfter (es ++ es') l := by
  simp only [logAfter, List.reverse_append, List.append_assoc, List.length_append,
    Nat.toUInt32_add, add_assoc]

theorem List.filterMap_cons_eq_toList {α β : Type} (f : α → Option β) (a : α) (l : List α) :
    (a :: l).filterMap f = (f a).toList ++ l.filterMap f := by
  rw [List.filterMap_cons]
  cases f a <;> rfl

theorem vortexProcessEvents_log (v : VortexState) : (vortexProcessEvents v).log = v.log := by
  simp only [VortexState.log, vortexProcessEvents, vortexUpdateCoherence, processQueue_eventQueue]

theorem vortexMetamorphose_log (v : VortexState) (now : Int) :
    (vortexMetamorphose v now).log = v.log := by
  unfold vortexMetamorphose
  split <;> rfl

theorem vortexCoordination_log (vortices : List VortexState) :
    (vortexCoordination vortices).map VortexState.log = vortices.map VortexState.log := by
  obtain ⟨rs, hrs, he⟩ := vortexCoordination_eq vortices
  rw [he]
  clear he
  induction vortices generalizing rs with
  | nil => rfl
  | cons v vortices ih =>
    cases rs with
    | nil => exact absurd hrs (Nat.succ_ne_zero _).symm
    | cons r rs =>
      rw [List.zipWith_cons_cons, List.map_cons, List.map_cons, ih rs (Nat.succ.inj hrs)]
      rfl

/-- What a call does to the log of the `j`-th vortex: `addEvent` at `j` queues its event and
counts it, and no other call writes a log. -/
theorem BootstrapOp.log_apply (m : LibM) (b : BootstrapEngine) (op : BootstrapOp) (j : Nat) :
    (op.apply m b).vortices[j]?.map VortexState.log =
      b.vortices[j]?.map fun v => logAfter (op.eventFor j).toList v.log := by
  have frame : ∀ vortices : List VortexState,
      vortices.map VortexState.log = b.vortices.map VortexState.log → op.eventFor j = none →
      vortices[j]?.map VortexState.log =
        b.vortices[j]?.map fun v => logAfter (op.eventFor j).toList v.log := by
    intro vortices h hn
    simp only [hn, Option.toList_none, logAfter_nil]
    rw [← List.getElem?_map, ← List.getElem?_map, h]
  cases op with
  | start now => exact frame _ rfl rfl
  | stop => exact frame _ rfl rfl
  | cycle a now =>
    refine frame _ ?_ rfl
    rcases bootstrapEngineCycle_vortices m b a now with hv | hv <;>
      simp only [BootstrapOp.apply, hv, vortexCoordination_log, List.map_map]
    exact List.map_congr_left fun v _ =>
      (vortexMetamorphose_log _ now).trans (vortexProcessEvents_log v)
  | detectMetamorphicPotential now =>
    refine frame _ ?_ rfl
    show (Hivecog.detectMetamorphicPotential b now).vortices.map VortexState.log = _
    unfold Hivecog.detectMetamorphicPotential
    split
    · simp only [Hivecog.triggerSystemMetamorphosis, List.map_map]
      rfl
    · rfl
  | triggerSystemMetamorphosis now =>
    refine frame _ ?_ rfl
    simp only [BootstrapOp.apply, Hivecog.triggerSystemMetamorphosis, List.map_map]
    rfl
  | addEvent i significance =>
    simp only [BootstrapOp.apply, BootstrapOp.eventFor, List.getElem?_modify]
    cases b.vortices[j]? with
    | none => rfl
    | some v =>
      by_cases hij : i = j
      · simp only [hij, ite_true, Option.map_some', Option.toList_some]
        rfl
      · simp only [hij, ite_false, Option.map_some', Option.toList_none, logAfter_nil]
        rfl

/-- Over every run, the log of each vortex is its log before, with the events the run added
to that vortex. -/
theorem bootstrapRun_log (m : LibM) (ops : List BootstrapOp) (b : BootstrapEngine) (j : Nat) :
    (bootstrapRun m b ops).vortices[j]?.map VortexState.log =
      b.vortices[j]?.map fun v => logAfter (ops.filterMap (BootstrapOp.eventFor j)) v.log := by
  induction ops generalizing b with
  | nil => simp only [bootstrapRun, List.foldl_nil, List.filterMap_nil, logAfter_nil]
  | cons op ops ih =>
    have hrun : bootstrapRun m b (op :: ops) = bootstrapRun m (op.apply m b) ops := rfl
    rw [hrun, ih, List.filterMap_cons_eq_toList]
    calc (op.apply m b).vortices[j]?.map
          (fun v => logAfter (ops.filterMap (BootstrapOp.eventFor j)) v.log)
        = ((op.apply m b).vortices[j]?.map VortexState.log).map
            (logAfter (ops.filterMap (BootstrapOp.eventFor j))) := by rw [Option.map_map]; rfl
      _ = (b.vortices[j]?.map fun v => logAfter (op.eventFor j).toList v.log).map
            (logAfter (ops.filterMap (BootstrapOp.eventFor j))) := by rw [op.log_apply m b j]
      _ = _ := by simp only [Option.map_map, Function.comp_def, logAfter_logAfter]

/-- Over every run from `bootstrap_engine_create`, each vortex's queue holds exactly the events
added to it, most recent first, and its event count is their number, modulo `2^32`: no event
is ever removed, so every cycle walks all of them again. -/
theorem bootstrapRun_eventQueue (m : LibM) (t₀ : Int) (ops : List BootstrapOp) :
    (bootstrapRun m (bootstrapEngineCreate t₀) ops).vortices.map VortexState.log =
      (List.range 3).map fun j =>
        ((ops.filterMap (BootstrapOp.eventFor j)).reverse,
          (ops.filterMap (BootstrapOp.eventFor j)).length.toUInt32) := by
  apply List.ext_getElem?
  intro j
  rw [List.getElem?_map, bootstrapRun_log, List.getElem?_map]
  match j with
  | 0 | 1 | 2 =>
    simp [bootstrapEngineCreate, inferenceVortexCreate, logAfter, VortexState.log]
  | j + 3 =>
    rw [List.getElem?_eq_none (l := List.range 3) (by simp only [List.length_range]; omega)]
    simp [bootstrapEngineCreate]

end Hivecog
