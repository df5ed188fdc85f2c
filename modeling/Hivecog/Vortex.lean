import Hivecog.Bootstrap

/-!
# Inference vortices and their events

The vortex half of `entropic_bootstrap.c`. A vortex keeps an energy, a coherence, a
metamorphic potential and a queue of agentic events; the resonance, the one field the
coordination pass of `Bootstrap` reads, is its `InferenceVortex` part. Processing walks the
queue from its head while the energy is above `0.1`: each event costs `0.1` of its
significance in energy, floored at `0`, and adds `0.05` of its urgency to the potential,
capped at `1`. The queue is never emptied, so every later call walks the same events
again. Coherence is then the mean of the energy and `1 - 0.01 · event_count`, floored at
`0`, and the resonance `0.8` of the coherence plus `0.2` of the potential. A vortex whose
potential passes `0.7` metamorphoses: full energy, `0.1` more coherence, potential back to
`0.1`.

Every event `agentic_event_create` makes has urgency `0.5`, so the potential of every vortex
stays in `[0.1, 1]` and its energy non-negative (`VortexBounds`). The energy, and with it the
coherence and the resonance, stays in `[0, 1]` only while every queued event has a
non-negative significance (`VortexUnit`): a negative significance refills the energy
past `1`.
-/

namespace Hivecog

/-- `agentic_event_t`, reduced to the two fields a vortex reads. The id, drawn from a static
counter, the type and description strings, the timestamp and the context are never read. -/
structure AgenticEvent where
  significance : ℚ
  urgency : ℚ

/-- `agentic_event_create(type, description, significance)`. -/
def agenticEventCreate (significance : ℚ) : AgenticEvent := ⟨significance, 1 / 2⟩

/-- `inference_vortex_t`: its resonance as the `InferenceVortex` the coordination pass reads,
and the fields only the vortex functions read. The id and the name are only printed. -/
structure VortexState extends InferenceVortex where
  energyLevel : ℚ
  coherence : ℚ
  metamorphicPotential : ℚ
  eventQueue : List AgenticEvent
  eventCount : UInt32
  lastMetamorphosis : Int

/-- `inference_vortex_create(name, id)` at time `now`. -/
def inferenceVortexCreate (now : Int) : VortexState :=
  ⟨⟨1 / 2⟩, 1, 1, 1 / 10, [], 0, now⟩

/-- `vortex_add_event`: the event goes to the head of the queue. -/
def vortexAddEvent (v : VortexState) (event : AgenticEvent) : VortexState :=
  { v with eventQueue := event :: v.eventQueue, eventCount := v.eventCount + 1 }

/-- `vortex_process_event_impl`. -/
def vortexProcessEvent (v : VortexState) (event : AgenticEvent) : VortexState :=
  let energy := v.energyLevel - event.significance * (1 / 10)
  { v with
    energyLevel := if energy < 0 then 0 else energy
    metamorphicPotential := capAtOne (v.metamorphicPotential + event.urgency * (1 / 20)) }

/-- The loop of `vortex_process_events`: the events from the head of the queue, while the
energy is above `0.1`. -/
def processQueue : List AgenticEvent → VortexState → VortexState
  | [], v => v
  | event :: events, v =>
    if v.energyLevel > 1 / 10 then processQueue events (vortexProcessEvent v event) else v

/-- `vortex_update_coherence_impl`. -/
def vortexUpdateCoherence (v : VortexState) : VortexState :=
  let processingFactor := 1 - (v.eventCount.toNat : ℚ) * (1 / 100)
  let processingFactor := if processingFactor < 0 then 0 else processingFactor
  let coherence := (v.energyLevel + processingFactor) / 2
  { v with coherence := coherence, resonance := coherence * (4 / 5) + v.metamorphicPotential * (1 / 5) }

/-- `vortex_process_events`. -/
def vortexProcessEvents (v : VortexState) : VortexState :=
  vortexUpdateCoherence (processQueue v.eventQueue v)

/-- `vortex_metamorphose_impl` at time `now`. -/
def vortexMetamorphoseImpl (v : VortexState) (now : Int) : VortexState :=
  { v with
    energyLevel := 1
    coherence := capAtOne (v.coherence + 1 / 10)
    metamorphicPotential := 1 / 10
    lastMetamorphosis := now }

/-- `vortex_metamorphose` at time `now`. -/
def vortexMetamorphose (v : VortexState) (now : Int) : VortexState :=
  if v.metamorphicPotential > 7 / 10 then vortexMetamorphoseImpl v now else v

/-- `bootstrap_vortex_coordination_impl` over the vortex list: the pass of `Bootstrap` on the
resonances, written back in place. -/
def vortexCoordination (vortices : List VortexState) : List VortexState :=
  vortices.zipWith (fun v r => { v with toInferenceVortex := r })
    (bootstrapVortexCoordination (vortices.map (·.toInferenceVortex)))

/-! ## The queue is never drained -/

@[simp] theorem processQueue_eventQueue :
    ∀ (events : List AgenticEvent) (v : VortexState),
      (processQueue events v).eventQueue = v.eventQueue ∧
        (processQueue events v).eventCount = v.eventCount
  | [], _ => ⟨rfl, rfl⟩
  | _ :: events, v => by
    unfold processQueue
    split
    · exact processQueue_eventQueue events _
    · exact ⟨rfl, rfl⟩

/-! ## Bounds that hold for every event -/

/-- What every vortex keeps: its queued events have the urgency `agentic_event_create`
gives, its potential lies in `[0.1, 1]` and its energy is non-negative. -/
structure VortexBounds (v : VortexState) : Prop where
  urgency : ∀ e ∈ v.eventQueue, e.urgency = 1 / 2
  potential : 1 / 10 ≤ v.metamorphicPotential ∧ v.metamorphicPotential ≤ 1
  energy : 0 ≤ v.energyLevel

theorem VortexBounds.inferenceVortexCreate (now : Int) :
    VortexBounds (inferenceVortexCreate now) :=
  ⟨fun _ h => absurd h (List.not_mem_nil _), by norm_num [Hivecog.inferenceVortexCreate],
    by norm_num [Hivecog.inferenceVortexCreate]⟩

section Bounds

variable {v : VortexState}

theorem VortexBounds.vortexAddEvent (h : VortexBounds v) (significance : ℚ) :
    VortexBounds (Hivecog.vortexAddEvent v (agenticEventCreate significance)) :=
  ⟨List.forall_mem_cons.2 ⟨rfl, h.urgency⟩, h.potential, h.energy⟩

theorem VortexBounds.vortexProcessEvent (h : VortexBounds v) {e : AgenticEvent}
    (he : e.urgency = 1 / 2) : VortexBounds (Hivecog.vortexProcessEvent v e) := by
  refine ⟨h.urgency, ⟨le_capAtOne (by norm_num) ?_, capAtOne_le_one _⟩, ?_⟩
  · rw [he]; linarith [h.potential.1]
  · show 0 ≤ if v.energyLevel - e.significance * (1 / 10) < 0 then 0 else _
    split <;> linarith

theorem VortexBounds.processQueue :
    ∀ {events : List AgenticEvent}, (∀ e ∈ events, e.urgency = 1 / 2) →
      ∀ {v : VortexState}, VortexBounds v → VortexBounds (Hivecog.processQueue events v)
  | [], _, _, h => h
  | e :: events, he, v, h => by
    rw [List.forall_mem_cons] at he
    unfold Hivecog.processQueue
    split
    · exact VortexBounds.processQueue he.2 (h.vortexProcessEvent he.1)
    · exact h

theorem VortexBounds.vortexProcessEvents (h : VortexBounds v) :
    VortexBounds (Hivecog.vortexProcessEvents v) :=
  have h' := VortexBounds.processQueue h.urgency h
  ⟨(processQueue_eventQueue v.eventQueue v).1 ▸ h'.urgency, h'.potential, h'.energy⟩

theorem VortexBounds.vortexMetamorphoseImpl (h : VortexBounds v) (now : Int) :
    VortexBounds (Hivecog.vortexMetamorphoseImpl v now) :=
  ⟨h.urgency, by norm_num [Hivecog.vortexMetamorphoseImpl], zero_le_one⟩

theorem VortexBounds.vortexMetamorphose (h : VortexBounds v) (now : Int) :
    VortexBounds (Hivecog.vortexMetamorphose v now) := by
  unfold Hivecog.vortexMetamorphose
  split
  · exact h.vortexMetamorphoseImpl now
  · exact h

end Bounds

theorem length_bootstrapVortexCoordination (vortices : List InferenceVortex) :
    (bootstrapVortexCoordination vortices).length = vortices.length := by
  unfold bootstrapVortexCoordination
  generalize vortexPairs vortices.length = ps
  induction ps generalizing vortices with
  | nil => rfl
  | cons p ps ih =>
    rw [List.foldl_cons, ih]
    unfold synchronizeResonance
    split <;> simp only [List.length_set]

/-- The coordination pass writes only resonances. -/
theorem vortexCoordination_eq (vortices : List VortexState) :
    ∃ rs : List InferenceVortex, rs.length = vortices.length ∧
      vortexCoordination vortices = vortices.zipWith (fun v r => { v with toInferenceVortex := r }) rs :=
  ⟨_, by rw [length_bootstrapVortexCoordination, List.length_map], rfl⟩

theorem mem_vortexCoordination {vortices : List VortexState} {v : VortexState}
    (hv : v ∈ vortexCoordination vortices) :
    ∃ w ∈ vortices, ∃ r ∈ bootstrapVortexCoordination (vortices.map (·.toInferenceVortex)),
      v = { w with toInferenceVortex := r } := by
  unfold vortexCoordination at hv
  obtain ⟨i, hi, rfl⟩ := List.getElem_of_mem hv
  rw [List.getElem_zipWith]
  exact ⟨_, List.getElem_mem _, _, List.getElem_mem _, rfl⟩

/-- The coordination pass keeps every resonance within an interval that held all of them. -/
theorem bounds_bootstrapVortexCoordination {lo hi : ℚ} :
    ∀ (ps : List (Nat × Nat)) {vortices : List InferenceVortex},
      (∀ v ∈ vortices, lo ≤ v.resonance ∧ v.resonance ≤ hi) →
      ∀ v ∈ ps.foldl synchronizeResonance vortices, lo ≤ v.resonance ∧ v.resonance ≤ hi
  | [], _, h => h
  | p :: ps, _, h => bounds_bootstrapVortexCoordination ps (bounds_synchronizeResonance h p)

/-- A vortex after the coordination pass is one from before with a resonance from within
the bounds that held all resonances before. -/
theorem exists_of_mem_vortexCoordination {lo hi : ℚ} {vortices : List VortexState}
    (hb : ∀ v ∈ vortices, lo ≤ v.resonance ∧ v.resonance ≤ hi) {v : VortexState}
    (hv : v ∈ vortexCoordination vortices) :
    ∃ w ∈ vortices, v = { w with toInferenceVortex := v.toInferenceVortex } ∧
      lo ≤ v.resonance ∧ v.resonance ≤ hi := by
  obtain ⟨w, hw, r, hr, rfl⟩ := mem_vortexCoordination hv
  refine ⟨w, hw, rfl, bounds_bootstrapVortexCoordination _ ?_ r hr⟩
  simpa using hb

/-! ## Bounds while every significance is non-negative -/

/-- A vortex whose queued events all have a non-negative significance: its energy, coherence
and resonance lie in `[0, 1]`. -/
structure VortexUnit (v : VortexState) : Prop where
  bounds : VortexBounds v
  significance : ∀ e ∈ v.eventQueue, 0 ≤ e.significance
  energy : v.energyLevel ≤ 1
  coherence : 0 ≤ v.coherence ∧ v.coherence ≤ 1
  resonance : 0 ≤ v.resonance ∧ v.resonance ≤ 1

theorem VortexUnit.inferenceVortexCreate (now : Int) :
    VortexUnit (inferenceVortexCreate now) :=
  ⟨.inferenceVortexCreate now, fun _ h => absurd h (List.not_mem_nil _), le_rfl,
    by norm_num [Hivecog.inferenceVortexCreate], by norm_num [Hivecog.inferenceVortexCreate]⟩

section Unit

variable {v : VortexState}

theorem VortexUnit.vortexAddEvent (h : VortexUnit v) {significance : ℚ} (hs : 0 ≤ significance) :
    VortexUnit (Hivecog.vortexAddEvent v (agenticEventCreate significance)) :=
  ⟨h.bounds.vortexAddEvent significance, List.forall_mem_cons.2 ⟨hs, h.significance⟩, h.energy,
    h.coherence, h.resonance⟩

theorem VortexUnit.processQueue :
    ∀ {events : List AgenticEvent}, (∀ e ∈ events, e.urgency = 1 / 2 ∧ 0 ≤ e.significance) →
      ∀ {v : VortexState}, VortexUnit v → VortexUnit (Hivecog.processQueue events v)
  | [], _, _, h => h
  | e :: events, he, v, h => by
    rw [List.forall_mem_cons] at he
    unfold Hivecog.processQueue
    split
    · refine VortexUnit.processQueue he.2 ⟨h.bounds.vortexProcessEvent he.1.1, h.significance,
        ?_, h.coherence, h.resonance⟩
      show (if v.energyLevel - e.significance * (1 / 10) < 0 then 0 else _) ≤ 1
      have := h.energy
      have := he.1.2
      split <;> linarith
    · exact h

theorem VortexUnit.vortexUpdateCoherence (h : VortexUnit v) :
    VortexUnit (Hivecog.vortexUpdateCoherence v) := by
  obtain ⟨⟨hu, hp, he⟩, hs, he', -, -⟩ := h
  have hf : 0 ≤ (if 1 - (v.eventCount.toNat : ℚ) * (1 / 100) < 0 then 0
        else 1 - (v.eventCount.toNat : ℚ) * (1 / 100)) ∧
      (if 1 - (v.eventCount.toNat : ℚ) * (1 / 100) < 0 then 0
        else 1 - (v.eventCount.toNat : ℚ) * (1 / 100)) ≤ 1 := by
    have : (0 : ℚ) ≤ v.eventCount.toNat := Nat.cast_nonneg _
    split <;> constructor <;> linarith
  refine ⟨⟨hu, hp, he⟩, hs, he', ⟨?_, ?_⟩, ⟨?_, ?_⟩⟩ <;> simp only [Hivecog.vortexUpdateCoherence] <;>
    linarith only [hf.1, hf.2, he, he', hp.1, hp.2]

theorem VortexUnit.vortexProcessEvents (h : VortexUnit v) :
    VortexUnit (Hivecog.vortexProcessEvents v) := by
  have hq := processQueue_eventQueue v.eventQueue v
  have h' := VortexUnit.processQueue (fun e he => ⟨h.bounds.urgency e he, h.significance e he⟩) h
  exact VortexUnit.vortexUpdateCoherence
    ⟨⟨hq.1 ▸ h'.bounds.urgency, h'.bounds.potential, h'.bounds.energy⟩, hq.1 ▸ h'.significance,
      h'.energy, h'.coherence, h'.resonance⟩

theorem VortexUnit.vortexMetamorphose (h : VortexUnit v) (now : Int) :
    VortexUnit (Hivecog.vortexMetamorphose v now) := by
  unfold Hivecog.vortexMetamorphose
  split
  · exact ⟨h.bounds.vortexMetamorphoseImpl now, h.significance, le_rfl,
      ⟨le_capAtOne zero_le_one (by linarith [h.coherence.1]), capAtOne_le_one _⟩, h.resonance⟩
  · exact h

end Unit

theorem VortexUnit.vortexCoordination {vortices : List VortexState}
    (h : ∀ v ∈ vortices, VortexUnit v) : ∀ v ∈ vortexCoordination vortices, VortexUnit v := by
  intro v hv
  obtain ⟨w, hw, hvw, hr⟩ := exists_of_mem_vortexCoordination (fun v hv => (h v hv).resonance) hv
  have hw' := h w hw
  rw [hvw] at hr ⊢
  exact ⟨⟨hw'.bounds.urgency, hw'.bounds.potential, hw'.bounds.energy⟩, hw'.significance,
    hw'.energy, hw'.coherence, hr⟩

theorem VortexBounds.vortexCoordination {vortices : List VortexState}
    (h : ∀ v ∈ vortices, VortexBounds v) : ∀ v ∈ vortexCoordination vortices, VortexBounds v := by
  intro v hv
  obtain ⟨w, hw, r, -, rfl⟩ := mem_vortexCoordination hv
  exact ⟨(h w hw).urgency, (h w hw).potential, (h w hw).energy⟩

end Hivecog
