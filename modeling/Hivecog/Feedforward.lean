import Hivecog.Basic
import Mathlib.Algebra.BigOperators.Group.List

/-!
# The feedforward engine's history buffer

`feedforward_autopoiesis.c` keeps the recent states of a feedforward engine in a ring
buffer. `feedforward_engine_create(name, id, history_size)` allocates `history_size` zeroed
floats without checking the size, `feedforward_engine_add_state` writes the slot
`history_index` and advances the index modulo the size, and `feedforward_engine_predict`
sums the `history_size / 2` most recent values and the `history_size / 2` before them, both
indices computed in `uint32_t`, and extrapolates from the two averages. Every `%`, division
and buffer access is checked (`Basic`).

The values a run has added, oldest first, are taken with the `history_size` zeroed slots in
front (`paddedHistory`). For every size `N ≥ 1` the buffer is a view of that history: each
of its last `N` values sits in the slot of its position modulo `N`, and `history_index` is
the number of values added modulo `N` (`RingView`, `RingView.run`).

* For every `N ≥ 2` a run of `add_state` and `predict` calls faults nowhere and keeps
  `history_index < N` (`feedforwardRun_safe`).
* For `2 ≤ N ≤ 2^31` the loop of `predict` reads the `i`-th most recent value through
  `recent_idx` and the `(i + N / 2)`-th through `older_idx`, so its two sums are those of
  the last `N / 2` values and of the `N / 2` before them (`feedforwardRun_predict_reads`).
* Above `2^31` the sum `history_index - 1 - i + history_size` can pass `2^32` and wrap. For
  `N = 2^31 + 1`, after `2^31` values, `recent_idx` at `i = 0` is slot `0`, which holds the
  first value added, not the last (`feedforwardEngine_recentIdx_wraps`).
-/

namespace Hivecog

/-- `feedforward_engine_t`, reduced to the fields the history functions read or write. The
id, the name, the prediction horizon, learning rate, momentum, accuracy, model stability and
the timestamps are read only by functions outside this model. -/
structure FeedforwardEngine where
  stateHistory : List ℚ
  historySize : UInt32
  historyIndex : UInt32
  volatility : ℚ
  predictionCount : UInt32

/-- `feedforward_engine_create`. The allocation of `history_size` floats is taken to
succeed. For size `0`, `calloc` may return a null pointer, and the constructor then returns
`NULL`, or (as glibc does) a pointer to an empty block, which the model follows. -/
def feedforwardEngineCreate (historySize : UInt32) : FeedforwardEngine where
  stateHistory := List.replicate historySize.toNat 0
  historySize := historySize
  historyIndex := 0
  volatility := 1 / 10
  predictionCount := 0

/-- `feedforward_engine_add_state`. -/
def feedforwardEngineAddState (e : FeedforwardEngine) (stateValue : ℚ) :
    Except Fault FeedforwardEngine := do
  let stateHistory ← store e.stateHistory e.historyIndex stateValue
  let historyIndex ← umod (e.historyIndex + 1) e.historySize
  pure { e with stateHistory := stateHistory, historyIndex := historyIndex }

/-- `recent_idx` at step `i` of the loop of `feedforward_engine_predict`. -/
def recentIdx (e : FeedforwardEngine) (i : UInt32) : Except Fault UInt32 :=
  umod (e.historyIndex - 1 - i + e.historySize) e.historySize

/-- `older_idx` at step `i`. -/
def olderIdx (e : FeedforwardEngine) (halfSize i : UInt32) : Except Fault UInt32 :=
  umod (e.historyIndex - 1 - i - halfSize + e.historySize) e.historySize

/-- The body of the loop of `feedforward_engine_predict` at `i = k`: both indices, then both
reads, added to `(recent_sum, older_sum)`. -/
def predictStep (e : FeedforwardEngine) (halfSize : UInt32) (sums : ℚ × ℚ) (k : Nat) :
    Except Fault (ℚ × ℚ) := do
  let recent ← recentIdx e k.toUInt32
  let older ← olderIdx e halfSize k.toUInt32
  let x ← load e.stateHistory recent
  let y ← load e.stateHistory older
  pure (sums.1 + x, sums.2 + y)

/-- The loop of `feedforward_engine_predict`: `(recent_sum, older_sum)` over `i < half_size`. -/
def predictSums (e : FeedforwardEngine) (halfSize : UInt32) : Except Fault (ℚ × ℚ) :=
  (List.range halfSize.toNat).foldlM (predictStep e halfSize) (0, 0)

/-- `feedforward_engine_predict(engine, steps_ahead)`, with `draw` the value of
`(float)rand() / RAND_MAX`, in `[0, 1]`. It returns the engine, whose prediction count has
advanced, and the prediction. -/
def feedforwardEnginePredict (e : FeedforwardEngine) (stepsAhead : UInt32) (draw : ℚ) :
    Except Fault (FeedforwardEngine × ℚ) := do
  let halfSize := e.historySize / 2
  let sums ← predictSums e halfSize
  let recentAvg ← fdiv sums.1 halfSize.toNat
  let olderAvg ← fdiv sums.2 halfSize.toNat
  let trend ← fdiv (recentAvg - olderAvg) halfSize.toNat
  let prediction := recentAvg + trend * stepsAhead.toNat + e.volatility * (draw - 1 / 2)
  let prediction := if prediction > 1 then 1 else prediction
  let prediction := if prediction < 0 then 0 else prediction
  pure ({ e with predictionCount := e.predictionCount + 1 }, prediction)

/-- A public call on one engine. -/
inductive FeedforwardOp
  | addState (stateValue : ℚ)
  | predict (stepsAhead : UInt32) (draw : ℚ)

/-- The engine after a call. -/
def FeedforwardOp.apply (e : FeedforwardEngine) : FeedforwardOp → Except Fault FeedforwardEngine
  | addState v => feedforwardEngineAddState e v
  | predict s d => Prod.fst <$> feedforwardEnginePredict e s d

/-- The value a call adds to the history, if any. -/
def FeedforwardOp.added : FeedforwardOp → Option ℚ
  | addState v => some v
  | predict .. => none

/-- The engine after a run of calls; the first fault ends the run. -/
def feedforwardRun (e : FeedforwardEngine) (ops : List FeedforwardOp) :
    Except Fault FeedforwardEngine :=
  ops.foldlM FeedforwardOp.apply e

/-- The history a buffer of `size` slots stands for after the values `vs` were added: the
zeroed slots, oldest, then the values in the order they came. -/
def paddedHistory (size : UInt32) (vs : List ℚ) : List ℚ := List.replicate size.toNat 0 ++ vs

@[simp] theorem length_paddedHistory (size : UInt32) (vs : List ℚ) :
    (paddedHistory size vs).length = size.toNat + vs.length := by
  simp [paddedHistory]

theorem paddedHistory_append (size : UInt32) (vs ws : List ℚ) :
    paddedHistory size (vs ++ ws) = paddedHistory size vs ++ ws :=
  (List.append_assoc _ _ _).symm

theorem getElem?_paddedHistory_add (size : UInt32) (vs : List ℚ) (j : Nat) :
    (paddedHistory size vs)[size.toNat + j]? = vs[j]? := by
  rw [paddedHistory, List.getElem?_append_right (by simp)]
  simp

theorem filterMap_added_map_addState (vs : List ℚ) :
    (vs.map FeedforwardOp.addState).filterMap FeedforwardOp.added = vs := by
  rw [List.filterMap_map]
  exact List.filterMap_some vs

/-! ## The buffer as a view of the history -/

/-- The buffer of `e` is a view of the padded history of `vs`: each of its last
`historySize` values sits in the slot of its position modulo `historySize`, and the next
value goes to the slot of the next position. -/
structure RingView (e : FeedforwardEngine) (vs : List ℚ) : Prop where
  length : e.stateHistory.length = e.historySize.toNat
  index : e.historyIndex.toNat = vs.length % e.historySize.toNat
  slot : ∀ p, vs.length ≤ p → p < e.historySize.toNat + vs.length →
    e.stateHistory[p % e.historySize.toNat]? = (paddedHistory e.historySize vs)[p]?

theorem RingView.index_lt {e : FeedforwardEngine} {vs : List ℚ} (h : RingView e vs)
    (hpos : 0 < e.historySize.toNat) : e.historyIndex.toNat < e.historySize.toNat :=
  h.index ▸ Nat.mod_lt _ hpos

/-- Two positions less than `N` apart lie in different slots. -/
theorem mod_ne_mod_of_lt {N a p : Nat} (h1 : a < p) (h2 : p < a + N) : p % N ≠ a % N := by
  intro h
  have hd : N ∣ p - a := Nat.dvd_of_mod_eq_zero (Nat.sub_mod_eq_zero_of_mod_eq h)
  have := Nat.eq_zero_of_dvd_of_lt hd (by omega)
  omega

theorem RingView.create (historySize : UInt32) :
    RingView (feedforwardEngineCreate historySize) [] where
  length := List.length_replicate _ _
  index := (Nat.zero_mod _).symm
  slot p _ hp := by
    have hp : p < historySize.toNat := by simpa using hp
    simp only [feedforwardEngineCreate, paddedHistory, List.append_nil, Nat.mod_eq_of_lt hp]

theorem feedforwardEngineAddState_eq {e : FeedforwardEngine}
    (hi : e.historyIndex.toNat < e.stateHistory.length) (hN : e.historySize ≠ 0) (v : ℚ) :
    feedforwardEngineAddState e v = .ok { e with
      stateHistory := e.stateHistory.set e.historyIndex.toNat v
      historyIndex := (e.historyIndex + 1) % e.historySize } := by
  simp only [feedforwardEngineAddState, store_of_lt hi, umod_of_ne_zero _ hN]
  rfl

/-- `add_state` writes the slot of the next position and moves the index past it. -/
theorem RingView.addState {e : FeedforwardEngine} {vs : List ℚ} (h : RingView e vs)
    (hN : e.historySize ≠ 0) (v : ℚ) :
    ∃ e', feedforwardEngineAddState e v = .ok e' ∧ e'.historySize = e.historySize ∧
      RingView e' (vs ++ [v]) := by
  have hpos : 0 < e.historySize.toNat := Nat.pos_of_ne_zero fun h0 => hN (UInt32.toNat.inj h0)
  have hi := h.index_lt hpos
  refine ⟨_, feedforwardEngineAddState_eq (h.length ▸ hi) hN v, rfl, ?_, ?_, ?_⟩
  · exact (List.length_set _ _ _).trans h.length
  · have hlt : e.historyIndex.toNat + 1 < 2 ^ 32 := by have := e.historySize.toNat_lt; omega
    show ((e.historyIndex + 1) % e.historySize).toNat = (vs ++ [v]).length % e.historySize.toNat
    rw [UInt32.toNat_mod, UInt32.toNat_add_one, Nat.mod_eq_of_lt hlt, h.index, Nat.mod_add_mod,
      List.length_append, List.length_singleton]
  · intro p hp1 hp2
    dsimp only at hp1 hp2 ⊢
    simp only [List.length_append, List.length_singleton] at hp1 hp2
    rw [List.getElem?_set, h.index, paddedHistory_append]
    rcases Nat.lt_or_ge p (e.historySize.toNat + vs.length) with hp | hp
    · rw [if_neg (mod_ne_mod_of_lt (by omega) (by omega)).symm, h.slot p (by omega) hp]
      exact (List.getElem?_append_left (by simpa using hp)).symm
    · obtain rfl : p = e.historySize.toNat + vs.length := by omega
      rw [Nat.add_mod_left, if_pos rfl, if_pos (by rw [h.length]; exact Nat.mod_lt _ hpos),
        ← length_paddedHistory e.historySize vs, List.getElem?_concat_length]

/-! ## `predict` -/

theorem predictStep_ok {e : FeedforwardEngine}
    (hlen : e.stateHistory.length = e.historySize.toNat) (hN : e.historySize ≠ 0)
    (halfSize : UInt32) (sums : ℚ × ℚ) (k : Nat) :
    ∃ sums', predictStep e halfSize sums k = .ok sums' := by
  have hr := umod_of_ne_zero (e.historyIndex - 1 - k.toUInt32 + e.historySize) hN
  have ho := umod_of_ne_zero (e.historyIndex - 1 - k.toUInt32 - halfSize + e.historySize) hN
  have hx := load_of_lt ((toNat_umod_lt hr).trans_eq hlen.symm)
  have hy := load_of_lt ((toNat_umod_lt ho).trans_eq hlen.symm)
  exact ⟨_, by simp only [predictStep, recentIdx, olderIdx, hr, ho, bind, Except.bind, hx, hy]; rfl⟩

theorem feedforwardEnginePredict_ok {e : FeedforwardEngine}
    (hlen : e.stateHistory.length = e.historySize.toNat) (h2 : 2 ≤ e.historySize.toNat)
    (stepsAhead : UInt32) (draw : ℚ) :
    ∃ p, feedforwardEnginePredict e stepsAhead draw =
      .ok ({ e with predictionCount := e.predictionCount + 1 }, p) := by
  have hN : e.historySize ≠ 0 := fun h0 => by simp [h0] at h2
  obtain ⟨sums, hs⟩ := foldlM_ok (fun b k _ => predictStep_ok hlen hN (e.historySize / 2) b k)
    (l := List.range (e.historySize / 2).toNat) (0, 0)
  have hhalf : ((e.historySize / 2).toNat : ℚ) ≠ 0 := by
    rw [UInt32.toNat_div, show (2 : UInt32).toNat = 2 from rfl]
    exact Nat.cast_ne_zero.2 (by omega)
  exact ⟨_, by simp only [feedforwardEnginePredict, predictSums, hs, fdiv_of_ne_zero _ hhalf]; rfl⟩

/-! ## Runs -/

/-- Every call keeps the view, for a size of at least `2`. -/
theorem RingView.apply {e : FeedforwardEngine} {vs : List ℚ} (h : RingView e vs)
    (h2 : 2 ≤ e.historySize.toNat) (op : FeedforwardOp) :
    ∃ e', op.apply e = .ok e' ∧ e'.historySize = e.historySize ∧
      RingView e' (vs ++ op.added.toList) := by
  have hN : e.historySize ≠ 0 := fun h0 => by simp [h0] at h2
  cases op with
  | addState v => exact h.addState hN v
  | predict s d =>
    obtain ⟨p, hp⟩ := feedforwardEnginePredict_ok h.length h2 s d
    refine ⟨{ e with predictionCount := e.predictionCount + 1 },
      by simp only [FeedforwardOp.apply, hp]; rfl, rfl, ?_⟩
    simp only [FeedforwardOp.added, Option.toList, List.append_nil]
    exact ⟨h.length, h.index, h.slot⟩

/-- A run from a view with at least `2` slots faults nowhere, keeps the size and keeps the
view, over the values the run adds. -/
theorem RingView.run {e : FeedforwardEngine} {vs : List ℚ} (h : RingView e vs)
    (h2 : 2 ≤ e.historySize.toNat) (ops : List FeedforwardOp) :
    ∃ e', feedforwardRun e ops = .ok e' ∧ e'.historySize = e.historySize ∧
      RingView e' (vs ++ ops.filterMap FeedforwardOp.added) := by
  induction ops generalizing e vs with
  | nil => exact ⟨e, rfl, rfl, by simpa using h⟩
  | cons op ops ih =>
    obtain ⟨e₁, he₁, hs₁, h₁⟩ := h.apply h2 op
    obtain ⟨e₂, he₂, hs₂, h₂⟩ := ih h₁ (hs₁ ▸ h2)
    refine ⟨e₂, by rw [feedforwardRun, List.foldlM_cons, he₁]; exact he₂, hs₂.trans hs₁, ?_⟩
    cases hop : op.added <;> simpa [List.filterMap_cons, hop] using h₂

/-- From any size of at least `2`, a run of `add_state` and `predict` calls performs no
modulus or division by zero and no access outside the buffer, and the index stays below
the size. -/
theorem feedforwardRun_safe (N : UInt32) (h2 : 2 ≤ N.toNat) (ops : List FeedforwardOp) :
    ∃ e, feedforwardRun (feedforwardEngineCreate N) ops = .ok e ∧ e.historySize = N ∧
      e.historyIndex.toNat < N.toNat := by
  obtain ⟨e, he, hs, hv⟩ := (RingView.create N).run h2 ops
  have hs : e.historySize = N := hs
  subst hs
  exact ⟨e, he, rfl, hv.index_lt (by omega)⟩

theorem feedforwardRun_safe_two :
    2 ≤ (2 : UInt32).toNat ∧ ∃ e, feedforwardRun (feedforwardEngineCreate 2)
      [.addState 1, .predict 1 (1 / 2)] = .ok e ∧ e.historySize = 2 ∧
      e.historyIndex.toNat < (2 : UInt32).toNat :=
  ⟨by decide, feedforwardRun_safe 2 (by decide) _⟩

/-! ## What `predict` reads -/

section Reads

variable {e : FeedforwardEngine} {vs : List ℚ}

/-- The slot of the `j`-th most recent position holds the `j`-th most recent value of the
padded history. -/
theorem RingView.slot_recent (h : RingView e vs) {j : Nat} (hj : j < e.historySize.toNat) :
    e.stateHistory[(vs.length + (e.historySize.toNat - 1 - j)) % e.historySize.toNat]? =
      (paddedHistory e.historySize vs).reverse[j]? := by
  rw [h.slot _ (Nat.le_add_right _ _) (by omega), List.getElem?_reverse (by simp; omega),
    length_paddedHistory]
  congr 1
  omega

/-- Up to `2^31` slots, `recent_idx` at step `i` is the slot of the `i`-th most recent
value. -/
theorem RingView.recentIdx_read (h : RingView e vs) (hN : e.historySize.toNat ≤ 2 ^ 31)
    {i : UInt32} (hi : i.toNat < e.historySize.toNat) :
    ∃ r, recentIdx e i = .ok r ∧
      e.stateHistory[r.toNat]? = (paddedHistory e.historySize vs).reverse[i.toNat]? := by
  have hpos : 0 < e.historySize.toNat := by omega
  have hidx := h.index_lt hpos
  refine ⟨_, umod_of_ne_zero _ (UInt32.ne_zero_of_pos hpos), ?_⟩
  rw [UInt32.toNat_mod, UInt32.toNat_sub_one_sub_add _ _ _ (by omega) (by omega),
    ← h.slot_recent hi, h.index, ← Nat.mod_add_mod]
  congr 2
  omega

/-- Up to `2^31` slots, `older_idx` at step `i` is the slot of the `(N / 2 + i)`-th most
recent value. -/
theorem RingView.olderIdx_read (h : RingView e vs) (hN : e.historySize.toNat ≤ 2 ^ 31)
    {i : UInt32} (hi : i.toNat < e.historySize.toNat / 2) :
    ∃ o, olderIdx e (e.historySize / 2) i = .ok o ∧
      e.stateHistory[o.toNat]? =
        (paddedHistory e.historySize vs).reverse[e.historySize.toNat / 2 + i.toNat]? := by
  have hpos : 0 < e.historySize.toNat := by omega
  have hidx := h.index_lt hpos
  have hh : (e.historySize / 2).toNat = e.historySize.toNat / 2 := UInt32.toNat_div _ _
  refine ⟨_, umod_of_ne_zero _ (UInt32.ne_zero_of_pos hpos), ?_⟩
  rw [UInt32.toNat_mod, UInt32.toNat_sub_one_sub_sub_add _ _ _ _ (by omega) (by omega),
    ← h.slot_recent (by omega), h.index, ← Nat.mod_add_mod, hh]
  congr 2
  omega

/-- Up to `2^31` slots, step `k` of the loop adds the `k`-th most recent value and the
`(N / 2 + k)`-th. -/
theorem RingView.predictStep_eq (h : RingView e vs) (hN : e.historySize.toNat ≤ 2 ^ 31)
    {k : Nat} (hk : k < e.historySize.toNat / 2) (sums : ℚ × ℚ) :
    let hist := (paddedHistory e.historySize vs).reverse
    ∃ hr : k < hist.length, ∃ ho : e.historySize.toNat / 2 + k < hist.length,
      predictStep e (e.historySize / 2) sums k = .ok (sums.1 + hist[k], sums.2 +
        hist[e.historySize.toNat / 2 + k]) := by
  intro hist
  have hlen : hist.length = e.historySize.toNat + vs.length := by simp [hist]
  have hk' : k.toUInt32.toNat = k := Nat.toUInt32_toNat (by omega)
  obtain ⟨r, hr, hx⟩ := h.recentIdx_read hN (i := k.toUInt32) (by omega)
  obtain ⟨o, ho, hy⟩ := h.olderIdx_read hN (i := k.toUInt32) (by omega)
  rw [hk'] at hx hy
  have hr' : k < hist.length := by omega
  have ho' : e.historySize.toNat / 2 + k < hist.length := by omega
  have hx' := load_of_getElem? (hx.trans (List.getElem?_eq_getElem hr'))
  have hy' := load_of_getElem? (hy.trans (List.getElem?_eq_getElem ho'))
  refine ⟨hr', ho', ?_⟩
  simp only [predictStep, hr, ho, bind, Except.bind, hx', hy']
  rfl

/-- Up to `2^31` slots, the loop of `predict` sums the `N / 2` most recent values of the
padded history and the `N / 2` before them. -/
theorem RingView.predictSums_eq (h : RingView e vs) (h2 : 2 ≤ e.historySize.toNat)
    (hN : e.historySize.toNat ≤ 2 ^ 31) :
    let hist := (paddedHistory e.historySize vs).reverse
    predictSums e (e.historySize / 2) = .ok ((hist.take (e.historySize.toNat / 2)).sum,
      ((hist.drop (e.historySize.toNat / 2)).take (e.historySize.toNat / 2)).sum) := by
  intro hist
  have hh : (e.historySize / 2).toNat = e.historySize.toNat / 2 := UInt32.toNat_div _ _
  have hlen : hist.length = e.historySize.toNat + vs.length := by simp [hist]
  suffices ∀ m ≤ e.historySize.toNat / 2,
      (List.range m).foldlM (predictStep e (e.historySize / 2)) (0, 0) =
        .ok ((hist.take m).sum, ((hist.drop (e.historySize.toNat / 2)).take m).sum) by
    rw [predictSums, hh]
    exact this _ le_rfl
  intro m hm
  induction m with
  | zero => rfl
  | succ m ih =>
    obtain ⟨hr, ho, hstep⟩ := h.predictStep_eq hN (k := m) (by omega)
      ((hist.take m).sum, ((hist.drop (e.historySize.toNat / 2)).take m).sum)
    rw [List.range_succ, List.foldlM_append, ih (by omega)]
    simp only [List.foldlM_cons, List.foldlM_nil, bind, Except.bind, hstep]
    rw [List.sum_take_succ _ _ hr, List.sum_take_succ _ _ (by rw [List.length_drop]; omega), List.getElem_drop]
    rfl

end Reads

/-- For every size `2 ≤ N ≤ 2^31` and every run of `add_state` and `predict` calls, the
index stays below `N`; `recent_idx` and `older_idx` at every step `i < N / 2` of the loop
of `predict` address the `(i + 1)`-th and the `(N / 2 + i + 1)`-th most recent values of
the zero-padded history; and the loop's two sums are those of the last `N / 2` values and
of the `N / 2` before them. -/
theorem feedforwardRun_predict_reads (N : UInt32) (h2 : 2 ≤ N.toNat) (hN : N.toNat ≤ 2 ^ 31)
    (ops : List FeedforwardOp) :
    let hist := (paddedHistory N (ops.filterMap FeedforwardOp.added)).reverse
    ∃ e, feedforwardRun (feedforwardEngineCreate N) ops = .ok e ∧
      e.historyIndex.toNat < N.toNat ∧
      (∀ i : UInt32, i.toNat < N.toNat / 2 →
        (∃ r, recentIdx e i = .ok r ∧ e.stateHistory[r.toNat]? = hist[i.toNat]?) ∧
        ∃ o, olderIdx e (N / 2) i = .ok o ∧
          e.stateHistory[o.toNat]? = hist[N.toNat / 2 + i.toNat]?) ∧
      predictSums e (N / 2) =
        .ok ((hist.take (N.toNat / 2)).sum, ((hist.drop (N.toNat / 2)).take (N.toNat / 2)).sum) := by
  intro hist
  obtain ⟨e, he, hs, hv⟩ := (RingView.create N).run h2 ops
  have hs : e.historySize = N := hs
  rw [List.nil_append] at hv
  subst hs
  exact ⟨e, he, hv.index_lt (by omega),
    fun i hi => ⟨hv.recentIdx_read hN (by omega), hv.olderIdx_read hN hi⟩, hv.predictSums_eq h2 hN⟩

theorem feedforwardRun_predict_reads_four :
    2 ≤ (4 : UInt32).toNat ∧ (4 : UInt32).toNat ≤ 2 ^ 31 ∧
    let ops : List FeedforwardOp := [.addState 1, .addState 2, .predict 1 (1 / 2), .addState 3]
    let hist := (paddedHistory 4 (ops.filterMap FeedforwardOp.added)).reverse
    ∃ e, feedforwardRun (feedforwardEngineCreate 4) ops = .ok e ∧
      e.historyIndex.toNat < (4 : UInt32).toNat ∧
      (∀ i : UInt32, i.toNat < (4 : UInt32).toNat / 2 →
        (∃ r, recentIdx e i = .ok r ∧ e.stateHistory[r.toNat]? = hist[i.toNat]?) ∧
        ∃ o, olderIdx e (4 / 2) i = .ok o ∧
          e.stateHistory[o.toNat]? = hist[(4 : UInt32).toNat / 2 + i.toNat]?) ∧
      predictSums e (4 / 2) = .ok ((hist.take ((4 : UInt32).toNat / 2)).sum,
        ((hist.drop ((4 : UInt32).toNat / 2)).take ((4 : UInt32).toNat / 2)).sum) :=
  ⟨by decide, by decide, feedforwardRun_predict_reads 4 (by decide) (by decide) _⟩

/-- For `N = 2^31 + 1`, after the values `0, 1, ..., 2^31 - 1` were added, `history_index`
is `2^31`, and `recent_idx` at `i = 0` is `(2^31 - 1 + 2^31 + 1) mod 2^32 % N = 0`. The loop
reads slot `0`, which holds the first value added, `0`, where the most recent value is
`2^31 - 1`. -/
theorem feedforwardEngine_recentIdx_wraps :
    ∃ e, feedforwardRun (feedforwardEngineCreate 2147483649)
        (((List.range 2147483648).map (fun k : Nat => (k : ℚ))).map .addState) = .ok e ∧
      recentIdx e 0 = .ok 0 ∧ e.stateHistory[0]? = some 0 ∧
      (paddedHistory 2147483649
        ((List.range 2147483648).map (fun k : Nat => (k : ℚ)))).reverse[0]? = some 2147483647 := by
  have hlen : ((List.range 2147483648).map (fun k : Nat => (k : ℚ))).length = 2147483648 := by
    simp only [List.length_map, List.length_range]
  have hfirst : ((List.range 2147483648).map (fun k : Nat => (k : ℚ)))[0]? = some 0 := by
    simp only [List.getElem?_map, List.getElem?_range (by decide : 0 < 2147483648),
      Option.map_some', Nat.cast_zero]
  have hlast : ((List.range 2147483648).map (fun k : Nat => (k : ℚ)))[2147483647]? =
      some 2147483647 := by
    simp only [List.getElem?_map, List.getElem?_range (by decide : 2147483647 < 2147483648),
      Option.map_some', Nat.cast_ofNat]
  generalize (List.range 2147483648).map (fun k : Nat => (k : ℚ)) = vs at hlen hfirst hlast ⊢
  obtain ⟨e, he, hs, hv⟩ := (RingView.create 2147483649).run (by decide) (vs.map .addState)
  have hs : e.historySize = 2147483649 := hs
  rw [List.nil_append, filterMap_added_map_addState] at hv
  have hidx : e.historyIndex = 2147483648 := UInt32.toNat.inj (by rw [hv.index, hlen, hs]; rfl)
  refine ⟨e, he, by rw [recentIdx, hidx, hs]; rfl, ?_, ?_⟩
  · have hslot := hv.slot 2147483649 (by omega) (by rw [hs, hlen]; decide)
    rw [hs, show 2147483649 % (2147483649 : UInt32).toNat = 0 from rfl] at hslot
    exact hslot.trans ((getElem?_paddedHistory_add 2147483649 vs 0).trans hfirst)
  · rw [List.getElem?_reverse (by rw [length_paddedHistory]; omega), length_paddedHistory, hlen]
    exact (getElem?_paddedHistory_add 2147483649 vs 2147483647).trans hlast

end Hivecog
