import Hivecog.Basic

/-!
# The planetary transformer bridge

`planetary_transformer_bridge.c` keeps, for a city, an economic state: a budget that starts at
`10000`, a reputation that starts at `1`, the number of queries served and the value created.
`planetary_transformer_publish` counts a publication as a query served.
`planetary_transformer_query` refuses a query whose `max_cost` exceeds the budget, and
otherwise charges half of it. `planetary_transformer_report_transaction` adds the value a
transaction created when the city sent or received it, and moves the reputation towards `1`
on a success and down by `2%` on a failure, whichever cities the transaction was between. A
city is conscious when it has served more than ten queries and its reputation is above `0.8`.

* In every run the budget stays positive and the reputation in `(0, 1]`, and the queries
  served count the publications only: answering a query never counts
  (`bridgeRun_economics`).
* A query with a negative `max_cost` passes the budget check and credits the budget
  (`BridgeOp.apply_query`).
* Twelve failed transactions leave every city unconscious, whichever cities they were
  between: each takes `2%` off the reputation (`reportTransactions_not_conscious`).

`encode_autognosis_state`, `decode_transformer_response` and `share_with_planetary_network`
read engine fields (`num_nodes`, `num_edges`, `atom_space`, `num_atoms`) and call
`create_node`, none of which `autognosis.h` declares; they are not modelled.
-/

namespace Hivecog

/-- `struct planetary_transformer`, without the engine pointer, the specialization, the vector
dimension, the connection flag and the timestamp, which no modelled function reads. The city
id is copied by `strncpy` into a `malloc`ed buffer, whose last byte an id of `63` bytes or
more leaves uninitialised; the model takes it as zero. -/
structure PlanetaryTransformer where
  cityId : CBuf 64
  budget : ℚ
  reputation : ℚ
  queriesServed : UInt64
  totalValueCreated : ℚ

/-- `planetary_transformer_init(engine, city_id, specialization)`, all three non-NULL. -/
def planetaryTransformerInit (cityId : CStr) : PlanetaryTransformer :=
  ⟨strncpy 63 cityId, 10000, 1, 0, 0⟩

/-- `planetary_transformer_publish`: the knowledge itself is only printed. -/
def planetaryTransformerPublish (p : PlanetaryTransformer) : PlanetaryTransformer :=
  { p with queriesServed := p.queriesServed + 1 }

/-- `transformer_response_t`, without the contributing cities' names and the solution vector
of `rand()` values. -/
structure TransformerResponse where
  numContributors : UInt32
  totalCost : ℚ
  confidence : ℚ

/-- `planetary_transformer_query(transformer, query, response)` for a query of `max_cost`;
`none` is the `-1` of an insufficient budget, which leaves the transformer as it was. -/
def planetaryTransformerQuery (p : PlanetaryTransformer) (maxCost : ℚ) :
    Option (PlanetaryTransformer × TransformerResponse) :=
  if p.budget < maxCost then none
  else
    let response : TransformerResponse := ⟨2, maxCost * (1 / 2), 3 / 4⟩
    some ({ p with budget := p.budget - response.totalCost }, response)

/-- `economic_transaction_t`, without the amount and the timestamp, which only the message
prints. -/
structure EconomicTransaction where
  fromCity : CStr
  toCity : CStr
  valueCreated : ℚ
  success : Bool

/-- `planetary_transformer_report_transaction`. -/
def planetaryTransformerReportTransaction (p : PlanetaryTransformer) (tx : EconomicTransaction) :
    PlanetaryTransformer :=
  let totalValueCreated :=
    if tx.fromCity = p.cityId.str ∨ tx.toCity = p.cityId.str then
      p.totalValueCreated + tx.valueCreated
    else p.totalValueCreated
  { p with
    totalValueCreated := totalValueCreated
    reputation :=
      if tx.success then p.reputation * (19 / 20) + 1 / 20 else p.reputation * (49 / 50) }

/-- `planetary_transformer_is_conscious`. -/
def planetaryTransformerIsConscious (p : PlanetaryTransformer) : Bool :=
  decide (p.queriesServed > 10) && decide (p.reputation > 4 / 5)

/-- `planetary_transformer_get_economics`: the budget and the reputation. -/
def planetaryTransformerGetEconomics (p : PlanetaryTransformer) : ℚ × ℚ :=
  (p.budget, p.reputation)

/-- A call that changes a city's state. -/
inductive BridgeOp
  | publish
  | query (maxCost : ℚ)
  | reportTransaction (tx : EconomicTransaction)

/-- The state after a call; a refused query changes nothing. -/
def BridgeOp.apply (p : PlanetaryTransformer) : BridgeOp → PlanetaryTransformer
  | publish => planetaryTransformerPublish p
  | query maxCost => ((planetaryTransformerQuery p maxCost).map Prod.fst).getD p
  | reportTransaction tx => planetaryTransformerReportTransaction p tx

/-- The state after a run of calls. -/
def bridgeRun (p : PlanetaryTransformer) (ops : List BridgeOp) : PlanetaryTransformer :=
  ops.foldl BridgeOp.apply p

/-- Whether a call is a publication. -/
def BridgeOp.isPublish : BridgeOp → Bool
  | publish => true
  | _ => false

/-! ## Economics over runs -/

theorem UInt64.toNat_add_one (a : UInt64) : (a + 1).toNat = (a.toNat + 1) % 2 ^ 64 := by
  simp [UInt64.toNat, UInt64.add_def, BitVec.toNat_add]

/-- The ranges a city's economic state keeps. -/
structure Solvent (p : PlanetaryTransformer) : Prop where
  budget : 0 < p.budget
  reputation : 0 < p.reputation ∧ p.reputation ≤ 1

theorem Solvent.init (cityId : CStr) : Solvent (planetaryTransformerInit cityId) :=
  ⟨by norm_num [planetaryTransformerInit], by norm_num [planetaryTransformerInit]⟩

/-- A transaction moves the reputation within `(0, 1]`. -/
theorem Solvent.reportTransaction {p : PlanetaryTransformer} (h : Solvent p)
    (tx : EconomicTransaction) : Solvent (planetaryTransformerReportTransaction p tx) := by
  obtain ⟨hb, hr₀, hr₁⟩ := h
  refine ⟨hb, ?_⟩
  simp only [planetaryTransformerReportTransaction]
  split_ifs <;> constructor <;> linarith

/-- The state after a query: unchanged when refused, charged half of `max_cost` otherwise. -/
theorem BridgeOp.apply_query (p : PlanetaryTransformer) (maxCost : ℚ) :
    (query maxCost).apply p =
      if p.budget < maxCost then p else { p with budget := p.budget - maxCost * (1 / 2) } := by
  simp only [BridgeOp.apply, planetaryTransformerQuery]
  split_ifs <;> rfl

/-- Nothing checks that a cost is non-negative: a query of `max_cost` `-100` passes the budget
check and credits the budget with `50`. -/
example : (BridgeOp.query (-100)).apply (planetaryTransformerInit (.ascii "Paris" (by decide))) =
    { planetaryTransformerInit (.ascii "Paris" (by decide)) with budget := 10050 } := by
  rw [BridgeOp.apply_query]
  norm_num [planetaryTransformerInit]

/-- An accepted query keeps the budget positive: it charges at most half of it, or, for a
negative `max_cost`, credits it. -/
theorem Solvent.apply {p : PlanetaryTransformer} (h : Solvent p) (op : BridgeOp) :
    Solvent (op.apply p) := by
  cases op with
  | publish => exact ⟨h.budget, h.reputation⟩
  | query maxCost =>
    rw [BridgeOp.apply_query]
    split_ifs with hq
    · exact h
    · refine ⟨?_, h.reputation⟩
      show 0 < p.budget - maxCost * (1 / 2)
      linarith [h.budget, not_lt.1 hq]
  | reportTransaction tx => exact h.reportTransaction tx

/-- Every run keeps the ranges. -/
theorem Solvent.run {p : PlanetaryTransformer} (h : Solvent p) (ops : List BridgeOp) :
    Solvent (bridgeRun p ops) := by
  induction ops generalizing p with
  | nil => exact h
  | cons op ops ih => exact ih (h.apply op)

/-- Only a publication counts as a query served. -/
theorem BridgeOp.queriesServed_apply (p : PlanetaryTransformer) (op : BridgeOp) :
    (op.apply p).queriesServed.toNat =
      (p.queriesServed.toNat + if op.isPublish then 1 else 0) % 2 ^ 64 := by
  cases op with
  | publish => exact UInt64.toNat_add_one _
  | query maxCost =>
    show _ = (_ + 0) % _
    rw [BridgeOp.apply_query]
    split_ifs <;> exact (Nat.mod_eq_of_lt p.queriesServed.toNat_lt).symm
  | reportTransaction tx => exact (Nat.mod_eq_of_lt p.queriesServed.toNat_lt).symm

theorem bridgeRun_queriesServed (p : PlanetaryTransformer) (ops : List BridgeOp) :
    (bridgeRun p ops).queriesServed.toNat =
      (p.queriesServed.toNat + ops.countP BridgeOp.isPublish) % 2 ^ 64 := by
  induction ops generalizing p with
  | nil => exact (Nat.mod_eq_of_lt p.queriesServed.toNat_lt).symm
  | cons op ops ih =>
    rw [bridgeRun, List.foldl_cons, ← bridgeRun, ih, BridgeOp.queriesServed_apply,
      Nat.mod_add_mod, List.countP_cons, Nat.add_assoc, Nat.add_comm (ite _ _ _)]

/-- In every run from `planetary_transformer_init`, the budget stays positive, the reputation
in `(0, 1]`, and the queries served are the publications, modulo `2^64`: a query answered
never counts. -/
theorem bridgeRun_economics (cityId : CStr) (ops : List BridgeOp) :
    let p := bridgeRun (planetaryTransformerInit cityId) ops
    0 < (planetaryTransformerGetEconomics p).1 ∧ 0 < (planetaryTransformerGetEconomics p).2 ∧
      (planetaryTransformerGetEconomics p).2 ≤ 1 ∧
      p.queriesServed.toNat = ops.countP BridgeOp.isPublish % 2 ^ 64 := by
  obtain ⟨hb, hr⟩ := (Solvent.init cityId).run ops
  exact ⟨hb, hr.1, hr.2, (bridgeRun_queriesServed _ ops).trans (by rw [planetaryTransformerInit,
    UInt64.toNat_zero, Nat.zero_add])⟩

/-- `k` failed transactions, between any cities, multiply the reputation by `0.98 ^ k`. -/
theorem reputation_foldl_failed (txs : List EconomicTransaction)
    (hf : ∀ tx ∈ txs, tx.success = false) (p : PlanetaryTransformer) :
    (txs.foldl planetaryTransformerReportTransaction p).reputation =
      p.reputation * (49 / 50) ^ txs.length := by
  induction txs generalizing p with
  | nil => simp only [List.foldl_nil, List.length_nil, pow_zero, mul_one]
  | cons tx txs ih =>
    rw [List.foldl_cons, ih (fun t ht => hf t (List.mem_cons_of_mem tx ht)),
      List.length_cons, pow_succ]
    simp only [planetaryTransformerReportTransaction, hf tx (List.mem_cons_self tx txs),
      Bool.false_eq_true, ite_false]
    ring

/-- Twelve failed transactions reported to a city of reputation at most `1`, whichever cities
they were between, leave it unconscious: `0.98 ^ 12 < 0.8`. -/
theorem reportTransactions_not_conscious (p : PlanetaryTransformer) (hr : p.reputation ≤ 1)
    (txs : List EconomicTransaction) (hl : txs.length = 12)
    (hf : ∀ tx ∈ txs, tx.success = false) :
    planetaryTransformerIsConscious (txs.foldl planetaryTransformerReportTransaction p) =
      false := by
  have hlt : (txs.foldl planetaryTransformerReportTransaction p).reputation ≤ 4 / 5 := by
    rw [reputation_foldl_failed txs hf, hl]
    calc p.reputation * (49 / 50) ^ 12 ≤ 1 * (49 / 50) ^ 12 :=
          mul_le_mul_of_nonneg_right hr (by norm_num)
      _ ≤ 4 / 5 := by norm_num
  simp only [planetaryTransformerIsConscious, not_lt.2 hlt, decide_False, Bool.and_false]

/-- The theorem on a city made conscious by eleven publications, then told of twelve failed
transactions between two other cities. -/
theorem reportTransactions_not_conscious_strangers :
    planetaryTransformerIsConscious
        (bridgeRun (planetaryTransformerInit (.ascii "Paris" (by decide)))
          (List.replicate 11 .publish)) = true ∧
      (bridgeRun (planetaryTransformerInit (.ascii "Paris" (by decide)))
          (List.replicate 11 .publish)).reputation ≤ 1 ∧
      (List.replicate 12 (⟨.ascii "Tokyo" (by decide), .ascii "Lagos" (by decide), 100, false⟩ :
          EconomicTransaction)).length = 12 ∧
      (∀ tx ∈ List.replicate 12 (⟨.ascii "Tokyo" (by decide), .ascii "Lagos" (by decide), 100,
          false⟩ : EconomicTransaction), tx.success = false) ∧
      planetaryTransformerIsConscious
        ((List.replicate 12 (⟨.ascii "Tokyo" (by decide), .ascii "Lagos" (by decide), 100,
            false⟩ : EconomicTransaction)).foldl planetaryTransformerReportTransaction
          (bridgeRun (planetaryTransformerInit (.ascii "Paris" (by decide)))
            (List.replicate 11 .publish))) = false := by
  have hr :=
    ((Solvent.init (.ascii "Paris" (by decide))).run (List.replicate 11 .publish)).reputation.2
  have hf : ∀ tx ∈ List.replicate 12 (⟨.ascii "Tokyo" (by decide), .ascii "Lagos" (by decide),
      100, false⟩ : EconomicTransaction), tx.success = false :=
    fun _ ht => (List.eq_of_mem_replicate ht).symm ▸ rfl
  refine ⟨?_, hr, List.length_replicate _ _, hf,
    reportTransactions_not_conscious _ hr _ (List.length_replicate _ _) hf⟩
  simp only [planetaryTransformerIsConscious, bridgeRun, List.replicate_succ,
    List.replicate_zero, List.foldl_cons, List.foldl_nil, BridgeOp.apply,
    planetaryTransformerPublish, planetaryTransformerInit]
  norm_num
  decide

end Hivecog
