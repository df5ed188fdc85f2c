import Hivecog.Coordinator

/-!
# Healing: local evaluation, escalation, and what the engine learns

* `healingEvaluateProblem_first_best`: the loop of `healing_evaluate_problem`, which
  replaces its best rule only on a strictly higher score, selects the matching rule of
  maximal score nearest the head of the list, if that score is positive, and falls back to
  `HEALING_RETRY` otherwise (`foldl_evaluateStep`, from any accumulator).
* `hiveCoordinateHealing_escalation`: a node escalates exactly when its own rules give
  `HEALING_NONE` or `HEALING_RETRY`, with one broadcast request naming itself and its local
  outcome; every node that receives it answers with exactly one response, addressed to
  the requester, carrying the problem id, its own id, and its own rules' verdict on the
  description as the request carries it, cut to 255 bytes.
* `diagnoseRun_healingRules`: `diagnose_and_heal` does not learn which rule was selected,
  only the action. Each call gives one more attempt to the first rule whose condition
  matches and whose action is the returned one (`creditIndex`), so over a run every
  rule's count grows by the calls that credit it, and nothing else of a rule changes. That
  rule is the selected one only when no earlier matching rule shares its action; with no
  rule selected it is the first matching `RETRY` rule (`creditIndex_of_bestRule_eq_none`).
  Since `success_count` is never written, a rule credited once scores `0` from then on, and
  the default rules already credit a rule that was not selected
  (`diagnoseAndHeal_credits_unselected`).
-/

namespace Hivecog

/-! ## The rule `healing_evaluate_problem` selects -/

/-- The loop of `healing_evaluate_problem` from any `(best_rule, best_score)`: either no
matching rule scores above `best_score` and the accumulator is kept, or the loop ends on
the first matching rule of maximal score, which beats `best_score`. -/
theorem foldl_evaluateStep (d : CStr) (rules : List HealingRule)
    (best : Option HealingRule × ℚ) :
    ((∀ r ∈ rules, r.appliesTo d → r.score ≤ best.2) ∧
      rules.foldl (evaluateStep d) best = best) ∨
    ∃ pre r post, rules = pre ++ r :: post ∧ r.appliesTo d ∧ best.2 < r.score ∧
      (∀ r' ∈ rules, r'.appliesTo d → r'.score ≤ r.score) ∧
      (∀ r' ∈ pre, r'.appliesTo d → r'.score < r.score) ∧
      rules.foldl (evaluateStep d) best = (some r, r.score) := by
  induction rules generalizing best with
  | nil => exact .inl ⟨fun _ h => absurd h (List.not_mem_nil _), rfl⟩
  | cons x xs ih =>
    rw [List.foldl_cons, evaluateStep]
    split_ifs with hx
    · -- `x` matches and beats the accumulator: it is the best so far.
      rcases ih (some x, x.score) with ⟨hle, heq⟩ | ⟨pre, r, post, rfl, hr, hlt, hmax, hpre, heq⟩
      · exact .inr ⟨[], x, xs, rfl, hx.1, hx.2, List.forall_mem_cons.2 ⟨fun _ => le_rfl, hle⟩,
          fun _ h => absurd h (List.not_mem_nil _), heq⟩
      · exact .inr ⟨x :: pre, r, post, rfl, hr, hx.2.trans hlt,
          List.forall_mem_cons.2 ⟨fun _ => hlt.le, hmax⟩,
          List.forall_mem_cons.2 ⟨fun _ => hlt, hpre⟩, heq⟩
    · -- `x` is skipped: it does not match, or scores at most `best_score`.
      have hxle : x.appliesTo d → x.score ≤ best.2 := fun ha => not_lt.1 fun h => hx ⟨ha, h⟩
      rcases ih best with ⟨hle, heq⟩ | ⟨pre, r, post, rfl, hr, hlt, hmax, hpre, heq⟩
      · exact .inl ⟨List.forall_mem_cons.2 ⟨hxle, hle⟩, heq⟩
      · exact .inr ⟨x :: pre, r, post, rfl, hr, hlt,
          List.forall_mem_cons.2 ⟨fun ha => (hxle ha).trans hlt.le, hmax⟩,
          List.forall_mem_cons.2 ⟨fun ha => (hxle ha).trans_lt hlt, hpre⟩, heq⟩

/-- `healing_evaluate_problem` returns the action of the rule nearest the head of the list
among the matching rules of maximal score, when that score is positive, and
`HEALING_RETRY` otherwise, with no matching rule in particular. -/
theorem healingEvaluateProblem_first_best (e : AutognosisEngine) (d : CStr) :
    ((∀ r ∈ e.healingRules, r.appliesTo d → r.score ≤ 0) ∧
      healingEvaluateProblem e d = .retry) ∨
    ∃ pre r post, e.healingRules = pre ++ r :: post ∧ r.appliesTo d ∧ 0 < r.score ∧
      (∀ r' ∈ e.healingRules, r'.appliesTo d → r'.score ≤ r.score) ∧
      (∀ r' ∈ pre, r'.appliesTo d → r'.score < r.score) ∧
      healingEvaluateProblem e d = r.action := by
  rcases foldl_evaluateStep d e.healingRules (none, 0) with
    ⟨hle, heq⟩ | ⟨pre, r, post, hsplit, hr, hpos, hmax, hpre, heq⟩
  · exact .inl ⟨hle, by simp only [healingEvaluateProblem, bestRule, heq]⟩
  · exact .inr ⟨pre, r, post, hsplit, hr, hpos, hmax, hpre,
      by simp only [healingEvaluateProblem, bestRule, heq]⟩

/-! ## Escalation -/

/-- `hive_coordinate_healing` at node `A`, and the delivery of what it sends to any node `B`. -/
theorem hiveCoordinateHealing_escalation (counter : UInt32) (A B : HiveCoordinator) (d : CStr)
    (now now' : Int) :
    let r := hiveCoordinateHealing counter A d now
    let localAction := healingEvaluateProblem A.localEngine d
    r.2.2.length = (if localAction = .none ∨ localAction = .retry then 1 else 0) ∧
    ∀ m ∈ r.2.2, m.recipientId = 0 ∧ m.type = HiveMessageType.healingRequest.ordinal ∧
      ∃ req, m.data = .healingRequest req ∧ req.requestingNode = A.nodeId ∧
        req.suggestedAction = localAction ∧
        ∃ reply, receiveMessage B m now' =
            ({ B with sequenceCounter := B.sequenceCounter + 1 }, [reply]) ∧
          reply.type = HiveMessageType.healingResponse.ordinal ∧ reply.recipientId = A.nodeId ∧
          reply.data = .healingResponse ⟨req.problemId, B.nodeId,
            healingEvaluateProblem B.localEngine (strncpy 255 d).str, 4 / 5⟩ := by
  intro r localAction
  simp only [r, hiveCoordinateHealing]
  split
  · rename_i h
    rw [requestHealingAssistance_eq]
    refine ⟨by simp only [localAction, h, if_true, List.length_singleton], fun m hm => ?_⟩
    obtain rfl := List.mem_singleton.1 hm
    rw [receiveMessage_healingRequest rfl, if_pos rfl, respondToHealingRequest_eq]
    exact ⟨rfl, rfl, _, rfl, rfl, rfl, _, rfl, rfl, rfl, rfl⟩
  · rename_i h
    simp [localAction, h]

/-! ## What `diagnose_and_heal` learns -/

/-- The index of the rule a call of `diagnose_and_heal` credits: the first whose condition
occurs in the description and whose action is the one returned. -/
def creditIndex (e : AutognosisEngine) (d : CStr) : Option Nat :=
  e.healingRules.findIdx?
    (fun r => r.appliesTo d && decide (r.action = healingEvaluateProblem e d))

/-- The engine after a run of `diagnose_and_heal` calls. -/
def diagnoseRun (e : AutognosisEngine) : List CStr → AutognosisEngine
  | [] => e
  | d :: ds => diagnoseRun (diagnoseAndHeal e d).1 ds

/-- The calls of a run that credit the rule at index `i`. -/
def creditCount (e : AutognosisEngine) : List CStr → Nat → Nat
  | [], _ => 0
  | d :: ds, i =>
    (if creditIndex e d = some i then 1 else 0) + creditCount (diagnoseAndHeal e d).1 ds i

/-- One call: the credited rule gets one more attempt, every other rule is unchanged. -/
theorem diagnoseAndHeal_rules (e : AutognosisEngine) (d : CStr) (i : Nat) :
    (diagnoseAndHeal e d).1.healingRules[i]? =
      if creditIndex e d = some i then
        e.healingRules[i]?.map fun r => { r with attemptCount := r.attemptCount + 1 }
      else e.healingRules[i]? :=
  getElem?_modifyFirst _ i

/-- Over a run, each rule gains one attempt per call that credits it, and nothing else
changes; the count wraps at `2^32` as the `uint32_t` does. -/
theorem diagnoseRun_healingRules (e : AutognosisEngine) (ds : List CStr) (i : Nat) :
    (diagnoseRun e ds).healingRules[i]? = e.healingRules[i]?.map
      fun r => { r with attemptCount := r.attemptCount + (creditCount e ds i).toUInt32 } := by
  induction ds generalizing e with
  | nil => simp [diagnoseRun, creditCount, show Nat.toUInt32 0 = 0 from rfl]
  | cons d ds ih =>
    rw [diagnoseRun, ih, diagnoseAndHeal_rules, creditCount]
    split_ifs
    · rw [Option.map_map]
      refine Option.map_congr fun r _ => ?_
      simp [add_assoc, Nat.toUInt32_one_add]
    · simp

/-- With no rule selected, the call credits the first matching `RETRY` rule. -/
theorem creditIndex_of_bestRule_eq_none {e : AutognosisEngine} {d : CStr}
    (h : bestRule e.healingRules d = none) :
    creditIndex e d =
      e.healingRules.findIdx? (fun r => r.appliesTo d && decide (r.action = .retry)) := by
  simp only [creditIndex, healingEvaluateProblem, h]

/-- On the engine `autognosis_create` builds, two calls with the description `timeout`. The
first selects the `timeout → RETRY` rule and credits it. That leaves the rule attempted
once and never successful, so its score is `0` and the second call selects no rule and
falls back to `RETRY`; the rule is credited all the same. -/
theorem diagnoseAndHeal_credits_unselected :
    let e₀ := autognosisCreate 0
    let e₁ := (diagnoseAndHeal e₀ Names.timeout).1
    let e₂ := (diagnoseAndHeal e₁ Names.timeout).1
    bestRule e₀.healingRules Names.timeout = e₀.healingRules[2]? ∧
      bestRule e₁.healingRules Names.timeout = none ∧
      e₂.healingRules.map (·.attemptCount) = [0, 0, 2] := by
  have hs : strstr Names.timeout (strncpy 255 Names.timeout).str = true := by decide
  have hnf : strstr Names.timeout (strncpy 255 Names.nodeFailure).str = false := by decide
  have hcf : strstr Names.timeout (strncpy 255 Names.connectionFailed).str = false := by decide
  have h1 : (0 : UInt32) < 1 := by decide
  norm_num [autognosisCreate, healingAddRule, healingCreateRule, diagnoseAndHeal,
    healingEvaluateProblem, bestRule, creditAttempt, evaluateStep, modifyFirst, HealingRule.score,
    HealingRule.successRate, HealingRule.appliesTo, hs, hnf, hcf, h1]
  rfl

end Hivecog
