import Hivecog.AtomSpace
import Hivecog.Topology

/-!
# The autognosis engine

`self_image_t`, `healing_rule_t`, `autognosis_engine_t` and the engine functions of
`autognosis.c`: the self-image with its own knowledge base, the rule-based healing
evaluator, and the cognitive cycle.

`healing_evaluate_problem` is the loop over the rule list that keeps the first rule of
strictly best positive score (`evaluateStep`); with no such rule it falls back to
`HEALING_RETRY`. `diagnose_and_heal` does not learn which rule that was: it credits the
first rule whose condition matches and whose action is the returned one
(`creditAttempt`).

The engine's method pointers always hold the `_impl` functions, which are modelled
directly. `healing_execute_action` has only empty cases and is left out, and so is the
`running` flag, which only `autognosis_destroy` reads.
-/

namespace Hivecog

/-- `healing_action_t`. -/
inductive HealingAction
  | none
  | retry
  | reroute
  | reconstruct
  | migrate
deriving DecidableEq, Repr

/-- `healing_rule_t`. -/
structure HealingRule where
  condition : CBuf 256
  action : HealingAction
  confidence : ℚ
  successCount : UInt32
  attemptCount : UInt32
deriving DecidableEq

/-- `self_image_t`, without `topology_view` (never set), and `last_update` and `identity`
(written, never read). -/
structure SelfImage where
  knowledgeBase : AtomSpace
  healthScore : ℚ
  autonomyLevel : ℚ
  capabilitiesMask : UInt32
deriving DecidableEq

/-- `autognosis_engine_t`. -/
structure AutognosisEngine where
  selfImage : SelfImage
  topology : NetworkTopology
  healingRules : List HealingRule
  globalKnowledge : AtomSpace
  lastCognitiveCycle : Int
  cognitiveLoad : ℚ
deriving DecidableEq

/-! ## The literals of `autognosis.c` -/

namespace Names

def self : CStr := .ascii "self" (by decide)
def identity : CStr := .ascii "identity" (by decide)
def health : CStr := .ascii "health" (by decide)
def network : CStr := .ascii "network" (by decide)
def timeout : CStr := .ascii "timeout" (by decide)
def connectionFailed : CStr := .ascii "connection_failed" (by decide)
def nodeFailure : CStr := .ascii "node_failure" (by decide)

/-- `snprintf(cap_name, 64, "capability_%u", capability)`. -/
def capability (cap : UInt32) : CStr :=
  (strncpy 63 (.ascii "capability_" (by decide) ++ CStr.decimal cap.toNat)).str

/-- `snprintf(observation, 256, "network_nodes_%u", node_count)`. -/
def networkNodes (count : UInt32) : CStr :=
  (strncpy 255 (.ascii "network_nodes_" (by decide) ++ CStr.decimal count.toNat)).str

end Names

/-! ## Self-image -/

/-- `self_image_create`: a knowledge base holding the concepts `self`, `identity`, `health`
and `network`, full health and autonomy `0.5`. -/
def selfImageCreate (now : Int) : SelfImage :=
  let kb := (atomspaceAddAtom atomspaceCreate .concept Names.self now).1
  let kb := (atomspaceAddAtom kb .concept Names.identity now).1
  let kb := (atomspaceAddAtom kb .concept Names.health now).1
  let kb := (atomspaceAddAtom kb .concept Names.network now).1
  ⟨kb, 1, 1 / 2, 0⟩

/-- `self_image_update_health`: the score, and a blend of `health` at confidence `0.9` into
the `health` atom when there is one. -/
def selfImageUpdateHealth (image : SelfImage) (health : ℚ) (now : Int) : SelfImage :=
  { image with
    healthScore := health
    knowledgeBase := image.knowledgeBase.modifyAtom Names.health
      (fun a => atomspaceUpdateTruthValue a health (9 / 10) now) }

/-- `self_image_add_capability`. -/
def selfImageAddCapability (image : SelfImage) (capability : UInt32) (now : Int) : SelfImage :=
  { image with
    capabilitiesMask := image.capabilitiesMask ||| capability
    knowledgeBase :=
      (atomspaceAddAtom image.knowledgeBase .concept (Names.capability capability) now).1 }

/-! ## Healing rules -/

/-- `healing_create_rule`. -/
def healingCreateRule (condition : CStr) (action : HealingAction) (confidence : ℚ) :
    HealingRule :=
  ⟨strncpy 255 condition, action, confidence, 0, 0⟩

/-- `healing_add_rule`: the rule goes to the head of the list. -/
def healingAddRule (engine : AutognosisEngine) (rule : HealingRule) : AutognosisEngine :=
  { engine with healingRules := rule :: engine.healingRules }

namespace HealingRule

/-- `success_count / attempt_count`, or `0.5` for a rule never attempted. -/
def successRate (r : HealingRule) : ℚ :=
  if r.attemptCount > 0 then (r.successCount.toNat : ℚ) / r.attemptCount.toNat else 1 / 2

/-- `confidence * success_rate`. -/
def score (r : HealingRule) : ℚ := r.confidence * r.successRate

/-- `strstr(problem_desc, rule->condition) != NULL`. -/
def appliesTo (problemDesc : CStr) (r : HealingRule) : Bool := strstr problemDesc r.condition.str

end HealingRule

/-- One iteration of the loop of `healing_evaluate_problem` over `(best_rule, best_score)`:
a matching rule replaces the best one only with a strictly higher score. -/
def evaluateStep (problemDesc : CStr) (best : Option HealingRule × ℚ) (r : HealingRule) :
    Option HealingRule × ℚ :=
  if r.appliesTo problemDesc ∧ r.score > best.2 then (some r, r.score) else best

/-- The rule `healing_evaluate_problem` selects, if any. -/
def bestRule (rules : List HealingRule) (problemDesc : CStr) : Option HealingRule :=
  (rules.foldl (evaluateStep problemDesc) (none, 0)).1

/-- `healing_evaluate_problem`: the action of the selected rule, `HEALING_RETRY` without one. -/
def healingEvaluateProblem (engine : AutognosisEngine) (problemDesc : CStr) : HealingAction :=
  match bestRule engine.healingRules problemDesc with
  | some r => r.action
  | none => .retry

/-- The learning loop of `diagnose_and_heal`: the first rule whose condition occurs in the
description and whose action is `action` gets one more attempt. -/
def creditAttempt (problemDesc : CStr) (action : HealingAction) :
    List HealingRule → List HealingRule :=
  modifyFirst (fun r => r.appliesTo problemDesc && decide (r.action = action))
    (fun r => { r with attemptCount := r.attemptCount + 1 })

/-- `diagnose_and_heal_impl`. -/
def diagnoseAndHeal (engine : AutognosisEngine) (problem : CStr) :
    AutognosisEngine × HealingAction :=
  let action := healingEvaluateProblem engine problem
  ({ engine with healingRules := creditAttempt problem action engine.healingRules }, action)

/-! ## The cognitive cycle -/

/-- `update_self_image_impl`: the self-image takes the network's overall health, autonomy
`1 - cognitive_load`, and the observation `network_nodes_<node_count>`. -/
def updateSelfImage (engine : AutognosisEngine) (now : Int) : AutognosisEngine :=
  let image := selfImageUpdateHealth engine.selfImage engine.topology.overallHealth now
  { engine with
    selfImage :=
      { image with
        autonomyLevel := 1 - engine.cognitiveLoad
        knowledgeBase := (atomspaceAddAtom image.knowledgeBase .concept
          (Names.networkNodes engine.topology.nodeCount) now).1 } }

/-- `process_network_events_impl`: every event adds `0.1` to the cognitive load, capped
at `1`. -/
def processNetworkEvents (engine : AutognosisEngine) : AutognosisEngine :=
  let load := engine.cognitiveLoad + 1 / 10
  { engine with cognitiveLoad := if load > 1 then 1 else load }

/-- `autognosis_cognitive_cycle`: update the self-image, then decay the load by a tenth per
minute since the last cycle, never below `0`. Nothing caps the product from above: a clock
that reads behind the last cycle makes the factor exceed `1`. The rational load then only
grows, while the C `float` load overflows to infinity after enough such cycles and becomes
NaN at the next factor of exactly `0`; the bounds over runs assume forward clocks. -/
def autognosisCognitiveCycle (engine : AutognosisEngine) (now : Int) : AutognosisEngine :=
  let engine := updateSelfImage engine now
  let timeFactor : ℚ := ((now - engine.lastCognitiveCycle : Int) : ℚ) / 60
  let load := engine.cognitiveLoad * (1 - 1 / 10 * timeFactor)
  { engine with cognitiveLoad := if load < 0 then 0 else load, lastCognitiveCycle := now }

/-- `autognosis_process_hive_message`. -/
def autognosisProcessHiveMessage (engine : AutognosisEngine) : AutognosisEngine :=
  processNetworkEvents engine

/-- `autognosis_start`, without the `running` flag. -/
def autognosisStart (engine : AutognosisEngine) (now : Int) : AutognosisEngine :=
  { engine with lastCognitiveCycle := now }

/-- `autognosis_create`, with the three default rules: `node_failure → MIGRATE` first, then
`connection_failed → REROUTE`, then `timeout → RETRY`. -/
def autognosisCreate (now : Int) : AutognosisEngine :=
  let engine : AutognosisEngine := ⟨selfImageCreate now, topologyCreate, [], atomspaceCreate, now, 0⟩
  let engine := healingAddRule engine (healingCreateRule Names.timeout .retry (7 / 10))
  let engine := healingAddRule engine (healingCreateRule Names.connectionFailed .reroute (4 / 5))
  healingAddRule engine (healingCreateRule Names.nodeFailure .migrate (9 / 10))

end Hivecog
