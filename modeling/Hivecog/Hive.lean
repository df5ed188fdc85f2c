import Hivecog.Coordinator

/-!
# The hive: coordinators over a lossy transport

The protocol as a state machine over a whole network. A `Hive` is a list of nodes, each a
coordinator over its own engine together with the log of every message it has handed to
the transport, and the `problem_id_counter` that all the coordinators of one process share.

A step is one call of a public operation at one node (`HiveAction`), or the delivery of a
message to a node's `receive_message`. The transport guarantees nothing: a delivery may
carry any message, and `Hive.ValidRun` restricts a run to deliveries of messages some node
has sent, any number of times and in any order, and to broadcasts of atoms some store
holds. The run lemmas in the other modules prove what every step preserves and then, by
induction over the actions, what every run does.
-/

namespace Hivecog

/-- A node of the hive: its coordinator, and the messages it has sent, oldest first. -/
structure HiveNode where
  coordinator : HiveCoordinator
  sent : List HiveMessage

/-- The nodes of one process, sharing its `problem_id_counter`. -/
structure Hive where
  nodes : List HiveNode
  problemIdCounter : UInt32

/-- A step of the hive at node `node`: one of the operations a runtime calls, or the
delivery of `message` to its `receive_message`. -/
inductive HiveAction
  | processCycle (node : Nat) (now : Int)
  | coordinateHealing (node : Nat) (problemDesc : CStr) (now : Int)
  | broadcastKnowledge (node : Nat) (atom : Atom) (now : Int)
  | shareKnowledge (node : Nat) (atom : Atom) (now : Int)
  | adaptiveBehaviorUpdate (node : Nat)
  | cognitiveCycle (node : Nat) (now : Int)
  | processHiveMessage (node : Nat)
  | diagnoseAndHeal (node : Nat) (problem : CStr)
  | addCapability (node : Nat) (capability : UInt32) (now : Int)
  | addNode (node : Nat) (id : UInt32) (address : CStr) (now : Int)
  | updateNodeHealth (node : Nat) (id : UInt32) (health : ℚ) (now : Int)
  | deliver (node : Nat) (message : HiveMessage) (now : Int)

namespace HiveAction

/-- The node an action runs at. -/
def node : HiveAction → Nat
  | processCycle i _ | coordinateHealing i _ _ | broadcastKnowledge i _ _
  | shareKnowledge i _ _ | adaptiveBehaviorUpdate i | cognitiveCycle i _
  | processHiveMessage i | diagnoseAndHeal i _ | addCapability i _ _ | addNode i _ _ _
  | updateNodeHealth i _ _ _ | deliver i _ _ => i

/-- The engine-only operations, which neither send nor touch the coordinator's own fields. -/
def onEngine (c : HiveCoordinator) (f : AutognosisEngine → AutognosisEngine) :
    HiveCoordinator × List HiveMessage :=
  ({ c with localEngine := f c.localEngine }, [])

/-- What an action does at its node: the shared counter and the coordinator in; the
counter, the coordinator and the messages sent out. -/
def run (counter : UInt32) (c : HiveCoordinator) : HiveAction → UInt32 × HiveCoordinator × List HiveMessage
  | processCycle _ now => (counter, hiveCoordinatorProcessCycle c now)
  | coordinateHealing _ d now => hiveCoordinateHealing counter c d now
  | broadcastKnowledge _ a now => (counter, hiveBroadcastKnowledge c a now)
  | shareKnowledge _ a now => (counter, Hivecog.shareKnowledge c a now)
  | adaptiveBehaviorUpdate _ => (counter, hiveAdaptiveBehaviorUpdate c, [])
  | cognitiveCycle _ now => (counter, onEngine c (autognosisCognitiveCycle · now))
  | processHiveMessage _ => (counter, onEngine c autognosisProcessHiveMessage)
  | diagnoseAndHeal _ p => (counter, onEngine c (fun e => (Hivecog.diagnoseAndHeal e p).1))
  | addCapability _ cap now =>
    (counter, onEngine c (fun e => { e with selfImage := selfImageAddCapability e.selfImage cap now }))
  | addNode _ id addr now => (counter, c.setTopology (topologyAddNode c.localEngine.topology id addr now), [])
  | updateNodeHealth _ id h now =>
    (counter, c.setTopology (topologyUpdateNodeHealth c.localEngine.topology id h now), [])
  | deliver _ m now => (counter, receiveMessage c m now)

end HiveAction

namespace Hive

/-- A hive of fresh nodes, `hive_coordinator_create` over `autognosis_create` for each
`(node id, creation time)`, with the counter at its static initial value `1`. -/
def init (nodes : List (UInt32 × Int)) : Hive :=
  ⟨nodes.map (fun n => ⟨hiveCoordinatorCreate (autognosisCreate n.2) n.1 n.2, []⟩), 1⟩

/-- One step: the action runs at its node, whose log grows by what it sent. An action at a
node that does not exist changes nothing. -/
def step (h : Hive) (a : HiveAction) : Hive :=
  match h.nodes[a.node]? with
  | some n =>
    let r := a.run h.problemIdCounter n.coordinator
    ⟨h.nodes.set a.node ⟨r.2.1, n.sent ++ r.2.2⟩, r.1⟩
  | none => h

/-- The hive after a run of actions. -/
def run (h : Hive) (acts : List HiveAction) : Hive := acts.foldl step h

/-- Some node has sent `m`: it is, or has been, in flight. -/
def Sent (h : Hive) (m : HiveMessage) : Prop := ∃ n ∈ h.nodes, m ∈ n.sent

/-- `a` is an atom of some node's global store or self-image knowledge base. -/
def Stored (h : Hive) (a : Atom) : Prop :=
  ∃ n ∈ h.nodes, a ∈ n.coordinator.localEngine.globalKnowledge.atoms ∨
    a ∈ n.coordinator.localEngine.selfImage.knowledgeBase.atoms

end Hive

/-- The steps of a run in which the transport only carries messages that were sent, the
broadcast operations are given stored atoms, and health readings lie in `[0, 1]`. -/
def HiveAction.Valid (h : Hive) : HiveAction → Prop
  | broadcastKnowledge _ a _ | shareKnowledge _ a _ => h.Stored a
  | updateNodeHealth _ _ health _ => 0 ≤ health ∧ health ≤ 1
  | deliver _ m _ => h.Sent m
  | _ => True

/-- Every step of the run is valid in the state it is taken from. -/
def Hive.ValidRun : Hive → List HiveAction → Prop
  | _, [] => True
  | h, a :: acts => a.Valid h ∧ ValidRun (h.step a) acts

/-! ## Run lemmas -/

namespace Hive

@[simp] theorem run_nil (h : Hive) : h.run [] = h := rfl

@[simp] theorem run_cons (h : Hive) (a : HiveAction) (acts : List HiveAction) :
    h.run (a :: acts) = (h.step a).run acts := rfl

/-- A property of all nodes that the action keeps at the node it runs at holds after the
step. -/
theorem forall_nodes_step_at {P : HiveNode → Prop} {h : Hive} {a : HiveAction}
    (hP : ∀ n ∈ h.nodes, P n)
    (ha : ∀ n, h.nodes[a.node]? = some n → P n →
      let r := a.run h.problemIdCounter n.coordinator
      P ⟨r.2.1, n.sent ++ r.2.2⟩) :
    ∀ n ∈ (h.step a).nodes, P n := by
  unfold step
  split
  · rename_i n hn
    intro m hm
    rcases List.mem_or_eq_of_mem_set hm with hm | rfl
    · exact hP m hm
    · exact ha n hn (hP n (List.getElem?_mem hn))
  · exact hP

/-- A property of all nodes that every action keeps at the node it runs at holds after
every step. -/
theorem forall_nodes_step {P : HiveNode → Prop} {h : Hive} {a : HiveAction}
    (hP : ∀ n ∈ h.nodes, P n)
    (ha : ∀ n ∈ h.nodes, P n → let r := a.run h.problemIdCounter n.coordinator
      P ⟨r.2.1, n.sent ++ r.2.2⟩) :
    ∀ n ∈ (h.step a).nodes, P n :=
  forall_nodes_step_at hP fun n hn => ha n (List.getElem?_mem hn)

/-- A property of nodes that every action keeps, whatever the counter, holds at every node
after every run. -/
theorem forall_nodes_run {P : HiveNode → Prop}
    (ha : ∀ (counter : UInt32) (a : HiveAction) (n : HiveNode), P n →
      let r := a.run counter n.coordinator
      P ⟨r.2.1, n.sent ++ r.2.2⟩)
    {h : Hive} (hP : ∀ n ∈ h.nodes, P n) (acts : List HiveAction) :
    ∀ n ∈ (h.run acts).nodes, P n := by
  induction acts generalizing h with
  | nil => exact hP
  | cons a acts ih => exact ih (forall_nodes_step hP fun n _ hn => ha _ a n hn)

end Hive

end Hivecog
