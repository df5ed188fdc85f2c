import Hivecog.Hive

/-!
# Sequence numbers

`send_message_impl` is the only writer of `sequence_counter`, and it stamps every outgoing
message with the incremented counter; a delivery only ever stamps the messages the
receiving node sends itself.

* `run_sequenceNumber`: over every run of the hive, whatever is delivered and in whatever
  order, the `k`-th message a node sends carries `k` modulo `2^32`. The numbers increase
  strictly and are never `0` over the first `2^32 - 1` sends of a node; then the 32-bit
  counter wraps (`sequenceNumber_wraps`).

`NumberedFrom s s' ms` says that `ms` are what a coordinator sends while its counter goes
from `s` to `s'`. It composes like a path (`NumberedFrom.append`), and every operation of a
node is one (`numberedFrom_run`).
-/

namespace Hivecog

/-- `ms`, in send order, are numbered `s + 1, s + 2, ...` modulo `2^32`, and the counter
has moved from `s` to `s'` by one per message. -/
def NumberedFrom (s s' : UInt32) (ms : List HiveMessage) : Prop :=
  s'.toNat = (s.toNat + ms.length) % 2 ^ 32 ∧
    ms.map (·.sequenceNumber.toNat) = (List.range' (s.toNat + 1) ms.length).map (· % 2 ^ 32)

theorem map_mod_range'_congr {x y : Nat} (h : x % 2 ^ 32 = y % 2 ^ 32) (n : Nat) :
    (List.range' x n).map (· % 2 ^ 32) = (List.range' y n).map (· % 2 ^ 32) := by
  induction n generalizing x y with
  | zero => rfl
  | succ n ih =>
    have h' : (x + 1) % 2 ^ 32 = (y + 1) % 2 ^ 32 := by omega
    simp only [List.range'_succ, List.map_cons, h, ih h']

namespace NumberedFrom

theorem nil (s : UInt32) : NumberedFrom s s [] :=
  ⟨(Nat.mod_eq_of_lt s.toNat_lt_size).symm, rfl⟩

theorem append {s₁ s₂ s₃ : UInt32} {ms ms' : List HiveMessage} (h₁ : NumberedFrom s₁ s₂ ms)
    (h₂ : NumberedFrom s₂ s₃ ms') : NumberedFrom s₁ s₃ (ms ++ ms') := by
  obtain ⟨hc₁, hn₁⟩ := h₁
  obtain ⟨hc₂, hn₂⟩ := h₂
  refine ⟨by rw [hc₂, hc₁, List.length_append, Nat.mod_add_mod, Nat.add_assoc], ?_⟩
  rw [List.map_append, hn₁, hn₂, List.length_append, Nat.add_comm ms.length,
    ← List.range'_append_1, List.map_append,
    map_mod_range'_congr (by omega : (s₂.toNat + 1) % 2 ^ 32 = (s₁.toNat + 1 + ms.length) % 2 ^ 32)]

end NumberedFrom

/-! ## Every operation of a node -/

section Operations

variable (c : HiveCoordinator) (now : Int)

theorem numberedFrom_sendMessage (m : HiveMessage) :
    NumberedFrom c.sequenceCounter (sendMessage c m).1.sequenceCounter (sendMessage c m).2 :=
  ⟨UInt32.toNat_add_one _, by simp [sendMessage, UInt32.toNat_add_one]⟩

theorem numberedFrom_shareKnowledge (a : Atom) :
    NumberedFrom c.sequenceCounter (shareKnowledge c a now).1.sequenceCounter
      (shareKnowledge c a now).2 := by
  unfold shareKnowledge
  split
  · exact numberedFrom_sendMessage c _
  · exact .nil _

theorem numberedFrom_hiveCoordinatorProcessCycle :
    NumberedFrom c.sequenceCounter (hiveCoordinatorProcessCycle c now).1.sequenceCounter
      (hiveCoordinatorProcessCycle c now).2 := by
  have beat : NumberedFrom c.sequenceCounter (heartbeatPhase c now).1.sequenceCounter
      (heartbeatPhase c now).2 := by
    unfold heartbeatPhase
    split
    · exact numberedFrom_sendMessage c _
    · exact .nil _
  have sync : ∀ c', (syncPhase c' now).sequenceCounter = c'.sequenceCounter := by
    intro c'; unfold syncPhase; split <;> rfl
  have share : ∀ c', NumberedFrom c'.sequenceCounter (sharePhase c' now).1.sequenceCounter
      (sharePhase c' now).2 := by
    intro c'; unfold sharePhase; split
    · exact numberedFrom_shareKnowledge c' now _
    · exact .nil _
  exact beat.append (sync _ ▸ share _)

theorem numberedFrom_hiveCoordinateHealing (counter : UInt32) (d : CStr) :
    NumberedFrom c.sequenceCounter (hiveCoordinateHealing counter c d now).2.1.sequenceCounter
      (hiveCoordinateHealing counter c d now).2.2 := by
  dsimp only [hiveCoordinateHealing]
  split
  · exact numberedFrom_sendMessage c _
  · exact .nil _

theorem numberedFrom_receiveMessage (m : HiveMessage) :
    NumberedFrom c.sequenceCounter (receiveMessage c m now).1.sequenceCounter
      (receiveMessage c m now).2 := by
  unfold receiveMessage
  split
  · exact .nil _
  · split <;> exact .nil _
  · split
    · exact numberedFrom_sendMessage c _
    · exact .nil _
  · exact .nil _
  · exact .nil _

/-- Every action of the hive, at its node. -/
theorem numberedFrom_run (counter : UInt32) (a : HiveAction) :
    NumberedFrom c.sequenceCounter (a.run counter c).2.1.sequenceCounter (a.run counter c).2.2 := by
  cases a with
  | processCycle _ now => exact numberedFrom_hiveCoordinatorProcessCycle c now
  | coordinateHealing _ d now => exact numberedFrom_hiveCoordinateHealing c now counter d
  | broadcastKnowledge _ a now => exact numberedFrom_sendMessage c _
  | shareKnowledge _ a now => exact numberedFrom_shareKnowledge c now a
  | deliver _ m now => exact numberedFrom_receiveMessage c now m
  | _ => exact .nil _

end Operations

/-! ## Every run of the hive -/

namespace Hive

/-- Every node has numbered its log from `1`, and its counter is its number of sends. -/
def Numbered (h : Hive) : Prop := ∀ n ∈ h.nodes, NumberedFrom 0 n.coordinator.sequenceCounter n.sent

theorem numbered_init (nodes : List (UInt32 × Int)) : (init nodes).Numbered := by
  simp only [Numbered, init, List.mem_map]
  rintro _ ⟨_, _, rfl⟩
  exact .nil 0

theorem Numbered.step {h : Hive} (hn : h.Numbered) (a : HiveAction) : (h.step a).Numbered :=
  forall_nodes_step hn fun _ _ hn => hn.append (numberedFrom_run _ _ a)

theorem Numbered.run {h : Hive} (hn : h.Numbered) (acts : List HiveAction) :
    (h.run acts).Numbered := by
  induction acts generalizing h with
  | nil => exact hn
  | cons a acts ih => exact ih (hn.step a)

end Hive

/-- Over every run of the hive, the `k`-th message a node sends (counting from `0`) carries
the sequence number `k + 1`, modulo `2^32`. -/
theorem run_sequenceNumber (nodes : List (UInt32 × Int)) (acts : List HiveAction) :
    ∀ n ∈ ((Hive.init nodes).run acts).nodes, ∀ k (hk : k < n.sent.length),
      n.sent[k].sequenceNumber.toNat = (k + 1) % 2 ^ 32 := by
  intro n hn k hk
  have h := congrArg (·[k]?) (((Hive.numbered_init nodes).run acts n hn).2)
  simpa [hk, List.getElem?_range', Nat.add_comm 1] using h

/-- A fresh one-node hive after one broadcast: the message carries `1`. -/
theorem run_sequenceNumber_first_broadcast :
    ∃ n ∈ ((Hive.init [(1, 0)]).run
        [.broadcastKnowledge 0 (atomspaceAddAtom atomspaceCreate .concept Names.self 0).2 0]).nodes,
      ∃ hk : 0 < n.sent.length, n.sent[0].sequenceNumber.toNat = (0 + 1) % 2 ^ 32 :=
  ⟨_, List.mem_singleton_self _, Nat.zero_lt_one, run_sequenceNumber [(1, 0)]
    [.broadcastKnowledge 0 (atomspaceAddAtom atomspaceCreate .concept Names.self 0).2 0] _
    (List.mem_singleton_self _) 0 _⟩

theorem sequenceCounter_iterate_broadcast (c : HiveCoordinator) (a : Atom) (now : Int) (k : Nat) :
    ((fun c => (hiveBroadcastKnowledge c a now).1)^[k] c).sequenceCounter =
      c.sequenceCounter + k.toUInt32 := by
  induction k with
  | zero => exact (add_zero _).symm
  | succ k ih =>
    rw [Function.iterate_succ_apply', Nat.add_comm, Nat.toUInt32_one_add, add_comm 1,
      ← add_assoc, ← ih]
    rfl

/-- A fresh coordinator that has broadcast its `self` fact `2^32 - 1` times stamps its next
message `0`, the number `hive_message_create` gives an unsent message. -/
theorem sequenceNumber_wraps :
    let a := (atomspaceAddAtom atomspaceCreate .concept Names.self 0).2
    (hiveBroadcastKnowledge ((fun c => (hiveBroadcastKnowledge c a 0).1)^[4294967295]
      (hiveCoordinatorCreate (autognosisCreate 0) 1 0)) a 0).2.map (·.sequenceNumber) = [0] := by
  intro a
  rewrite [hiveBroadcastKnowledge_eq, List.map_singleton, sequenceCounter_iterate_broadcast]
  exact congrArg (· :: []) (by decide : (0 : UInt32) + Nat.toUInt32 4294967295 + 1 = 0)

end Hivecog
