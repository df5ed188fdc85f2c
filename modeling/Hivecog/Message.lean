import Hivecog.Engine

/-!
# Hive messages and their payloads

`hive_message_t`, the three payload structs of `hive_coordination.h`, and the functions of
`hive_coordination.c` that build and convert them.

A message carries its type as the ordinal of `hive_message_type_t`, so a received message
may hold a value outside the enum, as a C enum field may. Its 512-byte buffer is modelled
by what was copied into it (`HiveMessageData`): nothing (the zeroed buffer of
`hive_message_create`), one of the three structs, or, for a buffer no code of the hive
filled, what it reads as through each of the two structs a receiver reads. A receiver's
cast (`HiveMessageData.asKnowledgePacket`, `HiveMessageData.asHealingRequest`) reads the
struct that was copied in, and the all-zero struct from the zeroed buffer. The model does
not represent bytes, so a buffer holding another struct also reads as the all-zero struct;
a `foreign` buffer covers every other reading.

The struct sizes are those of the LP64 layout; all three fit in the buffer.
-/

namespace Hivecog

/-- `hive_message_type_t`. -/
inductive HiveMessageType
  | heartbeat
  | knowledgeShare
  | healingRequest
  | healingResponse
  | topologyUpdate
  | emergencySignal
deriving DecidableEq, Repr

namespace HiveMessageType

/-- The value the enum constant stores. -/
def ordinal : HiveMessageType → Nat
  | heartbeat => 0
  | knowledgeShare => 1
  | healingRequest => 2
  | healingResponse => 3
  | topologyUpdate => 4
  | emergencySignal => 5

/-- The `case` label a stored value selects in a `switch`, if any. -/
def ofOrdinal? : Nat → Option HiveMessageType
  | 0 => some heartbeat
  | 1 => some knowledgeShare
  | 2 => some healingRequest
  | 3 => some healingResponse
  | 4 => some topologyUpdate
  | 5 => some emergencySignal
  | _ => none

@[simp] theorem ofOrdinal?_ordinal (t : HiveMessageType) : ofOrdinal? t.ordinal = some t := by
  cases t <;> rfl

theorem ordinal_of_ofOrdinal? {n : Nat} {t : HiveMessageType} (h : ofOrdinal? n = some t) :
    t.ordinal = n := by
  unfold ofOrdinal? at h
  split at h <;> first | cases h; rfl | cases h

end HiveMessageType

/-- `knowledge_packet_t`. -/
structure KnowledgePacket where
  atomName : CBuf 256
  atomType : AtomType
  truthValue : ℚ
  confidence : ℚ
  importance : ℚ
  timestamp : Int
deriving DecidableEq

/-- `healing_request_t`. -/
structure HealingRequest where
  problemId : UInt32
  problemDescription : CBuf 256
  severity : ℚ
  requestingNode : UInt32
  requestTime : Int
  suggestedAction : HealingAction
deriving DecidableEq

/-- `healing_response_t`, without `additional_info`, which stays zeroed. -/
structure HealingResponse where
  problemId : UInt32
  respondingNode : UInt32
  recommendedAction : HealingAction
  confidence : ℚ
deriving DecidableEq

/-- What was copied into a message's `data` buffer. -/
inductive HiveMessageData
  | zero
  | knowledgePacket (p : KnowledgePacket)
  | healingRequest (r : HealingRequest)
  | healingResponse (r : HealingResponse)
  | foreign (packet : KnowledgePacket) (request : HealingRequest)
deriving DecidableEq

/-- `hive_message_t`. -/
structure HiveMessage where
  senderId : UInt32
  recipientId : UInt32
  type : Nat
  sequenceNumber : UInt32
  timestamp : Int
  dataLength : UInt32
  data : HiveMessageData
deriving DecidableEq

/-- `sizeof(message->data)`. -/
def dataCapacity : UInt32 := 512

/-- `sizeof(knowledge_packet_t)`. -/
def sizeofKnowledgePacket : UInt32 := 280

/-- `sizeof(healing_request_t)`. -/
def sizeofHealingRequest : UInt32 := 288

/-- `sizeof(healing_response_t)`. -/
def sizeofHealingResponse : UInt32 := 144

/-- The empty C string, which a zeroed name buffer holds. -/
def CBuf.empty (size : Nat) (h : 0 < size) : CBuf size := ⟨⟨[], List.not_mem_nil 0⟩, h⟩

namespace HiveMessageData

/-- `(knowledge_packet_t *)message->data`. -/
def asKnowledgePacket : HiveMessageData → KnowledgePacket
  | knowledgePacket p => p
  | foreign p _ => p
  | _ => ⟨CBuf.empty 256 (by decide), .node, 0, 0, 0, 0⟩

/-- `(healing_request_t *)message->data`. -/
def asHealingRequest : HiveMessageData → HealingRequest
  | healingRequest r => r
  | foreign _ r => r
  | _ => ⟨0, CBuf.empty 256 (by decide), 0, 0, 0, .none⟩

end HiveMessageData

/-- `hive_message_create`: an unsent message, sequence number `0`, empty buffer. -/
def hiveMessageCreate (sender recipient : UInt32) (type : HiveMessageType) (now : Int) :
    HiveMessage :=
  ⟨sender, recipient, type.ordinal, 0, now, 0, .zero⟩

/-- `hive_message_set_data`: a copy that does not fit the buffer is refused silently. -/
def hiveMessageSetData (message : HiveMessage) (data : HiveMessageData) (length : UInt32) :
    HiveMessage :=
  if length > dataCapacity then message else { message with data := data, dataLength := length }

/-- `knowledge_packet_from_atom`. -/
def knowledgePacketFromAtom (atom : Atom) : KnowledgePacket :=
  ⟨strncpy 255 atom.name.str, atom.type, atom.truthValue, atom.confidence, atom.importance,
    atom.timestamp⟩

/-- What `knowledge_packet_to_atom` writes through the pointer `atomspace_add_atom`
returned: the blend of the packet's truth and confidence, then the packet's importance and
timestamp. -/
def KnowledgePacket.merge (packet : KnowledgePacket) (now : Int) (a : Atom) : Atom :=
  { atomspaceUpdateTruthValue a packet.truthValue packet.confidence now with
    importance := packet.importance, timestamp := packet.timestamp }

/-- `knowledge_packet_to_atom`. Returns the store and the atom. -/
def knowledgePacketToAtom (space : AtomSpace) (packet : KnowledgePacket) (now : Int) :
    AtomSpace × Atom :=
  let added := atomspaceAddAtom space packet.atomType packet.atomName.str now
  (added.1.modifyAtom added.2.name.str (packet.merge now), packet.merge now added.2)

/-- `healing_request_create`, with the process-wide `problem_id_counter` passed in and
returned incremented. -/
def healingRequestCreate (problemIdCounter : UInt32) (problemDesc : CStr) (severity : ℚ)
    (nodeId : UInt32) (now : Int) : HealingRequest × UInt32 :=
  (⟨problemIdCounter, strncpy 255 problemDesc, severity, nodeId, now, .none⟩,
    problemIdCounter + 1)

/-- `healing_response_create`. -/
def healingResponseCreate (problemId nodeId : UInt32) (action : HealingAction)
    (confidence : ℚ) : HealingResponse :=
  ⟨problemId, nodeId, action, confidence⟩

/-! ## Spec lemmas -/

@[simp] theorem KnowledgePacket.merge_name (packet : KnowledgePacket) (now : Int) (a : Atom) :
    (packet.merge now a).name = a.name := by
  simp [KnowledgePacket.merge]

@[simp] theorem knowledgePacketFromAtom_atomName (a : Atom) :
    (knowledgePacketFromAtom a).atomName = a.name :=
  strncpy_str a.name

/-- `knowledge_packet_to_atom` is the upsert of the packet's merge under its name. -/
theorem knowledgePacketToAtom_fst (space : AtomSpace) (packet : KnowledgePacket) (now : Int) :
    (knowledgePacketToAtom space packet now).1 =
      space.upsert packet.atomType packet.atomName.str now (packet.merge now) :=
  addAtom_modifyAtom (by have := packet.atomName.fits; omega)

end Hivecog
