import Hivecog.Hive

/-!
# Atom ids and the store's counters

`atomspace_add_atom` numbers a new atom with `next_id` and then advances `next_id` and
`atom_count` together, and no operation ever removes an atom or writes an id. So, from the
head of the list, the atoms of a store carry the ids `atom_count, …, 2, 1`, and `next_id`
is one past `atom_count` (`AtomSpace.WellNumbered`), as long as the 32-bit counters have
not wrapped: the store holds every atom ever inserted, so its length counts the insertions,
and the bound is `2^32 - 1` of them.

* `storeRun_numbering`: over every sequence of `atomspace_add_atom`,
  `atomspace_update_truth_value` through a pointer to any atom, `knowledge_packet_to_atom`
  and deliveries of any message to a coordinator holding the store.
-/

namespace Hivecog

/-- From the head, the atoms carry the ids `atom_count, …, 2, 1`, and `next_id` is one past
`atom_count`. -/
structure AtomSpace.WellNumbered (s : AtomSpace) : Prop where
  atomCount : s.atomCount.toNat = s.atoms.length
  nextId : s.nextId.toNat = s.atoms.length + 1
  ids : s.atoms.map (·.id.toNat) = (List.range' 1 s.atoms.length).reverse

/-- The store operations: `atomspace_add_atom`, `atomspace_update_truth_value` through a
pointer to the atom at position `index`, `knowledge_packet_to_atom`, and the delivery of a
message to a coordinator whose global store this is. -/
inductive StoreOp
  | addAtom (type : AtomType) (name : CStr) (now : Int)
  | updateTruthValue (index : Nat) (truth confidence : ℚ) (now : Int)
  | knowledgePacketToAtom (packet : KnowledgePacket) (now : Int)
  | deliver (c : HiveCoordinator) (message : HiveMessage) (now : Int)

/-- One store operation. -/
def StoreOp.apply (s : AtomSpace) : StoreOp → AtomSpace
  | addAtom type name now => (atomspaceAddAtom s type name now).1
  | updateTruthValue index truth confidence now =>
    { s with atoms := s.atoms.modify (atomspaceUpdateTruthValue · truth confidence now) index }
  | knowledgePacketToAtom packet now => (Hivecog.knowledgePacketToAtom s packet now).1
  | deliver c message now => (receiveMessage (c.setGlobalKnowledge s) message now).1.localEngine.globalKnowledge

/-- The store after a sequence of operations from `atomspace_create`. -/
def storeRun (ops : List StoreOp) : AtomSpace := ops.foldl StoreOp.apply atomspaceCreate

@[simp] theorem KnowledgePacket.merge_id (packet : KnowledgePacket) (now : Int) (a : Atom) :
    (packet.merge now a).id = a.id := by
  simp [KnowledgePacket.merge]

/-! ## What a delivery does to the global store -/

/-- A delivery leaves the global store as it was, or merges one packet into it, or adds the
collective-health fact and writes through the pointer it gets back. -/
theorem receiveMessage_globalKnowledge (c : HiveCoordinator) (m : HiveMessage) (now : Int) :
    let s := c.localEngine.globalKnowledge
    (receiveMessage c m now).1.localEngine.globalKnowledge = s ∨
    (∃ p, (receiveMessage c m now).1.localEngine.globalKnowledge = (knowledgePacketToAtom s p now).1) ∨
    ∃ name f, (∀ a, (f a).id = a.id) ∧
      (receiveMessage c m now).1.localEngine.globalKnowledge =
        (atomspaceAddAtom s .concept name now).1.modifyAtom
          (atomspaceAddAtom s .concept name now).2.name.str f := by
  intro s
  unfold receiveMessage
  split
  · exact .inl rfl
  · split
    · exact .inr (.inl ⟨_, rfl⟩)
    · exact .inl rfl
  · split <;> exact .inl rfl
  · exact .inr (.inr ⟨_, _, fun _ => atomspaceUpdateTruthValue_id .., rfl⟩)
  · exact .inl rfl

/-! ## Each operation keeps the numbering -/

namespace AtomSpace.WellNumbered

variable {s : AtomSpace}

theorem atomspaceCreate : WellNumbered Hivecog.atomspaceCreate := ⟨rfl, rfl, rfl⟩

/-- A write that keeps ids, through any pointer. -/
theorem modifyAtom (h : WellNumbered s) {f : Atom → Atom} (hf : ∀ a, (f a).id = a.id)
    (name : CStr) : WellNumbered (s.modifyAtom name f) := by
  refine ⟨by simpa [AtomSpace.modifyAtom] using h.atomCount,
    by simpa [AtomSpace.modifyAtom] using h.nextId, ?_⟩
  dsimp only [AtomSpace.modifyAtom]
  rw [map_modifyFirst, length_modifyFirst]
  exacts [h.ids, fun a => congrArg UInt32.toNat (hf a)]

/-- An insertion numbered with `next_id`, while the counters do not wrap. -/
theorem insert (h : WellNumbered s) {a : Atom} (ha : a.id = s.nextId)
    (hlen : s.atoms.length + 1 < 2 ^ 32 - 1) : WellNumbered (s.insert a) := by
  have hc := UInt32.toNat_add_one s.atomCount
  have hn := UInt32.toNat_add_one s.nextId
  rw [h.atomCount] at hc
  rw [h.nextId] at hn
  refine ⟨?_, ?_, ?_⟩ <;> simp only [AtomSpace.insert, List.length_cons, List.map_cons]
  · rw [hc, Nat.mod_eq_of_lt (by omega)]
  · rw [hn, Nat.mod_eq_of_lt (by omega)]
  · rw [h.ids, ha, h.nextId, List.range'_concat, List.reverse_append, List.reverse_singleton,
      Nat.one_mul, Nat.add_comm 1]
    rfl

theorem addAtom (h : WellNumbered s) (type : AtomType) (name : CStr) (now : Int)
    (hlen : (atomspaceAddAtom s type name now).1.atoms.length < 2 ^ 32 - 1) :
    WellNumbered (atomspaceAddAtom s type name now).1 := by
  cases hf : atomspaceFindAtom s name with
  | some a =>
    rw [atomspaceAddAtom_of_find hf]
    exact h.modifyAtom (f := Atom.bumpImportance) (fun _ => rfl) name
  | none =>
    rw [atomspaceAddAtom_of_find_none hf] at hlen ⊢
    exact h.insert rfl (by simpa [AtomSpace.insert] using hlen)

theorem addAtom_modifyAtom (h : WellNumbered s) (type : AtomType) (name : CStr) (now : Int)
    {f : Atom → Atom} (hf : ∀ a, (f a).id = a.id)
    (hlen : (atomspaceAddAtom s type name now).1.atoms.length < 2 ^ 32 - 1) :
    WellNumbered ((atomspaceAddAtom s type name now).1.modifyAtom
      (atomspaceAddAtom s type name now).2.name.str f) :=
  (h.addAtom type name now hlen).modifyAtom hf _

theorem updateTruthValue (h : WellNumbered s) (index : Nat) (truth confidence : ℚ) (now : Int) :
    WellNumbered { s with atoms := s.atoms.modify (atomspaceUpdateTruthValue · truth confidence now) index } := by
  refine ⟨by simpa using h.atomCount, by simpa using h.nextId, ?_⟩
  dsimp only
  rw [map_modify, List.length_modify]
  exacts [h.ids, fun a => by rw [atomspaceUpdateTruthValue_id]]

theorem knowledgePacketToAtom (h : WellNumbered s) (packet : KnowledgePacket) (now : Int)
    (hlen : (Hivecog.knowledgePacketToAtom s packet now).1.atoms.length < 2 ^ 32 - 1) :
    WellNumbered (Hivecog.knowledgePacketToAtom s packet now).1 :=
  h.addAtom_modifyAtom _ _ _ (KnowledgePacket.merge_id packet now)
    (by simpa [Hivecog.knowledgePacketToAtom, AtomSpace.modifyAtom] using hlen)

end AtomSpace.WellNumbered

/-! ## Runs of store operations -/

theorem length_le_atomspaceAddAtom (s : AtomSpace) (type : AtomType) (name : CStr) (now : Int) :
    s.atoms.length ≤ (atomspaceAddAtom s type name now).1.atoms.length := by
  cases hf : atomspaceFindAtom s name with
  | some a => simp [atomspaceAddAtom_of_find hf, AtomSpace.modifyAtom]
  | none => simp [atomspaceAddAtom_of_find_none hf, AtomSpace.insert]

/-- No operation removes an atom. -/
theorem StoreOp.length_le_apply (s : AtomSpace) : ∀ op : StoreOp,
    s.atoms.length ≤ (op.apply s).atoms.length
  | .addAtom type name now => length_le_atomspaceAddAtom s type name now
  | .updateTruthValue .. => by simp [StoreOp.apply]
  | .knowledgePacketToAtom packet now => by
    simpa [StoreOp.apply, Hivecog.knowledgePacketToAtom, AtomSpace.modifyAtom] using
      length_le_atomspaceAddAtom s packet.atomType packet.atomName.str now
  | .deliver c m now => by
    rcases receiveMessage_globalKnowledge (c.setGlobalKnowledge s) m now with h | ⟨p, h⟩ | ⟨name, f, -, h⟩ <;>
      simp only [StoreOp.apply, h, HiveCoordinator.setGlobalKnowledge_globalKnowledge, le_refl]
    · simpa [Hivecog.knowledgePacketToAtom, AtomSpace.modifyAtom] using
        length_le_atomspaceAddAtom s p.atomType p.atomName.str now
    · simpa [AtomSpace.modifyAtom] using length_le_atomspaceAddAtom s .concept name now

theorem length_le_foldl (s : AtomSpace) (ops : List StoreOp) :
    s.atoms.length ≤ (ops.foldl StoreOp.apply s).atoms.length := by
  induction ops generalizing s with
  | nil => exact le_rfl
  | cons op ops ih => exact (StoreOp.length_le_apply s op).trans (ih _)

theorem AtomSpace.WellNumbered.apply {s : AtomSpace} (h : s.WellNumbered) :
    ∀ op : StoreOp, (op.apply s).atoms.length < 2 ^ 32 - 1 → (op.apply s).WellNumbered
  | .addAtom type name now, hlen => h.addAtom type name now hlen
  | .updateTruthValue index truth confidence now, _ => h.updateTruthValue index truth confidence now
  | .knowledgePacketToAtom packet now, hlen => h.knowledgePacketToAtom packet now hlen
  | .deliver c m now, hlen => by
    rcases receiveMessage_globalKnowledge (c.setGlobalKnowledge s) m now with
      he | ⟨p, he⟩ | ⟨name, f, hf, he⟩ <;>
      simp only [StoreOp.apply, he, HiveCoordinator.setGlobalKnowledge_globalKnowledge] at hlen ⊢
    · exact h
    · exact h.knowledgePacketToAtom p now hlen
    · exact h.addAtom_modifyAtom _ _ _ hf (by simpa [AtomSpace.modifyAtom] using hlen)

theorem storeRun_wellNumbered (ops : List StoreOp) (h : (storeRun ops).atoms.length < 2 ^ 32 - 1) :
    (storeRun ops).WellNumbered := by
  suffices ∀ s : AtomSpace, s.WellNumbered → (ops.foldl StoreOp.apply s).atoms.length < 2 ^ 32 - 1 →
      (ops.foldl StoreOp.apply s).WellNumbered from this _ .atomspaceCreate h
  clear h
  induction ops with
  | nil => exact fun _ hs _ => hs
  | cons op ops ih =>
    exact fun s hs hlen => ih _ (hs.apply op ((length_le_foldl _ ops).trans_lt hlen)) hlen

/-- After any sequence of store operations from `atomspace_create` that inserts fewer than
`2^32 - 1` atoms, `atom_count` counts the atoms, `next_id` is one past it, and the ids are
pairwise distinct: from the head of the list they are `atom_count, …, 2, 1`. -/
theorem storeRun_numbering (ops : List StoreOp) (h : (storeRun ops).atoms.length < 2 ^ 32 - 1) :
    let s := storeRun ops
    s.atomCount.toNat = s.atoms.length ∧ s.nextId.toNat = s.atomCount.toNat + 1 ∧
      (s.atoms.map (·.id)).Nodup ∧
      s.atoms.map (·.id.toNat) = (List.range' 1 s.atomCount.toNat).reverse := by
  intro s
  have hs : s.WellNumbered := storeRun_wellNumbered ops h
  refine ⟨hs.atomCount, by rw [hs.nextId, hs.atomCount], ?_, by rw [hs.ids, hs.atomCount]⟩
  refine List.Nodup.of_map UInt32.toNat ?_
  rw [List.map_map]
  exact hs.ids ▸ List.nodup_reverse.2 (List.nodup_range' 1 _)

/-- Two names added, the first added again, and a knowledge packet of a third name
delivered to a coordinator holding the store. -/
theorem storeRun_numbering_share :
    let ops : List StoreOp := [.addAtom .concept Names.self 0, .addAtom .concept Names.health 1,
      .addAtom .concept Names.self 2,
      .deliver (hiveCoordinatorCreate (autognosisCreate 0) 2 0)
        ⟨1, 2, HiveMessageType.knowledgeShare.ordinal, 1, 3, sizeofKnowledgePacket, .knowledgePacket
          (knowledgePacketFromAtom (atomspaceCreate.freshAtom .concept Names.network 0))⟩ 3]
    (storeRun ops).atoms.length < 2 ^ 32 - 1 ∧
      let s := storeRun ops
      s.atomCount.toNat = s.atoms.length ∧ s.nextId.toNat = s.atomCount.toNat + 1 ∧
        (s.atoms.map (·.id)).Nodup ∧
        s.atoms.map (·.id.toNat) = (List.range' 1 s.atomCount.toNat).reverse := by
  intro ops
  have h : (storeRun ops).atoms.length < 2 ^ 32 - 1 := by decide
  exact ⟨h, storeRun_numbering _ h⟩

end Hivecog
