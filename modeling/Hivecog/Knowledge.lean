import Hivecog.Coordinator

/-!
# Knowledge sharing between nodes

What a `KNOWLEDGE_SHARE` does at its receiver, and what a stream of them does.

* `receiveMessage_hiveBroadcastKnowledge`: the message `hive_broadcast_knowledge` builds
  for an atom has, at any receiver, exactly the effect of `knowledge_packet_to_atom` on
  the atom's packet: the fact of that name takes the atom's importance and timestamp, its
  truth value and confidence are the confidence-weighted blend of the previous ones (or of
  the defaults `0.5`/`0.5`) with the atom's, its kind is kept, the atom count grows exactly
  when the name was new, and every other fact stays as it was.
* `factValues_receiveAll`: after a stream of knowledge packets, the facts of a name depend
  only on the packets of that name, in their order. Packets of different names commute;
  packets of one name do not (`receiveAll_not_order_independent`): the blend is not
  symmetric in its two sides and the packet's importance overwrites the fact's.
-/

namespace Hivecog

/-- The packet's merge blends its truth and confidence into an atom: the two weights are
positive, so the blend branch is always taken. -/
theorem KnowledgePacket.merge_of_pos (packet : KnowledgePacket) (now : Int) (x : Atom)
    (h : 0 < packet.confidence) :
    (packet.merge now x).truthValue = (x.truthValue * x.confidence +
        packet.truthValue * packet.confidence) / (x.confidence + packet.confidence) ∧
      (packet.merge now x).confidence = min 1 ((x.confidence + packet.confidence) / 2) :=
  atomspaceUpdateTruthValue_of_pos x _ _ (add_pos x.confidence_pos h)

/-- The message `hive_broadcast_knowledge` builds for an atom acts at a receiver exactly as
`knowledge_packet_to_atom` on the atom's packet, and what that does to the fact. -/
theorem receiveMessage_hiveBroadcastKnowledge (sender c : HiveCoordinator) (a : Atom)
    (sentAt now : Int) :
    let S := c.localEngine.globalKnowledge
    let S' := (knowledgePacketToAtom S (knowledgePacketFromAtom a) now).1
    let prior := ((atomspaceFindAtom S a.name.str).map
      fun e => (e.truthValue, e.confidence)).getD (1 / 2, 1 / 2)
    (∃ m, (hiveBroadcastKnowledge sender a sentAt).2 = [m] ∧
      receiveMessage c m now = (c.setGlobalKnowledge S', [])) ∧
    (∃ b, atomspaceFindAtom S' a.name.str = some b ∧
      b.importance = a.importance ∧ b.timestamp = a.timestamp ∧
      b.truthValue = (prior.1 * prior.2 + a.truthValue * a.confidence) / (prior.2 + a.confidence) ∧
      b.confidence = min 1 ((prior.2 + a.confidence) / 2) ∧
      ∀ e, atomspaceFindAtom S a.name.str = some e → b.type = e.type) ∧
    S'.atomCount = (if atomspaceFindAtom S a.name.str = none then S.atomCount + 1
      else S.atomCount) ∧
    S'.atoms.filter (fun x => !x.isNamed a.name.str) =
      S.atoms.filter (fun x => !x.isNamed a.name.str) := by
  intro S S' prior
  have hfit : a.name.str.bytes.length ≤ 255 := by have := a.name.fits; omega
  have hS' : S' = S.upsert a.type a.name.str now ((knowledgePacketFromAtom a).merge now) := by
    simp only [S', knowledgePacketToAtom_fst, knowledgePacketFromAtom_atomName]; rfl
  refine ⟨⟨_, by rw [hiveBroadcastKnowledge_eq], ?_⟩, ?_, ?_, ?_⟩
  · rw [receiveMessage_knowledgeShare rfl, if_pos rfl]
    rfl
  · rw [hS', atomspaceFindAtom_upsert hfit (KnowledgePacket.merge_name _ _), if_pos rfl]
    have hmerge := KnowledgePacket.merge_of_pos (knowledgePacketFromAtom a) now
      (atomspaceAddAtom S a.type a.name.str now).2 a.confidence_pos
    refine ⟨_, rfl, rfl, rfl, ?_⟩
    cases hf : atomspaceFindAtom S a.name.str with
    | none =>
      simp only [atomspaceAddAtom_of_find_none hf] at hmerge ⊢
      simp only [prior, hf, Option.map_none', Option.getD_none]
      exact ⟨hmerge.1, hmerge.2, fun _ h => Option.noConfusion h⟩
    | some e =>
      simp only [atomspaceAddAtom_of_find hf] at hmerge ⊢
      simp only [prior, hf, Option.map_some', Option.getD_some]
      refine ⟨hmerge.1, hmerge.2, fun e' he' => ?_⟩
      obtain rfl := Option.some.inj he'
      exact atomspaceUpdateTruthValue_type e.bumpImportance _ _
  · rw [hS', upsert_atomCount]
  · rw [hS', filter_upsert hfit (KnowledgePacket.merge_name _ _)]

/-! ## Streams of packets -/

/-- The facts of a store as the spec sees them: for a name, the truth value, confidence and
importance of the fact it finds. -/
def factValues (space : AtomSpace) (n : CStr) : Option (ℚ × ℚ × ℚ) :=
  (atomspaceFindAtom space n).map fun a => (a.truthValue, a.confidence, a.importance)

/-- The values a packet leaves at its name, from the values there before (`none`: a new
name, which starts from the defaults `0.5`/`0.5`). -/
def KnowledgePacket.mergeValues (p : KnowledgePacket) (v : Option (ℚ × ℚ × ℚ)) : ℚ × ℚ × ℚ :=
  let t := (v.map (·.1)).getD (1 / 2)
  let c := (v.map (·.2.1)).getD (1 / 2)
  if 0 < c + p.confidence then
    ((t * c + p.truthValue * p.confidence) / (c + p.confidence), min 1 ((c + p.confidence) / 2),
      p.importance)
  else (t, c, p.importance)

/-- A coordinator after a sequence of deliveries to `receive_message`. -/
def receiveAll (c : HiveCoordinator) : List (HiveMessage × Int) → HiveCoordinator
  | [] => c
  | d :: ds => receiveAll (receiveMessage c d.1 d.2).1 ds

/-- A new name merges as a fact holding the defaults. -/
theorem mergeValues_none (p : KnowledgePacket) (imp : ℚ) :
    p.mergeValues none = p.mergeValues (some (1 / 2, 1 / 2, imp)) := rfl

theorem mergeValues_merge (p : KnowledgePacket) (now : Int) (x : Atom) (imp : ℚ) :
    let y := p.merge now x
    (y.truthValue, y.confidence, y.importance) =
      p.mergeValues (some (x.truthValue, x.confidence, imp)) := by
  by_cases h : 0 < x.confidence + p.confidence
  · obtain ⟨ht, hc⟩ := atomspaceUpdateTruthValue_of_pos x p.truthValue now h
    simp [KnowledgePacket.mergeValues, KnowledgePacket.merge, h, ht, hc]
  · simp [KnowledgePacket.mergeValues, KnowledgePacket.merge, h,
      atomspaceUpdateTruthValue_of_nonpos x h]

/-- Delivering a packet changes the facts of its own name only, as a function of what was
there. -/
theorem factValues_knowledgePacketToAtom (space : AtomSpace) (p : KnowledgePacket) (now : Int)
    (n : CStr) :
    factValues (knowledgePacketToAtom space p now).1 n =
      if p.atomName.str = n then some (p.mergeValues (factValues space n))
      else factValues space n := by
  have hfit : p.atomName.str.bytes.length ≤ 255 := by have := p.atomName.fits; omega
  rw [knowledgePacketToAtom_fst, factValues,
    atomspaceFindAtom_upsert hfit (KnowledgePacket.merge_name _ _)]
  split
  · subst n
    cases hf : atomspaceFindAtom space p.atomName.str with
    | none =>
      simpa [factValues, hf, atomspaceAddAtom_of_find_none hf, AtomSpace.freshAtom,
        mergeValues_none p 1] using
        mergeValues_merge p now (space.freshAtom p.atomType p.atomName.str now) 1
    | some e =>
      simpa [factValues, hf, atomspaceAddAtom_of_find hf, Atom.bumpImportance] using
        mergeValues_merge p now e.bumpImportance e.importance
  · rfl

/-- The packet a `KNOWLEDGE_SHARE` of the right length carries. -/
def HiveMessage.IsKnowledgeShare (m : HiveMessage) : Prop :=
  m.type = HiveMessageType.knowledgeShare.ordinal ∧ m.dataLength = sizeofKnowledgePacket

/-- The packets of one name in a stream of deliveries, in delivery order. -/
def packetsNamed (ds : List (HiveMessage × Int)) (n : CStr) : List KnowledgePacket :=
  (ds.map (·.1.data.asKnowledgePacket)).filter (·.atomName.str = n)

theorem factValues_receiveAll (c : HiveCoordinator) (ds : List (HiveMessage × Int))
    (hds : ∀ d ∈ ds, d.1.IsKnowledgeShare) (n : CStr) :
    factValues (receiveAll c ds).localEngine.globalKnowledge n =
      (packetsNamed ds n).foldl (fun v p => some (p.mergeValues v))
        (factValues c.localEngine.globalKnowledge n) := by
  induction ds generalizing c with
  | nil => rfl
  | cons d ds ih =>
    obtain ⟨ht, hl⟩ := hds d (List.mem_cons_self d ds)
    rw [receiveAll, ih _ fun d' hd' => hds d' (List.mem_cons_of_mem d hd'),
      receiveMessage_knowledgeShare ht, if_pos hl, processSharedKnowledge,
      HiveCoordinator.setGlobalKnowledge_globalKnowledge, factValues_knowledgePacketToAtom]
    by_cases hn : d.1.data.asKnowledgePacket.atomName.str = n <;> simp [packetsNamed, hn]

theorem foldl_some_ne_none {f : KnowledgePacket → Option (ℚ × ℚ × ℚ) → ℚ × ℚ × ℚ}
    (ps : List KnowledgePacket) (v : Option (ℚ × ℚ × ℚ)) :
    ps.foldl (fun v p => some (f p v)) v ≠ none ↔ v ≠ none ∨ ps ≠ [] := by
  induction ps generalizing v with
  | nil => simp
  | cons p ps ih => simp [ih]

theorem exists_named_iff (space : AtomSpace) (n : CStr) :
    (∃ a ∈ space.atoms, a.name.str = n) ↔ factValues space n ≠ none := by
  simp [factValues, atomspaceFindAtom]

theorem mergeValues_importance (p : KnowledgePacket) (v : Option (ℚ × ℚ × ℚ)) :
    (p.mergeValues v).2.2 = p.importance := by
  dsimp only [KnowledgePacket.mergeValues]; split <;> rfl

/-- Two packets of one name, from the atom `atomspace_add_atom` creates and from the same
atom after a repeated access, delivered in the two orders to a fresh coordinator: the
importance left is the last packet's, `1.1` in one order and `1` in the other. -/
theorem receiveAll_not_order_independent :
    let c := hiveCoordinatorCreate (autognosisCreate 0) 1 0
    let a := (atomspaceAddAtom atomspaceCreate .concept Names.health 0).2
    let m₁ := (hiveBroadcastKnowledge c a 0).2.map (·, 0)
    let m₂ := (hiveBroadcastKnowledge c a.bumpImportance 0).2.map (·, 0)
    factValues (receiveAll c (m₁ ++ m₂)).localEngine.globalKnowledge Names.health ≠
      factValues (receiveAll c (m₂ ++ m₁)).localEngine.globalKnowledge Names.health := by
  intro c a m₁ m₂
  have hks : ∀ d ∈ m₁ ++ m₂ ++ (m₂ ++ m₁), d.1.IsKnowledgeShare := by
    simp [m₁, m₂, hiveBroadcastKnowledge_eq, HiveMessage.IsKnowledgeShare]
  have hname : a.name.str = Names.health := strncpy_str_of_length_le (by decide)
  rw [factValues_receiveAll c _ fun d hd => hks d (List.mem_append_left _ hd),
    factValues_receiveAll c _ fun d hd => hks d (List.mem_append_right _ hd)]
  simp only [m₁, m₂, hiveBroadcastKnowledge_eq, packetsNamed, List.map_cons, List.map_nil,
    List.cons_append, List.nil_append, HiveMessageData.asKnowledgePacket, List.filter_cons,
    List.filter_nil, knowledgePacketFromAtom_atomName, Atom.bumpImportance_name, hname,
    decide_eq_true_eq, if_true, List.foldl_cons, List.foldl_nil, ne_eq, Option.some.injEq]
  intro h
  have := congrArg (fun v => v.2.2) h
  simp only [mergeValues_importance, knowledgePacketFromAtom, Atom.bumpImportance] at this
  norm_num [a, atomspaceAddAtom, atomspaceFindAtom, atomspaceCreate, AtomSpace.freshAtom] at this

/-- Deliveries of the same packets, in any two orders, leave the same names; a name whose
packets arrive in the same order at both leaves the same truth value, confidence and
importance at both. -/
theorem receiveAll_knowledgeShare_agree (c₁ c₂ : HiveCoordinator)
    (hS : c₁.localEngine.globalKnowledge = c₂.localEngine.globalKnowledge)
    (ds₁ ds₂ : List (HiveMessage × Int)) (hks : ∀ d ∈ ds₁ ++ ds₂, d.1.IsKnowledgeShare)
    (hsame : ∀ p, (∃ d ∈ ds₁, d.1.data.asKnowledgePacket = p) ↔
      ∃ d ∈ ds₂, d.1.data.asKnowledgePacket = p) :
    (∀ n, (∃ a ∈ (receiveAll c₁ ds₁).localEngine.globalKnowledge.atoms, a.name.str = n) ↔
      ∃ a ∈ (receiveAll c₂ ds₂).localEngine.globalKnowledge.atoms, a.name.str = n) ∧
    ∀ n, packetsNamed ds₁ n = packetsNamed ds₂ n →
      factValues (receiveAll c₁ ds₁).localEngine.globalKnowledge n =
        factValues (receiveAll c₂ ds₂).localEngine.globalKnowledge n := by
  have h₁ : ∀ d ∈ ds₁, d.1.IsKnowledgeShare := fun d hd => hks d (List.mem_append_left _ hd)
  have h₂ : ∀ d ∈ ds₂, d.1.IsKnowledgeShare := fun d hd => hks d (List.mem_append_right _ hd)
  refine ⟨fun n => ?_, fun n hn => ?_⟩
  · have hne : packetsNamed ds₁ n ≠ [] ↔ packetsNamed ds₂ n ≠ [] := by
      simp only [packetsNamed, ne_eq, List.filter_eq_nil_iff, List.mem_map, not_forall,
        decide_eq_true_eq, not_not, exists_prop]
      constructor
      · rintro ⟨_, ⟨d, hd, rfl⟩, hn⟩
        obtain ⟨d', hd', he⟩ := (hsame _).1 ⟨d, hd, rfl⟩
        exact ⟨_, ⟨d', hd', he⟩, hn⟩
      · rintro ⟨_, ⟨d, hd, rfl⟩, hn⟩
        obtain ⟨d', hd', he⟩ := (hsame _).2 ⟨d, hd, rfl⟩
        exact ⟨_, ⟨d', hd', he⟩, hn⟩
    rw [exists_named_iff, exists_named_iff, factValues_receiveAll c₁ ds₁ h₁,
      factValues_receiveAll c₂ ds₂ h₂, foldl_some_ne_none, foldl_some_ne_none, hS, hne]
  · rw [factValues_receiveAll c₁ ds₁ h₁, factValues_receiveAll c₂ ds₂ h₂, hS, hn]

/-- The two orders of `receiveAll_not_order_independent` agree on the names. -/
theorem receiveAll_knowledgeShare_agree_fresh :
    let c := hiveCoordinatorCreate (autognosisCreate 0) 1 0
    let a := (atomspaceAddAtom atomspaceCreate .concept Names.health 0).2
    let m₁ := (hiveBroadcastKnowledge c a 0).2.map (·, 0)
    let m₂ := (hiveBroadcastKnowledge c a.bumpImportance 0).2.map (·, 0)
    (∀ d ∈ (m₁ ++ m₂) ++ (m₂ ++ m₁), d.1.IsKnowledgeShare) ∧
    (∀ p, (∃ d ∈ m₁ ++ m₂, d.1.data.asKnowledgePacket = p) ↔
      ∃ d ∈ m₂ ++ m₁, d.1.data.asKnowledgePacket = p) ∧
    (∀ n, (∃ x ∈ (receiveAll c (m₁ ++ m₂)).localEngine.globalKnowledge.atoms, x.name.str = n) ↔
      ∃ x ∈ (receiveAll c (m₂ ++ m₁)).localEngine.globalKnowledge.atoms, x.name.str = n) ∧
    ∀ n, packetsNamed (m₁ ++ m₂) n = packetsNamed (m₂ ++ m₁) n →
      factValues (receiveAll c (m₁ ++ m₂)).localEngine.globalKnowledge n =
        factValues (receiveAll c (m₂ ++ m₁)).localEngine.globalKnowledge n := by
  intro c a m₁ m₂
  have hks : ∀ d ∈ (m₁ ++ m₂) ++ (m₂ ++ m₁), d.1.IsKnowledgeShare := by
    simp [m₁, m₂, hiveBroadcastKnowledge_eq, HiveMessage.IsKnowledgeShare]
  have hsame : ∀ p, (∃ d ∈ m₁ ++ m₂, d.1.data.asKnowledgePacket = p) ↔
      ∃ d ∈ m₂ ++ m₁, d.1.data.asKnowledgePacket = p := fun _ =>
    exists_congr fun _ => and_congr_left' List.perm_append_comm.mem_iff
  exact ⟨hks, hsame, receiveAll_knowledgeShare_agree c c rfl _ _ hks hsame⟩

end Hivecog
