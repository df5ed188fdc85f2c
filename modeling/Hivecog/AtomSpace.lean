import Hivecog.Basic

/-!
# The AtomSpace: the typed-fact store of a node

`atom_t`, `atom_space_t` and the store functions of `autognosis.c`. The store is the
linked list `atoms`, newest first. `atomspace_add_atom` returns a pointer into that list
that its callers write through; the model returns the atom it points to and lets a caller
write through it with `AtomSpace.modifyAtom`, which rewrites the first atom of that name.
The returned atom is always the first atom of its stored name (`atomspaceFindAtom_addAtom`),
so the write reaches the atom the C pointer designates.

The `strcmp` lookup compares the full argument while the stored name is cut to 255 bytes
(`strncpy_str_of_length_le`): for longer names the two disagree. Such a name is never
found (`atomspaceFindAtom_eq_none_of_long`), so each addition of it inserts another atom
under the same stored name (`atomspaceAddAtom_long_name_twice`).

Every atom the code builds has a positive confidence: insertion starts at `0.5` and the
blend only ever writes a positive one. `Atom` carries that fact.
-/

namespace Hivecog

/-- `atom_type_t`. -/
inductive AtomType
  | node
  | link
  | concept
  | predicate
  | evaluation
deriving DecidableEq, Repr

/-- `atom_t`, without the `outgoing` links, which no function of the source fills. -/
structure Atom where
  id : UInt32
  type : AtomType
  name : CBuf 256
  truthValue : ℚ
  confidence : ℚ
  importance : ℚ
  timestamp : Int
  confidence_pos : 0 < confidence
deriving DecidableEq

/-- `atom_space_t`, without the `owner_node` pointer, which no function reads. -/
structure AtomSpace where
  atoms : List Atom
  atomCount : UInt32
  nextId : UInt32
deriving DecidableEq

namespace Atom

/-- `strcmp(atom->name, name) == 0`. -/
def isNamed (name : CStr) (a : Atom) : Bool := decide (a.name.str = name)

/-- `existing->importance += 0.1f`, for a repeated access. -/
def bumpImportance (a : Atom) : Atom := { a with importance := a.importance + 1 / 10 }

@[simp] theorem isNamed_eq (name : CStr) (a : Atom) : a.isNamed name = decide (a.name.str = name) := rfl

@[simp] theorem bumpImportance_name (a : Atom) : a.bumpImportance.name = a.name := rfl

end Atom

/-- `atomspace_create`. -/
def atomspaceCreate : AtomSpace := ⟨[], 0, 1⟩

/-- `atomspace_find_atom`: the first atom whose name `strcmp`s equal to `name`. -/
def atomspaceFindAtom (space : AtomSpace) (name : CStr) : Option Atom :=
  space.atoms.find? (Atom.isNamed name)

namespace AtomSpace

/-- A write through the pointer to the first atom named `name`. -/
def modifyAtom (space : AtomSpace) (name : CStr) (f : Atom → Atom) : AtomSpace :=
  { space with atoms := modifyFirst (Atom.isNamed name) f space.atoms }

/-- The atom `atomspace_add_atom` allocates for a name it does not find. -/
def freshAtom (space : AtomSpace) (type : AtomType) (name : CStr) (now : Int) : Atom :=
  ⟨space.nextId, type, strncpy 255 name, 1 / 2, 1 / 2, 1, now, one_half_pos⟩

/-- Insertion at the head of the list, as `atomspace_add_atom` links a new atom. -/
def insert (space : AtomSpace) (atom : Atom) : AtomSpace :=
  ⟨atom :: space.atoms, space.atomCount + 1, space.nextId + 1⟩

end AtomSpace

/-- `atomspace_add_atom`: a repeated name raises the importance of its atom by `0.1`; a new
name gets a fresh atom with truth `0.5`, confidence `0.5` and importance `1` at the head. -/
def atomspaceAddAtom (space : AtomSpace) (type : AtomType) (name : CStr) (now : Int) :
    AtomSpace × Atom :=
  match atomspaceFindAtom space name with
  | some existing => (space.modifyAtom name Atom.bumpImportance, existing.bumpImportance)
  | none =>
    let atom := space.freshAtom type name now
    (space.insert atom, atom)

/-- `atomspace_update_truth_value`: the confidence-weighted blend of the old and the new
truth value, and the mean of the two confidences capped at `1`, when the total weight is
positive; the timestamp is refreshed either way. -/
def atomspaceUpdateTruthValue (atom : Atom) (truth confidence : ℚ) (now : Int) : Atom :=
  let totalWeight := atom.confidence + confidence
  if h : totalWeight > 0 then
    { atom with
      truthValue := (atom.truthValue * atom.confidence + truth * confidence) / totalWeight
      confidence := if totalWeight / 2 > 1 then 1 else totalWeight / 2
      timestamp := now
      confidence_pos := by split; exacts [one_pos, half_pos h] }
  else { atom with timestamp := now }

/-! ## Spec lemmas -/

section Lemmas

variable {space : AtomSpace} {type : AtomType} {name m : CStr} {now : Int}

@[simp] theorem atomspaceUpdateTruthValue_name (atom : Atom) (t c : ℚ) :
    (atomspaceUpdateTruthValue atom t c now).name = atom.name := by
  dsimp only [atomspaceUpdateTruthValue]; split <;> rfl

@[simp] theorem atomspaceUpdateTruthValue_id (atom : Atom) (t c : ℚ) :
    (atomspaceUpdateTruthValue atom t c now).id = atom.id := by
  dsimp only [atomspaceUpdateTruthValue]; split <;> rfl

@[simp] theorem atomspaceUpdateTruthValue_type (atom : Atom) (t c : ℚ) :
    (atomspaceUpdateTruthValue atom t c now).type = atom.type := by
  dsimp only [atomspaceUpdateTruthValue]; split <;> rfl

@[simp] theorem atomspaceUpdateTruthValue_importance (atom : Atom) (t c : ℚ) :
    (atomspaceUpdateTruthValue atom t c now).importance = atom.importance := by
  dsimp only [atomspaceUpdateTruthValue]; split <;> rfl

/-- With a positive total weight, the blend: the confidence-weighted mean of the truth
values, and the mean of the confidences capped at `1`. -/
theorem atomspaceUpdateTruthValue_of_pos (atom : Atom) (t : ℚ) {c : ℚ} (now : Int)
    (h : 0 < atom.confidence + c) :
    (atomspaceUpdateTruthValue atom t c now).truthValue =
        (atom.truthValue * atom.confidence + t * c) / (atom.confidence + c) ∧
      (atomspaceUpdateTruthValue atom t c now).confidence = min 1 ((atom.confidence + c) / 2) := by
  simp only [atomspaceUpdateTruthValue, gt_iff_lt, h, dif_pos, true_and]
  split
  · rw [min_eq_left (by linarith)]
  · rw [min_eq_right (by linarith)]

/-- Without one, only the timestamp moves. -/
theorem atomspaceUpdateTruthValue_of_nonpos (atom : Atom) {t c : ℚ}
    (h : ¬ 0 < atom.confidence + c) :
    atomspaceUpdateTruthValue atom t c now = { atom with timestamp := now } := by
  simp only [atomspaceUpdateTruthValue, gt_iff_lt, h, dif_neg, not_false_eq_true]

@[simp] theorem AtomSpace.modifyAtom_atomCount (f : Atom → Atom) :
    (space.modifyAtom name f).atomCount = space.atomCount := rfl

@[simp] theorem AtomSpace.modifyAtom_nextId (f : Atom → Atom) :
    (space.modifyAtom name f).nextId = space.nextId := rfl

@[simp] theorem AtomSpace.freshAtom_name :
    (space.freshAtom type name now).name = strncpy 255 name := rfl

theorem atomspaceAddAtom_of_find {a : Atom} (h : atomspaceFindAtom space name = some a) :
    atomspaceAddAtom space type name now =
      (space.modifyAtom name Atom.bumpImportance, a.bumpImportance) := by
  simp only [atomspaceAddAtom, h]

theorem atomspaceAddAtom_of_find_none (h : atomspaceFindAtom space name = none) :
    atomspaceAddAtom space type name now =
      (space.insert (space.freshAtom type name now), space.freshAtom type name now) := by
  simp only [atomspaceAddAtom, h]

/-- A stored name has at most 255 bytes, so a longer name is never found. -/
theorem atomspaceFindAtom_eq_none_of_long (h : 255 < name.bytes.length) :
    atomspaceFindAtom space name = none := by
  refine List.find?_eq_none.2 fun a _ ha => ?_
  have := a.name.fits
  simp only [Atom.isNamed_eq, decide_eq_true_eq] at ha
  subst ha
  omega

/-- ... so every addition of such a name inserts a fresh atom, whatever the store holds. -/
theorem atomspaceAddAtom_of_long (h : 255 < name.bytes.length) :
    atomspaceAddAtom space type name now =
      (space.insert (space.freshAtom type name now), space.freshAtom type name now) :=
  atomspaceAddAtom_of_find_none (atomspaceFindAtom_eq_none_of_long h)

/-- A 256-byte name added twice to an empty store: two atoms under one stored name, and a
lookup of the name that finds neither of them. -/
theorem atomspaceAddAtom_long_name_twice :
    let name : CStr :=
      ⟨List.replicate 256 97, fun h => absurd (List.eq_of_mem_replicate h) (by decide)⟩
    let first := atomspaceAddAtom atomspaceCreate .concept name 0
    let second := atomspaceAddAtom first.1 .concept name 0
    second.1.atoms = [second.2, first.2] ∧ second.2.name = first.2.name ∧
      second.2.id ≠ first.2.id ∧ atomspaceFindAtom second.1 name = none := by
  intro name first second
  have hlong : 255 < name.bytes.length := by
    show 255 < (List.replicate 256 (97 : UInt8)).length
    rw [List.length_replicate]; decide
  simp only [second, first, atomspaceAddAtom_of_long hlong]
  exact ⟨rfl, rfl, by decide, atomspaceFindAtom_eq_none_of_long hlong⟩

/-- A write that keeps names leaves the lookup of the written name pointing at the
written atom. -/
theorem atomspaceFindAtom_modifyAtom {f : Atom → Atom} (hf : ∀ a, (f a).name = a.name) :
    atomspaceFindAtom (space.modifyAtom name f) name = (atomspaceFindAtom space name).map f :=
  find?_modifyFirst (fun a => by simp [hf]) _

/-- ... and every other lookup unchanged. -/
theorem atomspaceFindAtom_modifyAtom_of_ne {f : Atom → Atom} (hf : ∀ a, (f a).name = a.name)
    (hm : m ≠ name) :
    atomspaceFindAtom (space.modifyAtom name f) m = atomspaceFindAtom space m :=
  have hne : ∀ a : Atom, a.isNamed name = true → a.name.str ≠ m := fun a ha h =>
    hm (h.symm.trans (by simpa using ha))
  find?_modifyFirst_of_disjoint (fun a ha => by simp [hne a ha])
    (fun a ha => by simp [hf, hne a ha]) _

theorem atomspaceFindAtom_insert (a : Atom) :
    atomspaceFindAtom (space.insert a) m = if a.name.str = m then some a
      else atomspaceFindAtom space m := by
  by_cases h : a.name.str = m <;> simp [atomspaceFindAtom, AtomSpace.insert, h]

/-- The atom `atomspace_add_atom` returns is the first atom of its stored name. -/
theorem atomspaceFindAtom_addAtom :
    atomspaceFindAtom (atomspaceAddAtom space type name now).1
      (atomspaceAddAtom space type name now).2.name.str =
      some (atomspaceAddAtom space type name now).2 := by
  cases h : atomspaceFindAtom space name with
  | none => simp [atomspaceAddAtom_of_find_none h, atomspaceFindAtom_insert]
  | some a =>
    have ha : a.name.str = name := by simpa using List.find?_some h
    simp [atomspaceAddAtom_of_find h, ha, atomspaceFindAtom_modifyAtom, h]

/-! ## Writing through the returned pointer -/

/-- What a caller of `atomspace_add_atom` leaves when it writes `g` through the returned
pointer: `g` of the bumped atom, or `g` of a fresh atom at the head. -/
def AtomSpace.upsert (space : AtomSpace) (type : AtomType) (name : CStr) (now : Int)
    (g : Atom → Atom) : AtomSpace :=
  match atomspaceFindAtom space name with
  | some _ => space.modifyAtom name (g ∘ Atom.bumpImportance)
  | none => space.insert (g (space.freshAtom type name now))

variable {g : Atom → Atom}

theorem addAtom_modifyAtom (h : name.bytes.length ≤ 255) :
    (atomspaceAddAtom space type name now).1.modifyAtom
      (atomspaceAddAtom space type name now).2.name.str g = space.upsert type name now g := by
  unfold AtomSpace.upsert
  cases hf : atomspaceFindAtom space name with
  | none =>
    simp only [atomspaceAddAtom_of_find_none hf, AtomSpace.freshAtom_name,
      strncpy_str_of_length_le h]
    simp [AtomSpace.modifyAtom, AtomSpace.insert, modifyFirst, strncpy_str_of_length_le h]
  | some a =>
    have ha : a.name.str = name := by simpa using List.find?_some hf
    simp only [atomspaceAddAtom_of_find hf, Atom.bumpImportance_name, ha, AtomSpace.modifyAtom]
    rw [modifyFirst_comp (fun b => by simp)]

theorem atomspaceFindAtom_upsert (h : name.bytes.length ≤ 255) (hg : ∀ a, (g a).name = a.name) :
    atomspaceFindAtom (space.upsert type name now g) m =
      if name = m then some (g (atomspaceAddAtom space type name now).2)
      else atomspaceFindAtom space m := by
  unfold AtomSpace.upsert
  cases hf : atomspaceFindAtom space name with
  | none =>
    simp [atomspaceFindAtom_insert, hg, strncpy_str_of_length_le h, atomspaceAddAtom_of_find_none hf]
  | some a =>
    have hgb : ∀ b, ((g ∘ Atom.bumpImportance) b).name = b.name := fun b => by simp [hg]
    simp only [atomspaceAddAtom_of_find hf]
    split
    · subst m
      simp [atomspaceFindAtom_modifyAtom hgb, hf]
    · exact atomspaceFindAtom_modifyAtom_of_ne hgb (Ne.symm ‹_›)

/-- The atoms of other names are the same, in the same order. -/
theorem filter_upsert (h : name.bytes.length ≤ 255) (hg : ∀ a, (g a).name = a.name) :
    (space.upsert type name now g).atoms.filter (fun a => !a.isNamed name) =
      space.atoms.filter (fun a => !a.isNamed name) := by
  unfold AtomSpace.upsert
  split
  · refine filter_modifyFirst (fun b => ?_) _
    simp [hg]
  · simp [AtomSpace.insert, hg, strncpy_str_of_length_le h]

theorem upsert_atomCount :
    (space.upsert type name now g).atomCount =
      if atomspaceFindAtom space name = none then space.atomCount + 1 else space.atomCount := by
  unfold AtomSpace.upsert
  split <;> simp_all [AtomSpace.insert]

/-- The counters move only with an insertion, and then together. -/
theorem upsert_counters :
    ((space.upsert type name now g).atomCount, (space.upsert type name now g).nextId) =
      if atomspaceFindAtom space name = none then (space.atomCount + 1, space.nextId + 1)
      else (space.atomCount, space.nextId) := by
  unfold AtomSpace.upsert
  split <;> simp_all [AtomSpace.insert]

theorem mem_upsert {b : Atom} (hb : b ∈ (space.upsert type name now g).atoms) :
    b ∈ space.atoms ∨ b = g (space.freshAtom type name now) ∨
      ∃ e ∈ space.atoms, b = g e.bumpImportance := by
  unfold AtomSpace.upsert at hb
  split at hb
  · rcases mem_modifyFirst hb with hb | ⟨e, he, rfl⟩
    · exact .inl hb
    · exact .inr (.inr ⟨e, he, rfl⟩)
  · rcases List.mem_cons.1 hb with rfl | hb
    · exact .inr (.inl rfl)
    · exact .inl hb

end Lemmas

end Hivecog
