import Mathlib.Algebra.Order.Field.Basic
import Mathlib.Algebra.Order.Field.Rat
import Mathlib.Data.Rat.Floor
import Mathlib.Data.List.Infix
import Mathlib.Data.UInt
import Mathlib.Data.String.Basic
import Mathlib.Tactic.Linarith
import Mathlib.Tactic.NormNum

/-!
# C strings, fixed buffers and list helpers

The C code keeps every name in a zero-initialised `char[N]` buffer, copies into it with
`strncpy(dst, src, N - 1)` or `snprintf(dst, N, ...)`, compares names with `strcmp` and
matches healing conditions with `strstr`. A `CStr` is the byte sequence of a C string
before its terminating NUL, and a `CBuf N` is the string a `char[N]` holds, so it has at
most `N - 1` bytes: neither can be built in any other shape.

Conventions of the whole model: `float` values are rationals with exact arithmetic (every
finite `float` is one), `time_t` values are integers, and the `uint32_t` counters are
`UInt32`, so they wrap as the C counters do. `time(NULL)` is an explicit `now` argument.
A rational never overflows and is never NaN, so the model follows the C code only while its
`float` values stay finite: where a run could take one past the largest `float` (a product
with no cap) or a `libm` function outside its domain, the theorems about that run carry a
hypothesis that excludes it.

`modifyFirst p f` rewrites the first element satisfying `p`: it is what a C loop does that
walks a linked list, stops at the first match and mutates it in place.
-/

namespace Hivecog

/-- A C string: its bytes up to, not including, the terminating NUL. -/
structure CStr where
  bytes : List UInt8
  nul_free : 0 ∉ bytes
deriving DecidableEq

/-- The string held by a zero-initialised `char[size]`: at most `size - 1` bytes. -/
structure CBuf (size : Nat) where
  str : CStr
  fits : str.bytes.length < size
deriving DecidableEq

theorem toUInt8_ne_zero {k : Nat} (h1 : 0 < k) (h2 : k < 256) : k.toUInt8 ≠ 0 := by
  intro h
  have := congrArg UInt8.toNat h
  simp [Nat.toUInt8, UInt8.toNat, UInt8.ofNat] at this
  omega

namespace CStr

/-- The bytes of ASCII text, one per character. -/
def asciiBytes (s : String) : List UInt8 := s.toList.map (·.toNat.toUInt8)

/-- A string literal of the source. -/
def ascii (s : String) (h : 0 ∉ asciiBytes s) : CStr := ⟨asciiBytes s, h⟩

instance : Append CStr where
  append s t := ⟨s.bytes ++ t.bytes, by simp [s.nul_free, t.nul_free]⟩

@[simp] theorem bytes_append (s t : CStr) : (s ++ t).bytes = s.bytes ++ t.bytes := rfl

/-- The digits of `n`, most significant first; `fuel` bounds their number. -/
def decimalAux : Nat → Nat → List UInt8
  | 0, _ => []
  | fuel + 1, n => (if n < 10 then [] else decimalAux fuel (n / 10)) ++ [(48 + n % 10).toUInt8]

theorem decimalAux_nul_free : ∀ fuel n, 0 ∉ decimalAux fuel n
  | 0, _ => List.not_mem_nil 0
  | fuel + 1, n => by
    have hd : (48 + n % 10).toUInt8 ≠ 0 := toUInt8_ne_zero (by omega) (by omega)
    simp only [decimalAux, List.mem_append, List.mem_singleton, not_or]
    refine ⟨?_, hd.symm⟩
    split
    · exact List.not_mem_nil 0
    · exact decimalAux_nul_free fuel _

/-- `printf("%u", n)`. -/
def decimal (n : Nat) : CStr := ⟨decimalAux (n + 1) n, decimalAux_nul_free _ _⟩

/-- The natural number nearest to `q ≥ 0`, ties to even, as `printf` rounds. -/
def roundHalfEven (q : ℚ) : Nat :=
  let f := ⌊q⌋.toNat
  if q - f < 1 / 2 then f else if q - f > 1 / 2 then f + 1 else if f % 2 = 0 then f else f + 1

/-- `printf("%.2f", x)`: a minus sign for a negative `x`, then `|x|` rounded to hundredths. -/
def fixed2 (x : ℚ) : CStr :=
  let r := roundHalfEven (|x| * 100)
  (if x < 0 then ascii "-" (by decide) else ascii "" (by decide)) ++ decimal (r / 100) ++
    ascii "." (by decide) ++ decimal (r / 10 % 10) ++ decimal (r % 10)

end CStr

/-- `strstr(haystack, needle) != NULL`: `needle` occurs in `haystack`. The empty needle
occurs everywhere. -/
def strstr (haystack needle : CStr) : Bool := decide (needle.bytes <:+: haystack.bytes)

/-- `strncpy(dst, src, size - 1)` into a zeroed `char[size]`, which is also what
`snprintf(dst, size, ...)` leaves there: the first `size - 1` bytes of `src`. -/
def strncpy (size : Nat) (src : CStr) : CBuf (size + 1) :=
  ⟨⟨src.bytes.take size, fun h => src.nul_free (List.mem_of_mem_take h)⟩, by simp⟩

theorem strncpy_str_of_length_le {size : Nat} {src : CStr} (h : src.bytes.length ≤ size) :
    (strncpy size src).str = src := by
  cases src
  simp only [strncpy, CStr.mk.injEq]
  exact List.take_of_length_le h

/-- Copying a buffer's string into a buffer of the same size gives it back. -/
@[simp] theorem strncpy_str {size : Nat} (b : CBuf (size + 1)) : strncpy size b.str = b := by
  cases b with
  | mk s hs =>
    have : (strncpy size s).str = s := strncpy_str_of_length_le (by omega)
    cases h : strncpy size s
    simp_all

/-! ## Rewriting the first match of a list -/

section ModifyFirst

variable {α : Type} (p : α → Bool) (f : α → α)

/-- Apply `f` to the first element satisfying `p`. -/
def modifyFirst : List α → List α
  | [] => []
  | a :: as => if p a then f a :: as else a :: modifyFirst as

variable {p f}

theorem modifyFirst_of_find?_eq_none {l : List α} (h : l.find? p = none) :
    modifyFirst p f l = l := by
  induction l with
  | nil => rfl
  | cons a as ih =>
    simp only [List.find?_eq_none, List.mem_cons, forall_eq_or_imp] at h
    simp only [modifyFirst, h.1, if_false, Bool.false_eq_true]
    exact congrArg _ (ih (List.find?_eq_none.2 h.2))

theorem find?_modifyFirst (hf : ∀ a, p (f a) = p a) (l : List α) :
    (modifyFirst p f l).find? p = (l.find? p).map f := by
  induction l with
  | nil => rfl
  | cons a as ih =>
    by_cases ha : p a
    · simp [modifyFirst, ha, hf]
    · simp [modifyFirst, ha, ih]

/-- Searching with a predicate that no element touched by `f` satisfies, before or after,
sees the list unchanged. -/
theorem find?_modifyFirst_of_disjoint {q : α → Bool} (hq : ∀ a, p a → q a = false)
    (hqf : ∀ a, p a → q (f a) = false) (l : List α) :
    (modifyFirst p f l).find? q = l.find? q := by
  induction l with
  | nil => rfl
  | cons a as ih =>
    by_cases ha : p a
    · simp [modifyFirst, ha, hq a ha, hqf a ha]
    · simp only [modifyFirst, ha, if_false, Bool.false_eq_true, List.find?_cons, ih]

theorem filter_modifyFirst (hf : ∀ a, p (f a) = p a) (l : List α) :
    (modifyFirst p f l).filter (fun a => !p a) = l.filter (fun a => !p a) := by
  induction l with
  | nil => rfl
  | cons a as ih =>
    by_cases ha : p a
    · simp [modifyFirst, ha, hf]
    · simp [modifyFirst, ha, ih]

theorem mem_modifyFirst {l : List α} {b : α} (h : b ∈ modifyFirst p f l) :
    b ∈ l ∨ ∃ a ∈ l, b = f a := by
  induction l with
  | nil => exact absurd h (List.not_mem_nil b)
  | cons a as ih =>
    simp only [modifyFirst] at h
    split at h
    · rcases List.mem_cons.1 h with rfl | h
      · exact .inr ⟨a, List.mem_cons_self a as, rfl⟩
      · exact .inl (List.mem_cons_of_mem a h)
    · rcases List.mem_cons.1 h with rfl | h
      · exact .inl (List.mem_cons_self _ as)
      · rcases ih h with h | ⟨c, hc, rfl⟩
        · exact .inl (List.mem_cons_of_mem a h)
        · exact .inr ⟨c, List.mem_cons_of_mem a hc, rfl⟩

theorem modifyFirst_comp {g : α → α} (hf : ∀ a, p (f a) = p a) (l : List α) :
    modifyFirst p g (modifyFirst p f l) = modifyFirst p (g ∘ f) l := by
  induction l with
  | nil => rfl
  | cons a as ih =>
    by_cases ha : p a
    · simp [modifyFirst, ha, hf]
    · simp [modifyFirst, ha, ih]

/-- `modifyFirst` rewrites exactly the element at the index `findIdx?` finds. -/
theorem getElem?_modifyFirst (l : List α) (i : Nat) :
    (modifyFirst p f l)[i]? = if l.findIdx? p = some i then l[i]?.map f else l[i]? := by
  induction l generalizing i with
  | nil => simp [modifyFirst]
  | cons a as ih =>
    cases i with
    | zero => by_cases ha : p a <;> simp [modifyFirst, ha, List.findIdx?_succ]
    | succ i => by_cases ha : p a <;> simp [modifyFirst, ha, ih, List.findIdx?_succ]

@[simp] theorem length_modifyFirst (l : List α) : (modifyFirst p f l).length = l.length := by
  induction l with
  | nil => rfl
  | cons a as ih => simp only [modifyFirst]; split <;> simp [ih]

/-- A view that `f` does not change sees the list unchanged. -/
theorem map_modifyFirst {β : Type} {g : α → β} (hg : ∀ a, g (f a) = g a) (l : List α) :
    (modifyFirst p f l).map g = l.map g := by
  induction l with
  | nil => rfl
  | cons a as ih => simp only [modifyFirst]; split <;> simp [hg, ih]

end ModifyFirst

/-- A view that `f` does not change sees `List.modify` as the identity. -/
theorem map_modify {α β : Type} {f : α → α} {g : α → β} (hg : ∀ a, g (f a) = g a) :
    ∀ (n : Nat) (l : List α), (l.modify f n).map g = l.map g
  | _, [] => by rw [List.modify_nil]
  | 0, a :: l => by rw [List.modify_zero_cons, List.map_cons, List.map_cons, hg]
  | n + 1, a :: l => by rw [List.modify_succ_cons, List.map_cons, List.map_cons, map_modify hg n l]

/-! ## `uint32_t` arithmetic -/

theorem UInt32.toNat_add_one (a : UInt32) : (a + 1).toNat = (a.toNat + 1) % 2 ^ 32 := by
  simp [UInt32.toNat, UInt32.add_def, BitVec.toNat_add]

theorem Nat.toUInt32_one_add (k : Nat) : (1 + k).toUInt32 = 1 + k.toUInt32 := by
  simp [Nat.toUInt32, UInt32.ofNat, UInt32.add_def, BitVec.ofNat_add]

theorem UInt32.ne_zero_of_pos {n : UInt32} (h : 0 < n.toNat) : n ≠ 0 :=
  fun h0 => by simp [h0] at h

theorem Nat.toUInt32_toNat {k : Nat} (h : k < 2 ^ 32) : k.toUInt32.toNat = k :=
  UInt32.toNat_ofNat_of_lt h

/-- `index - 1 - i + size` in `uint32_t` is the true value when that lies in `[0, 2^32)`,
whatever the intermediate differences wrap to. -/
theorem UInt32.toNat_sub_one_sub_add (a i n : UInt32) (h1 : i.toNat + 1 ≤ a.toNat + n.toNat)
    (h2 : a.toNat + n.toNat ≤ 2 ^ 32 + i.toNat) :
    (a - 1 - i + n).toNat = a.toNat + n.toNat - 1 - i.toNat := by
  have := a.toNat_lt; have := i.toNat_lt; have := n.toNat_lt
  simp only [UInt32.toNat_add, UInt32.toNat_sub, UInt32.toNat_ofNat, UInt32.size] at *
  omega

/-- `index - 1 - i - half + size` in `uint32_t`, likewise. -/
theorem UInt32.toNat_sub_one_sub_sub_add (a i h n : UInt32)
    (h1 : i.toNat + h.toNat + 1 ≤ a.toNat + n.toNat)
    (h2 : a.toNat + n.toNat ≤ 2 ^ 32 + i.toNat + h.toNat) :
    (a - 1 - i - h + n).toNat = a.toNat + n.toNat - 1 - i.toNat - h.toNat := by
  have := a.toNat_lt; have := i.toNat_lt; have := h.toNat_lt; have := n.toNat_lt
  simp only [UInt32.toNat_add, UInt32.toNat_sub, UInt32.toNat_ofNat, UInt32.size] at *
  omega

/-! ## Checked operations

The buffer code is modelled with checked semantics. An integer `%` by zero (undefined in C),
a `float` division by zero (an infinity or a NaN) and a read or a write outside a buffer's
allocation each end the computation with a `Fault`, so a computation that returns `.ok`
performed none of them. A buffer of `float`s is the list of its cells: its length is the
size of its allocation. -/

/-- What a checked operation can run into. -/
inductive Fault
  | moduloByZero
  | divisionByZero
  | outOfBounds
deriving DecidableEq, Repr

/-- `a % b` on `uint32_t`. -/
def umod (a b : UInt32) : Except Fault UInt32 :=
  if b = 0 then .error .moduloByZero else .ok (a % b)

/-- `x / y` on `float`. -/
def fdiv (x y : ℚ) : Except Fault ℚ :=
  if y = 0 then .error .divisionByZero else .ok (x / y)

/-- The read `buf[i]`. -/
def load (buf : List ℚ) (i : UInt32) : Except Fault ℚ :=
  match buf[i.toNat]? with
  | some x => .ok x
  | none => .error .outOfBounds

/-- The write `buf[i] = x`. -/
def store (buf : List ℚ) (i : UInt32) (x : ℚ) : Except Fault (List ℚ) :=
  if i.toNat < buf.length then .ok (buf.set i.toNat x) else .error .outOfBounds

theorem umod_of_ne_zero (a : UInt32) {b : UInt32} (h : b ≠ 0) : umod a b = .ok (a % b) :=
  if_neg h

theorem fdiv_of_ne_zero (x : ℚ) {y : ℚ} (h : y ≠ 0) : fdiv x y = .ok (x / y) := if_neg h

theorem load_of_getElem? {buf : List ℚ} {i : UInt32} {x : ℚ} (h : buf[i.toNat]? = some x) :
    load buf i = .ok x := by
  simp only [load, h]

theorem load_of_lt {buf : List ℚ} {i : UInt32} (h : i.toNat < buf.length) :
    load buf i = .ok buf[i.toNat] :=
  load_of_getElem? (List.getElem?_eq_getElem h)

theorem store_of_lt {buf : List ℚ} {i : UInt32} (h : i.toNat < buf.length) (x : ℚ) :
    store buf i x = .ok (buf.set i.toNat x) :=
  if_pos h

/-- A remainder by a nonzero size is a valid index. -/
theorem toNat_umod_lt {a b r : UInt32} (h : umod a b = .ok r) : r.toNat < b.toNat := by
  unfold umod at h
  split at h
  · cases h
  · rename_i hb
    cases h
    rw [UInt32.toNat_mod]
    exact Nat.mod_lt _ (Nat.pos_of_ne_zero fun h0 => hb (UInt32.toNat.inj h0))

/-- A fold whose every step succeeds succeeds. -/
theorem foldlM_ok {α β ε : Type} {f : β → α → Except ε β} :
    ∀ {l : List α}, (∀ b, ∀ a ∈ l, ∃ r, f b a = .ok r) → ∀ b, ∃ r, l.foldlM f b = .ok r
  | [], _, b => ⟨b, rfl⟩
  | a :: l, h, b => by
    obtain ⟨r, hr⟩ := h b a (List.mem_cons_self a l)
    rw [List.foldlM_cons, hr]
    exact foldlM_ok (fun b' a' ha' => h b' a' (List.mem_cons_of_mem a ha')) r

/-- A fold whose every step succeeds is the fold of the step's results. -/
theorem foldlM_eq_ok {α β ε : Type} {f : β → α → Except ε β} {g : β → α → β} :
    ∀ {l : List α}, (∀ b, ∀ a ∈ l, f b a = .ok (g b a)) → ∀ b, l.foldlM f b = .ok (l.foldl g b)
  | [], _, _ => rfl
  | a :: l, h, b => by
    rw [List.foldlM_cons, h b a (List.mem_cons_self a l)]
    exact foldlM_eq_ok (fun b' a' ha' => h b' a' (List.mem_cons_of_mem a ha')) (g b a)

/-- A fold whose every step succeeds from a state with an invariant, into a state with it,
succeeds from such a state and ends in one. -/
theorem foldlM_invariant {α β ε : Type} {f : β → α → Except ε β} (P : β → Prop)
    (hstep : ∀ b a, P b → ∃ r, f b a = .ok r ∧ P r) :
    ∀ (l : List α) {b}, P b → ∃ r, l.foldlM f b = .ok r ∧ P r
  | [], b, hb => ⟨b, rfl, hb⟩
  | a :: l, b, hb => by
    obtain ⟨r, hr, hr'⟩ := hstep b a hb
    rw [List.foldlM_cons, hr]
    exact foldlM_invariant P hstep l hr'

/-- `List.modify` keeps a property every element has, if `f` keeps it. -/
theorem List.forall_mem_modify {α : Type} {P : α → Prop} {f : α → α} (hf : ∀ x, P x → P (f x)) :
    ∀ (n : Nat) {l : List α}, (∀ x ∈ l, P x) → ∀ x ∈ l.modify f n, P x
  | _, [], _ => by simp
  | 0, a :: l, h => by
    simp only [List.modify_zero_cons, List.forall_mem_cons] at h ⊢
    exact ⟨hf a h.1, h.2⟩
  | n + 1, a :: l, h => by
    simp only [List.modify_succ_cons, List.forall_mem_cons] at h ⊢
    exact ⟨h.1, List.forall_mem_modify hf n h.2⟩

/-! ## Capped increments

Most scores of the bootstrap and self-maintenance code are raised and then cut back to `1`
with `if (x > 1.0f) x = 1.0f;`. -/

/-- `if (x > 1.0f) x = 1.0f;` -/
def capAtOne (x : ℚ) : ℚ := if x > 1 then 1 else x

theorem capAtOne_le_one (x : ℚ) : capAtOne x ≤ 1 := by
  unfold capAtOne
  split
  · exact le_rfl
  · exact not_lt.1 ‹_›

/-- A bound below `1` that holds before the cut holds after it. -/
theorem le_capAtOne {a x : ℚ} (ha : a ≤ 1) (hx : a ≤ x) : a ≤ capAtOne x := by
  unfold capAtOne
  split <;> assumption

theorem capAtOne_of_le {x : ℚ} (h : x ≤ 1) : capAtOne x = x := if_neg (not_lt.2 h)

/-- A cap at `cap ≥ 0`, a scaling by `r ≥ 1` and the same cap again are the scaling and the
cap: a value that is scaled up and capped again and again is capped once. -/
theorem min_min_mul_of_one_le {x r cap : ℚ} (hr : 1 ≤ r) (hcap : 0 ≤ cap) :
    min (min x cap * r) cap = min (x * r) cap := by
  rw [min_mul_of_nonneg _ _ (zero_le_one.trans hr), min_assoc,
    min_eq_right (le_mul_of_one_le_right hcap hr)]

/-- `if (x < 0.0f) x = 0.0f; if (x > 1.0f) x = 1.0f;` -/
def clampUnit (x : ℚ) : ℚ := capAtOne (if x < 0 then 0 else x)

theorem clampUnit_nonneg (x : ℚ) : 0 ≤ clampUnit x :=
  le_capAtOne zero_le_one (by split <;> linarith)

theorem clampUnit_le_one (x : ℚ) : clampUnit x ≤ 1 := capAtOne_le_one _

/-! ## The range of `float` -/

/-- The functions of `<math.h>` the code calls, as any choice of them that keeps the facts
of the C library the proofs use: `sqrtf` of a non-negative argument is non-negative, and
`expf` is non-negative everywhere and at most `1` on non-positive arguments. Every model
that calls one of them takes a `LibM`, so it runs for any such choice, and every theorem
about it holds for all of them. The functions are total, where the C ones are not: `log2f`
of a negative argument is NaN, which no clamp of the code catches, so a theorem about a
call of `log2f` on an argument that may be negative assumes that it is not. -/
structure LibM where
  sqrtf : ℚ → ℚ
  log2f : ℚ → ℚ
  expf : ℚ → ℚ
  sinf : ℚ → ℚ
  tanhf : ℚ → ℚ
  sqrtf_nonneg : ∀ x, 0 ≤ x → 0 ≤ sqrtf x
  expf_nonneg : ∀ x, 0 ≤ expf x
  expf_le_one : ∀ x, x ≤ 0 → expf x ≤ 1

/-- A `LibM` of low-order rational approximations, to run the model on concrete inputs:
two Newton steps for `sqrtf`, the first term of the `atanh` series for `log2f`, a
second-order Padé-like form for `expf`, and short odd series for `sinf` and `tanhf`. -/
def LibM.approx : LibM where
  sqrtf x :=
    let y := (x + 1) / 2
    let y := (y + x / y) / 2
    |(y + x / y) / 2|
  log2f x := 2 * (x - 1) / (x + 1) * (1443 / 1000)
  expf x := if x ≤ 0 then 1 / (1 - x + x ^ 2 / 2) else 1 + x + x ^ 2 / 2
  sinf x := x - x ^ 3 / 6
  tanhf x := x / (1 + |x|)
  sqrtf_nonneg _ _ := abs_nonneg _
  expf_nonneg x := by
    beta_reduce
    split
    · exact one_div_nonneg.2 (by nlinarith [sq_nonneg x])
    · nlinarith [sq_nonneg x]
  expf_le_one x hx := by
    beta_reduce
    rw [if_pos hx, div_le_one (by nlinarith [sq_nonneg x])]
    nlinarith [sq_nonneg x]

end Hivecog
