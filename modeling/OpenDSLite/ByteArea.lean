import Mathlib.Data.List.TakeWhile
import Mathlib.Tactic

/-!
# Byte arrays of fixed size

A `ByteArea n` is an array object of `n` bytes. `store` and `load` are block copies into and out
of it; they have no result when the block does not lie inside the array. `cstring` is the
NUL-terminated string at an offset, without a result when no NUL follows inside the array.

`Filled a pre` says that `a` holds `pre` and is zero behind it, the shape an array has that is
cleared once and then filled from the front.
-/

/-- A string of nonzero bytes, the value of a C string. -/
abbrev CString := {s : List UInt8 // (0 : UInt8) ∉ s}

theorem ne_zero_of_mem_takeWhile (l : List UInt8) (b : UInt8) (h : b ∈ l.takeWhile (· != 0)) :
    b ≠ 0 := by
  simpa using List.all_eq_true.mp (List.all_takeWhile (l := l) (p := (· != 0))) b h

/-- The bytes before the first NUL, when there is one. -/
def cstringOf (l : List UInt8) : Option CString :=
  if 0 ∈ l then
    some ⟨l.takeWhile (· != 0), fun h => ne_zero_of_mem_takeWhile l 0 h rfl⟩
  else none

theorem cstringOf_append (s : CString) (l : List UInt8) :
    cstringOf (s.val ++ 0 :: l) = some s := by
  have hs : ∀ b ∈ s.val, (b != 0) = true := by
    intro b hb
    have hne : b ≠ 0 := fun h => s.property (h ▸ hb)
    simpa using hne
  have ht : (s.val ++ 0 :: l).takeWhile (· != 0) = s.val := by
    rw [List.takeWhile_append_of_pos hs]
    simp
  have hm : (0 : UInt8) ∈ s.val ++ 0 :: l := by simp
  simp only [cstringOf, if_pos hm, ht]

theorem cstringOf_append_zeros (s : CString) (k : ℕ) (hk : 0 < k) :
    cstringOf (s.val ++ List.replicate k 0) = some s := by
  obtain ⟨m, rfl⟩ := Nat.exists_eq_succ_of_ne_zero hk.ne'
  rw [List.replicate_succ, cstringOf_append]

/-- A string that starts inside `l` ends there when only zeros follow `l`. -/
theorem length_le_of_cstringOf (l : List UInt8) (k : ℕ) (s : CString)
    (h : cstringOf (l ++ List.replicate k 0) = some s) : s.val.length ≤ l.length := by
  unfold cstringOf at h
  split_ifs at h with hm
  have hs : s.val = (l ++ List.replicate k 0).takeWhile (· != 0) :=
    (congrArg Subtype.val (Option.some.inj h)).symm
  have hz : (List.replicate k (0 : UInt8)).takeWhile (· != 0) = [] := by
    cases k <;> rfl
  rw [hs, List.takeWhile_append, hz]
  split_ifs with hl
  · rw [List.append_nil]
  · exact (List.takeWhile_prefix _).length_le

/-- Behind the bytes of a string its end is found exactly where the next byte is NUL. -/
theorem cstringOf_append_iff (s : CString) (l : List UInt8) :
    cstringOf (s.val ++ l) = some s ↔ l.head? = some 0 := by
  constructor
  · intro h
    cases l with
    | nil =>
      have hm : (0 : UInt8) ∉ s.val ++ [] := by simpa using s.property
      rw [cstringOf, if_neg hm] at h
      exact absurd h (by simp)
    | cons b bs =>
      unfold cstringOf at h
      split_ifs at h with hm
      have hs : ∀ c ∈ s.val, (c != 0) = true := by
        intro c hc
        have hne : c ≠ 0 := fun he => s.property (he ▸ hc)
        simpa using hne
      have ht : (s.val ++ b :: bs).takeWhile (· != 0) = s.val :=
        congrArg Subtype.val (Option.some.inj h)
      rw [List.takeWhile_append_of_pos hs] at ht
      by_contra hb
      have hne : (b != 0) = true := by simpa using hb
      rw [List.takeWhile_cons, if_pos hne] at ht
      simpa using congrArg List.length ht
  · intro h
    obtain ⟨bs, rfl⟩ := List.head?_eq_some_iff.mp h
    exact cstringOf_append s bs

/-- The bytes before the first NUL, or all of them when there is none. -/
def untilNul (l : List UInt8) : CString :=
  ⟨l.takeWhile (· != 0), fun h => ne_zero_of_mem_takeWhile l 0 h rfl⟩

theorem length_untilNul_le (l : List UInt8) : (untilNul l).val.length ≤ l.length :=
  (List.takeWhile_prefix _).length_le

theorem untilNul_of_notMem (l : List UInt8) (h : (0 : UInt8) ∉ l) : (untilNul l).val = l := by
  apply List.takeWhile_eq_self_iff.mpr
  intro b hb
  have hne : b ≠ 0 := fun he => h (he ▸ hb)
  simpa using hne

/-- Zeros behind some bytes end the string that starts with them. -/
theorem cstringOf_append_zeros_eq (l : List UInt8) (k : ℕ) (hk : 0 < k) :
    cstringOf (l ++ List.replicate k 0) = some (untilNul l) := by
  by_cases hm : (0 : UInt8) ∈ l
  · have ht : (l ++ List.replicate k 0).takeWhile (· != 0) = l.takeWhile (· != 0) := by
      rw [List.takeWhile_append, if_neg]
      intro hlen
      have hself : l.takeWhile (· != 0) = l := (List.takeWhile_prefix _).eq_of_length hlen
      exact ne_zero_of_mem_takeWhile l 0 (hself.symm ▸ hm) rfl
    rw [cstringOf, if_pos (List.mem_append_left _ hm)]
    exact congrArg some (Subtype.ext ht)
  · have hs : (untilNul l).val = l := untilNul_of_notMem l hm
    have hend := cstringOf_append_zeros (untilNul l) k hk
    rwa [hs] at hend

/-- The first `k` bytes of an object, when it has that many. -/
def takeBytes (l : List UInt8) (k : ℕ) : Option (List UInt8) :=
  if k ≤ l.length then some (l.take k) else none

/-- Copies `src` over the front of the array `dst`, when it is large enough. -/
def copyOver (dst src : List UInt8) : Option (List UInt8) :=
  if src.length ≤ dst.length then some (src ++ dst.drop src.length) else none

structure ByteArea (n : ℕ) where
  bytes : List UInt8
  length_bytes : bytes.length = n
  deriving DecidableEq

namespace ByteArea

variable {n : ℕ}

theorem ext_bytes (a b : ByteArea n) (h : a.bytes = b.bytes) : a = b := by
  cases a
  cases b
  cases h
  rfl

def zeros (n : ℕ) : ByteArea n := ⟨List.replicate n 0, List.length_replicate⟩

def store (a : ByteArea n) (off : ℕ) (src : List UInt8) : Option (ByteArea n) :=
  if h : off + src.length ≤ n then
    some ⟨a.bytes.take off ++ src ++ a.bytes.drop (off + src.length), by
      have := a.length_bytes
      simp only [List.length_append, List.length_take, List.length_drop]
      omega⟩
  else none

def load (a : ByteArea n) (off k : ℕ) : Option (List UInt8) :=
  if off + k ≤ n then some ((a.bytes.drop off).take k) else none

def cstring (a : ByteArea n) (off : ℕ) : Option CString := cstringOf (a.bytes.drop off)

theorem store_eq_none_iff (a : ByteArea n) (off : ℕ) (src : List UInt8) :
    a.store off src = none ↔ n < off + src.length := by
  unfold store
  split_ifs with h
  · simp only [false_iff]
    omega
  · simpa using h

theorem store_of_fits (a : ByteArea n) (off : ℕ) (src : List UInt8) (h : off + src.length ≤ n) :
    ∃ b, a.store off src = some b := ⟨_, dif_pos h⟩

theorem bytes_of_store {a b : ByteArea n} {off : ℕ} {src : List UInt8}
    (h : a.store off src = some b) : off + src.length ≤ n ∧
      b.bytes = a.bytes.take off ++ src ++ a.bytes.drop (off + src.length) := by
  unfold store at h
  split_ifs at h with hfits
  exact ⟨hfits, congrArg bytes (Option.some.inj h).symm⟩

/-- What was stored stands where it was stored. -/
theorem drop_store {a b : ByteArea n} {off : ℕ} {src : List UInt8}
    (h : a.store off src = some b) :
    b.bytes.drop off = src ++ a.bytes.drop (off + src.length) := by
  obtain ⟨hfits, hb⟩ := bytes_of_store h
  have hlen : (a.bytes.take off).length = off := by
    rw [List.length_take, a.length_bytes]
    omega
  rw [hb, List.append_assoc, List.drop_left' hlen]

/-- A store leaves the bytes in front of it alone. -/
theorem block_store_before {a b : ByteArea n} {off : ℕ} {src : List UInt8}
    (h : a.store off src = some b) (k len : ℕ) (hk : k + len ≤ off) :
    (b.bytes.drop k).take len = (a.bytes.drop k).take len := by
  obtain ⟨hfits, hb⟩ := bytes_of_store h
  have hlen : k + len ≤ (a.bytes.take off).length := by
    rw [List.length_take, a.length_bytes]
    omega
  rw [List.take_drop, List.take_drop, hb, List.append_assoc, List.take_append_of_le_length hlen,
    List.take_take, Nat.min_eq_left hk]

/-- The array holds `pre` and is zero from there on. -/
def Filled (a : ByteArea n) (pre : List UInt8) : Prop :=
  ∃ k, a.bytes = pre ++ List.replicate k 0

theorem filled_zeros (n : ℕ) : (zeros n).Filled [] := ⟨n, rfl⟩

/-- A cleared array with `pre` at its start, cut where the array ends. -/
def holding (n : ℕ) (pre : List UInt8) : ByteArea n :=
  ⟨(pre ++ List.replicate n 0).take n, by
    rw [List.length_take, List.length_append, List.length_replicate]
    omega⟩

theorem filled_holding (pre : List UInt8) (h : pre.length ≤ n) : (holding n pre).Filled pre := by
  refine ⟨n - pre.length, ?_⟩
  change (pre ++ List.replicate n 0).take n = _
  rw [List.take_append, List.take_of_length_le h, List.take_replicate]
  congr 2
  omega

theorem Filled.length_le {a : ByteArea n} {pre : List UInt8} (h : a.Filled pre) :
    pre.length ≤ n := by
  obtain ⟨k, hk⟩ := h
  have hn := a.length_bytes
  rw [hk, List.length_append] at hn
  omega

theorem Filled.eq {a b : ByteArea n} {pre : List UInt8} (ha : a.Filled pre) (hb : b.Filled pre) :
    a = b := by
  obtain ⟨k, hk⟩ := ha
  obtain ⟨m, hm⟩ := hb
  have hn := a.length_bytes
  have hn' := b.length_bytes
  rw [hk, List.length_append, List.length_replicate] at hn
  rw [hm, List.length_append, List.length_replicate] at hn'
  have hkm : k = m := by omega
  exact ext_bytes a b (by rw [hk, hm, hkm])

theorem Filled.take {a : ByteArea n} {pre : List UInt8} (h : a.Filled pre) :
    a.bytes.take pre.length = pre := by
  obtain ⟨k, hk⟩ := h
  rw [hk, List.take_left']
  rfl

/-- Storing behind the part already filled extends that part; `pad` zero bytes behind the stored
block may be counted in, since they are there already. -/
theorem Filled.store_append {a : ByteArea n} {pre : List UInt8} (h : a.Filled pre)
    (src : List UInt8) (pad : ℕ) (hfit : pre.length + src.length + pad ≤ n) :
    ∃ b, a.store pre.length src = some b ∧ b.Filled (pre ++ (src ++ List.replicate pad 0)) := by
  obtain ⟨k, hk⟩ := h
  have hn := a.length_bytes
  rw [hk, List.length_append, List.length_replicate] at hn
  have hle : pre.length + src.length ≤ n := by omega
  refine ⟨_, by rw [store, dif_pos hle], k - src.length - pad, ?_⟩
  have htake : a.bytes.take pre.length = pre := by rw [hk, List.take_left' rfl]
  have hdrop : a.bytes.drop (pre.length + src.length) =
      List.replicate pad 0 ++ List.replicate (k - src.length - pad) 0 := by
    rw [hk, List.drop_append, List.drop_of_length_le (by omega), Nat.add_sub_cancel_left,
      List.nil_append, List.drop_replicate, ← List.replicate_add]
    congr 1
    omega
  simp only [htake, hdrop, List.append_assoc]

/-- A block inside the filled part is read back as it stands there. -/
theorem load_append (a : ByteArea n) (pre mid post : List UInt8)
    (h : a.bytes = pre ++ mid ++ post) : a.load pre.length mid.length = some mid := by
  have hn := a.length_bytes
  rw [h, List.length_append, List.length_append] at hn
  have hle : pre.length + mid.length ≤ n := by omega
  rw [load, if_pos hle, h, List.append_assoc, List.drop_left' rfl, List.take_left' rfl]

theorem cstring_append (a : ByteArea n) (pre : List UInt8) (s : CString) (post : List UInt8)
    (h : a.bytes = pre ++ (s.val ++ 0 :: post)) : a.cstring pre.length = some s := by
  rw [cstring, h, List.drop_left' rfl, cstringOf_append]

end ByteArea

/-- A pointer into a byte array. -/
structure BytePtr (n : ℕ) where
  area : ByteArea n
  offset : ℕ

namespace BytePtr

variable {n : ℕ}

def add (p : BytePtr n) (k : ℕ) : BytePtr n := { p with offset := p.offset + k }

def load (p : BytePtr n) (k : ℕ) : Option (List UInt8) := p.area.load p.offset k

/-- What stands at the pointer, as far as the array goes. -/
def block (p : BytePtr n) (k : ℕ) : List UInt8 := (p.area.bytes.drop p.offset).take k

theorem load_eq (p : BytePtr n) (k : ℕ) (h : p.offset + k ≤ n) : p.load k = some (p.block k) :=
  if_pos h

theorem load_eq_none (p : BytePtr n) (k : ℕ) (h : n < p.offset + k) : p.load k = none :=
  if_neg (by omega)

theorem length_block (p : BytePtr n) (k : ℕ) (h : p.offset + k ≤ n) :
    (p.block k).length = k := by
  have hn := p.area.length_bytes
  rw [block, List.length_take, List.length_drop]
  omega

def cstring (p : BytePtr n) : Option CString := p.area.cstring p.offset

end BytePtr
