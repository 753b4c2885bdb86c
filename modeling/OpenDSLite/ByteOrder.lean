import Mathlib.Tactic

/-!
# Byte images of fixed-width integers

`leBytes n v` is the memory image of the low `n` bytes of `v` on a little-endian host and
`ofLeBytes` the value such an image holds. `beBytes` is the same image in network order and
`byteSwap` the conversion between host and network order, as a number.
-/

namespace ByteOrder

def leBytes : ℕ → ℕ → List UInt8
  | 0, _ => []
  | n + 1, v => UInt8.ofNat v :: leBytes n (v / 256)

def ofLeBytes : List UInt8 → ℕ
  | [] => 0
  | b :: bs => b.toNat + 256 * ofLeBytes bs

def beBytes (n v : ℕ) : List UInt8 := (leBytes n v).reverse

/-- The host value whose image is the network-order image of `v`. -/
def byteSwap (n v : ℕ) : ℕ := ofLeBytes (beBytes n v)

@[simp] theorem length_leBytes (n v : ℕ) : (leBytes n v).length = n := by
  induction n generalizing v with
  | zero => rfl
  | succ n ih => simp [leBytes, ih]

@[simp] theorem length_beBytes (n v : ℕ) : (beBytes n v).length = n := by simp [beBytes]

theorem ofLeBytes_leBytes (n v : ℕ) : ofLeBytes (leBytes n v) = v % 256 ^ n := by
  induction n generalizing v with
  | zero => simp [leBytes, ofLeBytes, Nat.mod_one]
  | succ n ih =>
    have hb : (UInt8.ofNat v).toNat = v % 256 := UInt8.toNat_ofNat'
    rw [leBytes, ofLeBytes, ih, hb, pow_succ, Nat.mul_comm (256 ^ n) 256, Nat.mod_mul]

theorem leBytes_ofLeBytes (bs : List UInt8) : leBytes bs.length (ofLeBytes bs) = bs := by
  induction bs with
  | nil => rfl
  | cons b bs ih =>
    have hb : b.toNat < 256 := b.toNat_lt
    have hlow : UInt8.ofNat (b.toNat + 256 * ofLeBytes bs) = b := by
      apply UInt8.toNat_inj.mp
      rw [UInt8.toNat_ofNat']
      omega
    have hhigh : (b.toNat + 256 * ofLeBytes bs) / 256 = ofLeBytes bs := by omega
    simp only [List.length_cons, ofLeBytes, leBytes, hlow, hhigh, ih]

theorem ofLeBytes_lt (bs : List UInt8) : ofLeBytes bs < 256 ^ bs.length := by
  induction bs with
  | nil => simp [ofLeBytes]
  | cons b bs ih =>
    have hb : b.toNat < 256 := b.toNat_lt
    simp only [ofLeBytes, List.length_cons, pow_succ]
    omega

/-- Appending zero bytes on the high side does not change the value held. -/
theorem ofLeBytes_append_zeros (bs : List UInt8) (k : ℕ) :
    ofLeBytes (bs ++ List.replicate k 0) = ofLeBytes bs := by
  induction bs with
  | nil =>
    induction k with
    | zero => rfl
    | succ k ih => simpa [List.replicate_succ, ofLeBytes] using ih
  | cons b bs ih => simp only [List.cons_append, ofLeBytes, ih]

theorem leBytes_zero (n : ℕ) : leBytes n 0 = List.replicate n 0 := by
  induction n with
  | zero => rfl
  | succ n ih => simpa [leBytes, List.replicate_succ] using ih

/-- A value of at most `n` bytes leaves the bytes above the `n`-th zero. -/
theorem leBytes_add_of_lt (n k v : ℕ) (hv : v < 256 ^ n) :
    leBytes (n + k) v = leBytes n v ++ List.replicate k 0 := by
  induction n generalizing v with
  | zero =>
    have hz : v = 0 := by simpa using hv
    subst hz
    rw [Nat.zero_add, leBytes, List.nil_append, leBytes_zero]
  | succ n ih =>
    have hv' : v / 256 < 256 ^ n := by
      rw [pow_succ] at hv
      exact Nat.div_lt_of_lt_mul (by omega)
    rw [Nat.succ_add, leBytes, leBytes, ih (v / 256) hv', List.cons_append]

/-- The low bytes of an image are the image of the low bytes. -/
theorem leBytes_add (n k v : ℕ) :
    leBytes (n + k) v = leBytes n v ++ leBytes k (v / 256 ^ n) := by
  induction n generalizing v with
  | zero => rw [Nat.zero_add, pow_zero, Nat.div_one, leBytes, List.nil_append]
  | succ n ih =>
    rw [Nat.succ_add, leBytes, leBytes, ih (v / 256), List.cons_append, Nat.div_div_eq_div_mul,
      pow_succ, Nat.mul_comm]

/-- Only the low bytes of a value show in its image. -/
theorem leBytes_mod (n v : ℕ) : leBytes n (v % 256 ^ n) = leBytes n v := by
  have h := leBytes_ofLeBytes (leBytes n v)
  rwa [length_leBytes, ofLeBytes_leBytes] at h

theorem byteSwap_lt (n v : ℕ) : byteSwap n v < 256 ^ n := by
  simpa only [length_beBytes, byteSwap] using ofLeBytes_lt (beBytes n v)

theorem leBytes_byteSwap (n v : ℕ) : leBytes n (byteSwap n v) = beBytes n v := by
  simpa only [length_beBytes, byteSwap] using leBytes_ofLeBytes (beBytes n v)

theorem byteSwap_byteSwap (n v : ℕ) : byteSwap n (byteSwap n v) = v % 256 ^ n := by
  have hr : beBytes n (byteSwap n v) = leBytes n v := by
    rw [beBytes, leBytes_byteSwap, beBytes, List.reverse_reverse]
  rw [byteSwap, hr, ofLeBytes_leBytes]

end ByteOrder
