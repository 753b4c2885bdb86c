import OpenDSLite.ByteOrder
import OpenDSLite.ByteArea

/-!
# Base types and configuration

The builds of the library differ in the width of `unsigned long`, which the base type headers call
`ULong32`, and of `size_t`. A `ULong32` value is carried in a `UInt64`; on the 4-byte build only its
low half exists. All hosts are little-endian, so `htons` and `htonl` swap bytes.

`dtplink_util.c` includes no header that declares these functions, but for `winsock2.h` by way of
the Windows base types. On Linux they are declared implicitly and taken to return an `int`.
-/

namespace OpenDSLite

open ByteOrder

/-- The base type headers under `platform`: the 32-bit Windows build and a 64-bit Linux host, there
as the sources stand and with `htonl` and `ntohl` declared in `dtplink_util.c`. -/
inductive Platform
  | windows
  | linux
  | linuxDeclared
  deriving DecidableEq

def Platform.sizeofULong32 : Platform → ℕ
  | windows => 4
  | linux => 8
  | linuxDeclared => 8

def Platform.sizeofSizeT : Platform → ℕ
  | windows => 4
  | linux => 8
  | linuxDeclared => 8

/-- `htonl` and `ntohl` are known to return 32 unsigned bits. -/
def Platform.DeclaresHtonl (P : Platform) : Prop := P ≠ linux

instance : DecidablePred Platform.DeclaresHtonl := fun P => inferInstanceAs (Decidable (P ≠ .linux))

/-- Conversion of an integer to `size_t`. -/
def Platform.toSizeT (P : Platform) (x : ℤ) : ℕ := (x % 2 ^ (8 * P.sizeofSizeT)).toNat

abbrev maxRtpMsgSize : ℕ := 256
abbrev maxDSId : ℕ := 256
abbrev recvRetryCountMax : UInt8 := 8
abbrev sendRetryCountMax : UInt8 := 8
abbrev dsHeartbeatInterval : UInt32 := 30 * 1000
abbrev stunPort : UInt16 := 3478
abbrev defaultDSLocalPort : UInt16 := 20011
abbrev defaultDSRemotePort : UInt16 := 20012

theorem maxRtpMsgSize_eq : maxRtpMsgSize = 256 := rfl

/-- `(socket_t)(-1)`. -/
abbrev invalidSocket : UInt32 := 0xFFFFFFFF

def htons (value : UInt16) : UInt16 := UInt16.ofNat (byteSwap 2 value.toNat)
def ntohs (value : UInt16) : UInt16 := htons value
def htonl (value : UInt32) : UInt32 := UInt32.ofNat (byteSwap 4 value.toNat)
def ntohl (value : UInt32) : UInt32 := htonl value

/-- The conversion of an `int` to `ULong32` extends the sign where there is room for it. -/
def toULong32 (value : Int32) : UInt64 := value.toInt64.toUInt64

/-- What a `ULong32` holds after a result of `htonl` or `ntohl` is assigned to it. -/
def Platform.assigned (P : Platform) (result : UInt32) : UInt64 :=
  if P.DeclaresHtonl then result.toUInt64 else toULong32 result.toInt32

/-- The byte that fills what a `ULong32` has above 32 bits. -/
def Platform.highByte (P : Platform) (result : UInt32) : UInt8 :=
  if P.DeclaresHtonl ∨ result.toNat < 2 ^ 31 then 0 else 0xFF

theorem toNat_htons (value : UInt16) : (htons value).toNat = byteSwap 2 value.toNat := by
  rw [htons, UInt16.toNat_ofNat']
  exact Nat.mod_eq_of_lt (by simpa using byteSwap_lt 2 value.toNat)

theorem toNat_htonl (value : UInt32) : (htonl value).toNat = byteSwap 4 value.toNat := by
  rw [htonl, UInt32.toNat_ofNat']
  exact Nat.mod_eq_of_lt (by simpa using byteSwap_lt 4 value.toNat)

theorem ntohs_htons (value : UInt16) : ntohs (htons value) = value := by
  apply UInt16.toNat_inj.mp
  rw [ntohs, toNat_htons, toNat_htons, byteSwap_byteSwap]
  exact Nat.mod_eq_of_lt (by simpa using value.toNat_lt)

theorem ntohl_htonl (value : UInt32) : ntohl (htonl value) = value := by
  apply UInt32.toNat_inj.mp
  rw [ntohl, toNat_htonl, toNat_htonl, byteSwap_byteSwap]
  exact Nat.mod_eq_of_lt (by simpa using value.toNat_lt)

/-- Two bytes copied into a `UInt16`. -/
def loadUInt16 (bs : List UInt8) : UInt16 := UInt16.ofNat (ofLeBytes bs)

/-- Four bytes copied into a `UInt32`. -/
def loadUInt32 (bs : List UInt8) : UInt32 := UInt32.ofNat (ofLeBytes bs)

theorem loadUInt16_leBytes (value : UInt16) : loadUInt16 (leBytes 2 value.toNat) = value := by
  apply UInt16.toNat_inj.mp
  rw [loadUInt16, ofLeBytes_leBytes, UInt16.toNat_ofNat']
  have hv := value.toNat_lt
  omega

theorem loadUInt32_leBytes (value : UInt32) : loadUInt32 (leBytes 4 value.toNat) = value := by
  apply UInt32.toNat_inj.mp
  rw [loadUInt32, ofLeBytes_leBytes, UInt32.toNat_ofNat']
  have hv := value.toNat_lt
  omega

/-- Bytes in network order survive the conversion to a host value and back. -/
theorem leBytes_htons_ntohs (bs : List UInt8) (h : bs.length = 2) :
    leBytes 2 (htons (ntohs (loadUInt16 bs))).toNat = bs := by
  have hlt := ofLeBytes_lt bs
  have hv : (loadUInt16 bs).toNat = ofLeBytes bs := by
    rw [loadUInt16, UInt16.toNat_ofNat', Nat.mod_eq_of_lt (by simpa [h] using hlt)]
  have hback : htons (ntohs (loadUInt16 bs)) = loadUInt16 bs := ntohs_htons _
  rw [hback, hv, ← h, leBytes_ofLeBytes]

theorem leBytes_htonl_ntohl (bs : List UInt8) (h : bs.length = 4) :
    leBytes 4 (htonl (ntohl (loadUInt32 bs))).toNat = bs := by
  have hlt := ofLeBytes_lt bs
  have hv : (loadUInt32 bs).toNat = ofLeBytes bs := by
    rw [loadUInt32, UInt32.toNat_ofNat', Nat.mod_eq_of_lt (by simpa [h] using hlt)]
  have hback : htonl (ntohl (loadUInt32 bs)) = loadUInt32 bs := ntohl_htonl _
  rw [hback, hv, ← h, leBytes_ofLeBytes]

theorem toNat_toUInt16_ofInt (x : ℤ) : (Int16.ofInt x).toUInt16.toNat = (x % 2 ^ 16).toNat :=
  BitVec.toNat_ofInt ..

theorem toInt_toInt32 (x : UInt32) : x.toInt32.toInt =
    if 2 * x.toNat < 2 ^ 32 then (x.toNat : ℤ) else x.toNat - 2 ^ 32 := by
  exact_mod_cast BitVec.toInt_eq_toNat_cond x.toBitVec

theorem toSizeT_natCast (P : Platform) (k : ℕ) (hk : k < 2 ^ 32) : P.toSizeT k = k := by
  have h64 : k < 2 ^ 64 := hk.trans (by norm_num)
  cases P with
  | windows =>
    change ((k : ℤ) % 2 ^ 32).toNat = k
    omega
  | linux | linuxDeclared =>
    change ((k : ℤ) % 2 ^ 64).toNat = k
    omega

/-- A negative size converts to one larger than any array of the library. -/
theorem toSizeT_neg (P : Platform) (x : ℤ) (hx : x < 0) (hlo : -2 ^ 31 ≤ x) :
    2 ^ 31 ≤ P.toSizeT x := by
  cases P with
  | windows =>
    change 2 ^ 31 ≤ (x % 2 ^ 32).toNat
    omega
  | linux | linuxDeclared =>
    change 2 ^ 31 ≤ (x % 2 ^ 64).toNat
    omega

theorem sizeofULong32_eq (P : Platform) : ∃ k, P.sizeofULong32 = 4 + k ∧ k ≤ 4 := by
  cases P with
  | windows => exact ⟨0, rfl, Nat.zero_le 4⟩
  | linux | linuxDeclared => exact ⟨4, rfl, le_rfl⟩

theorem toUInt32_toULong32 (value : Int32) : (toULong32 value).toUInt32 = value.toUInt32 := by
  have hback := congrArg Int32.toBitVec (Int32.toInt32_toInt64 value)
  apply UInt32.toBitVec_inj.mp
  change (value.toBitVec.signExtend 64).setWidth 32 = _
  rw [← BitVec.signExtend_eq_setWidth_of_le _ (by decide)]
  exact hback

/-- The low half of a `ULong32` is what was assigned to it. -/
theorem toUInt32_assigned (P : Platform) (result : UInt32) :
    (P.assigned result).toUInt32 = result := by
  unfold Platform.assigned
  split_ifs with h
  · exact UInt32.toUInt32_toUInt64 result
  · rw [toUInt32_toULong32, UInt32.toUInt32_toInt32]

theorem assigned_of_declared (P : Platform) (h : P.DeclaresHtonl) (result : UInt32) :
    P.assigned result = result.toUInt64 := if_pos h

theorem assigned_zero (P : Platform) : P.assigned 0 = 0 := by
  unfold Platform.assigned
  split_ifs <;> rfl

theorem toNat_toULong32 (result : UInt32) : (toULong32 result.toInt32).toNat =
    result.toNat + 2 ^ 32 * if result.toNat < 2 ^ 31 then 0 else 2 ^ 32 - 1 := by
  have hlt := result.toNat_lt
  have hext : (toULong32 result.toInt32).toNat =
      (result.toBitVec.setWidth 64).toNat + if result.toBitVec.msb then 2 ^ 64 - 2 ^ 32 else 0 :=
    BitVec.toNat_signExtend result.toBitVec
  have hlow : (result.toBitVec.setWidth 64).toNat = result.toNat := by
    rw [BitVec.toNat_setWidth, UInt32.toNat_toBitVec]
    omega
  rw [hext, hlow, BitVec.msb_eq_decide, UInt32.toNat_toBitVec]
  by_cases h : result.toNat < 2 ^ 31
  · rw [if_pos h, if_neg (by simpa using h)]
    omega
  · rw [if_neg h, if_pos (by simpa using h)]
    omega

/-- The image of a `ULong32` is the image of what was assigned to it and a filling. -/
theorem leBytes_assigned (P : Platform) (result : UInt32) :
    leBytes P.sizeofULong32 (P.assigned result).toNat =
      leBytes 4 result.toNat ++ List.replicate (P.sizeofULong32 - 4) (P.highByte result) := by
  obtain ⟨k, hk, -⟩ := sizeofULong32_eq P
  have hlt : result.toNat < 256 ^ 4 := by simpa using result.toNat_lt
  rw [hk, Nat.add_sub_cancel_left]
  by_cases hdecl : P.DeclaresHtonl
  · rw [assigned_of_declared P hdecl, Platform.highByte, if_pos (Or.inl hdecl),
      UInt32.toNat_toUInt64, leBytes_add_of_lt 4 k _ hlt]
  · obtain rfl : P = .linux := not_not.mp hdecl
    obtain rfl : 4 = k := Nat.add_left_cancel hk
    have hmod : (result.toNat + 2 ^ 32 * if result.toNat < 2 ^ 31 then 0 else 2 ^ 32 - 1) %
        256 ^ 4 = result.toNat := by omega
    rw [Platform.assigned, if_neg hdecl, toNat_toULong32, Platform.highByte, leBytes_add,
      ← leBytes_mod, hmod]
    by_cases h : result.toNat < 2 ^ 31
    · rw [if_pos h, if_pos (Or.inr h), Nat.mul_zero, Nat.add_zero, Nat.div_eq_of_lt hlt,
        leBytes_zero]
    · have hhigh : (result.toNat + 2 ^ 32 * (2 ^ 32 - 1)) / 256 ^ 4 = 2 ^ 32 - 1 := by omega
      rw [if_neg h, if_neg (not_or.mpr ⟨hdecl, h⟩), hhigh]
      rfl

/-- Of the bytes of a `ULong32` the first four make what `ntohl` sees. -/
theorem toUInt32_ofLeBytes (bs : List UInt8) (h : 4 ≤ bs.length) :
    (UInt64.ofNat (ofLeBytes bs)).toUInt32 = loadUInt32 (bs.take 4) := by
  have htake : bs.take 4 = leBytes 4 (ofLeBytes bs) := by
    obtain ⟨k, hk⟩ := Nat.exists_eq_add_of_le h
    have hbs := leBytes_ofLeBytes bs
    rw [hk, leBytes_add] at hbs
    conv_lhs => rw [← hbs]
    exact List.take_left' (length_leBytes 4 _)
  apply UInt32.toNat_inj.mp
  rw [htake, loadUInt32, ofLeBytes_leBytes, UInt64.toNat_toUInt32, UInt64.toNat_ofNat',
    UInt32.toNat_ofNat']
  omega

/-- The sign bit of a swapped value is a bit of the low byte of the value. -/
theorem toNat_htonl_lt_iff (value : UInt32) :
    (htonl value).toNat < 2 ^ 31 ↔ value.toNat % 256 < 128 := by
  have hswap : byteSwap 4 value.toNat = value.toNat / 256 / 256 / 256 % 256 +
      256 * (value.toNat / 256 / 256 % 256 + 256 * (value.toNat / 256 % 256 +
        256 * (value.toNat % 256))) := by
    simp [byteSwap, beBytes, leBytes, ofLeBytes]
  rw [toNat_htonl, hswap]
  omega

end OpenDSLite
