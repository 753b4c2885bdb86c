import OpenDSLite.Application
import OpenDSLite.BoundedLog

/-!
# What the writers do to a response buffer

`encode` is the wire image of a call, the terminator of a string included. `Holds b bytes` says
that the array of `b` holds `bytes`, is zero behind them and has its `tail` there. In such a buffer
a call is refused by its own guard, or it fits and appends its image, or it leaves the array.

A buffer whose `length` is its `tail` is a bounded log: the five typed writers are offers of their
images to it, and only `WRITE_RAW` separates the two cursors.
-/

namespace OpenDSLite

open ByteOrder ByteArea

structure Holds (b : CResponseBuffer) (bytes : List UInt8) : Prop where
  filled : b.buffer.Filled bytes
  tail : b.tail.toNat = bytes.length

theorem holds_init (b : CResponseBuffer) : Holds (cResponseBufferInit b) [] :=
  ⟨filled_zeros maxRtpMsgSize, rfl⟩

theorem Holds.length_le {b : CResponseBuffer} {bytes : List UInt8} (h : Holds b bytes) :
    bytes.length ≤ maxRtpMsgSize := h.filled.length_le

theorem writeField_refuses (size : ℕ) (src : List UInt8) (b : CResponseBuffer)
    (h : maxRtpMsgSize < b.length.toNat + size) : writeField size src b = some (-1, b) := by
  have hn : ¬ b.length.toNat + size ≤ maxRtpMsgSize := by omega
  rw [writeField, if_neg hn]

theorem writeField_appends (src : List UInt8) (pad : ℕ) (b : CResponseBuffer)
    (bytes : List UInt8) (h : Holds b bytes)
    (hguard : b.length.toNat + (src.length + pad) ≤ maxRtpMsgSize)
    (hfit : b.tail.toNat + (src.length + pad) ≤ maxRtpMsgSize) :
    ∃ b', writeField (src.length + pad) src b = some (b'.tail.toNat, b') ∧
      Holds b' (bytes ++ (src ++ List.replicate pad 0)) ∧ b'.length = b'.tail := by
  obtain ⟨buffer, hs, hfilled⟩ :=
    h.filled.store_append src pad (by rw [← h.tail]; omega)
  have htail : (b.tail + UInt16.ofNat (src.length + pad)).toNat =
      b.tail.toNat + (src.length + pad) := by
    have hm := maxRtpMsgSize_eq
    rw [UInt16.toNat_add, UInt16.toNat_ofNat']
    omega
  refine ⟨⟨buffer, b.tail + UInt16.ofNat (src.length + pad),
    b.tail + UInt16.ofNat (src.length + pad)⟩, ?_, ⟨hfilled, ?_⟩, rfl⟩
  · rw [writeField, if_pos hguard, h.tail, hs]
    rfl
  · rw [htail, h.tail]
    simp only [List.length_append, List.length_replicate]

/-- Past the guard a call that does not fit stores outside or pushes `tail` out of the array. -/
theorem writeField_overruns (size : ℕ) (src : List UInt8) (b : CResponseBuffer)
    (hguard : b.length.toNat + size ≤ maxRtpMsgSize)
    (hover : maxRtpMsgSize < b.tail.toNat + size) (htail : b.tail.toNat ≤ maxRtpMsgSize)
    (ret : ℤ) (b' : CResponseBuffer) (h : writeField size src b = some (ret, b')) :
    maxRtpMsgSize < b'.tail.toNat := by
  rw [writeField, if_pos hguard] at h
  obtain ⟨buffer, -, hb⟩ := Option.bind_eq_some_iff.mp h
  have hb' : b'.tail = b.tail + UInt16.ofNat size :=
    (congrArg (fun r => r.2.tail) (Option.some.inj hb)).symm
  have hm := maxRtpMsgSize_eq
  rw [hb', UInt16.toNat_add, UInt16.toNat_ofNat']
  omega

namespace WriteCall

def encode (P : Platform) : WriteCall → List UInt8
  | word value => beBytes 2 value.toNat
  | dword value => beBytes 4 value.toUInt32.toNat ++
      List.replicate (P.sizeofULong32 - 4) (P.highByte (htonl value.toUInt32))
  | float value => leBytes 4 value.toNat
  | byte value => [value]
  | string value => value.val ++ [0]
  | raw value len _ => beBytes 2 len.toUInt16.toNat ++ value.take len.toInt.toNat

/-- The comparison a writer makes before it stores. -/
def Guard (P : Platform) (b : CResponseBuffer) : WriteCall → Prop
  | raw _ len _ => P.toSizeT (b.length.toNat + len.toInt) ≤ maxRtpMsgSize
  | c => b.length.toNat + (c.encode P).length ≤ maxRtpMsgSize

def Nonneg : WriteCall → Prop
  | raw _ len _ => 0 ≤ len.toInt
  | _ => True

/-- The call has a size and its image has room behind `tail`. -/
def Fits (P : Platform) (b : CResponseBuffer) (c : WriteCall) : Prop :=
  c.Nonneg ∧ b.tail.toNat + (c.encode P).length ≤ maxRtpMsgSize

/-- The bytes a typed writer stores and the number of zero bytes it counts behind them. -/
def stored (P : Platform) : WriteCall → List UInt8 × ℕ
  | word value => (beBytes 2 value.toNat, 0)
  | dword value => (leBytes P.sizeofULong32 (P.assigned (htonl value.toUInt32)).toNat, 0)
  | float value => (leBytes 4 value.toNat, 0)
  | byte value => ([value], 0)
  | string value => (value.val, 1)
  | raw _ _ _ => ([], 0)

theorem leBytes_htonl (P : Platform) (value : UInt32) :
    leBytes P.sizeofULong32 (P.assigned (htonl value)).toNat =
      beBytes 4 value.toNat ++ List.replicate (P.sizeofULong32 - 4) (P.highByte (htonl value)) := by
  rw [leBytes_assigned, toNat_htonl, leBytes_byteSwap]

theorem length_encode_dword (P : Platform) (value : UInt64) :
    ((dword value).encode P).length = P.sizeofULong32 := by
  obtain ⟨k, hk, -⟩ := sizeofULong32_eq P
  rw [encode, List.length_append, length_beBytes, List.length_replicate]
  omega

theorem encode_eq_stored (P : Platform) (c : WriteCall) (hc : c.IsTyped) :
    c.encode P = (c.stored P).1 ++ List.replicate (c.stored P).2 0 := by
  cases c with
  | dword value => simp only [encode, stored, leBytes_htonl, List.replicate_zero, List.append_nil]
  | raw => exact absurd hc not_false
  | _ => simp [encode, stored]

theorem run_eq_writeField (P : Platform) (c : WriteCall) (hc : c.IsTyped) (b : CResponseBuffer) :
    c.run P b = writeField ((c.stored P).1.length + (c.stored P).2) (c.stored P).1 b := by
  cases c with
  | word value =>
    simp only [run, writeWord, stored, length_beBytes, toNat_htons, leBytes_byteSwap, Nat.add_zero]
  | dword value => simp only [run, writeDword, stored, length_leBytes, Nat.add_zero]
  | float value => simp only [run, writeFloat, stored, length_leBytes, Nat.add_zero]
  | byte value => rfl
  | string value => rfl
  | raw => exact absurd hc not_false

theorem length_stored (P : Platform) (c : WriteCall) (hc : c.IsTyped) :
    (c.stored P).1.length + (c.stored P).2 = (c.encode P).length := by
  rw [encode_eq_stored P c hc, List.length_append, List.length_replicate]

theorem guard_typed_iff (P : Platform) (b : CResponseBuffer) (c : WriteCall) (hc : c.IsTyped) :
    c.Guard P b ↔ b.length.toNat + (c.encode P).length ≤ maxRtpMsgSize := by
  cases c with
  | raw => exact absurd hc not_false
  | _ => rfl

theorem nonneg_of_typed (c : WriteCall) (hc : c.IsTyped) : c.Nonneg := by
  cases c with
  | raw => exact absurd hc not_false
  | _ => trivial

theorem run_of_not_guard (P : Platform) (b : CResponseBuffer) (c : WriteCall)
    (h : ¬ c.Guard P b) : c.run P b = some (-1, b) := by
  by_cases hc : c.IsTyped
  · rw [guard_typed_iff P b c hc, ← length_stored P c hc] at h
    rw [run_eq_writeField P c hc]
    exact writeField_refuses _ _ _ (by omega)
  · cases c with
    | raw value len hr =>
      exact if_neg h
    | _ => exact absurd trivial hc

theorem run_typed (P : Platform) (b : CResponseBuffer) (bytes : List UInt8) (c : WriteCall)
    (hc : c.IsTyped) (h : Holds b bytes) (hguard : c.Guard P b) (hfit : c.Fits P b) :
    ∃ b', c.run P b = some (b'.tail.toNat, b') ∧ Holds b' (bytes ++ c.encode P) ∧
      b'.length = b'.tail := by
  have hlen := length_stored P c hc
  rw [guard_typed_iff P b c hc, ← hlen] at hguard
  rw [run_eq_writeField P c hc, encode_eq_stored P c hc]
  exact writeField_appends _ _ b bytes h hguard (by rw [hlen]; exact hfit.2)

theorem toSizeT_of_nonneg (P : Platform) (len : Int16) (k : ℕ) (hk : k < 2 ^ 16)
    (h : 0 ≤ len.toInt) : P.toSizeT (k + len.toInt) = k + len.toInt.toNat := by
  have hlt := len.toInt_lt
  have he : (k : ℤ) + len.toInt = ((k + len.toInt.toNat : ℕ) : ℤ) := by omega
  rw [he, toSizeT_natCast P _ (by omega)]

/-- `WRITE_RAW` appends its length and its data but leaves `length` where it was. -/
theorem run_raw (P : Platform) (b : CResponseBuffer) (bytes : List UInt8) (value : List UInt8)
    (len : Int16) (hr : len.toInt ≤ value.length) (h : Holds b bytes)
    (hguard : (raw value len hr).Guard P b) (hfit : (raw value len hr).Fits P b) :
    ∃ b', (raw value len hr).run P b = some ((b.length.toNat : ℤ), b') ∧
      Holds b' (bytes ++ (raw value len hr).encode P) ∧ b'.length = b.length := by
  have hm := maxRtpMsgSize_eq
  have hnn : 0 ≤ len.toInt := hfit.1
  have hsize : P.toSizeT len.toInt = len.toInt.toNat := by
    simpa using toSizeT_of_nonneg P len 0 (by norm_num) hnn
  have hdata : (value.take len.toInt.toNat).length = len.toInt.toNat := by
    rw [List.length_take]
    omega
  have hroom : b.tail.toNat + (2 + len.toInt.toNat) ≤ maxRtpMsgSize := by
    have hf := hfit.2
    rwa [encode, List.length_append, length_beBytes, hdata] at hf
  have hlenBytes : leBytes 2 (htons len.toUInt16).toNat = beBytes 2 len.toUInt16.toNat := by
    rw [toNat_htons, leBytes_byteSwap]
  have htail := h.tail
  obtain ⟨buf₁, hs₁, hf₁⟩ := h.filled.store_append (beBytes 2 len.toUInt16.toNat) 0
    (by rw [length_beBytes]; omega)
  obtain ⟨buf₂, hs₂, hf₂⟩ := hf₁.store_append (value.take len.toInt.toNat) 0
    (by simp only [List.length_append, length_beBytes, List.length_replicate, hdata]; omega)
  have htwo : (b.tail + 2).toNat = bytes.length + 2 := by
    rw [UInt16.toNat_add, htail]
    change (bytes.length + 2) % 2 ^ 16 = _
    omega
  have hlen₁ : (bytes ++ (beBytes 2 len.toUInt16.toNat ++ List.replicate 0 0)).length =
      bytes.length + 2 := by
    simp
  rw [hlen₁] at hs₂
  refine ⟨⟨buf₂, b.tail + 2 + UInt16.ofNat len.toInt.toNat, b.length⟩, ?_, ⟨?_, ?_⟩, rfl⟩
  · have htake : takeBytes value len.toInt.toNat = some (value.take len.toInt.toNat) :=
      if_pos (by omega)
    change P.toSizeT (b.length.toNat + len.toInt) ≤ maxRtpMsgSize at hguard
    change writeRaw P value len b = _
    rw [writeRaw, if_pos hguard]
    simp only [hlenBytes, htail, htwo, hs₁, hsize, htake, hs₂, Option.bind_eq_bind,
      Option.bind_some]
  · simpa only [encode, List.append_assoc, List.replicate_zero, List.append_nil] using hf₂
  · change (b.tail + 2 + UInt16.ofNat len.toInt.toNat).toNat = _
    rw [UInt16.toNat_add, htwo, UInt16.toNat_ofNat', encode, List.length_append,
      List.length_append, length_beBytes, hdata]
    omega

/-- `WRITE_RAW` returns past its guard only when its length, its data and `tail` stay inside. -/
theorem fits_of_run_raw (P : Platform) (b : CResponseBuffer) (value : List UInt8) (len : Int16)
    (hr : len.toInt ≤ value.length) (hguard : (raw value len hr).Guard P b) (ret : ℤ)
    (b' : CResponseBuffer) (hrun : (raw value len hr).run P b = some (ret, b')) :
    (raw value len hr).Fits P b := by
  have hm := maxRtpMsgSize_eq
  change P.toSizeT (b.length.toNat + len.toInt) ≤ maxRtpMsgSize at hguard
  change writeRaw P value len b = _ at hrun
  rw [writeRaw, if_pos hguard] at hrun
  obtain ⟨buf₁, hs₁, hrun₁⟩ := Option.bind_eq_some_iff.mp hrun
  obtain ⟨data, ht, hrun₂⟩ := Option.bind_eq_some_iff.mp hrun₁
  obtain ⟨buf₂, hs₂, -⟩ := Option.bind_eq_some_iff.mp hrun₂
  have hlo := len.le_toInt
  have hlenRoom : b.tail.toNat + 2 ≤ maxRtpMsgSize := by
    by_contra hn
    rw [(store_eq_none_iff _ _ _).mpr (by rw [length_leBytes]; omega)] at hs₁
    exact absurd hs₁ (by simp)
  have htwo : (b.tail + 2).toNat = b.tail.toNat + 2 := by
    rw [UInt16.toNat_add]
    change (b.tail.toNat + 2) % 2 ^ 16 = _
    omega
  have hdata : data.length = P.toSizeT len.toInt ∧ P.toSizeT len.toInt ≤ value.length := by
    unfold takeBytes at ht
    split_ifs at ht with hle
    rw [← Option.some.inj ht, List.length_take]
    omega
  have hroom : b.tail.toNat + 2 + data.length ≤ maxRtpMsgSize := by
    by_contra hn
    rw [htwo, (store_eq_none_iff buf₁ _ data).mpr (by omega)] at hs₂
    exact absurd hs₂ (by simp)
  have hnn : 0 ≤ len.toInt := by
    by_contra hneg
    have hbig := toSizeT_neg P len.toInt (by omega) (by omega)
    omega
  have hsize : P.toSizeT len.toInt = len.toInt.toNat := by
    simpa using toSizeT_of_nonneg P len 0 (by norm_num) hnn
  refine ⟨hnn, ?_⟩
  rw [encode, List.length_append, length_beBytes, List.length_take]
  omega

/-- Past its guard a typed writer leaves the two cursors equal, wherever they are. -/
theorem length_of_run_typed (P : Platform) (b : CResponseBuffer) (c : WriteCall) (hc : c.IsTyped)
    (hguard : c.Guard P b) (ret : ℤ) (b' : CResponseBuffer) (hrun : c.run P b = some (ret, b')) :
    b'.length = b'.tail := by
  rw [guard_typed_iff P b c hc, ← length_stored P c hc] at hguard
  rw [run_eq_writeField P c hc, writeField, if_pos hguard] at hrun
  obtain ⟨buffer, -, hb⟩ := Option.bind_eq_some_iff.mp hrun
  rw [← (Prod.mk.inj (Option.some.inj hb)).2]

/-- Past the guard a call without a size or without room leaves the array. -/
theorem run_overruns (P : Platform) (b : CResponseBuffer) (bytes : List UInt8) (c : WriteCall)
    (h : Holds b bytes) (hguard : c.Guard P b) (hfit : ¬ c.Fits P b) (ret : ℤ)
    (b' : CResponseBuffer) (hrun : c.run P b = some (ret, b')) :
    c.IsTyped ∧ maxRtpMsgSize < b'.tail.toNat := by
  by_cases hc : c.IsTyped
  · have hlen := length_stored P c hc
    have hover : maxRtpMsgSize < b.tail.toNat + (c.encode P).length := by
      by_contra hn
      exact hfit ⟨nonneg_of_typed c hc, by omega⟩
    rw [run_eq_writeField P c hc] at hrun
    rw [guard_typed_iff P b c hc, ← hlen] at hguard
    exact ⟨hc, writeField_overruns _ _ b hguard (by rw [hlen]; exact hover)
      (h.tail ▸ h.length_le) ret b' hrun⟩
  · cases c with
    | raw value len hr => exact absurd (fits_of_run_raw P b value len hr hguard ret b' hrun) hfit
    | _ => exact absurd trivial hc

end WriteCall

/-- While the cursors agree a typed call is an offer of its image to the log. -/
theorem run_typed_offer (P : Platform) (b : CResponseBuffer) (bytes : List UInt8) (c : WriteCall)
    (hc : c.IsTyped) (h : Holds b bytes) (hl : b.length = b.tail) :
    ∃ ret b', c.run P b = some (ret, b') ∧
      Holds b' (BoundedLog.offer maxRtpMsgSize bytes (c.encode P)) ∧ b'.length = b'.tail ∧
      ret = if bytes.length + (c.encode P).length ≤ maxRtpMsgSize
        then ((bytes.length + (c.encode P).length : ℕ) : ℤ) else -1 := by
  have hiff : c.Guard P b ↔ bytes.length + (c.encode P).length ≤ maxRtpMsgSize := by
    rw [c.guard_typed_iff P b hc, hl, h.tail]
  by_cases hroom : bytes.length + (c.encode P).length ≤ maxRtpMsgSize
  · have hfit : c.Fits P b := ⟨c.nonneg_of_typed hc, by rw [h.tail]; exact hroom⟩
    obtain ⟨b', hr, hh, hl'⟩ := c.run_typed P b bytes hc h (hiff.2 hroom) hfit
    refine ⟨_, b', hr, ?_, hl', ?_⟩
    · rwa [BoundedLog.offer, if_pos hroom]
    · rw [if_pos hroom, hh.tail, List.length_append]
  · refine ⟨-1, b, c.run_of_not_guard P b (fun hg => hroom (hiff.1 hg)), ?_, hl, ?_⟩
    · rwa [BoundedLog.offer, if_neg hroom]
    · rw [if_neg hroom]

/-- The typed writers refine the bounded log, and calls that all succeed append all images. -/
theorem writeAll_offers (P : Platform) (cs : List WriteCall) (hc : ∀ c ∈ cs, c.IsTyped)
    (b : CResponseBuffer) (bytes : List UInt8) (h : Holds b bytes) (hl : b.length = b.tail) :
    ∃ rets b', writeAll P cs b = some (rets, b') ∧
      Holds b' (BoundedLog.offers maxRtpMsgSize bytes (cs.map (WriteCall.encode P))) ∧
      b'.length = b'.tail ∧
      ((∀ r ∈ rets, 0 ≤ r) →
        BoundedLog.offers maxRtpMsgSize bytes (cs.map (WriteCall.encode P)) =
          bytes ++ (cs.map (WriteCall.encode P)).flatten) := by
  induction cs generalizing b bytes with
  | nil => exact ⟨[], b, rfl, h, hl, fun _ => by simp [BoundedLog.offers]⟩
  | cons c cs ih =>
    obtain ⟨ret, b₁, hr, hh, hl₁, hret⟩ :=
      run_typed_offer P b bytes c (hc c List.mem_cons_self) h hl
    obtain ⟨rets, b', hrest, hh', hl', hall⟩ :=
      ih (fun x hx => hc x (List.mem_cons_of_mem c hx)) b₁ _ hh hl₁
    refine ⟨ret :: rets, b', ?_, hh', hl', fun hnn => ?_⟩
    · rw [writeAll_cons_eq_some_iff]
      exact ⟨ret, rets, b₁, hr, hrest, rfl⟩
    · have hroom : bytes.length + (c.encode P).length ≤ maxRtpMsgSize := by
        by_contra hn
        have hneg := hnn ret List.mem_cons_self
        rw [hret, if_neg hn] at hneg
        omega
      have hrest' := hall (fun r hr => hnn r (List.mem_cons_of_mem ret hr))
      rw [List.map_cons, BoundedLog.offers, hrest', BoundedLog.offer, if_pos hroom,
        List.flatten_cons, List.append_assoc]

end OpenDSLite
