import OpenDSLite.RequestIngress

/-!
# What READ_RAW checks

Each of the other readers compares all the bytes it is about to read with `length`; `READ_RAW`
compares a single one. Past that comparison it always returns a new head, so it validates what it
consumes only where there is nothing to read or a whole block.
-/

namespace OpenDSLite

open ByteOrder ByteArea

namespace CRequestBuffer

def declaredLen (b : CRequestBuffer) : Int16 :=
  (ntohs (loadUInt16 ((b.buffer.bytes.drop b.head.toNat).take 2))).toInt16

/-- The length of the block and as many bytes as it declares lie below `length`. -/
def BlockComplete (b : CRequestBuffer) : Prop :=
  b.head.toNat + 2 ≤ b.length.toNat ∧ 0 ≤ b.declaredLen.toInt ∧
    b.head.toNat + 2 + b.declaredLen.toInt.toNat ≤ b.length.toNat

def blockData (b : CRequestBuffer) : List UInt8 :=
  (b.buffer.bytes.drop (b.head.toNat + 2)).take b.declaredLen.toInt.toNat

instance (b : CRequestBuffer) : Decidable b.BlockComplete := inferInstanceAs (Decidable (_ ∧ _))

end CRequestBuffer

/-- What a validating `READ_RAW` does: a complete block is delivered and passed over, and anything
else is refused with nothing changed. -/
structure ValidatedRead (b : CRequestBuffer) (value : List UInt8) (len : Int16) (ret : ℤ)
    (value' : List UInt8) (len' : Int16) (b' : CRequestBuffer) : Prop where
  accepts_iff : 0 ≤ ret ↔ b.BlockComplete
  stored : b.BlockComplete → len' = b.declaredLen
  delivered : b.BlockComplete → value' = b.blockData ++ value.drop b.blockData.length
  advanced : b.BlockComplete → b' = { b with head := b'.head } ∧
    b'.head.toNat = b.head.toNat + 2 + b.declaredLen.toInt.toNat
  refused : ¬ b.BlockComplete → ret = -1 ∧ value' = value ∧ len' = len ∧ b' = b

def RawValidated (P : Platform) (value : List UInt8) (len : Int16) (b : CRequestBuffer) : Prop :=
  ∃ ret value' len' b', readRaw P value len b = some (ret, value', len', b') ∧
    ValidatedRead b value len ret value' len' b'

/-- Past its comparison `READ_RAW` refuses nothing. -/
theorem readRaw_nonneg (P : Platform) (value value' : List UInt8) (len len' : Int16)
    (b b' : CRequestBuffer) (ret : ℤ) (hguard : b.head.toNat + 1 ≤ b.length.toNat)
    (hrun : readRaw P value len b = some (ret, value', len', b')) : 0 ≤ ret := by
  rw [readRaw, if_pos hguard] at hrun
  obtain ⟨bs, -, hrun⟩ := Option.bind_eq_some_iff.mp hrun
  obtain ⟨data, -, hrun⟩ := Option.bind_eq_some_iff.mp hrun
  obtain ⟨copied, -, hrun⟩ := Option.bind_eq_some_iff.mp hrun
  rw [← (Prod.mk.inj (Option.some.inj hrun)).1]
  exact Int.natCast_nonneg _

theorem complete_of_rawValidated (P : Platform) (value : List UInt8) (len : Int16)
    (b : CRequestBuffer) (h : RawValidated P value len b) :
    b.length.toNat ≤ b.head.toNat ∨ b.BlockComplete := by
  obtain ⟨ret, value', len', b', hrun, hread⟩ := h
  by_cases hguard : b.head.toNat + 1 ≤ b.length.toNat
  · exact Or.inr (hread.accepts_iff.1 (readRaw_nonneg P value value' len len' b b' ret hguard hrun))
  · exact Or.inl (by omega)

theorem length_blockData (b : CRequestBuffer) (hl : b.length.toNat ≤ maxRtpMsgSize)
    (h : b.BlockComplete) : b.blockData.length = b.declaredLen.toInt.toNat := by
  obtain ⟨-, -, hdata⟩ := h
  have hn := b.buffer.length_bytes
  rw [CRequestBuffer.blockData, List.length_take, List.length_drop]
  omega

theorem facing_block (b : CRequestBuffer) (hl : b.length.toNat ≤ maxRtpMsgSize)
    (h : b.BlockComplete) :
    Facing b (b.buffer.bytes.take b.head.toNat)
      (beBytes 2 b.declaredLen.toUInt16.toNat ++ b.blockData)
      (b.buffer.bytes.drop (b.head.toNat + 2 + b.declaredLen.toInt.toNat)) := by
  have hblock := length_blockData b hl h
  obtain ⟨htwo, -, hdata⟩ := h
  have hn := b.buffer.length_bytes
  have hword : ((b.buffer.bytes.drop b.head.toNat).take 2).length = 2 := by
    rw [List.length_take, List.length_drop]
    omega
  have himage : beBytes 2 b.declaredLen.toUInt16.toNat =
      (b.buffer.bytes.drop b.head.toNat).take 2 := by
    rw [← leBytes_byteSwap, ← toNat_htons, CRequestBuffer.declaredLen, UInt16.toUInt16_toInt16,
      leBytes_htons_ntohs _ hword]
  have hhead : (b.buffer.bytes.take b.head.toNat).length = b.head.toNat := by
    rw [List.length_take]
    omega
  refine ⟨?_, hhead.symm, ?_⟩
  · have hrest : b.blockData ++
        b.buffer.bytes.drop (b.head.toNat + 2 + b.declaredLen.toInt.toNat) =
        b.buffer.bytes.drop (b.head.toNat + 2) := by
      rw [← List.drop_drop]
      exact List.take_append_drop _ _
    rw [himage, List.append_assoc, hrest, ← List.drop_drop, List.take_append_drop,
      List.take_append_drop]
  · rw [List.length_append, length_beBytes, hblock, hhead]
    omega

/-- `READ_RAW` validates what it consumes exactly when no byte is left or a block is complete. -/
theorem rawValidated_iff (P : Platform) (value : List UInt8) (len : Int16) (b : CRequestBuffer)
    (hl : b.length.toNat ≤ maxRtpMsgSize)
    (hdst : b.BlockComplete → b.declaredLen.toInt.toNat ≤ value.length) :
    RawValidated P value len b ↔ b.length.toNat ≤ b.head.toNat ∨ b.BlockComplete := by
  refine ⟨complete_of_rawValidated P value len b, ?_⟩
  rintro (hempty | h)
  · have hguard : ¬ b.head.toNat + 1 ≤ b.length.toNat := by omega
    have hnone : ¬ b.BlockComplete := fun hc => by
      have htwo := hc.1
      omega
    exact ⟨-1, value, len, b, if_neg hguard, iff_of_false (by omega) hnone,
      fun hc => absurd hc hnone, fun hc => absurd hc hnone, fun hc => absurd hc hnone,
      fun _ => ⟨rfl, rfl, rfl, rfl⟩⟩
  · have hblock := length_blockData b hl h
    have hfacing := facing_block b hl h
    have hrun := readRaw_mid P b.declaredLen h.2.1 b.blockData value len hblock
      (hblock.trans_le (hdst h)) b _ _ hfacing
    have hhead := hfacing.toNat_advance
    rw [List.length_append, length_beBytes, hblock, ← hfacing.head, ← Nat.add_assoc] at hhead
    refine ⟨_, _, _, _, hrun, iff_of_true (Int.natCast_nonneg _) h, fun _ => rfl, fun _ => rfl,
      fun _ => ⟨rfl, ?_⟩, fun hc => absurd h hc⟩
    rw [← hhead, List.length_append, length_beBytes, hblock]

/-- A request whose body declares five raw bytes behind its identifier and ends there. -/
def truncatedBlock : CRequestBuffer := loadedRequest [0, 7, 0, 5]

def wholeBlock : CRequestBuffer := loadedRequest [0, 7, 0, 1, 0x41]

theorem rawValidated_wholeBlock : RawValidated .linux (List.replicate 8 0) 0 wholeBlock ↔
    wholeBlock.length.toNat ≤ wholeBlock.head.toNat ∨ wholeBlock.BlockComplete :=
  rawValidated_iff .linux _ 0 wholeBlock (by decide) (by decide)

/-- Five bytes behind the end of the body are delivered. -/
theorem truncated_block_delivered :
    truncatedBlock.head ≤ truncatedBlock.length ∧
    truncatedBlock.length.toNat ≤ maxRtpMsgSize ∧
    (∃ value' b', readRaw .linux (List.replicate 8 1) 0 truncatedBlock =
      some (9, value', 5, b') ∧ value'.take 5 = List.replicate 5 0) ∧
    ¬ RawValidated .linux (List.replicate 8 1) 0 truncatedBlock := by
  refine ⟨by decide, by decide, ⟨_, _, rfl, rfl⟩, fun h => ?_⟩
  exact absurd (complete_of_rawValidated .linux _ 0 truncatedBlock h) (by decide)

end OpenDSLite
