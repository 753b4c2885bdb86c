import OpenDSLite.ResponseWriting

/-!
# Sequences of typed writes

Typed calls on a cleared response buffer may succeed and fail in any order. After every call the
buffer holds the images of the calls that succeeded and is zero behind them, and a call that fails
has no room there and leaves the buffer as it was. The image of a `ULong32` is its low half and a
padding, which is zero unless the sign of an undeclared `htonl` gets into it.
-/

namespace OpenDSLite

open ByteOrder ByteArea

namespace WriteCall

/-- The image of a call in which a `ULong32` is padded with zeros. -/
def padded (P : Platform) : WriteCall → List UInt8
  | dword value => beBytes 4 value.toUInt32.toNat ++ List.replicate (P.sizeofULong32 - 4) 0
  | c => c.encode P

/-- The result of `htonl` is taken for a negative `int`. -/
def SignExtended (P : Platform) : WriteCall → Prop
  | dword value => ¬ P.DeclaresHtonl ∧ 128 ≤ value.toNat % 256
  | _ => False

instance (P : Platform) : DecidablePred (SignExtended P)
  | dword value => inferInstanceAs (Decidable (¬ P.DeclaresHtonl ∧ 128 ≤ value.toNat % 256))
  | word _ | float _ | byte _ | string _ | raw _ _ _ => .isFalse not_false

theorem length_padded (P : Platform) (c : WriteCall) :
    (c.padded P).length = (c.encode P).length := by
  cases c with
  | dword value => simp only [padded, encode, List.length_append, List.length_replicate]
  | _ => rfl

theorem highByte_htonl_eq_zero_iff (P : Platform) (value : UInt64) :
    P.highByte (htonl value.toUInt32) = 0 ↔ ¬ (dword value).SignExtended P := by
  have hlow : value.toUInt32.toNat % 256 = value.toNat % 256 := by
    rw [UInt64.toNat_toUInt32]
    omega
  have hsign : (htonl value.toUInt32).toNat < 2 ^ 31 ↔ ¬ 128 ≤ value.toNat % 256 := by
    rw [toNat_htonl_lt_iff, hlow, not_le]
  have hhigh : (0xFF : UInt8) ≠ 0 := by decide
  rw [SignExtended, not_and_or, not_not, ← hsign, Platform.highByte]
  split_ifs with h
  · exact iff_of_true rfl h
  · exact iff_of_false hhigh h

theorem encode_eq_padded_iff (P : Platform) (c : WriteCall) :
    c.encode P = c.padded P ↔ ¬ c.SignExtended P := by
  cases c with
  | dword value =>
    rw [← highByte_htonl_eq_zero_iff, encode, padded, List.append_cancel_left_eq]
    constructor
    · intro h
      by_cases hdecl : P.DeclaresHtonl
      · exact if_pos (Or.inl hdecl)
      · obtain rfl : P = .linux := not_not.mp hdecl
        exact (List.cons.inj h).1
    · intro h
      rw [h]
  | _ => exact iff_of_true rfl not_false

end WriteCall

/-- The calls that did not return `-1`. -/
def succeededCalls : List WriteCall → List ℤ → List WriteCall
  | c :: cs, ret :: rets =>
      if ret = -1 then succeededCalls cs rets else c :: succeededCalls cs rets
  | _, _ => []

/-- The calls that find room in an empty array, each behind those before it that do. -/
def acceptedCalls (P : Platform) (cs : List WriteCall) : List WriteCall :=
  BoundedLog.accepted maxRtpMsgSize (fun c => (c.padded P).length) 0 cs

def images (P : Platform) (cs : List WriteCall) : List UInt8 :=
  (cs.map (WriteCall.encode P)).flatten

def paddedImages (P : Platform) (cs : List WriteCall) : List UInt8 :=
  (cs.map (WriteCall.padded P)).flatten

/-- The buffer holds `bytes`, with both cursors behind them and zeros from there on. -/
structure Appended (bytes : List UInt8) (b : CResponseBuffer) : Prop where
  cursors : b.length = b.tail
  inside : b.tail.toNat ≤ maxRtpMsgSize
  images : b.buffer.bytes.take b.length.toNat = bytes
  zeros : ∀ x ∈ b.buffer.bytes.drop b.length.toNat, x = 0

/-- A call fails exactly when its image is longer than what remains of the array, and then leaves
the buffer alone; otherwise it returns the new length. -/
structure CallAtomic (P : Platform) (b : CResponseBuffer) (c : WriteCall) (ret : ℤ)
    (b' : CResponseBuffer) : Prop where
  fails_iff : ret = -1 ↔ maxRtpMsgSize - b.length.toNat < (c.padded P).length
  failed : ret = -1 → b' = b
  succeeded : ret ≠ -1 → ret = b'.length.toNat

/-- Calls on a cleared buffer append the images of those that succeed, padded with zeros, and each
of them is atomic in the buffer the calls before it left. -/
def WritesAtomic (P : Platform) (cs : List WriteCall) (resp₀ : CResponseBuffer) : Prop :=
  ∃ rets b, writeAll P cs (cResponseBufferInit resp₀) = some (rets, b) ∧
    Appended (paddedImages P (succeededCalls cs rets)) b ∧
    ∀ before c after, cs = before ++ c :: after → ∃ earlier b₁ ret b₂ later,
      writeAll P before (cResponseBufferInit resp₀) = some (earlier, b₁) ∧
      Appended (paddedImages P (succeededCalls before earlier)) b₁ ∧
      c.run P b₁ = some (ret, b₂) ∧ rets = earlier ++ ret :: later ∧ CallAtomic P b₁ c ret b₂

theorem appended_of_holds (b : CResponseBuffer) (bytes : List UInt8) (h : Holds b bytes)
    (hl : b.length = b.tail) : Appended bytes b := by
  have hlen : b.length.toNat = bytes.length := by rw [hl, h.tail]
  refine ⟨hl, ?_, ?_, ?_⟩
  · rw [h.tail]
    exact h.length_le
  · rw [hlen]
    exact h.filled.take
  · obtain ⟨k, hk⟩ := h.filled
    intro x hx
    rw [hlen, hk, List.drop_left' rfl] at hx
    exact List.eq_of_mem_replicate hx

/-- While the cursors agree every typed call is atomic. -/
theorem callAtomic_of_holds (P : Platform) (b : CResponseBuffer) (bytes : List UInt8)
    (c : WriteCall) (hc : c.IsTyped) (h : Holds b bytes) (hl : b.length = b.tail) :
    ∃ ret b', c.run P b = some (ret, b') ∧ CallAtomic P b c ret b' ∧
      Holds b' (if ret = -1 then bytes else bytes ++ c.encode P) ∧ b'.length = b'.tail := by
  obtain ⟨ret, b', hrun, hh, hl', hret⟩ := run_typed_offer P b bytes c hc h hl
  have hlen : b.length.toNat = bytes.length := by rw [hl, h.tail]
  have hsize := c.length_padded P
  have hinside := h.length_le
  refine ⟨ret, b', hrun, ?_⟩
  by_cases hroom : bytes.length + (c.encode P).length ≤ maxRtpMsgSize
  · rw [BoundedLog.offer, if_pos hroom] at hh
    rw [if_pos hroom] at hret
    have hne : ret ≠ -1 := by omega
    refine ⟨⟨iff_of_false hne (by omega), fun he => absurd he hne, fun _ => ?_⟩, ?_, hl'⟩
    · rw [hret, hl', hh.tail, List.length_append]
    · rwa [if_neg hne]
  · rw [if_neg hroom] at hret
    have hguard : ¬ c.Guard P b := by
      rw [c.guard_typed_iff P b hc, hlen]
      exact hroom
    obtain ⟨-, rfl⟩ :=
      Prod.mk.inj (Option.some.inj ((c.run_of_not_guard P b hguard).symm.trans hrun))
    refine ⟨⟨iff_of_true hret (by omega), fun _ => rfl, fun hne => absurd hret hne⟩, ?_, hl'⟩
    rwa [if_pos hret]

theorem writeAll_typed (P : Platform) (cs : List WriteCall) (hc : ∀ c ∈ cs, c.IsTyped)
    (b : CResponseBuffer) (bytes : List UInt8) (h : Holds b bytes) (hl : b.length = b.tail) :
    ∃ rets b', writeAll P cs b = some (rets, b') ∧
      Holds b' (bytes ++ images P (succeededCalls cs rets)) ∧ b'.length = b'.tail := by
  induction cs generalizing b bytes with
  | nil =>
    refine ⟨[], b, rfl, ?_, hl⟩
    simpa [succeededCalls, images] using h
  | cons c cs ih =>
    obtain ⟨ret, b₁, hr, -, hh, hl₁⟩ :=
      callAtomic_of_holds P b bytes c (hc c List.mem_cons_self) h hl
    obtain ⟨rets, b', hrest, hh', hl'⟩ :=
      ih (fun x hx => hc x (List.mem_cons_of_mem c hx)) b₁ _ hh hl₁
    refine ⟨ret :: rets, b', (writeAll_cons_eq_some_iff P c cs b b' _).2
      ⟨ret, rets, b₁, hr, hrest, rfl⟩, ?_, hl'⟩
    by_cases hfail : ret = -1
    · rw [if_pos hfail] at hh'
      rwa [succeededCalls, if_pos hfail]
    · rw [if_neg hfail, List.append_assoc] at hh'
      rwa [succeededCalls, if_neg hfail, images, List.map_cons, List.flatten_cons]

theorem writeAll_append_eq_some_iff (P : Platform) (cs ds : List WriteCall)
    (b b' : CResponseBuffer) (rets : List ℤ) :
    writeAll P (cs ++ ds) b = some (rets, b') ↔ ∃ first b₁ rest,
      writeAll P cs b = some (first, b₁) ∧ writeAll P ds b₁ = some (rest, b') ∧
        rets = first ++ rest := by
  induction cs generalizing b rets with
  | nil =>
    constructor
    · intro h
      exact ⟨[], b, rets, rfl, h, rfl⟩
    · rintro ⟨first, b₁, rest, h, hrest, rfl⟩
      obtain ⟨rfl, rfl⟩ := Prod.mk.inj (Option.some.inj h)
      exact hrest
  | cons c cs ih =>
    simp only [List.cons_append, writeAll_cons_eq_some_iff, ih]
    constructor
    · rintro ⟨ret, tail, b₁, hr, ⟨first, b₂, rest, hfirst, hrest, rfl⟩, rfl⟩
      exact ⟨ret :: first, b₂, rest, ⟨ret, first, b₁, hr, hfirst, rfl⟩, hrest, rfl⟩
    · rintro ⟨first, b₂, rest, ⟨ret, first', b₁, hr, hfirst, rfl⟩, hrest, rfl⟩
      exact ⟨ret, first' ++ rest, b₁, hr, ⟨first', b₂, rest, hfirst, hrest, rfl⟩, rfl⟩

theorem succeededCalls_eq_accepted (P : Platform) (cs : List WriteCall)
    (hc : ∀ c ∈ cs, c.IsTyped) (b b' : CResponseBuffer) (bytes : List UInt8) (rets : List ℤ)
    (h : Holds b bytes) (hl : b.length = b.tail) (hw : writeAll P cs b = some (rets, b')) :
    succeededCalls cs rets =
      BoundedLog.accepted maxRtpMsgSize (fun c => (c.padded P).length) bytes.length cs := by
  induction cs generalizing b bytes rets with
  | nil =>
    obtain ⟨rfl, -⟩ := Prod.mk.inj (Option.some.inj hw)
    rfl
  | cons c cs ih =>
    obtain ⟨ret, rest, b₁, hr, hrest, rfl⟩ := (writeAll_cons_eq_some_iff P c cs b b' rets).1 hw
    obtain ⟨ret', b₂, hr', hatomic, hh, hl'⟩ :=
      callAtomic_of_holds P b bytes c (hc c List.mem_cons_self) h hl
    obtain ⟨rfl, rfl⟩ := Prod.mk.inj (Option.some.inj (hr.symm.trans hr'))
    have hih := ih (fun x hx => hc x (List.mem_cons_of_mem c hx)) b₁ _ rest hh hl' hrest
    have hlen : b.length.toNat = bytes.length := by rw [hl, h.tail]
    have hinside := h.length_le
    have hfails := hatomic.fails_iff
    by_cases hfail : ret = -1
    · have hroom : ¬ bytes.length + (c.padded P).length ≤ maxRtpMsgSize := by
        have := hfails.1 hfail
        omega
      rw [if_pos hfail] at hih
      rw [succeededCalls, if_pos hfail, BoundedLog.accepted, if_neg hroom, hih]
    · have hroom : bytes.length + (c.padded P).length ≤ maxRtpMsgSize := by
        by_contra hn
        exact hfail (hfails.2 (by omega))
      rw [if_neg hfail, List.length_append, ← c.length_padded P] at hih
      rw [succeededCalls, if_neg hfail, BoundedLog.accepted, if_pos hroom, hih]

theorem writeAll_cleared (P : Platform) (cs : List WriteCall) (hc : ∀ c ∈ cs, c.IsTyped)
    (resp₀ : CResponseBuffer) : ∃ rets b,
    writeAll P cs (cResponseBufferInit resp₀) = some (rets, b) ∧
      Holds b (images P (acceptedCalls P cs)) ∧ b.length = b.tail ∧
      succeededCalls cs rets = acceptedCalls P cs := by
  obtain ⟨rets, b, hw, hh, hl⟩ := writeAll_typed P cs hc _ [] (holds_init resp₀) rfl
  have hsucceeded : succeededCalls cs rets = acceptedCalls P cs :=
    succeededCalls_eq_accepted P cs hc _ b [] rets (holds_init resp₀) rfl hw
  exact ⟨rets, b, hw, hsucceeded ▸ hh, hl, hsucceeded⟩

theorem images_eq_padded_iff (P : Platform) (cs : List WriteCall) :
    images P cs = paddedImages P cs ↔ ∀ c ∈ cs, ¬ c.SignExtended P := by
  have hsizes : (cs.map (WriteCall.encode P)).map List.length =
      (cs.map (WriteCall.padded P)).map List.length := by
    rw [List.map_map, List.map_map]
    exact List.map_congr_left (fun c _ => (c.length_padded P).symm)
  constructor
  · intro h c hc
    have hmaps := List.eq_iff_flatten_eq.mpr ⟨h, hsizes⟩
    exact (c.encode_eq_padded_iff P).1 (List.map_eq_map_iff.mp hmaps c hc)
  · intro h
    rw [images, paddedImages,
      List.map_congr_left (fun c hc => (c.encode_eq_padded_iff P).2 (h c hc))]

theorem not_signExtended_of_writesAtomic (P : Platform) (cs : List WriteCall)
    (hc : ∀ c ∈ cs, c.IsTyped) (resp₀ : CResponseBuffer) (h : WritesAtomic P cs resp₀) :
    ∀ c ∈ acceptedCalls P cs, ¬ c.SignExtended P := by
  obtain ⟨rets, b, hw, hh, hl, hsucceeded⟩ := writeAll_cleared P cs hc resp₀
  obtain ⟨rets', b', hw', happended, -⟩ := h
  obtain ⟨rfl, rfl⟩ := Prod.mk.inj (Option.some.inj (hw.symm.trans hw'))
  have himages := (appended_of_holds b _ hh hl).images
  rw [happended.images, hsucceeded] at himages
  exact (images_eq_padded_iff P _).1 himages.symm

/-- Typed calls on a cleared buffer append the zero-padded images of those that succeed, and each is
atomic, exactly when no `ULong32` that finds room is sign-extended. -/
theorem writesAtomic_iff (P : Platform) (cs : List WriteCall) (hc : ∀ c ∈ cs, c.IsTyped)
    (resp₀ : CResponseBuffer) :
    WritesAtomic P cs resp₀ ↔ ∀ c ∈ acceptedCalls P cs, ¬ c.SignExtended P := by
  refine ⟨not_signExtended_of_writesAtomic P cs hc resp₀, fun hno => ?_⟩
  have hwritten : ∀ ds es, cs = ds ++ es → ∃ rets b,
      writeAll P ds (cResponseBufferInit resp₀) = some (rets, b) ∧
        Holds b (paddedImages P (succeededCalls ds rets)) ∧ b.length = b.tail := by
    rintro ds es rfl
    obtain ⟨rets, b, hw, hh, hl, hsucceeded⟩ :=
      writeAll_cleared P ds (fun c hmem => hc c (List.mem_append_left es hmem)) resp₀
    have hearlier : acceptedCalls P ds <+: acceptedCalls P (ds ++ es) :=
      BoundedLog.accepted_prefix maxRtpMsgSize _ 0 ds es
    refine ⟨rets, b, hw, ?_, hl⟩
    rwa [hsucceeded, ← (images_eq_padded_iff P _).2 (fun c hmem => hno c (hearlier.subset hmem))]
  obtain ⟨rets, b, hw, hh, hl⟩ := hwritten cs [] (List.append_nil cs).symm
  refine ⟨rets, b, hw, appended_of_holds b _ hh hl, ?_⟩
  rintro before c after rfl
  obtain ⟨earlier, b₁, rest, hbefore, hrest, rfl⟩ :=
    (writeAll_append_eq_some_iff P before (c :: after) _ b rets).1 hw
  obtain ⟨ret, later, b₂, hr, -, rfl⟩ := (writeAll_cons_eq_some_iff P c after b₁ b rest).1 hrest
  obtain ⟨earlier', b₁', hbefore', hh₁, hl₁⟩ := hwritten before (c :: after) rfl
  obtain ⟨rfl, rfl⟩ := Prod.mk.inj (Option.some.inj (hbefore.symm.trans hbefore'))
  obtain ⟨ret', b₂', hr', hatomic, -, -⟩ :=
    callAtomic_of_holds P b₁ _ c (hc c (by simp)) hh₁ hl₁
  obtain ⟨rfl, rfl⟩ := Prod.mk.inj (Option.some.inj (hr.symm.trans hr'))
  exact ⟨earlier, b₁, ret, b₂, later, hbefore, appended_of_holds b₁ _ hh₁ hl₁, hr, rfl, hatomic⟩

def mixedCalls : List WriteCall :=
  [.dword 7, .string ⟨List.replicate 255 0x41, fun h => absurd (List.eq_of_mem_replicate h)
    (by decide)⟩, .byte 1]

theorem writesAtomic_iff_mixedCalls :
    WritesAtomic .linux mixedCalls ⟨zeros maxRtpMsgSize, 0, 0⟩ ↔
      ∀ c ∈ acceptedCalls .linux mixedCalls, ¬ c.SignExtended .linux :=
  writesAtomic_iff .linux mixedCalls (by decide) ⟨zeros maxRtpMsgSize, 0, 0⟩

/-- 128 is padded with `0xFF` on Linux as the sources stand. -/
theorem dword_padded_with_ones :
    (writeAll .linux [.dword 128] (cResponseBufferInit ⟨zeros maxRtpMsgSize, 0, 0⟩)).map
      (fun r => (r.1, r.2.buffer.bytes.take 8)) =
        some ([8], [0, 0, 0, 0x80, 0xFF, 0xFF, 0xFF, 0xFF]) ∧
    ¬ WritesAtomic .linux [.dword 128] ⟨zeros maxRtpMsgSize, 0, 0⟩ := by
  refine ⟨by decide +kernel, fun h => ?_⟩
  exact not_signExtended_of_writesAtomic .linux [.dword 128] (by decide) _ h (.dword 128)
    (by decide +kernel) (by decide +kernel)

end OpenDSLite
