import OpenDSLite.ResponseWriting
import OpenDSLite.PartialRuns

/-!
# Which call sequences stay inside the response buffer

The invariant of all six writers is that the bytes below `tail` are the images written so far and
that `length` does not exceed `tail`. In such a state a call behaves exactly when its guard lets
through nothing but what fits; the guard of `WRITE_RAW` counts neither the two length bytes nor
what earlier `WRITE_RAW` calls stored, and a negative size wraps around in it.
-/

namespace OpenDSLite

def writeStep (P : Platform) (b : CResponseBuffer) (c : WriteCall) :
    Except CResponseBuffer CResponseBuffer :=
  match c.run P b with
  | some (_, b') => .ok b'
  | none => .error b

/-- The call stores inside the array, leaves `tail` inside, and is refused without a store when it
has no room or a negative size. -/
def CallInside (P : Platform) (b : CResponseBuffer) (c : WriteCall) : Prop :=
  ∃ ret b', c.run P b = some (ret, b') ∧ b'.tail.toNat ≤ maxRtpMsgSize ∧
    (¬ c.Fits P b → ret = -1 ∧ b' = b)

def WritesInside (P : Platform) : CResponseBuffer → List WriteCall → Prop :=
  PartialRun.Along (writeStep P) (CallInside P)

/-- What passes the guard has a size and has room, its length bytes included. -/
def GuardSuffices (P : Platform) (b : CResponseBuffer) (c : WriteCall) : Prop :=
  c.Guard P b → c.Fits P b

def WriterInvariant (b : CResponseBuffer) : Prop :=
  (∃ bytes, Holds b bytes) ∧ b.length.toNat ≤ b.tail.toNat

theorem writerInvariant_init (b : CResponseBuffer) : WriterInvariant (cResponseBufferInit b) :=
  ⟨⟨[], holds_init b⟩, le_rfl⟩

/-- A call that passes its guard and fits appends its image, whichever writer it is. -/
theorem run_of_fits (P : Platform) (b : CResponseBuffer) (bytes : List UInt8) (c : WriteCall)
    (h : Holds b bytes) (hguard : c.Guard P b) (hfit : c.Fits P b) :
    ∃ ret b', c.run P b = some (ret, b') ∧ 0 ≤ ret ∧ Holds b' (bytes ++ c.encode P) ∧
      (b'.length = b'.tail ∨ b'.length = b.length) := by
  by_cases hc : c.IsTyped
  · obtain ⟨b', hr, hh, hl⟩ := c.run_typed P b bytes hc h hguard hfit
    exact ⟨_, b', hr, Int.natCast_nonneg _, hh, Or.inl hl⟩
  · cases c with
    | raw value len hread =>
      obtain ⟨b', hr, hh, hl⟩ := WriteCall.run_raw P b bytes value len hread h hguard hfit
      exact ⟨_, b', hr, Int.natCast_nonneg _, hh, Or.inr hl⟩
    | _ => exact absurd trivial hc

theorem callInside_iff (P : Platform) (b : CResponseBuffer) (c : WriteCall)
    (h : WriterInvariant b) : CallInside P b c ↔ GuardSuffices P b c := by
  obtain ⟨⟨bytes, hb⟩, -⟩ := h
  constructor
  · rintro ⟨ret, b', hrun, htail, -⟩ hguard
    by_contra hfit
    have hover := (c.run_overruns P b bytes hb hguard hfit ret b' hrun).2
    omega
  · intro hs
    by_cases hguard : c.Guard P b
    · obtain ⟨ret, b', hrun, -, hh, -⟩ := run_of_fits P b bytes c hb hguard (hs hguard)
      have htail : b'.tail.toNat ≤ maxRtpMsgSize := hh.tail ▸ hh.length_le
      exact ⟨ret, b', hrun, htail, fun hfit => absurd (hs hguard) hfit⟩
    · have htail : b.tail.toNat ≤ maxRtpMsgSize := hb.tail ▸ hb.length_le
      exact ⟨-1, b, c.run_of_not_guard P b hguard, htail, fun _ => ⟨rfl, rfl⟩⟩

theorem writerInvariant_step (P : Platform) (b b' : CResponseBuffer) (c : WriteCall)
    (h : WriterInvariant b) (hs : GuardSuffices P b c) (hstep : writeStep P b c = .ok b') :
    WriterInvariant b' := by
  obtain ⟨⟨bytes, hb⟩, hle⟩ := h
  by_cases hguard : c.Guard P b
  · obtain ⟨ret, b₁, hrun, -, hh, hl⟩ := run_of_fits P b bytes c hb hguard (hs hguard)
    have he : b₁ = b' := by simpa only [writeStep, hrun, Except.ok.injEq] using hstep
    subst he
    refine ⟨⟨_, hh⟩, ?_⟩
    rcases hl with hl | hl
    · rw [hl]
    · have htail := hh.tail
      rw [List.length_append, ← hb.tail] at htail
      rw [hl]
      omega
  · have he : b = b' := by
      simpa only [writeStep, c.run_of_not_guard P b hguard, Except.ok.injEq] using hstep
    exact he ▸ ⟨⟨bytes, hb⟩, hle⟩

/-- A sequence of calls from a reset buffer stays inside the array and refuses what does not fit
if and only if no call that lacks room or a size passes its guard. -/
theorem writes_inside_iff (P : Platform) (b : CResponseBuffer) (cs : List WriteCall) :
    WritesInside P (cResponseBufferInit b) cs ↔
      PartialRun.Along (writeStep P) (GuardSuffices P) (cResponseBufferInit b) cs :=
  PartialRun.along_iff_along WriterInvariant _ _ (fun b c => callInside_iff P b c)
    (fun b c b' => writerInvariant_step P b b' c) _ cs (writerInvariant_init b)

def raw255 : WriteCall :=
  .raw (List.replicate 255 0) 255 (by rw [List.length_replicate]; decide)

/-- 255 raw bytes pass the guard of an empty buffer and need 257. -/
theorem raw_255_leaves_buffer :
    ¬ WritesInside .linux (cResponseBufferInit ⟨ByteArea.zeros maxRtpMsgSize, 0, 0⟩) [raw255] := by
  rintro ⟨hcall, -⟩
  have hs := (callInside_iff _ _ _ (writerInvariant_init _)).1 hcall
  have hguard : raw255.Guard .linux
      (cResponseBufferInit ⟨ByteArea.zeros maxRtpMsgSize, 0, 0⟩) := by
    change Platform.linux.toSizeT (0 + (255 : Int16).toInt) ≤ maxRtpMsgSize
    decide
  have hover := (hs hguard).2
  have hlen : (raw255.encode .linux).length = 257 := by
    simp only [raw255, WriteCall.encode, List.length_append, ByteOrder.length_beBytes,
      List.take_replicate, List.length_replicate]
    decide
  rw [hlen] at hover
  have hm := maxRtpMsgSize_eq
  omega

end OpenDSLite
