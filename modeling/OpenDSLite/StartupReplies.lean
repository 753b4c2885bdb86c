import OpenDSLite.DirectMode
import OpenDSLite.ForwardStatus
import OpenDSLite.RetryAccounting

/-!
# Which replies move the start-up

Each probing status compares the opcode and the source of a datagram with those of the reply it
waits for; the status that waits for the DNS server compares the opcode only. No status looks at
the length of a reply. A reply that is too short is completed by the zeros of the receive array.
-/

namespace OpenDSLite

open ByteArea

def World.awaitedServer (w : World) : IPv4Address :=
  match w.ctx.mStatus with
  | .waitCsPhase1 => w.ctx.mCS1
  | .waitCsPhase2 => { w.ctx.mCS1 with port := w.ctx.mCS1.port + 1 }
  | .waitCsPhase3 => w.ctx.mCS2
  | .waitDNS | .startup | .online => w.ctx.mDNS

/-- Two worlds that agree in what the start-up works on and have the same log. -/
structure Undisturbed (w w' : World) : Prop where
  mStatus : w'.ctx.mStatus = w.ctx.mStatus
  mRunningMode : w'.ctx.mRunningMode = w.ctx.mRunningMode
  mIP : w'.ctx.mIP = w.ctx.mIP
  mCS1 : w'.ctx.mCS1 = w.ctx.mCS1
  mCS2 : w'.ctx.mCS2 = w.ctx.mCS2
  mDNS : w'.ctx.mDNS = w.ctx.mDNS
  mip1 : w'.mip1 = w.mip1
  mip2 : w'.mip2 = w.mip2
  mRecvRetryCount : w'.ctx.mRecvRetryCount = w.ctx.mRecvRetryCount
  mSendRetryCount : w'.ctx.mSendRetryCount = w.ctx.mSendRetryCount
  log : w'.log = w.log

theorem undisturbed_refl (w : World) : Undisturbed w w :=
  ⟨rfl, rfl, rfl, rfl, rfl, rfl, rfl, rfl, rfl, rfl, rfl⟩

theorem cs1P2_reached {P : Platform} {main : DeviceServer} {w : World} (h : Reached P main w) :
    w.cs1P2 = { w.ctx.mCS1 with port := w.ctx.mCS1.port + 1 } := by
  refine h.invariant (fun w => w.cs1P2 = { w.ctx.mCS1 with port := w.ctx.mCS1.port + 1 }) ?_ ?_
  · rintro w ⟨env, id, dns, w₀, w₁, -, rfl⟩
    rfl
  · intro w w' r hw hstep
    have hframe := frame_step w w' r hstep
    rw [hframe.cs1P2, hframe.mCS1]
    exact hw

/-- The DNS status accepts replies from everywhere, the others only from the awaited server. -/
theorem accepts_foreign_iff {P : Platform} {main : DeviceServer} {w : World}
    (h : Reached P main w) (d : Datagram) (hsrc : d.src ≠ w.awaitedServer) :
    w.Accepts d ↔ w.ctx.mStatus = .waitDNS ∧ d.respId = registDSIPToDNSServer := by
  unfold World.awaitedServer at hsrc
  unfold World.Accepts
  cases hs : w.ctx.mStatus with
  | waitCsPhase2 =>
    simp only [hs, ← cs1P2_reached h] at hsrc
    exact iff_of_false (fun ha => hsrc ha.2) (fun ha => by simp at ha)
  | waitCsPhase1 | waitCsPhase3 =>
    simp only [hs] at hsrc
    exact iff_of_false (fun ha => hsrc ha.2) (fun ha => by simp at ha)
  | waitDNS => exact (and_iff_right rfl).symm
  | startup | online => exact iff_of_false not_false (fun ha => by simp at ha)

theorem not_undisturbed_failedPoll (w w' : World) (r : RecvFrom) (h : LoopInvariant w)
    (hw : w.ctx.mStatus.Waiting) (hr : dtplinkRecv r = none) (hstep : LoopStep w r w') :
    ¬ Undisturbed w w' := by
  intro hu
  have hmore := (silence_step w w' r h hw hr hstep hu.mStatus).1
  rw [silence, silence, hu.mRecvRetryCount, hu.mSendRetryCount] at hmore
  omega

/-- A datagram that does not come from the awaited server leaves the start-up undisturbed exactly
when it is received and not taken for the reply of the DNS server. -/
theorem foreign_datagram_iff (P : Platform) (main : DeviceServer) (w : World)
    (hreached : Reached P main w) (hw : w.ctx.mStatus.Waiting) (src : IPv4Address)
    (payload : List UInt8) (hsrc : src ≠ w.awaitedServer) :
    (∃ w', dtplinkDSLoop P main w (.data src payload) = .ok w' ∧ Undisturbed w w') ↔
      (0 < payload.length ∧ payload.length + 1 < maxRtpMsgSize) ∧
      ¬ (w.ctx.mStatus = .waitDNS ∧ payload.head? = some registDSIPToDNSServer) := by
  rw [← dtplinkRecv_isSome_iff src payload]
  cases hr : dtplinkRecv (.data src payload) with
  | none =>
    refine iff_of_false ?_ (by simp)
    rintro ⟨w', hw', hu⟩
    exact not_undisturbed_failedPoll w w' _ (loopInvariant_reached hreached) hw hr
      (loopStep_of_ok P main w w' _ hw') hu
  | some d =>
    obtain ⟨rfl, rfl⟩ := dtplinkRecv_some src payload d hr
    have hdatagram : dtplinkDSLoop P main w (.data d.src d.bytes) = onDatagram P main d w := by
      simp only [dtplinkDSLoop, hr]
    rw [d.head?_bytes, Option.some_inj, ← accepts_foreign_iff hreached d hsrc, hdatagram]
    constructor
    · rintro ⟨w', hw', hu⟩
      refine ⟨rfl, fun ha => ?_⟩
      obtain ⟨hs, hid⟩ := (accepts_foreign_iff hreached d hsrc).1 ha
      simp only [onDatagram, hs, if_pos hid] at hw'
      have hstatus := hu.mStatus
      rw [← Except.ok.inj hw', hs] at hstatus
      change DSStatus.online = .waitDNS at hstatus
      exact absurd hstatus (by decide)
    · rintro ⟨-, ha⟩
      exact ⟨w, onDatagram_ignores P main d w hw.ne_online ha, undisturbed_refl w⟩

def dnsWorld : World :=
  outcome (runLoop .linux (fun _ _ => .done) (bootWorld sampleName)
    (probeReplies sampleAddress sampleAddress sampleAddress))

theorem reached_dnsWorld : Reached .linux (fun _ _ => .done) dnsWorld :=
  ⟨_, probeReplies sampleAddress sampleAddress sampleAddress, started_bootWorld, rfl⟩

theorem foreign_datagram_dnsWorld :
    (∃ w', dtplinkDSLoop .linux (fun _ _ => .done) dnsWorld
      (.data otherAddress [bindReqToServer1Port1]) = .ok w' ∧ Undisturbed dnsWorld w') ↔
      (0 < [bindReqToServer1Port1].length ∧ [bindReqToServer1Port1].length + 1 < maxRtpMsgSize) ∧
      ¬ (dnsWorld.ctx.mStatus = .waitDNS ∧
        [bindReqToServer1Port1].head? = some registDSIPToDNSServer) :=
  foreign_datagram_iff .linux _ dnsWorld reached_dnsWorld trivial otherAddress _ (by decide)

/-- The lone byte `0x41` from anywhere ends the wait for the DNS server. -/
theorem foreign_reply_registers : Reached .linux (fun _ _ => .done) dnsWorld ∧
    dnsWorld.ctx.mStatus.Waiting ∧ otherAddress ≠ dnsWorld.awaitedServer ∧
    ¬ ∃ w', dtplinkDSLoop .linux (fun _ _ => .done) dnsWorld
      (.data otherAddress [registDSIPToDNSServer]) = .ok w' ∧ Undisturbed dnsWorld w' := by
  refine ⟨reached_dnsWorld, trivial, by decide, ?_⟩
  rintro ⟨w', hw', hu⟩
  obtain rfl := Except.ok.inj hw'
  exact absurd hu.mStatus (by decide)

/-- The bytes of a reply up to the last field its handler decodes. -/
def DSStatus.replySize : DSStatus → ℕ
  | waitCsPhase1 => 15
  | waitCsPhase2 | waitCsPhase3 => 8
  | startup | waitDNS | online => 1

/-- The datagram with zeros behind it, up to `n` bytes. -/
def Datagram.completed (d : Datagram) (n : ℕ) (hn : n + 1 < maxRtpMsgSize) : Datagram where
  src := d.src
  bytes := d.bytes ++ List.replicate (n - d.bytes.length) 0
  pos := by
    have := d.pos
    rw [List.length_append]
    omega
  fits := by
    have := d.fits
    rw [List.length_append, List.length_replicate]
    omega

theorem msg_completed (d : Datagram) (n : ℕ) (hn : n + 1 < maxRtpMsgSize) :
    (d.completed n hn).msg = d.msg := by
  have hfits := d.fits
  apply ByteArea.ext_bytes
  change d.bytes ++ List.replicate (n - d.bytes.length) 0 ++ List.replicate (maxRtpMsgSize -
    (d.bytes ++ List.replicate (n - d.bytes.length) 0).length) 0 = d.bytes ++ List.replicate _ 0
  rw [List.append_assoc, List.replicate_append_replicate, List.length_append, List.length_replicate]
  congr 2
  omega

theorem respId_completed (d : Datagram) (n : ℕ) (hn : n + 1 < maxRtpMsgSize) :
    (d.completed n hn).respId = d.respId := by
  apply Option.some.inj
  rw [← Datagram.head?_bytes]
  change (d.bytes ++ _).head? = _
  rw [List.head?_append, d.head?_bytes, Option.some_or]

/-- The handlers of the start-up see the opcode, the source and the receive array. -/
theorem onDatagram_congr (P : Platform) (main : DeviceServer) (d d' : Datagram) (w : World)
    (hid : d'.respId = d.respId) (hsrc : d'.src = d.src) (hmsg : d'.msg = d.msg)
    (ho : w.ctx.mStatus ≠ .online) : onDatagram P main d' w = onDatagram P main d w := by
  have hptr : d'.ptr 2 = d.ptr 2 := congrArg (fun msg => (⟨msg, 2⟩ : BytePtr maxRtpMsgSize)) hmsg
  cases hs : w.ctx.mStatus with
  | online => exact absurd hs ho
  | _ => simp only [onDatagram, hs, hid, hsrc, hptr]

/-- The next status has been entered, with fresh counters and its request sent once. -/
structure Advanced (w w' : World) : Prop where
  rank : w'.ctx.mStatus.rank = w.ctx.mStatus.rank + 1
  mRecvRetryCount : w'.ctx.mRecvRetryCount = 0
  mSendRetryCount : w'.ctx.mSendRetryCount = 0
  request : ∃ events, w'.log = events ++ w.log ∧ events.countP w'.ctx.mStatus.isRequest = 1

theorem advanced_of_accepts (P : Platform) (main : DeviceServer) (d : Datagram) (w : World)
    (hinv : LoopInvariant w) (hp : w.ctx.mStatus.Probing) (ha : w.Accepts d)
    (hn : w.ctx.mStatus = .waitCsPhase3 → w.NameFits) :
    ∃ w', onDatagram P main d w = .ok w' ∧ Advanced w w' := by
  cases hs : w.ctx.mStatus with
  | startup | waitDNS | online =>
    rw [hs] at hp
    exact hp.elim
  | waitCsPhase1 =>
    refine ⟨_, onDatagram_phase1 P main d w hs ha, ?_, rfl, rfl, [_], rfl, rfl⟩
    rw [hs]
    rfl
  | waitCsPhase2 =>
    obtain ⟨a, hm⟩ := hinv.mapped (Or.inl hs)
    obtain ⟨w₁, heq⟩ := onDatagram_phase2 P main d w hs ha
    obtain ⟨ip, mode, flag, events, he, hcount, -⟩ := afterPhase2_eq a d w
    rw [hm, World.orFault_some, ok_bind, he] at heq
    refine ⟨_, heq, ?_, rfl, rfl, events, rfl, hcount⟩
    rw [hs]
    rfl
  | waitCsPhase3 =>
    obtain ⟨a, hm⟩ := hinv.mapped (Or.inr hs)
    obtain ⟨w₁, heq⟩ := onDatagram_phase3 P main d w hs ha (hn hs)
    rw [hm, World.orFault_some, ok_bind] at heq
    refine ⟨_, heq, ?_, rfl, rfl, [_, _], rfl, rfl⟩
    rw [hs]
    rfl

theorem replySize_lt (s : DSStatus) : s.replySize + 1 < maxRtpMsgSize := by
  cases s <;> decide

/-- A reply of any length is taken as its completion by zeros and ends its phase. -/
theorem short_reply_completed (P : Platform) (main : DeviceServer) (w : World)
    (hreached : Reached P main w) (d : Datagram) (hp : w.ctx.mStatus.Probing) (ha : w.Accepts d)
    (hn : w.ctx.mStatus = .waitCsPhase3 → w.NameFits) :
    ∃ w', dtplinkDSLoop P main w (.data d.src d.bytes) = .ok w' ∧
      dtplinkDSLoop P main w (.data d.src
        (d.bytes ++ List.replicate (w.ctx.mStatus.replySize - d.bytes.length) 0)) = .ok w' ∧
      Advanced w w' := by
  have hsize := replySize_lt w.ctx.mStatus
  obtain ⟨w', hw', hadv⟩ :=
    advanced_of_accepts P main d w (loopInvariant_reached hreached) hp ha hn
  refine ⟨w', ?_, ?_, hadv⟩
  · simpa only [dtplinkDSLoop, dtplinkRecv_data d] using hw'
  · have hcompleted := onDatagram_congr P main d (d.completed _ hsize) w
      (respId_completed d _ hsize) rfl (msg_completed d _ hsize) hp.waiting.ne_online
    have hrecv := dtplinkRecv_data (d.completed _ hsize)
    change dtplinkRecv (.data d.src (d.bytes ++ List.replicate _ 0)) = _ at hrecv
    simp only [dtplinkDSLoop, hrecv, hcompleted, hw']

def bareReply : Datagram :=
  ⟨centerServer, [bindReqToServer1Port1], by decide, by decide⟩

theorem short_reply_completed_bareReply : ∃ w',
    dtplinkDSLoop .linux (fun _ _ => .done) (bootWorld sampleName)
      (.data bareReply.src bareReply.bytes) = .ok w' ∧
    dtplinkDSLoop .linux (fun _ _ => .done) (bootWorld sampleName) (.data bareReply.src
      (bareReply.bytes ++ List.replicate
        ((bootWorld sampleName).ctx.mStatus.replySize - bareReply.bytes.length) 0)) = .ok w' ∧
    Advanced (bootWorld sampleName) w' :=
  short_reply_completed .linux _ (bootWorld sampleName) reached_bootWorld bareReply trivial
    (by decide) (by decide)

theorem bare_reply_advances : Reached .linux (fun _ _ => .done) (bootWorld sampleName) ∧
    (bootWorld sampleName).ctx.mStatus = .waitCsPhase1 ∧
    (bootWorld sampleName).Accepts bareReply ∧
    bareReply.bytes.length < (bootWorld sampleName).ctx.mStatus.replySize ∧
    ¬ ∃ w', dtplinkDSLoop .linux (fun _ _ => .done) (bootWorld sampleName)
      (.data bareReply.src bareReply.bytes) = .ok w' ∧
      w'.ctx.mStatus = (bootWorld sampleName).ctx.mStatus := by
  refine ⟨reached_bootWorld, rfl, by decide, by decide, ?_⟩
  rintro ⟨w', hw', hs⟩
  obtain rfl := Except.ok.inj hw'
  exact absurd hs (by decide)

end OpenDSLite
