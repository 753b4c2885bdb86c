import OpenDSLite.ForwardStatus
import OpenDSLite.RetryAccounting
import OpenDSLite.ReplyLoops
import OpenDSLite.RequestService

/-!
# What the loop sends

A datagram of the start-up goes to one of the servers the context names, and one of the service
answers the client that has just been heard. The retry counters bound the first kind by 37 over the
whole start-up, and a datagram that is no request causes none of the second. The heartbeats of the
keep-alive thread are not among them.
-/

namespace OpenDSLite

open ByteArea

def sentOf (events : List Event) : List Sent :=
  events.filterMap fun
    | .send s => some s
    | _ => none

theorem sentOf_append (events log : List Event) :
    sentOf (events ++ log) = sentOf events ++ sentOf log := by
  exact List.filterMap_append

theorem sentOf_map_send (out : List Sent) : sentOf (out.map .send) = out := by
  rw [sentOf, List.filterMap_map]
  exact List.filterMap_some

/-- The datagrams that probe and register, with the phases from which on the second server is
asked. -/
inductive StartupDatagram (ctx : CServerContext) : Sent → Prop
  | punchCenter (port : UInt16) (hport : port = ctx.mCS1.port ∨ port = ctx.mCS1.port + 1) :
      StartupDatagram ctx
        ⟨.pingCenterServer, ctx.mRemoteFd, [serverPunching], { ctx.mCS1 with port }⟩
  | pingCenter : StartupDatagram ctx
      ⟨.pingCenterServer, ctx.mRemoteFd, [bindReqToServer1Port1], ctx.mCS1⟩
  | pingCenterAgain : StartupDatagram ctx ⟨.pingCenterServerAgain, ctx.mRemoteFd,
      [bindReqToServer1Port2], { ctx.mCS1 with port := ctx.mCS1.port + 1 }⟩
  | punchAux (hrank : 3 ≤ ctx.mStatus.rank) (port : UInt16)
      (hport : port = ctx.mCS2.port ∨ port = ctx.mCS2.port - 1) : StartupDatagram ctx
        ⟨.pingAuxServer, ctx.mRemoteFd, [serverPunching], { ctx.mCS2 with port }⟩
  | pingAux (hrank : 3 ≤ ctx.mStatus.rank) : StartupDatagram ctx
      ⟨.pingAuxServer, ctx.mRemoteFd, [bindReqToServer2Port1], ctx.mCS2⟩
  | register (mode : RunningMode) (hfits : ctx.mID.val.length + 5 ≤ maxRtpMsgSize) :
      StartupDatagram ctx
        ⟨.registerDS, ctx.mRemoteFd, registrationText ctx.mID mode, ctx.mDNS⟩

/-- The datagrams that answer `d`. -/
inductive ClientDatagram (ctx : CServerContext) (d : Datagram) : Sent → Prop
  | punch (h43 : d.respId = queryDSIPToDNSServer) : ClientDatagram ctx d
      ⟨.processDNSQueryRequest, ctx.mRemoteFd, [serverPunching], d.addressAt 2⟩
  | echo (h44 : d.respId = queryDSIPToLocalDS) (hname : ctx.mID = d.name) : ClientDatagram ctx d
      ⟨.processLocalDNSQueryRequest, ctx.mRemoteFd, [queryDSIPToLocalDS], d.src⟩
  | reply (hid : d.IsDirect ∨ d.IsRelayed) (hn : d.headerSize ≤ d.bytes.length)
      (response : List UInt8) (hfit : d.headerSize + response.length ≤ maxRtpMsgSize) :
      ClientDatagram ctx d
        ⟨d.replySender, ctx.mRemoteFd, d.replyHeader ++ response, d.src⟩

/-- The first bytes of the requests an online server answers. -/
def requestOpcodes : List UInt8 :=
  [queryDSIPToDNSServer, queryDSIPToLocalDS, queryDataToRemoteDS, queryDataToLocalDS,
    queryDataRelayToRemoteDS, queryDataHttpToRemoteDS]

/-- The payload is a request, and not the echo that answers one. -/
def asks (payload : List UInt8) : Bool :=
  requestOpcodes.contains (payload.headD 0) && payload != [queryDSIPToLocalDS]

def RecvFrom.asks : RecvFrom → Bool
  | .error => false
  | .data _ payload => OpenDSLite.asks payload

/-- The start-up datagrams the retries leave at the entry into a status. -/
def DSStatus.sendsLeft : DSStatus → ℕ
  | startup => 0
  | waitCsPhase1 => 35
  | waitCsPhase2 => 26
  | waitCsPhase3 => 17
  | waitDNS => 8
  | online => 0

/-- The first request to the second server goes with two punches. -/
def World.punchesLeft (w : World) : ℕ :=
  if w.firstPingAuxServer = true ∧ w.ctx.mStatus.rank ≤ 3 then 2 else 0

/-- The start-up datagrams still to be sent, at most. -/
def World.sendsLeft (w : World) : ℕ :=
  w.ctx.mStatus.sendsLeft - w.ctx.mSendRetryCount.toNat + w.punchesLeft

/-- What an iteration sends, newest first: where it goes and what pays for it. -/
structure StepSends (w : World) (r : RecvFrom) (w' : World) (out : List Sent) : Prop where
  log : sentOf w'.log = out ++ sentOf w.log
  source : ∀ s ∈ out, StartupDatagram w'.ctx s ∨
    ∃ d, dtplinkRecv r = some d ∧ ClientDatagram w'.ctx d s
  paid : out.length + w'.sendsLeft ≤ w.sendsLeft + (if r.asks then 1 else 0)

theorem ClientDatagram.isRequest {ctx : CServerContext} {d : Datagram} {s : Sent}
    (h : ClientDatagram ctx d s) : d.respId ∈ requestOpcodes := by
  cases h with
  | punch h43 => simp [requestOpcodes, h43]
  | echo h44 hname => simp [requestOpcodes, h44]
  | reply hid hn response hfit =>
    rcases hid with (h | h) | h | h <;> simp [requestOpcodes, h]

/-- A datagram that is answered asks for something. -/
theorem asks_of_clientDatagram {ctx : CServerContext} {r : RecvFrom} {d : Datagram} {s : Sent}
    (hr : dtplinkRecv r = some d) (hname : ctx.mID.val ≠ []) (h : ClientDatagram ctx d s) :
    r.asks = true := by
  cases r with
  | error => exact absurd hr (by simp [dtplinkRecv])
  | data src payload =>
    obtain ⟨-, hbytes⟩ := dtplinkRecv_some src payload d hr
    have hmem := h.isRequest
    rw [Datagram.respId, hbytes] at hmem
    have hecho : payload ≠ [queryDSIPToLocalDS] := by
      rintro rfl
      cases h with
      | punch h43 =>
        rw [Datagram.respId, hbytes] at h43
        exact absurd h43 (by decide)
      | echo h44 he =>
        apply hname
        rw [he]
        exact name_echo d hbytes
      | reply hid =>
        unfold Datagram.IsDirect Datagram.IsRelayed at hid
        rw [Datagram.respId, hbytes] at hid
        exact absurd hid (by decide)
    simp only [RecvFrom.asks, OpenDSLite.asks, Bool.and_eq_true, List.contains_iff_mem, bne_iff_ne]
    exact ⟨hmem, hecho⟩

/-- What was prescribed stays so while the servers stay and the status goes forward. -/
theorem StartupDatagram.mono {ctx ctx' : CServerContext} {s : Sent} (h : StartupDatagram ctx s)
    (hid : ctx'.mID = ctx.mID) (hdns : ctx'.mDNS = ctx.mDNS) (hcs1 : ctx'.mCS1 = ctx.mCS1)
    (hfd : ctx'.mRemoteFd = ctx.mRemoteFd) (hrank : ctx.mStatus.rank ≤ ctx'.mStatus.rank)
    (hcs2 : 3 ≤ ctx.mStatus.rank → ctx'.mCS2 = ctx.mCS2) : StartupDatagram ctx' s := by
  cases h with
  | punchCenter port hport =>
    rw [← hfd, ← hcs1]
    exact .punchCenter port (hcs1 ▸ hport)
  | pingCenter =>
    rw [← hfd, ← hcs1]
    exact .pingCenter
  | pingCenterAgain =>
    rw [← hfd, ← hcs1]
    exact .pingCenterAgain
  | punchAux hphase port hport =>
    rw [← hfd, ← hcs2 hphase]
    exact .punchAux (hphase.trans hrank) port (hcs2 hphase ▸ hport)
  | pingAux hphase =>
    rw [← hfd, ← hcs2 hphase]
    exact .pingAux (hphase.trans hrank)
  | register mode hfits =>
    rw [← hfd, ← hid, ← hdns]
    exact .register mode (hid ▸ hfits)

/-- The second server is asked with two punches in front when it is asked for the first time. -/
theorem pingAuxServer_sent (w : World) : ∃ out : List Sent, pingAuxServer w = { w with
      ctx := { w.ctx with mStatus := .waitCsPhase3 }
      firstPingAuxServer := false
      log := out.map .send ++ w.log } ∧
    (∀ s ∈ out, StartupDatagram { w.ctx with mStatus := .waitCsPhase3 } s) ∧
    out.length = 1 + (if w.firstPingAuxServer then 2 else 0) := by
  unfold pingAuxServer
  by_cases hf : w.firstPingAuxServer = true
  · simp only [if_pos hf]
    refine ⟨[_, _, _], rfl, ?_, rfl⟩
    intro s hs
    simp only [List.mem_cons, List.not_mem_nil, or_false] at hs
    rcases hs with rfl | rfl | rfl
    · exact .pingAux le_rfl
    · exact .punchAux le_rfl _ (Or.inr rfl)
    · exact .punchAux le_rfl _ (Or.inl rfl)
  · have hfalse := Bool.eq_false_of_not_eq_true hf
    simp only [if_neg hf]
    refine ⟨[_], by rw [← hfalse]; rfl, ?_, rfl⟩
    intro s hs
    obtain rfl := List.mem_singleton.mp hs
    exact .pingAux le_rfl

theorem punchesLeft_of_rank (w : World) (h : 4 ≤ w.ctx.mStatus.rank) : w.punchesLeft = 0 :=
  if_neg (fun hp => absurd hp.2 (by omega))

theorem sendsLeft_online (w : World) (h : w.ctx.mStatus = .online) : w.sendsLeft = 0 := by
  rw [World.sendsLeft, punchesLeft_of_rank w (by rw [h]; decide), h]
  exact Nat.zero_sub _

theorem punchesLeft_congr (w w' : World) (hflag : w'.firstPingAuxServer = w.firstPingAuxServer)
    (h : w.ctx.mStatus.rank ≤ 3) (h' : w'.ctx.mStatus.rank ≤ 3) :
    w'.punchesLeft = w.punchesLeft := by
  simp only [World.punchesLeft, hflag, h, h', and_true]

/-- A retransmission sends the request of its status, and first punches still left. -/
theorem request_sent (w : World) (hw : w.ctx.mStatus.Waiting)
    (hf : w.firstPingCenterServer = false) (hn : w.ctx.mStatus = .waitDNS → w.NameFits) :
    ∃ (out : List Sent) (flag : Bool), w.request = { w with
      firstPingAuxServer := flag
      log := out.map .send ++ w.log } ∧
    (∀ s ∈ out, StartupDatagram w.ctx s) ∧
    out.length + ({ w with firstPingAuxServer := flag } : World).punchesLeft =
      1 + w.punchesLeft := by
  have hone : ∀ s₀, StartupDatagram w.ctx s₀ → ∀ s ∈ [s₀], StartupDatagram w.ctx s := by
    intro s₀ h s hs
    obtain rfl := List.mem_singleton.mp hs
    exact h
  unfold World.request
  cases hs : w.ctx.mStatus with
  | startup => exact absurd hw (by simp [hs, DSStatus.Waiting])
  | online => exact absurd hw (by simp [hs, DSStatus.Waiting])
  | waitCsPhase1 =>
    refine ⟨[⟨.pingCenterServer, w.ctx.mRemoteFd, [bindReqToServer1Port1], w.ctx.mCS1⟩],
      w.firstPingAuxServer, ?_, hone _ .pingCenter, rfl⟩
    have hne : ¬ w.firstPingCenterServer = true := by simp [hf]
    simp only [pingCenterServer, if_neg hne, World.setStatus, ← hs]
    rfl
  | waitCsPhase2 =>
    refine ⟨[_], w.firstPingAuxServer, ?_, hone _ .pingCenterAgain, rfl⟩
    simp only [pingCenterServerAgain, World.setStatus, ← hs]
    rfl
  | waitCsPhase3 =>
    obtain ⟨out, he, hsource, hlen⟩ := pingAuxServer_sent w
    refine ⟨out, false, by simp only [he, ← hs], fun s hmem => ?_, ?_⟩
    · have hctx : { w.ctx with mStatus := .waitCsPhase3 } = w.ctx := by rw [← hs]
      exact hctx ▸ hsource s hmem
    · have hrank : w.ctx.mStatus.rank ≤ 3 := by
        rw [hs]
        decide
      simp only [World.punchesLeft, hlen, hrank, and_true, Bool.false_eq_true, if_false,
        Nat.add_zero]
  | waitDNS =>
    refine ⟨[_], w.firstPingAuxServer, ?_, hone _ (.register w.ctx.mRunningMode (hn hs)), rfl⟩
    simp only [World.registered, World.setStatus, ← hs]
    rfl

/-- What the sends of an iteration depend on. -/
structure SendInvariant (w : World) : Prop where
  loop : LoopInvariant w
  punched : w.firstPingCenterServer = false
  named : w.ctx.mID.val ≠ []

theorem SendInvariant.send_le {w : World} (h : SendInvariant w) (hw : w.ctx.mStatus.Waiting) :
    w.ctx.mSendRetryCount.toNat ≤ 8 := by
  obtain ⟨t, ht⟩ := h.loop.timed hw
  rw [ht.2]
  exact t.send_le

theorem stepSends_reply (w w' : World) (r : RecvFrom) (s : Sent) (h : SendInvariant w)
    (hw : w.ctx.mStatus.Waiting) (hlog : sentOf w'.log = s :: sentOf w.log)
    (hsource : StartupDatagram w'.ctx s) (hsend : w'.ctx.mSendRetryCount = 0)
    (hleft : w'.ctx.mStatus.sendsLeft + 9 ≤ w.ctx.mStatus.sendsLeft)
    (hpunches : w'.punchesLeft ≤ w.punchesLeft) : StepSends w r w' [s] where
  log := hlog
  source s' hs' := Or.inl (List.mem_singleton.mp hs' ▸ hsource)
  paid := by
    have hle := h.send_le hw
    simp only [World.sendsLeft, hsend, List.length_singleton, UInt8.toNat_zero]
    omega

theorem stepSends_silent (w w' : World) (r : RecvFrom) (hlog : sentOf w'.log = sentOf w.log)
    (hleft : w'.sendsLeft ≤ w.sendsLeft) : StepSends w r w' [] where
  log := hlog
  source s hs := absurd hs List.not_mem_nil
  paid := by
    rw [List.length_nil, Nat.zero_add]
    exact hleft.trans (Nat.le_add_right _ _)

theorem stepSends_afterPhase2 (w : World) (r : RecvFrom) (a : IPv4Address) (d : Datagram)
    (h : SendInvariant w) (hs : w.ctx.mStatus = .waitCsPhase2) :
    ∃ out, StepSends w r (w.afterPhase2 a d) out := by
  obtain ⟨out, he, hsource, hlen⟩ :=
    pingAuxServer_sent { w.resetAllRetryCounts with mip2 := some (d.addressAt 2) }
  have hctx : ∃ ip mode, w.afterPhase2 a d = { w with
      ctx := { w.ctx with
        mIP := ip, mRunningMode := mode, mStatus := .waitCsPhase3
        mRecvRetryCount := 0, mSendRetryCount := 0 }
      firstPingAuxServer := false
      mip2 := some (d.addressAt 2)
      log := out.map .send ++ w.log } := by
    simp only [World.afterPhase2, he]
    split_ifs
    · exact ⟨_, _, rfl⟩
    · exact ⟨_, _, rfl⟩
  obtain ⟨ip, mode, hw'⟩ := hctx
  have hrank : w.ctx.mStatus.rank ≤ 3 := by
    rw [hs]
    decide
  have hle := h.send_le (by rw [hs]; trivial)
  refine ⟨out, ⟨?_, fun s hmem => Or.inl ?_, ?_⟩⟩
  · rw [hw', sentOf_append, sentOf_map_send]
  · rw [hw']
    exact (hsource s hmem).mono rfl rfl rfl rfl le_rfl (fun _ => rfl)
  · rw [hw', hlen]
    have hpunches : w.punchesLeft = if w.firstPingAuxServer = true then 2 else 0 := by
      simp only [World.punchesLeft, hrank, and_true]
    have hnone : (if w.resetAllRetryCounts.firstPingAuxServer = true then 2 else 0) =
      w.punchesLeft := hpunches.symm
    simp only [World.sendsLeft, hs, hnone]
    change 1 + w.punchesLeft + 17 ≤ 26 - _ + w.punchesLeft + _
    omega

theorem stepSends_retransmitted (w : World) (r : RecvFrom) (h : SendInvariant w)
    (hw : w.ctx.mStatus.Waiting) (hsend : w.ctx.mSendRetryCount < sendRetryCountMax)
    (hn : w.ctx.mStatus = .waitDNS → w.NameFits) :
    ∃ out, StepSends w r w.addRecvRetryCount.resetRecvRetryCount.request.addSendRetryCount
      out := by
  obtain ⟨out, flag, he, hsource, hlen⟩ :=
    request_sent w.addRecvRetryCount.resetRecvRetryCount hw h.punched hn
  have hs8 : w.ctx.mSendRetryCount.toNat < 8 := UInt8.lt_iff_toNat_lt.mp hsend
  have hadd : (w.ctx.mSendRetryCount + 1).toNat = w.ctx.mSendRetryCount.toNat + 1 := by
    rw [UInt8.toNat_add]
    change (w.ctx.mSendRetryCount.toNat + 1) % 256 = _
    omega
  have hleft : 8 ≤ w.ctx.mStatus.sendsLeft := by
    cases hs : w.ctx.mStatus with
    | startup | online => exact absurd hw (by simp [hs, DSStatus.Waiting])
    | _ => decide
  rw [he]
  refine ⟨out, ⟨?_, fun s hmem => Or.inl ?_, ?_⟩⟩
  · change sentOf (out.map .send ++ w.log) = _
    rw [sentOf_append, sentOf_map_send]
  · exact (hsource s hmem).mono rfl rfl rfl rfl le_rfl (fun _ => rfl)
  · change out.length + (w.ctx.mStatus.sendsLeft - (w.ctx.mSendRetryCount + 1).toNat +
      ({ w with firstPingAuxServer := flag } : World).punchesLeft) ≤
      w.ctx.mStatus.sendsLeft - w.ctx.mSendRetryCount.toNat + w.punchesLeft + _
    change out.length + ({ w with firstPingAuxServer := flag } : World).punchesLeft =
      1 + w.punchesLeft at hlen
    omega

theorem stepSends_gaveUp (w : World) (r : RecvFrom) (h : SendInvariant w)
    (hw : w.ctx.mStatus.Waiting)
    (hn : w.ctx.mStatus = .waitCsPhase2 ∨ w.ctx.mStatus = .waitCsPhase3 → w.NameFits) :
    ∃ out, StepSends w r w.addRecvRetryCount.gaveUp.resetAllRetryCounts out := by
  rcases w.gaveUp_eq hw with ⟨-, hg⟩ | ⟨hs, hg⟩
  · rw [hg]
    exact ⟨[], stepSends_silent w _ r rfl ((sendsLeft_online _ rfl).trans_le (Nat.zero_le _))⟩
  · rw [hg]
    have hleft : DSStatus.waitDNS.sendsLeft + 9 ≤ w.ctx.mStatus.sendsLeft := by
      rcases hs with hs | hs <;> rw [hs] <;> decide
    exact ⟨[_], stepSends_reply w _ r _ h hw rfl (.register .remoteRelayMode (hn hs)) rfl hleft
      ((punchesLeft_of_rank _ le_rfl).trans_le (Nat.zero_le _))⟩

/-- An online server sends at most one datagram, to a client that asks. -/
theorem stepSends_served (P : Platform) (main : DeviceServer) (w w' : World) (r : RecvFrom)
    (d : Datagram) (hr : dtplinkRecv r = some d) (hs : w.ctx.mStatus = .online)
    (hname : w.ctx.mID.val ≠ []) (hok : processClientRequests P main d.respId (d.ptr 2)
      (Int16.ofInt (d.msgLen.toInt - 2)) d.src w = .ok w') : ∃ out, StepSends w r w' out := by
  have hanswered : ∀ s, sentOf w'.log = s :: sentOf w.log → w'.ctx.mStatus = w.ctx.mStatus →
      ClientDatagram w'.ctx d s → w'.ctx.mID = w.ctx.mID → StepSends w r w' [s] := by
    intro s hlog hs' hclient hid
    have hasks : r.asks = true := asks_of_clientDatagram hr (hid ▸ hname) hclient
    have hzero := sendsLeft_online w' (hs'.trans hs)
    refine ⟨hlog, fun s' hmem => Or.inr ⟨d, hr, List.mem_singleton.mp hmem ▸ hclient⟩, ?_⟩
    rw [hzero, if_pos hasks, List.length_singleton]
    omega
  have hserving := serving P main w d
  rw [hok] at hserving
  cases hserving with
  | replied hid hn req resp ha hfit =>
    have hlen : (resp.buffer.bytes.take resp.length.toNat).length ≤ resp.length.toNat :=
      List.length_take_le _ _
    exact ⟨[_], hanswered _ rfl rfl (.reply hid hn _ (by omega)) rfl⟩
  | punched hid h43 => exact ⟨[_], hanswered _ rfl rfl (.punch h43) rfl⟩
  | named hid h44 hname' => exact ⟨[_], hanswered _ rfl rfl (.echo h44 hname') rfl⟩
  | cleared hid h43 hname' => exact ⟨[], stepSends_silent w _ r rfl le_rfl⟩

/-- Every iteration that stays inside its objects sends what is prescribed and paid for. -/
theorem stepSends_of_ok (P : Platform) (main : DeviceServer) (w w' : World) (r : RecvFrom)
    (h : SendInvariant w) (hok : dtplinkDSLoop P main w r = .ok w') :
    ∃ out, StepSends w r w' out := by
  have hregisters : w.Registers r → w.NameFits :=
    ((dtplinkDSLoop_ok_iff P main w r h.loop.mapped).1 ⟨w', hok⟩).1
  have hstep := loopStep_of_ok P main w w' r hok
  cases hstep with
  | phase1Reply d hr hs ha =>
    refine ⟨[_], stepSends_reply w _ r _ h (by rw [hs]; trivial) rfl .pingCenterAgain rfl ?_ ?_⟩
    · rw [hs]
      exact le_rfl
    · have hrank : w.ctx.mStatus.rank = 1 := by rw [hs]; rfl
      exact (punchesLeft_congr w (w.afterPhase1 d) rfl (by omega) (show 2 ≤ 3 by decide)).le
  | phase2Reply d hr hs ha a hm => exact stepSends_afterPhase2 w r a d h hs
  | phase3Reply d hr hs ha a hm hn =>
    refine ⟨[_], stepSends_reply w _ r _ h (by rw [hs]; trivial) rfl
      (.register w.ctx.mRunningMode hn) rfl ?_
      ((punchesLeft_of_rank _ le_rfl).trans_le (Nat.zero_le _))⟩
    rw [hs]
    exact le_rfl
  | dnsReply d hr hs ha =>
    exact ⟨[], stepSends_silent w _ r rfl ((sendsLeft_online _ rfl).trans_le (Nat.zero_le _))⟩
  | ignored d hr hs ha => exact ⟨[], stepSends_silent w w r rfl le_rfl⟩
  | served d _ hr hs hserved =>
    have hserve : processClientRequests P main d.respId (d.ptr 2)
        (Int16.ofInt (d.msgLen.toInt - 2)) d.src w = .ok w' := by
      simpa only [dtplinkDSLoop, hr, onDatagram, hs] using hok
    exact stepSends_served P main w w' r d hr hs h.named hserve
  | counted hr hc => exact ⟨[], stepSends_silent w _ r rfl le_rfl⟩
  | retransmitted hr hw hsend hrecv =>
    exact stepSends_retransmitted w r h hw hsend (fun hs => hregisters (by
      simp only [World.Registers, hr]
      exact Or.inr ⟨hsend, hrecv, hs⟩))
  | gaveUp hr hw hsend =>
    exact stepSends_gaveUp w r h hw (fun hs => hregisters (by
      simp only [World.Registers, hr]
      exact Or.inl ⟨hsend, hs⟩))

theorem firstPingCenterServer_request (w : World) (h : w.firstPingCenterServer = false) :
    w.request.firstPingCenterServer = false := by
  have hne : ¬ w.firstPingCenterServer = true := by simp [h]
  unfold World.request
  cases w.ctx.mStatus with
  | waitCsPhase1 =>
    simp only [pingCenterServer, if_neg hne]
    exact h
  | waitCsPhase3 =>
    obtain ⟨out, he, -⟩ := pingAuxServer_sent w
    simp only [he]
    exact h
  | startup | online | waitCsPhase2 | waitDNS => exact h

theorem sendInvariant_step (w w' : World) (r : RecvFrom) (h : SendInvariant w)
    (hstep : LoopStep w r w') : SendInvariant w' := by
  refine ⟨loopInvariant_step w w' r h.loop hstep, ?_, ?_⟩
  · cases hstep with
    | phase2Reply d hr hs ha a hm =>
      obtain ⟨ip, mode, flag, events, he, -⟩ := afterPhase2_eq a d w
      rw [he]
      exact h.punched
    | served d w' hr hs hserved =>
      obtain ⟨req, resp, events, rfl, -⟩ := hserved
      exact h.punched
    | retransmitted hr hw hsend hrecv => exact firstPingCenterServer_request _ h.punched
    | gaveUp hr hw hsend =>
      rcases w.gaveUp_eq hw with ⟨-, hg⟩ | ⟨-, hg⟩
      · rw [hg]
        exact h.punched
      · rw [hg]
        exact h.punched
    | phase1Reply | phase3Reply | dnsReply | ignored | counted => exact h.punched
  · rw [(frame_step w w' r hstep).mID]
    exact h.named

/-- The loop starts behind a successful initialisation, in the state it leaves. -/
theorem started_ready (w : World) (h : Started w) : ∃ (env : Environment) (s : CString)
    (addr : UInt32) (w₀ : World), AcceptableName s ∧ env.EndpointsExist w₀ ∧
      w = enterLoop (pingCenterServer (Environment.ready (env.configured s addr w₀))) := by
  obtain ⟨env, id, dns, w₀, w₁, hinit, rfl⟩ := h
  by_cases hnet : env.initNetwork = true
  · have houtcome := env.initOutcome id dns w₀ hnet
    rw [hinit] at houtcome
    cases houtcome with
    | initialised s hs addr hne hr hend => exact ⟨env, s, addr, w₀, hs, hend, rfl⟩
  · rw [Environment.dtplinkDSInit, if_neg hnet] at hinit
    exact absurd hinit (by simp)

theorem sendInvariant_started (w : World) (h : Started w) : SendInvariant w := by
  refine ⟨loopInvariant_started w h, ?_, ?_⟩
  · obtain ⟨env, s, addr, w₀, -, -, rfl⟩ := started_ready w h
    unfold pingCenterServer
    split_ifs with hf
    · rfl
    · exact Bool.eq_false_of_not_eq_true hf
  · obtain ⟨env, s, addr, w₀, hs, -, rfl⟩ := started_ready w h
    change (pingCenterServer _).ctx.mID.val ≠ []
    rw [pingCenterServer_ctx]
    exact hs.1

/-- The status, and the servers once they are known, as a run leaves them. -/
structure Onward (w w' : World) : Prop where
  frame : Frame w w'
  mCS2 : 2 ≤ w.ctx.mStatus.rank → w'.ctx.mCS2 = w.ctx.mCS2

theorem onward_of_run (P : Platform) (main : DeviceServer) (w w' : World)
    (polls : List RecvFrom) (hrun : runLoop P main w polls = .ok w') : Onward w w' := by
  refine PartialRun.relation_of_run Onward (fun w => ⟨(forward_refl w).frame, fun _ => rfl⟩)
    (fun u v w h h' => ⟨h.frame.trans h'.frame, fun hrank => ?_⟩) (fun u r v hok => ?_)
    w w' polls hrun
  · exact (h'.mCS2 (hrank.trans h.frame.rank)).trans (h.mCS2 hrank)
  · have hstep := loopStep_of_ok P main u v r hok
    refine ⟨frame_step u v r hstep, fun hrank => ?_⟩
    by_contra hne
    rw [(mCS2_step u v r hstep hne).1] at hrank
    exact absurd hrank (by decide)

theorem StartupDatagram.onward {w w' : World} {s : Sent} (h : StartupDatagram w.ctx s)
    (hon : Onward w w') : StartupDatagram w'.ctx s :=
  h.mono hon.frame.mID hon.frame.mDNS hon.frame.mCS1 hon.frame.mRemoteFd hon.frame.rank
    (fun hrank => hon.mCS2 (Nat.le_of_succ_le hrank))

theorem ClientDatagram.onward {w w' : World} {d : Datagram} {s : Sent}
    (h : ClientDatagram w.ctx d s) (hon : Onward w w') : ClientDatagram w'.ctx d s := by
  cases h with
  | punch h43 =>
    rw [← hon.frame.mRemoteFd]
    exact .punch h43
  | echo h44 hname =>
    rw [← hon.frame.mRemoteFd]
    exact .echo h44 (hon.frame.mID.trans hname)
  | reply hid hn response hfit =>
    rw [← hon.frame.mRemoteFd]
    exact .reply hid hn response hfit

/-- What a run sends belongs to the start-up or answers one of the datagrams it received. -/
theorem sources_of_run (P : Platform) (main : DeviceServer) (w w' : World)
    (polls : List RecvFrom) (h : SendInvariant w) (hrun : runLoop P main w polls = .ok w') :
    ∃ out, sentOf w'.log = out ++ sentOf w.log ∧ ∀ s ∈ out, StartupDatagram w'.ctx s ∨
      ∃ r ∈ polls, ∃ d, dtplinkRecv r = some d ∧ ClientDatagram w'.ctx d s := by
  induction polls generalizing w with
  | nil =>
    obtain rfl := Except.ok.inj hrun
    exact ⟨[], rfl, fun s hs => absurd hs List.not_mem_nil⟩
  | cons r rest ih =>
    obtain ⟨u, hu, hrest⟩ := PartialRun.run_cons_ok_imp _ w w' r rest hrun
    obtain ⟨first, hfirst⟩ := stepSends_of_ok P main w u r h hu
    obtain ⟨later, hlog, hlater⟩ :=
      ih u (sendInvariant_step w u r h (loopStep_of_ok P main w u r hu)) hrest
    have hon := onward_of_run P main u w' rest hrest
    refine ⟨later ++ first, by rw [hlog, hfirst.log, List.append_assoc], fun s hs => ?_⟩
    rcases List.mem_append.mp hs with hs | hs
    · rcases hlater s hs with hstart | ⟨r', hr', d, hd, hclient⟩
      · exact Or.inl hstart
      · exact Or.inr ⟨r', List.mem_cons_of_mem r hr', d, hd, hclient⟩
    · rcases hfirst.source s hs with hstart | ⟨d, hd, hclient⟩
      · exact Or.inl (hstart.onward hon)
      · exact Or.inr ⟨r, List.mem_cons_self, d, hd, hclient.onward hon⟩

theorem sendsLeft_step (P : Platform) (main : DeviceServer) (w w' : World) (r : RecvFrom)
    (h : SendInvariant w) (hok : dtplinkDSLoop P main w r = .ok w') : SendInvariant w' ∧
      (sentOf w'.log).length + w'.sendsLeft ≤
        (sentOf w.log).length + w.sendsLeft + (if r.asks then 1 else 0) := by
  obtain ⟨out, hout⟩ := stepSends_of_ok P main w w' r h hok
  refine ⟨sendInvariant_step w w' r h (loopStep_of_ok P main w w' r hok), ?_⟩
  have hpaid := hout.paid
  rw [hout.log, List.length_append]
  omega

theorem sendsLeft_started (w : World) (h : Started w) : w.sendsLeft ≤ 37 := by
  obtain ⟨hs, -, -, hsend⟩ := started_spec w h
  rw [World.sendsLeft, hs, hsend]
  unfold World.punchesLeft
  split_ifs
  · exact le_rfl
  · exact Nat.le_add_right 35 2

/-- The loop sends no more than 37 datagrams and one for each request it receives. -/
theorem sends_bounded (P : Platform) (main : DeviceServer) (w w' : World)
    (polls : List RecvFrom) (hs : Started w) (hrun : runLoop P main w polls = .ok w') :
    (sentOf w'.log).length ≤ (sentOf w.log).length + 37 + polls.countP RecvFrom.asks := by
  have hle := PartialRun.spent_le SendInvariant (fun w => (sentOf w.log).length)
    World.sendsLeft RecvFrom.asks (fun v r u hv hu => sendsLeft_step P main v u r hv hu) w w'
    polls (sendInvariant_started w hs) hrun
  have hstart := sendsLeft_started w hs
  omega

/-- Every server answers, but only to the last retransmission of its request. -/
def lateReplies : List RecvFrom :=
  ((probeReplies sampleAddress sampleAddress sampleAddress ++ [registerReply]).map fun reply =>
    List.replicate 64 RecvFrom.error ++ [reply]).flatten

theorem eq_ok_of_isOk (x : Except World World) (h : x.isOk = true) : x = .ok (outcome x) := by
  cases x with
  | error e => exact absurd h Bool.false_ne_true
  | ok w => rfl

theorem run_lateReplies : runLoop .linux (fun _ _ => .done) (bootWorld sampleName) lateReplies =
    .ok (outcome (runLoop .linux (fun _ _ => .done) (bootWorld sampleName) lateReplies)) :=
  eq_ok_of_isOk _ (by decide +kernel)

/-- The late replies exhaust the bound. -/
theorem sends_bounded_lateReplies : ∃ w',
    runLoop .linux (fun _ _ => .done) (bootWorld sampleName) lateReplies = .ok w' ∧
    (sentOf w'.log).length = (sentOf (bootWorld sampleName).log).length + 37 ∧
    (sentOf w'.log).length ≤
      (sentOf (bootWorld sampleName).log).length + 37 + lateReplies.countP RecvFrom.asks := by
  refine ⟨_, run_lateReplies, by decide +kernel, sends_bounded .linux (fun _ _ => .done)
    (bootWorld sampleName) _ lateReplies started_bootWorld run_lateReplies⟩

/-- Where a datagram goes: to the servers of the start-up, or to a client that was heard. -/
structure Confined (w : World) (polls : List RecvFrom) (s : Sent) : Prop where
  socket : s.fd = w.ctx.mRemoteFd
  pos : 0 < s.msg.length
  fits : s.msg.length ≤ maxRtpMsgSize
  source : StartupDatagram w.ctx s ∨
    ∃ r ∈ polls, ∃ d, dtplinkRecv r = some d ∧ ClientDatagram w.ctx d s
  short : s.dst ≠ w.ctx.mDNS → (∀ r ∈ polls, ∀ d, dtplinkRecv r = some d → s.dst ≠ d.src) →
    s.msg.length = 1

theorem StartupDatagram.length {ctx : CServerContext} {s : Sent} (h : StartupDatagram ctx s) :
    0 < s.msg.length ∧ s.msg.length ≤ maxRtpMsgSize ∧ (s.dst ≠ ctx.mDNS → s.msg.length = 1) := by
  have hone : 1 ≤ maxRtpMsgSize := by decide
  cases h with
  | register mode hfits =>
    rw [World.length_registrationText]
    exact ⟨by omega, by omega, fun hdst => absurd rfl hdst⟩
  | punchCenter | pingCenter | pingCenterAgain | punchAux | pingAux =>
    exact ⟨Nat.one_pos, hone, fun _ => rfl⟩

theorem ClientDatagram.length {ctx : CServerContext} {d : Datagram} {s : Sent}
    (h : ClientDatagram ctx d s) :
    0 < s.msg.length ∧ s.msg.length ≤ maxRtpMsgSize ∧ (s.dst ≠ d.src → s.msg.length = 1) := by
  have hone : 1 ≤ maxRtpMsgSize := by decide
  cases h with
  | reply hid hn response hfit =>
    have hpos := headerSize_pos d
    rw [List.length_append, d.length_replyHeader]
    exact ⟨by omega, hfit, fun hdst => absurd rfl hdst⟩
  | punch | echo => exact ⟨Nat.one_pos, hone, fun _ => rfl⟩

theorem StartupDatagram.fd {ctx : CServerContext} {s : Sent} (h : StartupDatagram ctx s) :
    s.fd = ctx.mRemoteFd := by
  cases h <;> rfl

theorem ClientDatagram.fd {ctx : CServerContext} {d : Datagram} {s : Sent}
    (h : ClientDatagram ctx d s) : s.fd = ctx.mRemoteFd := by
  cases h <;> rfl

/-- All that the loop sends leaves through the Internet endpoint, and more than one byte goes only to
the DNS server or to where a datagram came from. -/
theorem sends_confined (P : Platform) (main : DeviceServer) (w w' : World)
    (polls : List RecvFrom) (hs : Started w) (hrun : runLoop P main w polls = .ok w') :
    ∃ out, sentOf w'.log = out ++ sentOf w.log ∧ ∀ s ∈ out, Confined w' polls s := by
  obtain ⟨out, hlog, hsource⟩ :=
    sources_of_run P main w w' polls (sendInvariant_started w hs) hrun
  refine ⟨out, hlog, fun s hmem => ?_⟩
  rcases hsource s hmem with hstart | ⟨r, hr, d, hd, hclient⟩
  · obtain ⟨hpos, hfits, hshort⟩ := hstart.length
    exact ⟨hstart.fd, hpos, hfits, Or.inl hstart, fun hdst _ => hshort hdst⟩
  · obtain ⟨hpos, hfits, hshort⟩ := hclient.length
    exact ⟨hclient.fd, hpos, hfits, Or.inr ⟨r, hr, d, hd, hclient⟩,
      fun _ hdst => hshort (hdst r hr d hd)⟩

theorem sends_confined_lateReplies : ∃ w' out,
    runLoop .linux (fun _ _ => .done) (bootWorld sampleName) lateReplies = .ok w' ∧
    sentOf w'.log = out ++ sentOf (bootWorld sampleName).log ∧
    ∀ s ∈ out, Confined w' lateReplies s := by
  obtain ⟨out, hout⟩ := sends_confined .linux (fun _ _ => .done) (bootWorld sampleName) _
    lateReplies started_bootWorld run_lateReplies
  exact ⟨_, out, run_lateReplies, hout⟩

end OpenDSLite
