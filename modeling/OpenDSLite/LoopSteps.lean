import OpenDSLite.ClientAnswers
import OpenDSLite.Initialisation

/-!
# What one iteration can do

`LoopStep w r w'` lists the ways an iteration gets from `w` to `w'`. Every invariant of the loop is
derived from this list. An iteration fails in two ways only: `RegisterDS` prints a name that is too
long for its array, or a data request is not served.
-/

namespace OpenDSLite

open ByteOrder ByteArea

def DSStatus.Waiting : DSStatus → Prop
  | waitCsPhase1 | waitCsPhase2 | waitCsPhase3 | waitDNS => True
  | startup | online => False

theorem DSStatus.not_waiting_iff (s : DSStatus) : ¬ s.Waiting ↔ s = .startup ∨ s = .online := by
  cases s <;> simp [Waiting]

theorem DSStatus.Waiting.ne_online {s : DSStatus} (h : s.Waiting) : s ≠ .online := by
  rintro rfl
  exact h

namespace World

/-- The registration of the device name, its terminator included, fits into its array. -/
def NameFits (w : World) : Prop := w.ctx.mID.val.length + 5 ≤ maxRtpMsgSize

instance (w : World) : Decidable w.NameFits := inferInstanceAs (Decidable (_ ≤ _))

def registered (w : World) : World :=
  (w.dtplinkSend .registerDS (registrationText w.ctx.mID w.ctx.mRunningMode)
    w.ctx.mDNS).setStatus .waitDNS

theorem length_registrationText (id : CString) (mode : RunningMode) :
    (registrationText id mode).length = id.val.length + 4 := by
  simp only [registrationText, List.length_append, List.length_cons, List.length_nil]
  omega

theorem registerDS_of_fits (w : World) (h : w.NameFits) : registerDS w = .ok w.registered := by
  have hfits : (registrationText w.ctx.mID w.ctx.mRunningMode).length + 1 ≤ maxRtpMsgSize := by
    rwa [length_registrationText]
  exact if_pos hfits

theorem registerDS_of_not_fits (w : World) (h : ¬ w.NameFits) : registerDS w = .error w := by
  have hfits : ¬ (registrationText w.ctx.mID w.ctx.mRunningMode).length + 1 ≤ maxRtpMsgSize := by
    rwa [length_registrationText]
  exact if_neg hfits

theorem registerDS_bind (w : World) (f : World → Except World World) :
    (registerDS w >>= f) = if ¬ w.NameFits then .error w else f w.registered := by
  by_cases h : w.NameFits
  · rw [registerDS_of_fits w h, ok_bind, if_neg (not_not.mpr h)]
  · rw [registerDS_of_not_fits w h, error_bind, if_pos h]

/-- The reply the current status waits for. -/
def Accepts (w : World) (d : Datagram) : Prop :=
  match w.ctx.mStatus with
  | .waitCsPhase1 => d.respId = bindReqToServer1Port1 ∧ d.src = w.ctx.mCS1
  | .waitCsPhase2 => d.respId = bindReqToServer1Port2 ∧ d.src = w.cs1P2
  | .waitCsPhase3 => d.respId = bindReqToServer2Port1 ∧ d.src = w.ctx.mCS2
  | .waitDNS => d.respId = registDSIPToDNSServer
  | .startup | .online => False

instance (w : World) (d : Datagram) : Decidable (w.Accepts d) := by
  unfold Accepts
  split <;> infer_instance

def afterPhase1 (d : Datagram) (w : World) : World :=
  pingCenterServerAgain { w.resetAllRetryCounts with
    mip1 := some (d.addressAt 2)
    ctx := { w.resetAllRetryCounts.ctx with mCS2 := d.addressAt 9 } }

def afterPhase2 (a : IPv4Address) (d : Datagram) (w : World) : World :=
  let w := pingAuxServer { w.resetAllRetryCounts with mip2 := some (d.addressAt 2) }
  if a.equal (d.addressAt 2) then w else w.setMappedIPAddress relayIPPort

def afterPhase3 (a : IPv4Address) (d : Datagram) (w : World) : World :=
  let w := ({ w.resetAllRetryCounts with mip2 := some (d.addressAt 2) } : World).registered
  (w.setMappedIPAddress (if a.equal (d.addressAt 2) then a else relayIPPort)).dtplinkStartKeepAlive

/-- Sends the request of the current status. -/
def request (w : World) : World :=
  match w.ctx.mStatus with
  | .waitCsPhase1 => pingCenterServer w
  | .waitCsPhase2 => pingCenterServerAgain w
  | .waitCsPhase3 => pingAuxServer w
  | .waitDNS => w.registered
  | .startup | .online => w

/-- Leaves a status whose requests were not answered. -/
def gaveUp (w : World) : World :=
  match w.ctx.mStatus with
  | .waitCsPhase1 | .waitDNS => (w.setMappedIPAddress noPublicIPPort).setStatus .online
  | .waitCsPhase2 | .waitCsPhase3 => (w.setMappedIPAddress relayIPPort).registered
  | .startup | .online => w

/-- Serving clients touches the two buffers and the log, and registers nothing. -/
def Served (w w' : World) : Prop :=
  ∃ requestInfo responseInfo events,
    w' = { w with ctx := { w.ctx with requestInfo, responseInfo }, log := events ++ w.log } ∧
    ∀ s, Event.send s ∈ events → s.sender ≠ .registerDS

theorem served_of_afterService {w w' : World} (h : AfterService w w') : Served w w' := by
  obtain ⟨requestInfo, responseInfo, events, rfl, hev⟩ := h
  refine ⟨requestInfo, responseInfo, events, rfl, fun s hs => ?_⟩
  have hanswer : s.IsAnswer := hev _ hs
  rcases hanswer with ⟨h, -⟩ | ⟨h, -⟩ | ⟨h | h, -⟩ <;> simp [h]

theorem served_processClientRequests (P : Platform) (main : DeviceServer) (w w' : World)
    (d : Datagram) (h : processClientRequests P main d.respId (d.ptr 2)
      (Int16.ofInt (d.msgLen.toInt - 2)) d.src w = .ok w') : Served w w' := by
  have hafter := afterService_processClientRequests P main w d
  rw [h] at hafter
  exact served_of_afterService hafter

end World

/-- The ways an iteration ends. -/
inductive LoopStep (w : World) : RecvFrom → World → Prop
  | phase1Reply (r : RecvFrom) (d : Datagram) (hr : dtplinkRecv r = some d)
      (hs : w.ctx.mStatus = .waitCsPhase1) (ha : w.Accepts d) : LoopStep w r (w.afterPhase1 d)
  | phase2Reply (r : RecvFrom) (d : Datagram) (hr : dtplinkRecv r = some d)
      (hs : w.ctx.mStatus = .waitCsPhase2) (ha : w.Accepts d) (a : IPv4Address)
      (hm : w.mip1 = some a) : LoopStep w r (w.afterPhase2 a d)
  | phase3Reply (r : RecvFrom) (d : Datagram) (hr : dtplinkRecv r = some d)
      (hs : w.ctx.mStatus = .waitCsPhase3) (ha : w.Accepts d) (a : IPv4Address)
      (hm : w.mip1 = some a) (hn : w.NameFits) : LoopStep w r (w.afterPhase3 a d)
  | dnsReply (r : RecvFrom) (d : Datagram) (hr : dtplinkRecv r = some d)
      (hs : w.ctx.mStatus = .waitDNS) (ha : w.Accepts d) :
      LoopStep w r (w.setStatus .online).resetAllRetryCounts
  | ignored (r : RecvFrom) (d : Datagram) (hr : dtplinkRecv r = some d)
      (hs : w.ctx.mStatus ≠ .online) (ha : ¬ w.Accepts d) : LoopStep w r w
  | served (r : RecvFrom) (d : Datagram) (w' : World) (hr : dtplinkRecv r = some d)
      (hs : w.ctx.mStatus = .online) (h : w.Served w') : LoopStep w r w'
  | counted (r : RecvFrom) (hr : dtplinkRecv r = none)
      (hc : w.ctx.mStatus.Waiting → w.ctx.mSendRetryCount < sendRetryCountMax ∧
        w.ctx.mRecvRetryCount + 1 < recvRetryCountMax) : LoopStep w r w.addRecvRetryCount
  | retransmitted (r : RecvFrom) (hr : dtplinkRecv r = none) (hw : w.ctx.mStatus.Waiting)
      (hsend : w.ctx.mSendRetryCount < sendRetryCountMax)
      (hrecv : recvRetryCountMax ≤ w.ctx.mRecvRetryCount + 1) :
      LoopStep w r w.addRecvRetryCount.resetRecvRetryCount.request.addSendRetryCount
  | gaveUp (r : RecvFrom) (hr : dtplinkRecv r = none) (hw : w.ctx.mStatus.Waiting)
      (hsend : sendRetryCountMax ≤ w.ctx.mSendRetryCount) :
      LoopStep w r w.addRecvRetryCount.gaveUp.resetAllRetryCounts

theorem onReceiveCenterServerResponse_ptr (d : Datagram) (w : World) :
    onReceiveCenterServerResponse (d.ptr 2) w = .ok (pingCenterServerAgain { w with
      mip1 := some (d.addressAt 2), ctx := { w.ctx with mCS2 := d.addressAt 9 } }) := by
  have h9 : loadAddress ((d.ptr 2).add 7) = some (d.addressAt 9) :=
    loadAddress_ptr d 9 (by decide)
  simp only [onReceiveCenterServerResponse, loadAddress_payload d, h9, World.orFault_some, ok_bind]

theorem onReceiveCenterServerResponse2_ptr (d : Datagram) (w : World) :
    onReceiveCenterServerResponse2 (d.ptr 2) w =
      .ok (pingAuxServer { w with mip2 := some (d.addressAt 2) }) := by
  simp only [onReceiveCenterServerResponse2, loadAddress_payload d, World.orFault_some, ok_bind]

theorem onReceiveAuxServerResponse_ptr (d : Datagram) (w : World) :
    onReceiveAuxServerResponse (d.ptr 2) w =
      registerDS { w with mip2 := some (d.addressAt 2) } := by
  simp only [onReceiveAuxServerResponse, loadAddress_payload d, World.orFault_some,
    ok_bind]

/-- The request a status waits for the reply to, among what is sent. -/
def DSStatus.isRequest : DSStatus → Event → Bool
  | waitCsPhase1, .send s => s.sender = .pingCenterServer ∧ s.msg = [bindReqToServer1Port1]
  | waitCsPhase2, .send s => s.sender = .pingCenterServerAgain ∧ s.msg = [bindReqToServer1Port2]
  | waitCsPhase3, .send s => s.sender = .pingAuxServer ∧ s.msg = [bindReqToServer2Port1]
  | waitDNS, .send s => s.sender = .registerDS
  | _, _ => false

theorem pingCenterServer_eq (w : World) : ∃ flag events, pingCenterServer w = { w with
      ctx := { w.ctx with mStatus := .waitCsPhase1 }
      firstPingCenterServer := flag
      log := events ++ w.log } ∧ events.countP (DSStatus.isRequest .waitCsPhase1) = 1 := by
  unfold pingCenterServer
  by_cases hf : w.firstPingCenterServer = true
  · simp only [if_pos hf]
    exact ⟨false, [_, _, _], rfl, rfl⟩
  · simp only [if_neg hf]
    exact ⟨w.firstPingCenterServer, [_], rfl, rfl⟩

theorem pingAuxServer_eq (w : World) : ∃ flag events, pingAuxServer w = { w with
      ctx := { w.ctx with mStatus := .waitCsPhase3 }
      firstPingAuxServer := flag
      log := events ++ w.log } ∧ events.countP (DSStatus.isRequest .waitCsPhase3) = 1 := by
  unfold pingAuxServer
  by_cases hf : w.firstPingAuxServer = true
  · simp only [if_pos hf]
    exact ⟨false, [_, _, _], rfl, rfl⟩
  · simp only [if_neg hf]
    exact ⟨w.firstPingAuxServer, [_], rfl, rfl⟩

/-- The second reply leaves the mode alone when it repeats the first, and else sets relay mode. -/
theorem afterPhase2_eq (a : IPv4Address) (d : Datagram) (w : World) : ∃ ip mode flag events,
    w.afterPhase2 a d = { w with
      ctx := { w.ctx with
        mIP := ip, mRunningMode := mode, mStatus := .waitCsPhase3
        mRecvRetryCount := 0, mSendRetryCount := 0 }
      firstPingAuxServer := flag
      mip2 := some (d.addressAt 2)
      log := events ++ w.log } ∧
    events.countP (DSStatus.isRequest .waitCsPhase3) = 1 ∧
    (a ≠ d.addressAt 2 → mode = .remoteRelayMode) := by
  obtain ⟨flag, events, he, hcount⟩ :=
    pingAuxServer_eq { w.resetAllRetryCounts with mip2 := some (d.addressAt 2) }
  simp only [World.afterPhase2, he]
  by_cases h : a = d.addressAt 2
  · rw [if_pos ((IPv4Address.equal_iff _ _).2 h)]
    exact ⟨_, _, flag, events, rfl, hcount, fun hne => absurd h hne⟩
  · rw [if_neg (fun he => h ((IPv4Address.equal_iff _ _).1 he))]
    exact ⟨_, _, flag, events, rfl, hcount, fun _ => rfl⟩

theorem afterPhase2_spec (a : IPv4Address) (d : Datagram) (w : World) :
    (w.afterPhase2 a d).ctx.mStatus = .waitCsPhase3 ∧ (w.afterPhase2 a d).mip1 = w.mip1 ∧
    (w.afterPhase2 a d).ctx.mRecvRetryCount = 0 ∧ (w.afterPhase2 a d).ctx.mSendRetryCount = 0 ∧
    (a ≠ d.addressAt 2 → (w.afterPhase2 a d).ctx.mRunningMode = .remoteRelayMode) := by
  obtain ⟨ip, mode, flag, events, he, -, hmode⟩ := afterPhase2_eq a d w
  rw [he]
  exact ⟨rfl, rfl, rfl, rfl, hmode⟩

/-- Giving up ends online in local mode, or registers in relay mode. -/
theorem World.gaveUp_eq (w : World) (hw : w.ctx.mStatus.Waiting) :
    ((w.ctx.mStatus = .waitCsPhase1 ∨ w.ctx.mStatus = .waitDNS) ∧
      w.addRecvRetryCount.gaveUp.resetAllRetryCounts = { w with
        ctx := { w.ctx with
          mIP := noPublicIPPort, mRunningMode := .localMode, mStatus := .online
          mRecvRetryCount := 0, mSendRetryCount := 0 } }) ∨
    ((w.ctx.mStatus = .waitCsPhase2 ∨ w.ctx.mStatus = .waitCsPhase3) ∧
      w.addRecvRetryCount.gaveUp.resetAllRetryCounts = { w with
        ctx := { w.ctx with
          mIP := relayIPPort, mRunningMode := .remoteRelayMode, mStatus := .waitDNS
          mRecvRetryCount := 0, mSendRetryCount := 0 }
        log := .send ⟨.registerDS, w.ctx.mRemoteFd,
          registrationText w.ctx.mID .remoteRelayMode, w.ctx.mDNS⟩ :: w.log }) := by
  have hlocal : modeOfAddr noPublicIPPort.addr = .localMode := by decide
  have hrelay : modeOfAddr relayIPPort.addr = .remoteRelayMode := by decide
  simp only [gaveUp, setMappedIPAddress, hlocal, hrelay, registered, dtplinkSend, emit,
    setStatus, resetAllRetryCounts, addRecvRetryCount]
  cases hs : w.ctx.mStatus with
  | startup => exact absurd hw (by simp [hs, DSStatus.Waiting])
  | online => exact absurd hw (by simp [hs, DSStatus.Waiting])
  | waitCsPhase1 => exact Or.inl ⟨Or.inl rfl, rfl⟩
  | waitCsPhase2 => exact Or.inr ⟨Or.inl rfl, rfl⟩
  | waitCsPhase3 => exact Or.inr ⟨Or.inr rfl, rfl⟩
  | waitDNS => exact Or.inl ⟨Or.inr rfl, rfl⟩

/-- A retransmission leaves the context alone and sends the request of its status once. -/
theorem World.request_eq (w : World) (hw : w.ctx.mStatus.Waiting) :
    ∃ flag flag' events, w.request = { w with
      firstPingCenterServer := flag
      firstPingAuxServer := flag'
      log := events ++ w.log } ∧ events.countP w.ctx.mStatus.isRequest = 1 := by
  unfold request
  cases hs : w.ctx.mStatus with
  | startup => exact absurd hw (by simp [hs, DSStatus.Waiting])
  | online => exact absurd hw (by simp [hs, DSStatus.Waiting])
  | waitCsPhase1 =>
    obtain ⟨flag, events, he, hcount⟩ := pingCenterServer_eq w
    exact ⟨flag, w.firstPingAuxServer, events, by simp only [he, ← hs], hcount⟩
  | waitCsPhase2 =>
    exact ⟨w.firstPingCenterServer, w.firstPingAuxServer, [_],
      by simp only [pingCenterServerAgain, World.setStatus, ← hs]; rfl, rfl⟩
  | waitCsPhase3 =>
    obtain ⟨flag, events, he, hcount⟩ := pingAuxServer_eq w
    exact ⟨w.firstPingCenterServer, flag, events, by simp only [he, ← hs], hcount⟩
  | waitDNS =>
    exact ⟨w.firstPingCenterServer, w.firstPingAuxServer, [_],
      by simp only [World.registered, World.setStatus, ← hs]; rfl, rfl⟩

/-- A retransmission counts itself and leaves the rest of the context alone. -/
theorem World.retransmitted_eq (w : World) (hw : w.ctx.mStatus.Waiting) : ∃ flag flag' events,
    w.addRecvRetryCount.resetRecvRetryCount.request.addSendRetryCount = { w with
      ctx := { w.ctx with
        mRecvRetryCount := 0, mSendRetryCount := w.ctx.mSendRetryCount + 1 }
      firstPingCenterServer := flag
      firstPingAuxServer := flag'
      log := events ++ w.log } ∧ events.countP w.ctx.mStatus.isRequest = 1 := by
  obtain ⟨flag, flag', events, he, hcount⟩ :=
    w.addRecvRetryCount.resetRecvRetryCount.request_eq hw
  refine ⟨flag, flag', events, ?_, hcount⟩
  rw [he]
  rfl

theorem onDatagram_ignores (P : Platform) (main : DeviceServer) (d : Datagram) (w : World)
    (hs : w.ctx.mStatus ≠ .online) (ha : ¬ w.Accepts d) : onDatagram P main d w = .ok w := by
  unfold World.Accepts at ha
  cases h : w.ctx.mStatus with
  | online => exact absurd h hs
  | startup => simp only [onDatagram, h]
  | _ =>
    simp only [h] at ha
    simp only [onDatagram, h, IPv4Address.equal_iff, if_neg ha]

theorem onDatagram_phase1 (P : Platform) (main : DeviceServer) (d : Datagram) (w : World)
    (hs : w.ctx.mStatus = .waitCsPhase1) (ha : w.Accepts d) :
    onDatagram P main d w = .ok (w.afterPhase1 d) := by
  simp only [World.Accepts, hs] at ha
  simp only [onDatagram, hs, IPv4Address.equal_iff, ha, and_self, if_true,
    onReceiveCenterServerResponse_ptr]
  rfl

/-- The second reply is compared with the address the first one left in `MIP1`. -/
theorem onDatagram_phase2 (P : Platform) (main : DeviceServer) (d : Datagram) (w : World)
    (hs : w.ctx.mStatus = .waitCsPhase2) (ha : w.Accepts d) : ∃ w₁ : World,
    onDatagram P main d w = w₁.orFault w.mip1 >>= fun a => .ok (w.afterPhase2 a d) := by
  obtain ⟨flag, events, he, -⟩ :=
    pingAuxServer_eq { w.resetAllRetryCounts with mip2 := some (d.addressAt 2) }
  simp only [World.Accepts, hs] at ha
  simp only [onDatagram, hs, IPv4Address.equal_iff, ha, and_self, if_true,
    onReceiveCenterServerResponse2_ptr, ok_bind, World.afterPhase2, he, World.orFault_some]
  refine ⟨_, bind_congr (fun a => ?_)⟩
  split_ifs <;> rfl

/-- The third reply registers the device before it is compared. -/
theorem onDatagram_phase3 (P : Platform) (main : DeviceServer) (d : Datagram) (w : World)
    (hs : w.ctx.mStatus = .waitCsPhase3) (ha : w.Accepts d) (hn : w.NameFits) : ∃ w₁ : World,
    onDatagram P main d w = w₁.orFault w.mip1 >>= fun a => .ok (w.afterPhase3 a d) := by
  have hreg := World.registerDS_of_fits
    { w.resetAllRetryCounts with mip2 := some (d.addressAt 2) } hn
  simp only [World.Accepts, hs] at ha
  simp only [onDatagram, hs, IPv4Address.equal_iff, ha, and_self, if_true,
    onReceiveAuxServerResponse_ptr, hreg, ok_bind, World.afterPhase3]
  exact ⟨_, rfl⟩

theorem onDatagram_phase3_faults (P : Platform) (main : DeviceServer) (d : Datagram) (w : World)
    (hs : w.ctx.mStatus = .waitCsPhase3) (ha : w.Accepts d) (hn : ¬ w.NameFits) :
    ∃ w₁, onDatagram P main d w = .error w₁ := by
  have hreg := World.registerDS_of_not_fits
    { w.resetAllRetryCounts with mip2 := some (d.addressAt 2) } hn
  simp only [World.Accepts, hs] at ha
  simp only [onDatagram, hs, IPv4Address.equal_iff, ha, and_self, if_true,
    onReceiveAuxServerResponse_ptr, hreg, error_bind]
  exact ⟨_, rfl⟩

/-- The branches of a waiting status for a failed poll are one. -/
theorem onFailedPoll_waiting (w : World) (hw : w.ctx.mStatus.Waiting) : onFailedPoll w =
    if sendRetryCountMax ≤ w.ctx.mSendRetryCount then
      if (w.ctx.mStatus = .waitCsPhase2 ∨ w.ctx.mStatus = .waitCsPhase3) ∧ ¬ w.NameFits then
        .error (w.addRecvRetryCount.setMappedIPAddress relayIPPort)
      else .ok w.addRecvRetryCount.gaveUp.resetAllRetryCounts
    else if recvRetryCountMax ≤ w.ctx.mRecvRetryCount + 1 then
      if w.ctx.mStatus = .waitDNS ∧ ¬ w.NameFits then
        .error w.addRecvRetryCount.resetRecvRetryCount
      else .ok w.addRecvRetryCount.resetRecvRetryCount.request.addSendRetryCount
    else .ok w.addRecvRetryCount := by
  cases hs : w.ctx.mStatus with
  | startup => exact absurd hw (by simp [hs, DSStatus.Waiting])
  | online => exact absurd hw (by simp [hs, DSStatus.Waiting])
  | waitCsPhase1 =>
    have hs₁ : w.addRecvRetryCount.ctx.mStatus = .waitCsPhase1 := hs
    have hs₂ : w.addRecvRetryCount.resetRecvRetryCount.ctx.mStatus = .waitCsPhase1 := hs
    simp only [onFailedPoll, hs₁, World.gaveUp, World.request, hs₂, reduceCtorEq, false_or,
      false_and, if_false]
    rfl
  | waitCsPhase2 =>
    have hs₁ : w.addRecvRetryCount.ctx.mStatus = .waitCsPhase2 := hs
    have hs₂ : w.addRecvRetryCount.resetRecvRetryCount.ctx.mStatus = .waitCsPhase2 := hs
    simp only [onFailedPoll, hs₁, World.gaveUp, World.request, hs₂, reduceCtorEq, or_false,
      true_and, false_and, if_false, World.registerDS_bind]
    rfl
  | waitCsPhase3 =>
    have hs₁ : w.addRecvRetryCount.ctx.mStatus = .waitCsPhase3 := hs
    have hs₂ : w.addRecvRetryCount.resetRecvRetryCount.ctx.mStatus = .waitCsPhase3 := hs
    simp only [onFailedPoll, hs₁, World.gaveUp, World.request, hs₂, reduceCtorEq, false_or,
      true_and, false_and, if_false, World.registerDS_bind]
    rfl
  | waitDNS =>
    have hs₁ : w.addRecvRetryCount.ctx.mStatus = .waitDNS := hs
    have hs₂ : w.addRecvRetryCount.resetRecvRetryCount.ctx.mStatus = .waitDNS := hs
    simp only [onFailedPoll, hs₁, World.gaveUp, World.request, hs₂, reduceCtorEq, or_self,
      true_and, false_and, if_false, World.registerDS_bind]
    rfl

theorem onFailedPoll_not_waiting (w : World) (hw : ¬ w.ctx.mStatus.Waiting) :
    onFailedPoll w = .ok w.addRecvRetryCount := by
  have hs' : w.addRecvRetryCount.ctx.mStatus = w.ctx.mStatus := rfl
  rcases w.ctx.mStatus.not_waiting_iff.1 hw with hs | hs
  · simp only [onFailedPoll, hs', hs]
  · simp only [onFailedPoll, hs', hs]

theorem loopStep_of_datagram (P : Platform) (main : DeviceServer) (w w' : World) (r : RecvFrom)
    (d : Datagram) (hr : dtplinkRecv r = some d) (h : onDatagram P main d w = .ok w') :
    LoopStep w r w' := by
  by_cases ho : w.ctx.mStatus = .online
  · simp only [onDatagram, ho] at h
    exact .served r d w' hr ho (World.served_processClientRequests P main w w' d h)
  by_cases ha : w.Accepts d
  · cases hs : w.ctx.mStatus with
    | startup => exact absurd ha (by simp [World.Accepts, hs])
    | online => exact absurd hs ho
    | waitCsPhase1 =>
      rw [onDatagram_phase1 P main d w hs ha] at h
      obtain rfl := Except.ok.inj h
      exact .phase1Reply r d hr hs ha
    | waitCsPhase2 =>
      obtain ⟨w₁, heq⟩ := onDatagram_phase2 P main d w hs ha
      rw [heq] at h
      obtain ⟨a, hm, h⟩ := (bind_eq_ok _ _ _).1 h
      obtain rfl := Except.ok.inj h
      exact .phase2Reply r d hr hs ha a ((w₁.orFault_eq_ok _ a).1 hm)
    | waitCsPhase3 =>
      by_cases hn : w.NameFits
      · obtain ⟨w₁, heq⟩ := onDatagram_phase3 P main d w hs ha hn
        rw [heq] at h
        obtain ⟨a, hm, h⟩ := (bind_eq_ok _ _ _).1 h
        obtain rfl := Except.ok.inj h
        exact .phase3Reply r d hr hs ha a ((w₁.orFault_eq_ok _ a).1 hm) hn
      · obtain ⟨w₁, heq⟩ := onDatagram_phase3_faults P main d w hs ha hn
        rw [heq] at h
        exact absurd h (by simp)
    | waitDNS =>
      have hid : d.respId = registDSIPToDNSServer := by simpa only [World.Accepts, hs] using ha
      simp only [onDatagram, hs, if_pos hid] at h
      obtain rfl := Except.ok.inj h
      exact .dnsReply r d hr hs ha
  · rw [onDatagram_ignores P main d w ho ha] at h
    obtain rfl := Except.ok.inj h
    exact .ignored r d hr ho ha

theorem loopStep_of_failedPoll (w w' : World) (r : RecvFrom) (hr : dtplinkRecv r = none)
    (h : onFailedPoll w = .ok w') : LoopStep w r w' := by
  by_cases hw : w.ctx.mStatus.Waiting
  · rw [onFailedPoll_waiting w hw] at h
    by_cases hsend : sendRetryCountMax ≤ w.ctx.mSendRetryCount
    · rw [if_pos hsend] at h
      split_ifs at h
      obtain rfl := Except.ok.inj h
      exact .gaveUp r hr hw hsend
    · rw [if_neg hsend] at h
      by_cases hrecv : recvRetryCountMax ≤ w.ctx.mRecvRetryCount + 1
      · rw [if_pos hrecv] at h
        split_ifs at h
        obtain rfl := Except.ok.inj h
        exact .retransmitted r hr hw (UInt8.not_le.mp hsend) hrecv
      · rw [if_neg hrecv] at h
        obtain rfl := Except.ok.inj h
        exact .counted r hr (fun _ => ⟨UInt8.not_le.mp hsend, UInt8.not_le.mp hrecv⟩)
  · rw [onFailedPoll_not_waiting w hw] at h
    obtain rfl := Except.ok.inj h
    exact .counted r hr (fun hw' => absurd hw' hw)

/-- An iteration that does not leave an object is one of the listed steps. -/
theorem loopStep_of_ok (P : Platform) (main : DeviceServer) (w w' : World) (r : RecvFrom)
    (h : dtplinkDSLoop P main w r = .ok w') : LoopStep w r w' := by
  unfold dtplinkDSLoop at h
  cases hr : dtplinkRecv r with
  | none => exact loopStep_of_failedPoll w w' r hr (by simpa only [hr] using h)
  | some d => exact loopStep_of_datagram P main w w' r d hr (by simpa only [hr] using h)

/-- An iteration of an online server counts a failed poll or serves a client. -/
theorem onlineStep_of_ok (P : Platform) (main : DeviceServer) (w w' : World) (r : RecvFrom)
    (ho : w.ctx.mStatus = .online) (h : dtplinkDSLoop P main w r = .ok w') :
    w' = w.addRecvRetryCount ∨ AfterService w w' := by
  unfold dtplinkDSLoop at h
  cases hr : dtplinkRecv r with
  | none =>
    have hw : ¬ w.ctx.mStatus.Waiting := by simp [ho, DSStatus.Waiting]
    simp only [hr, onFailedPoll_not_waiting w hw] at h
    exact Or.inl (Except.ok.inj h).symm
  | some d =>
    simp only [hr, onDatagram, ho] at h
    have hafter := afterService_processClientRequests P main w d
    rw [h] at hafter
    exact Or.inr hafter

/-- The loop starts in the first phase with both counters at zero. -/
theorem started_spec (w : World) (h : Started w) : w.ctx.mStatus = .waitCsPhase1 ∧
    w.ctx.mRunningMode = .remoteDirectMode ∧ w.ctx.mRecvRetryCount = 0 ∧
    w.ctx.mSendRetryCount = 0 := by
  obtain ⟨env, id, dns, w₀, w₁, hinit, rfl⟩ := h
  by_cases hnet : env.initNetwork = true
  · have houtcome := env.initOutcome id dns w₀ hnet
    rw [hinit] at houtcome
    exact houtcome.ready
  · rw [Environment.dtplinkDSInit, if_neg hnet] at hinit
    exact absurd hinit (by simp)

/-- What holds when the loop starts and is kept by the listed steps holds in every reached world. -/
theorem Reached.invariant {P : Platform} {main : DeviceServer} {w : World}
    (h : Reached P main w) (Inv : World → Prop) (hstart : ∀ w, Started w → Inv w)
    (hstep : ∀ w w' r, Inv w → LoopStep w r w' → Inv w') : Inv w := by
  obtain ⟨w₀, polls, hs, hrun⟩ := h
  exact PartialRun.invariant Inv (fun _ _ => True)
    (fun v r u hv _ hu => hstep v u r hv (loopStep_of_ok P main v u r hu)) w₀ w polls
    (hstart w₀ hs) (PartialRun.along_of_forall _ _ (fun _ _ => trivial) w₀ polls) hrun

end OpenDSLite
