import OpenDSLite.ClientRequests
import OpenDSLite.Startup
import OpenDSLite.PartialRuns

/-!
# The main loop

One iteration of `DTPLink_DSLoop` polls the socket once and acts on the status it found before the
poll. The loop never ends; a run is any finite sequence of iterations.
-/

namespace OpenDSLite

/-- The branches of the loop for a received datagram. -/
def onDatagram (P : Platform) (main : DeviceServer) (d : Datagram) (w : World) :
    Except World World :=
  match w.ctx.mStatus with
  | .waitCsPhase1 =>
      if d.respId = bindReqToServer1Port1 ∧ d.src.equal w.ctx.mCS1 then
        onReceiveCenterServerResponse (d.ptr 2) w.resetAllRetryCounts
      else .ok w
  | .waitCsPhase2 =>
      if d.respId = bindReqToServer1Port2 ∧ d.src.equal w.cs1P2 then do
        let w ← onReceiveCenterServerResponse2 (d.ptr 2) w.resetAllRetryCounts
        let mip1 ← w.orFault w.mip1
        let mip2 ← w.orFault w.mip2
        if mip1.equal mip2 then .ok w else .ok (w.setMappedIPAddress relayIPPort)
      else .ok w
  | .waitCsPhase3 =>
      if d.respId = bindReqToServer2Port1 ∧ d.src.equal w.ctx.mCS2 then do
        -- the registration leaves before the third address is compared
        let w ← onReceiveAuxServerResponse (d.ptr 2) w.resetAllRetryCounts
        let mip1 ← w.orFault w.mip1
        let mip2 ← w.orFault w.mip2
        let w := w.setMappedIPAddress (if mip1.equal mip2 then mip1 else relayIPPort)
        .ok w.dtplinkStartKeepAlive
      else .ok w
  | .waitDNS =>
      if d.respId = registDSIPToDNSServer then
        .ok (w.setStatus .online).resetAllRetryCounts
      else .ok w
  | .online =>
      processClientRequests P main d.respId (d.ptr 2) (Int16.ofInt (d.msgLen.toInt - 2)) d.src w
  | .startup => .ok w

/-- The branches of the loop for a failed poll. -/
def onFailedPoll (w : World) : Except World World :=
  let w := w.addRecvRetryCount
  match w.ctx.mStatus with
  | .waitCsPhase1 =>
      if w.ctx.mSendRetryCount ≥ sendRetryCountMax then
        .ok ((w.setMappedIPAddress noPublicIPPort).setStatus .online).resetAllRetryCounts
      else if w.ctx.mRecvRetryCount ≥ recvRetryCountMax then
        .ok (pingCenterServer w.resetRecvRetryCount).addSendRetryCount
      else .ok w
  | .waitCsPhase2 =>
      if w.ctx.mSendRetryCount ≥ sendRetryCountMax then do
        let w ← registerDS (w.setMappedIPAddress relayIPPort)
        .ok w.resetAllRetryCounts
      else if w.ctx.mRecvRetryCount ≥ recvRetryCountMax then
        .ok (pingCenterServerAgain w.resetRecvRetryCount).addSendRetryCount
      else .ok w
  | .waitCsPhase3 =>
      if w.ctx.mSendRetryCount ≥ sendRetryCountMax then do
        let w ← registerDS (w.setMappedIPAddress relayIPPort)
        .ok w.resetAllRetryCounts
      else if w.ctx.mRecvRetryCount ≥ recvRetryCountMax then
        .ok (pingAuxServer w.resetRecvRetryCount).addSendRetryCount
      else .ok w
  | .waitDNS =>
      if w.ctx.mSendRetryCount ≥ sendRetryCountMax then
        .ok ((w.setMappedIPAddress noPublicIPPort).setStatus .online).resetAllRetryCounts
      else if w.ctx.mRecvRetryCount ≥ recvRetryCountMax then do
        let w ← registerDS w.resetRecvRetryCount
        .ok w.addSendRetryCount
      else .ok w
  | .online => .ok w
  | .startup => .ok w

def dtplinkDSLoop (P : Platform) (main : DeviceServer) (w : World) (r : RecvFrom) :
    Except World World :=
  match dtplinkRecv r with
  | some d => onDatagram P main d w
  | none => onFailedPoll w

/-- The local variables at the entry of the loop. -/
def enterLoop (w : World) : World :=
  { w with
    cs1P2 := { w.ctx.mCS1 with port := w.ctx.mCS1.port + 1 }
    mip1 := none
    mip2 := none }

/-- The world in which the loop starts after a successful initialisation. -/
def Started (w : World) : Prop :=
  ∃ (env : Environment) (id dns : Option CString) (w₀ w₁ : World),
    env.dtplinkDSInit id dns w₀ = .ok (true, w₁) ∧ w = enterLoop w₁

def runLoop (P : Platform) (main : DeviceServer) : World → List RecvFrom → Except World World :=
  PartialRun.run (dtplinkDSLoop P main)

def Reached (P : Platform) (main : DeviceServer) (w : World) : Prop :=
  ∃ w₀ polls, Started w₀ ∧ runLoop P main w₀ polls = .ok w

/-- The statics before initialisation. -/
def staticWorld : World where
  ctx :=
    { mDNS := ⟨0, 0⟩, mCS1 := ⟨0, 0⟩, mCS2 := ⟨0, 0⟩, mIP := ⟨0, 0⟩
      requestInfo := ⟨ByteArea.zeros maxRtpMsgSize, 0, 0⟩
      responseInfo := ⟨ByteArea.zeros maxRtpMsgSize, 0, 0⟩
      mID := ⟨[], by decide⟩, mRunningMode := .remoteDirectMode, mStatus := .startup
      mRemoteFd := 0, mLocalFd := 0, mHearbeatTime := 0
      mRecvRetryCount := 0, mSendRetryCount := 0 }
  firstPingCenterServer := true
  firstPingAuxServer := true
  endpointInternet := invalidSocket
  endpointIntranet := invalidSocket
  cs1P2 := ⟨0, 0⟩
  mip1 := none
  mip2 := none
  log := []

/-- A host whose sockets open and whose only name is 127.0.0.1. -/
def loopbackHost : Environment where
  initNetwork := true
  gethostbyname _ := some 0x0100007F
  socket port := port.toUInt32
  bind _ := true

/-- The loop of the device server `name` on that host, before its first iteration. -/
def bootWorld (name : CString) : World :=
  match loopbackHost.dtplinkDSInit (some name) none staticWorld with
  | .ok (_, w) => enterLoop w
  | .error w => w

def centerServer : IPv4Address := ⟨stunPort, 0x7F000001⟩
def auxServer : IPv4Address := ⟨stunPort + 1, 0x7F000002⟩

def addressBytes (a : IPv4Address) : List UInt8 :=
  ByteOrder.beBytes 4 a.addr.toNat ++ ByteOrder.beBytes 2 a.port.toNat

/-- The reply of a server that saw the device at `mapped`. -/
def probeReply (id : UInt8) (src mapped : IPv4Address) : RecvFrom :=
  .data src ([id, space] ++ addressBytes mapped ++ [separater] ++ addressBytes auxServer)

/-- The replies to the three probes, which report `a`, `b` and `c`. -/
def probeReplies (a b c : IPv4Address) : List RecvFrom :=
  [probeReply bindReqToServer1Port1 centerServer a,
    probeReply bindReqToServer1Port2 { centerServer with port := centerServer.port + 1 } b,
    probeReply bindReqToServer2Port1 auxServer c]

def registerReply : RecvFrom := .data centerServer [registDSIPToDNSServer]

def sampleName : CString := ⟨[0x64, 0x73], by decide⟩
def sampleAddress : IPv4Address := ⟨4000, 0x0A000001⟩
def otherAddress : IPv4Address := ⟨4001, 0x0A000001⟩

/-- The device server after a probing in which all servers saw the same address. -/
def onlineWorld : World :=
  outcome (runLoop .linux (fun _ _ => .done) (bootWorld sampleName)
    (probeReplies sampleAddress sampleAddress sampleAddress ++ [registerReply]))

theorem started_bootWorld : Started (bootWorld sampleName) :=
  ⟨loopbackHost, some sampleName, none, staticWorld, _, rfl, rfl⟩

theorem reached_bootWorld : Reached .linux (fun _ _ => .done) (bootWorld sampleName) :=
  ⟨_, [], started_bootWorld, rfl⟩

theorem reached_onlineWorld : Reached .linux (fun _ _ => .done) onlineWorld :=
  ⟨_, probeReplies sampleAddress sampleAddress sampleAddress ++ [registerReply],
    started_bootWorld, rfl⟩

end OpenDSLite
