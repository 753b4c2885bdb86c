import OpenDSLite.NetIO

/-!
# Probing the public address and registering

The start-up asks the first center server on two ports and the second server on one which address
they see, and then registers the device name with the DNS server. Each request function sends its
datagram and enters the status that waits for the reply; each `OnReceive` function decodes a reply
and sends the next request.
-/

namespace OpenDSLite

open ByteOrder

abbrev bindReqToServer1Port1 : UInt8 := 0x31
abbrev bindReqToServer1Port2 : UInt8 := 0x32
abbrev bindReqToServer2Port1 : UInt8 := 0x33
abbrev registDSIPToDNSServer : UInt8 := 0x41
abbrev serverPunching : UInt8 := 0x7F
abbrev space : UInt8 := 0x20
abbrev separater : UInt8 := 0x7C

def pingCenterServer (w : World) : World :=
  let rtpTo := w.ctx.mCS1
  let punched :=
    if w.firstPingCenterServer then
      { (w.dtplinkSend .pingCenterServer [serverPunching] rtpTo).dtplinkSend .pingCenterServer
          [serverPunching] { rtpTo with port := rtpTo.port + 1 } with
        firstPingCenterServer := false }
    else w
  (punched.dtplinkSend .pingCenterServer [bindReqToServer1Port1] rtpTo).setStatus .waitCsPhase1

def pingCenterServerAgain (w : World) : World :=
  let rtpTo := { w.ctx.mCS1 with port := w.ctx.mCS1.port + 1 }
  (w.dtplinkSend .pingCenterServerAgain [bindReqToServer1Port2] rtpTo).setStatus .waitCsPhase2

def pingAuxServer (w : World) : World :=
  let rtpTo := w.ctx.mCS2
  let punched :=
    if w.firstPingAuxServer then
      { (w.dtplinkSend .pingAuxServer [serverPunching] rtpTo).dtplinkSend .pingAuxServer
          [serverPunching] { rtpTo with port := rtpTo.port - 1 } with
        firstPingAuxServer := false }
    else w
  (punched.dtplinkSend .pingAuxServer [bindReqToServer2Port1] rtpTo).setStatus .waitCsPhase3

/-- The letter that tells the DNS server how clients reach the device. -/
def modeLetter : RunningMode → UInt8
  | .remoteRelayMode => 0x52
  | _ => 0x44

/-- The text `"%c %s|R"` or `"%c %s|D"`. -/
def registrationText (id : CString) (mode : RunningMode) : List UInt8 :=
  [registDSIPToDNSServer, space] ++ id.val ++ [separater, modeLetter mode]

/-- `sprintf` stores the text and its terminator into `msg[MAX_RTP_MSG_SIZE]`. -/
def registerDS (w : World) : Except World World :=
  let msg := registrationText w.ctx.mID w.ctx.mRunningMode
  if msg.length + 1 ≤ maxRtpMsgSize then
    .ok ((w.dtplinkSend .registerDS msg w.ctx.mDNS).setStatus .waitDNS)
  else .error w

/-- Stores into the loop's `MIP1` and the context's `mCS2`. -/
def onReceiveCenterServerResponse (msg : BytePtr maxRtpMsgSize) (w : World) :
    Except World World := do
  let ip ← w.orFault (loadAddress msg)
  let cs2 ← w.orFault (loadAddress (msg.add 7))
  .ok (pingCenterServerAgain { w with mip1 := some ip, ctx := { w.ctx with mCS2 := cs2 } })

def onReceiveCenterServerResponse2 (msg : BytePtr maxRtpMsgSize) (w : World) :
    Except World World := do
  let ip ← w.orFault (loadAddress msg)
  .ok (pingAuxServer { w with mip2 := some ip })

def onReceiveAuxServerResponse (msg : BytePtr maxRtpMsgSize) (w : World) :
    Except World World := do
  let ip ← w.orFault (loadAddress msg)
  registerDS { w with mip2 := some ip }

end OpenDSLite
