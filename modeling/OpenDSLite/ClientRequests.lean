import OpenDSLite.Probing

/-!
# Client requests

An online device server answers name queries and data requests. A data request reaches it
directly, over the UDP relay or through the HTTP tunnel; the header in front of the body differs,
what happens to the body does not. Nothing on these paths compares the length of the datagram with
the size of the header, or the length of the reply with the size of `omsg`.
-/

namespace OpenDSLite

open ByteOrder ByteArea

abbrev queryDSIPToDNSServer : UInt8 := 0x43
abbrev queryDSIPToLocalDS : UInt8 := 0x44
abbrev queryDataToRemoteDS : UInt8 := 0x51
abbrev remoteDSDataRespToClient : UInt8 := 0x52
abbrev queryDataToLocalDS : UInt8 := 0x53
abbrev queryDataRelayToRemoteDS : UInt8 := 0x61
abbrev remoteDSDataRespRelayToClient : UInt8 := 0x62
abbrev queryDataHttpToRemoteDS : UInt8 := 0x63
abbrev remoteDSDataRespHttpToClient : UInt8 := 0x64

/-- The body length is computed in `UInt32` and returned as `Int32`. -/
def parseRelayInfoOnDS (p : BytePtr maxRtpMsgSize) (len : UInt16) :
    Option (Int32 × IPv4Address × BytePtr maxRtpMsgSize) := do
  let ip ← loadAddress p
  let relayMessage := p.add 7
  let iplen := UInt32.ofNat (relayMessage.offset - p.offset)
  some ((len.toUInt32 - iplen).toInt32, ip, relayMessage)

def parseRelayHttpInfoOnDS (p : BytePtr maxRtpMsgSize) (len : UInt32) :
    Option (Int32 × IPv4Address × Int32 × BytePtr maxRtpMsgSize) := do
  let ip ← loadAddress p
  let relayPort ← (p.add 7).load 4
  let relayMessage := p.add 12
  let iplen := UInt32.ofNat (relayMessage.offset - p.offset)
  some ((len - iplen).toInt32, ip, (ntohl (loadUInt32 relayPort)).toInt32, relayMessage)

namespace World

/-- `memcpy` into `REQUEST_INFO.buffer`. -/
def copyRequest (src : BytePtr maxRtpMsgSize) (size : ℕ) (w : World) : Except World World := do
  let w := w.emit (.requestCopy size)
  let bs ← w.orFault (src.load size)
  let buffer ← w.orFault (w.ctx.requestInfo.buffer.store 0 bs)
  .ok { w with ctx := { w.ctx with requestInfo := { w.ctx.requestInfo with buffer } } }

def setRequestLength (length : UInt16) (w : World) : World :=
  { w with ctx := { w.ctx with requestInfo := { w.ctx.requestInfo with length } } }

/-- `READ_WORD(&id); WRITE_WORD(id);` with `id` zero before. -/
def echoId (w : World) : Except World (UInt16 × World) := do
  let (_, id, requestInfo) ← w.orFault (readWord 0 w.ctx.requestInfo)
  let w := { w with ctx := { w.ctx with requestInfo } }
  let (_, responseInfo) ← w.orFault (writeWord id w.ctx.responseInfo)
  .ok (id, { w with ctx := { w.ctx with responseInfo } })

def deviceServerMain (P : Platform) (main : DeviceServer) (id : Int16) (w : World) :
    Except World World := do
  let app := main w.log id
  let w := w.emit (.deviceServerMain id w.ctx.requestInfo)
  let (requestInfo, responseInfo) ←
    w.orFault (app.run P w.ctx.requestInfo w.ctx.responseInfo)
  .ok { w with ctx := { w.ctx with requestInfo, responseInfo } }

/-- The response is copied behind the header in `omsg[MAX_RTP_MSG_SIZE]` and sent. -/
def sendReply (sender : Sender) (header : List UInt8) (client : IPv4Address) (w : World) :
    Except World World := do
  let resp := w.ctx.responseInfo
  let omsg ← w.orFault ((zeros maxRtpMsgSize).store 0 header)
  let body ← w.orFault (resp.buffer.load 0 resp.length.toNat)
  let omsg ← w.orFault (omsg.store header.length body)
  .ok (w.dtplinkSend sender (omsg.bytes.take (header.length + resp.length.toNat)) client)

/-- The body of a request is loaded and its first word echoed. -/
def loadRequest (src : BytePtr maxRtpMsgSize) (size : ℕ) (length : UInt16) (w : World) :
    Except World (UInt16 × World) := do
  let w ← w.copyRequest src size
  (w.setRequestLength length).echoId

/-- What the two handlers of data requests have in common. -/
def serveRequest (P : Platform) (main : DeviceServer) (sender : Sender) (header : List UInt8)
    (src : BytePtr maxRtpMsgSize) (size : ℕ) (length : UInt16) (client : IPv4Address)
    (w : World) : Except World World := do
  let (id, w) ← w.loadRequest src size length
  let w ← w.deviceServerMain P main id.toInt16
  w.sendReply sender header client

end World

def processDNSQueryRequest (client : IPv4Address) (w : World) : World :=
  w.dtplinkSend .processDNSQueryRequest [serverPunching] client

def onReceiveDNSQueryRequest (msg : BytePtr maxRtpMsgSize) (w : World) : Except World World := do
  let devClient ← w.orFault (loadAddress msg)
  let _ ← w.orFault ((msg.add 6).load 2)
  .ok (processDNSQueryRequest devClient w)

def processLocalDNSQueryRequest (client : IPv4Address) (w : World) : World :=
  w.dtplinkSend .processLocalDNSQueryRequest [queryDSIPToLocalDS] client

def onReceiveLocalDNSQueryRequest (msg : BytePtr maxRtpMsgSize) (client : IPv4Address)
    (w : World) : Except World World := do
  let name ← w.orFault msg.cstring
  if w.ctx.mID = name then .ok (processLocalDNSQueryRequest client w) else .ok w

def processRemoteDataQueryRequest (P : Platform) (main : DeviceServer)
    (imsg : BytePtr maxRtpMsgSize) (imsgLen : UInt16) (client : IPv4Address) :
    World → Except World World :=
  World.serveRequest P main .processRemoteDataQueryRequest [remoteDSDataRespToClient, space] imsg
    imsgLen.toNat imsgLen client

def onReceiveRemoteDataQueryRequest (P : Platform) (main : DeviceServer)
    (imsg : BytePtr maxRtpMsgSize) (imsgLen : UInt16) (client : IPv4Address) :
    World → Except World World :=
  processRemoteDataQueryRequest P main imsg imsgLen client

def processLocalDataQueryRequest (P : Platform) (main : DeviceServer)
    (imsg : BytePtr maxRtpMsgSize) (imsgLen : UInt16) (client : IPv4Address) :
    World → Except World World :=
  processRemoteDataQueryRequest P main imsg imsgLen client

def onReceiveLocalDataQueryRequest (P : Platform) (main : DeviceServer)
    (imsg : BytePtr maxRtpMsgSize) (imsgLen : UInt16) (client : IPv4Address) :
    World → Except World World :=
  processLocalDataQueryRequest P main imsg imsgLen client

/-- The frame in front of a relayed reply. -/
def relayHeader (clientIP : IPv4Address) : List UInt8 :=
  [remoteDSDataRespRelayToClient, space] ++ leBytes 4 (htonl clientIP.addr).toNat ++
    leBytes 2 (htons clientIP.port).toNat ++ [separater]

/-- The frame in front of a reply to the HTTP tunnel. -/
def httpHeader (clientIP : IPv4Address) (relayFd : Int32) : List UInt8 :=
  [remoteDSDataRespHttpToClient, space] ++ leBytes 4 (htonl clientIP.addr).toNat ++
    leBytes 2 (htons clientIP.port).toNat ++ [separater] ++
    leBytes 4 (htonl relayFd.toUInt32).toNat ++ [separater]

def processRelayDataQueryRequest (P : Platform) (main : DeviceServer) (respId : UInt8)
    (imsg : BytePtr maxRtpMsgSize) (imsgLen : UInt16) (client : IPv4Address) (w : World) :
    Except World World := do
  let (len, relayMessage, header) ← w.orFault (
    if respId = queryDataRelayToRemoteDS then
      (parseRelayInfoOnDS imsg imsgLen).map fun (len, clientIP, relayMessage) =>
        (len, relayMessage, relayHeader clientIP)
    else
      (parseRelayHttpInfoOnDS imsg imsgLen.toUInt32).map
        fun (len, clientIP, relayFd, relayMessage) =>
          (len, relayMessage, httpHeader clientIP relayFd))
  w.serveRequest P main .processRelayDataQueryRequest header relayMessage
    (P.toSizeT len.toInt) len.toUInt32.toUInt16 client

def onReceiveRelayDataQueryRequest (P : Platform) (main : DeviceServer) (respId : UInt8)
    (imsg : BytePtr maxRtpMsgSize) (imsgLen : UInt16) (client : IPv4Address) :
    World → Except World World :=
  processRelayDataQueryRequest P main respId imsg imsgLen client

def World.resetBuffers (w : World) : World :=
  let (requestInfo, responseInfo) := dtplinkResetBuffers w.ctx.requestInfo w.ctx.responseInfo
  { w with ctx := { w.ctx with requestInfo, responseInfo } }

/-- `msgLen` is an `Int16` here and a `UInt16` in the handlers. -/
def processClientRequests (P : Platform) (main : DeviceServer) (respId : UInt8)
    (msg : BytePtr maxRtpMsgSize) (msgLen : Int16) (client : IPv4Address) (w : World) :
    Except World World :=
  let w := w.resetBuffers
  if respId = queryDSIPToDNSServer then onReceiveDNSQueryRequest msg w
  else if respId = queryDSIPToLocalDS then onReceiveLocalDNSQueryRequest msg client w
  else if respId = queryDataToRemoteDS then
    onReceiveRemoteDataQueryRequest P main msg msgLen.toUInt16 client w
  else if respId = queryDataToLocalDS then
    onReceiveLocalDataQueryRequest P main msg msgLen.toUInt16 client w
  else if respId = queryDataRelayToRemoteDS ∨ respId = queryDataHttpToRemoteDS then
    onReceiveRelayDataQueryRequest P main respId msg msgLen.toUInt16 client w
  else .ok w

end OpenDSLite
