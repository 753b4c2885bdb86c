import OpenDSLite.ServerLoop
import OpenDSLite.RequestReading

/-!
# Data requests on their way in

A body that lies in the receive array is loaded, its first word is echoed into the response and
the user application is called. The size of the copy is computed from the length of the datagram
without a look at it: a datagram shorter than its header gives a size beyond every array.
-/

namespace OpenDSLite

open ByteOrder ByteArea

/-- The identifier in front of a body, zero when the body is too short to hold one. -/
def requestId (body : List UInt8) : UInt16 :=
  if 2 ≤ body.length then ntohs (loadUInt16 (body.take 2)) else 0

def loadedRequest (body : List UInt8) : CRequestBuffer where
  buffer := holding maxRtpMsgSize body
  head := if 2 ≤ body.length then 2 else 0
  length := UInt16.ofNat body.length

def echoedResponse (id : UInt16) : CResponseBuffer where
  buffer := holding maxRtpMsgSize (beBytes 2 id.toNat)
  tail := 2
  length := 2

theorem holds_echoedResponse (id : UInt16) : Holds (echoedResponse id) (beBytes 2 id.toNat) :=
  ⟨filled_holding _ (by rw [length_beBytes]; decide), (length_beBytes 2 id.toNat).symm⟩

theorem writeWord_reset (id : UInt16) (resp : CResponseBuffer) :
    ∃ ret, writeWord id (cResponseBufferInit resp) = some (ret, echoedResponse id) := by
  obtain ⟨ret, resp', hw, hh, hl, -⟩ := run_typed_offer .linux (cResponseBufferInit resp) []
    (.word id) trivial (holds_init resp) rfl
  have htail : resp'.tail = 2 := UInt16.toNat_inj.mp (hh.tail.trans (length_beBytes 2 id.toNat))
  have hbuf : resp'.buffer = (echoedResponse id).buffer :=
    hh.filled.eq (holds_echoedResponse id).filled
  obtain ⟨buffer, tail, length⟩ := resp'
  obtain rfl : tail = 2 := htail
  obtain rfl : length = 2 := hl
  obtain rfl : buffer = (echoedResponse id).buffer := hbuf
  exact ⟨ret, hw⟩

theorem length_loadedRequest (body : List UInt8) (h : body.length ≤ maxRtpMsgSize) :
    (loadedRequest body).length.toNat = body.length := by
  have hm := maxRtpMsgSize_eq
  change (UInt16.ofNat body.length).toNat = body.length
  rw [UInt16.toNat_ofNat']
  omega

/-- The first word of a loaded body is its identifier; of a shorter body nothing is read. -/
theorem readWord_loaded (body : List UInt8) (h : body.length ≤ maxRtpMsgSize) :
    ∃ ret, readWord 0 ⟨holding maxRtpMsgSize body, 0, UInt16.ofNat body.length⟩ =
      some (ret, requestId body, loadedRequest body) := by
  have hlen : (UInt16.ofNat body.length).toNat = body.length := length_loadedRequest body h
  by_cases h2 : 2 ≤ body.length
  · obtain ⟨k, hk⟩ := filled_holding body h
    have htwo : (body.take 2).length = 2 := by
      rw [List.length_take]
      omega
    have hfacing : Facing ⟨holding maxRtpMsgSize body, 0, UInt16.ofNat body.length⟩ []
        (body.take 2) (body.drop 2 ++ List.replicate k 0) := by
      refine ⟨?_, rfl, ?_⟩
      · rw [List.nil_append, ← List.append_assoc, List.take_append_drop, hk]
      · rw [List.length_nil, htwo, hlen]
        omega
    have hread := readField_mid (fun bs => ntohs (loadUInt16 bs)) 0 _ [] _ _ hfacing
    rw [htwo] at hread
    rw [loadedRequest, if_pos h2, requestId, if_pos h2]
    exact ⟨_, hread⟩
  · have hguard : ¬ (0 : UInt16).toNat + 2 ≤ (UInt16.ofNat body.length).toNat := by
      rw [hlen]
      exact fun hle => h2 (by simpa using hle)
    rw [loadedRequest, if_neg h2, requestId, if_neg h2]
    exact ⟨-1, if_neg hguard⟩

namespace World

theorem copyRequest_reset (w : World) (src : BytePtr maxRtpMsgSize) (size : ℕ)
    (h : src.offset + size ≤ maxRtpMsgSize) :
    w.resetBuffers.copyRequest src size = .ok { w with
      ctx := { w.ctx with
        requestInfo := ⟨holding maxRtpMsgSize (src.block size), 0, 0⟩
        responseInfo := cResponseBufferInit w.ctx.responseInfo }
      log := .requestCopy size :: w.log } := by
  have hlen := src.length_block size h
  obtain ⟨buffer, hs, hf⟩ := (filled_zeros maxRtpMsgSize).store_append (src.block size) 0
    (by rw [hlen, List.length_nil]; omega)
  rw [List.length_nil] at hs
  rw [List.nil_append, List.replicate_zero, List.append_nil] at hf
  obtain rfl := hf.eq (filled_holding _ (by rw [hlen]; omega))
  simp only [copyRequest, src.load_eq size h, orFault_some, ok_bind]
  change (orFault _ ((zeros maxRtpMsgSize).store 0 (src.block size)) >>= _) = _
  rw [hs]
  rfl

/-- A copy larger than an array is an access outside. -/
theorem copyRequest_faults (w : World) (src : BytePtr maxRtpMsgSize) (size : ℕ)
    (h : maxRtpMsgSize < size) :
    w.copyRequest src size = .error (w.emit (.requestCopy size)) := by
  simp only [copyRequest, src.load_eq_none size (by omega), orFault_none, error_bind]

theorem loadRequest_reset (w : World) (src : BytePtr maxRtpMsgSize) (size : ℕ) (length : UInt16)
    (h : src.offset + size ≤ maxRtpMsgSize) (hl : length.toNat = size) :
    w.resetBuffers.loadRequest src size length = .ok (requestId (src.block size), { w with
      ctx := { w.ctx with
        requestInfo := loadedRequest (src.block size)
        responseInfo := echoedResponse (requestId (src.block size)) }
      log := .requestCopy size :: w.log }) := by
  have hlen := src.length_block size h
  have hlength : length = UInt16.ofNat (src.block size).length := by
    rw [hlen, ← hl, UInt16.ofNat_toNat]
  obtain ⟨ret, hread⟩ := readWord_loaded (src.block size) (by rw [hlen]; omega)
  obtain ⟨ret', hwrite⟩ := writeWord_reset (requestId (src.block size)) w.ctx.responseInfo
  simp only [loadRequest, w.copyRequest_reset src size h, ok_bind, echoId, setRequestLength,
    hlength]
  simp only [hread, orFault_some, ok_bind, hwrite]

/-- A reply is sent if and only if header and response fit into `omsg` together. -/
theorem sendReply_eq (w : World) (sender : Sender) (header : List UInt8) (client : IPv4Address) :
    w.sendReply sender header client =
      if header.length + w.ctx.responseInfo.length.toNat ≤ maxRtpMsgSize then
        .ok (w.dtplinkSend sender (header ++ w.ctx.responseInfo.buffer.bytes.take
          w.ctx.responseInfo.length.toNat) client)
      else .error w := by
  by_cases hheader : header.length ≤ maxRtpMsgSize
  · obtain ⟨a, ha, hfa⟩ := (filled_zeros maxRtpMsgSize).store_append header 0
      (by rw [List.length_nil]; omega)
    rw [List.length_nil] at ha
    rw [List.replicate_zero, List.append_nil, List.nil_append] at hfa
    simp only [sendReply, ha, orFault_some, ok_bind]
    by_cases hresp : w.ctx.responseInfo.length.toNat ≤ maxRtpMsgSize
    · have hn := w.ctx.responseInfo.buffer.length_bytes
      have hload : w.ctx.responseInfo.buffer.load 0 w.ctx.responseInfo.length.toNat =
          some (w.ctx.responseInfo.buffer.bytes.take w.ctx.responseInfo.length.toNat) :=
        if_pos (by omega)
      simp only [hload, orFault_some, ok_bind]
      have hbody : (w.ctx.responseInfo.buffer.bytes.take
          w.ctx.responseInfo.length.toNat).length = w.ctx.responseInfo.length.toNat := by
        rw [List.length_take]
        omega
      by_cases hfit : header.length + w.ctx.responseInfo.length.toNat ≤ maxRtpMsgSize
      · obtain ⟨b, hb, hfb⟩ := hfa.store_append (w.ctx.responseInfo.buffer.bytes.take
          w.ctx.responseInfo.length.toNat) 0 (by omega)
        rw [List.replicate_zero, List.append_nil] at hfb
        have htake := hfb.take
        rw [List.length_append, hbody] at htake
        simp only [hb, orFault_some, ok_bind, if_pos hfit, htake]
      · have hnone := (store_eq_none_iff a header.length (w.ctx.responseInfo.buffer.bytes.take
          w.ctx.responseInfo.length.toNat)).2 (by omega)
        simp only [hnone, orFault_none, error_bind, if_neg hfit]
    · have hnone : w.ctx.responseInfo.buffer.load 0 w.ctx.responseInfo.length.toNat = none :=
        if_neg (by omega)
      have hfit : ¬ header.length + w.ctx.responseInfo.length.toNat ≤ maxRtpMsgSize := by omega
      simp only [hnone, orFault_none, error_bind, if_neg hfit]
  · have hnone := (store_eq_none_iff (zeros maxRtpMsgSize) 0 header).2 (by omega)
    have hfit : ¬ header.length + w.ctx.responseInfo.length.toNat ≤ maxRtpMsgSize := by omega
    simp only [sendReply, hnone, orFault_none, error_bind, if_neg hfit]

/-- What the application makes of a body; `none` when it leaves one of the buffers. -/
def answer (P : Platform) (main : DeviceServer) (body : List UInt8) (w : World) :
    Option (CRequestBuffer × CResponseBuffer) :=
  (main (.requestCopy body.length :: w.log) (requestId body).toInt16).run P (loadedRequest body)
    (echoedResponse (requestId body))

def called (body : List UInt8) (requestInfo : CRequestBuffer) (responseInfo : CResponseBuffer)
    (w : World) : World :=
  { w with
    ctx := { w.ctx with requestInfo, responseInfo }
    log := .deviceServerMain (requestId body).toInt16 (loadedRequest body) ::
      .requestCopy body.length :: w.log }

/-- The application is called on every body that is loaded, and what it answers is sent when it
fits behind the header. -/
theorem serveRequest_reset (P : Platform) (main : DeviceServer) (sender : Sender)
    (header : List UInt8) (src : BytePtr maxRtpMsgSize) (size : ℕ) (length : UInt16)
    (client : IPv4Address) (w : World) (h : src.offset + size ≤ maxRtpMsgSize)
    (hl : length.toNat = size) :
    w.resetBuffers.serveRequest P main sender header src size length client =
      match w.answer P main (src.block size) with
      | none => .error (w.called (src.block size) (loadedRequest (src.block size))
          (echoedResponse (requestId (src.block size))))
      | some (req, resp) =>
          if header.length + resp.length.toNat ≤ maxRtpMsgSize then
            .ok ((w.called (src.block size) req resp).dtplinkSend sender
              (header ++ resp.buffer.bytes.take resp.length.toNat) client)
          else .error (w.called (src.block size) req resp) := by
  have hlen := src.length_block size h
  simp only [serveRequest, w.loadRequest_reset src size length h hl, ok_bind, deviceServerMain,
    emit, answer, called, hlen]
  cases (main (.requestCopy size :: w.log) (requestId (src.block size)).toInt16).run P
      (loadedRequest (src.block size)) (echoedResponse (requestId (src.block size))) with
  | none => rfl
  | some r => simp only [orFault_some, ok_bind, sendReply_eq]

theorem serveRequest_faults (P : Platform) (main : DeviceServer) (sender : Sender)
    (header : List UInt8) (src : BytePtr maxRtpMsgSize) (size : ℕ) (length : UInt16)
    (client : IPv4Address) (w : World) (h : maxRtpMsgSize < size) :
    w.serveRequest P main sender header src size length client =
      .error (w.emit (.requestCopy size)) := by
  simp only [serveRequest, loadRequest, w.copyRequest_faults src size h, error_bind]

end World

def Datagram.payloadLen (d : Datagram) : UInt16 :=
  (Int16.ofInt (d.msgLen.toInt - 2)).toUInt16

/-- A datagram of a single byte has a payload of 65535 bytes. -/
theorem toNat_payloadLen (d : Datagram) : d.payloadLen.toNat =
    if 2 ≤ d.bytes.length then d.bytes.length - 2 else 65535 := by
  have hpos := d.pos
  have hfits := d.fits
  have hm := maxRtpMsgSize_eq
  have hlen : d.msgLen.toInt = d.bytes.length :=
    Int16.toInt_ofInt_of_le (by omega) (by omega)
  rw [Datagram.payloadLen, toNat_toUInt16_ofInt, hlen]
  split_ifs with h
  · omega
  · omega

theorem dtplinkDSLoop_online (P : Platform) (main : DeviceServer) (w : World) (d : Datagram)
    (hs : w.ctx.mStatus = .online) : dtplinkDSLoop P main w (.data d.src d.bytes) =
      processClientRequests P main d.respId (d.ptr 2) (Int16.ofInt (d.msgLen.toInt - 2)) d.src
        w := by
  simp only [dtplinkDSLoop, dtplinkRecv_data, onDatagram, hs]

namespace Datagram

def IsDirect (d : Datagram) : Prop :=
  d.respId = queryDataToRemoteDS ∨ d.respId = queryDataToLocalDS

def IsRelayed (d : Datagram) : Prop :=
  d.respId = queryDataRelayToRemoteDS ∨ d.respId = queryDataHttpToRemoteDS

/-- The bytes in front of the body: prefix, client address, and the file descriptor of a tunnel. -/
def headerSize (d : Datagram) : ℕ :=
  if d.respId = queryDataRelayToRemoteDS then 9
  else if d.respId = queryDataHttpToRemoteDS then 14
  else 2

def relayFd (d : Datagram) : Int32 := (ntohl (loadUInt32 ((d.ptr 9).block 4))).toInt32

def replyHeader (d : Datagram) : List UInt8 :=
  if d.respId = queryDataRelayToRemoteDS then relayHeader (d.addressAt 2)
  else if d.respId = queryDataHttpToRemoteDS then httpHeader (d.addressAt 2) d.relayFd
  else [remoteDSDataRespToClient, space]

def replySender (d : Datagram) : Sender :=
  if d.respId = queryDataRelayToRemoteDS ∨ d.respId = queryDataHttpToRemoteDS then
    .processRelayDataQueryRequest
  else .processRemoteDataQueryRequest

theorem length_replyHeader (d : Datagram) : d.replyHeader.length = d.headerSize := by
  unfold replyHeader headerSize
  split_ifs
  · simp [relayHeader]
  · simp [httpHeader]
  · rfl

def body (d : Datagram) : List UInt8 := d.bytes.drop d.headerSize

theorem length_body (d : Datagram) : d.body.length = d.bytes.length - d.headerSize :=
  List.length_drop

theorem length_body_le (d : Datagram) : d.body.length ≤ maxRtpMsgSize := by
  have hfits := d.fits
  rw [length_body]
  omega

/-- At a place inside the datagram stands what was received from there on. -/
theorem block_ptr (d : Datagram) (k : ℕ) (h : k ≤ d.bytes.length) :
    (d.ptr k).block (d.bytes.length - k) = d.bytes.drop k := by
  change ((d.bytes ++ List.replicate _ 0).drop k).take _ = _
  rw [List.drop_append_of_le_length h, List.take_left' (by rw [List.length_drop])]

/-- The length a request has behind a header of `k + 2` bytes, in the arithmetic of the parsers. -/
def bodyLen (d : Datagram) (k : ℕ) : Int32 := (d.payloadLen.toUInt32 - UInt32.ofNat k).toInt32

theorem toInt_bodyLen (d : Datagram) (k : ℕ) (hk : k ≤ 12) :
    (d.bodyLen k).toInt = d.payloadLen.toNat - k := by
  have hlt := d.payloadLen.toNat_lt
  rw [bodyLen, toInt_toInt32, UInt32.toNat_sub, UInt16.toNat_toUInt32, UInt32.toNat_ofNat']
  split_ifs with h
  · omega
  · omega

theorem parseRelayInfoOnDS_ptr (d : Datagram) :
    parseRelayInfoOnDS (d.ptr 2) d.payloadLen = some (d.bodyLen 7, d.addressAt 2, d.ptr 9) := by
  rw [parseRelayInfoOnDS, loadAddress_payload d]
  rfl

theorem parseRelayHttpInfoOnDS_ptr (d : Datagram) :
    parseRelayHttpInfoOnDS (d.ptr 2) d.payloadLen.toUInt32 =
      some (d.bodyLen 12, d.addressAt 2, d.relayFd, d.ptr 14) := by
  have hfd : ((d.ptr 2).add 7).load 4 = some ((d.ptr 9).block 4) :=
    ((d.ptr 2).add 7).load_eq 4 (by change 2 + 7 + 4 ≤ 256; decide)
  rw [parseRelayHttpInfoOnDS, loadAddress_payload d]
  simp only [hfd, Option.bind_eq_bind, Option.bind_some]
  rfl

end Datagram

theorem toSizeT_bodyLen (P : Platform) (d : Datagram) (k : ℕ) (hk : k ≤ 12) :
    (k + 2 ≤ d.bytes.length → P.toSizeT (d.bodyLen k).toInt = d.bytes.length - (k + 2) ∧
      (d.bodyLen k).toUInt32.toUInt16.toNat = d.bytes.length - (k + 2)) ∧
    (d.bytes.length < k + 2 → maxRtpMsgSize < P.toSizeT (d.bodyLen k).toInt) := by
  have hm := maxRtpMsgSize_eq
  have hfits := d.fits
  have hlen := toNat_payloadLen d
  have hbody := d.toInt_bodyLen k hk
  constructor
  · intro h
    rw [if_pos (by omega)] at hlen
    have hnat : (d.bodyLen k).toInt = ((d.bytes.length - (k + 2) : ℕ) : ℤ) := by omega
    refine ⟨by rw [hnat, toSizeT_natCast P _ (by omega)], ?_⟩
    rw [Datagram.bodyLen, UInt32.toUInt32_toInt32, UInt32.toNat_toUInt16, UInt32.toNat_sub,
      UInt16.toNat_toUInt32, UInt32.toNat_ofNat']
    omega
  · intro h
    by_cases h2 : 2 ≤ d.bytes.length
    · rw [if_pos h2] at hlen
      have hbig := toSizeT_neg P (d.bodyLen k).toInt (by omega) (by omega)
      omega
    · rw [if_neg h2] at hlen
      have hnat : (d.bodyLen k).toInt = ((65535 - k : ℕ) : ℤ) := by omega
      rw [hnat, toSizeT_natCast P _ (by omega)]
      omega

theorem processClientRequests_direct (P : Platform) (main : DeviceServer) (w : World)
    (d : Datagram) (hid : d.IsDirect) :
    processClientRequests P main d.respId (d.ptr 2) (Int16.ofInt (d.msgLen.toInt - 2)) d.src w =
      w.resetBuffers.serveRequest P main d.replySender d.replyHeader (d.ptr d.headerSize)
        d.payloadLen.toNat d.payloadLen d.src := by
  unfold Datagram.replySender Datagram.replyHeader Datagram.headerSize
  rcases hid with hid | hid <;> rw [hid] <;> rfl

theorem processClientRequests_relayed (P : Platform) (main : DeviceServer) (w : World)
    (d : Datagram) (hid : d.IsRelayed) :
    processClientRequests P main d.respId (d.ptr 2) (Int16.ofInt (d.msgLen.toInt - 2)) d.src w =
      w.resetBuffers.serveRequest P main d.replySender d.replyHeader (d.ptr d.headerSize)
        (P.toSizeT (d.bodyLen (d.headerSize - 2)).toInt)
        (d.bodyLen (d.headerSize - 2)).toUInt32.toUInt16 d.src := by
  have hne : ¬ queryDataHttpToRemoteDS = queryDataRelayToRemoteDS := by decide
  unfold Datagram.replySender Datagram.replyHeader Datagram.headerSize
  rcases hid with hid | hid
  · rw [hid]
    change processRelayDataQueryRequest P main queryDataRelayToRemoteDS (d.ptr 2) d.payloadLen
      d.src w.resetBuffers = _
    simp only [processRelayDataQueryRequest, if_true, true_or, d.parseRelayInfoOnDS_ptr,
      Option.map_some, World.orFault_some, ok_bind, Nat.reduceSub]
  · rw [hid]
    change processRelayDataQueryRequest P main queryDataHttpToRemoteDS (d.ptr 2) d.payloadLen
      d.src w.resetBuffers = _
    simp only [processRelayDataQueryRequest, if_neg hne, if_true, or_true,
      d.parseRelayHttpInfoOnDS_ptr, Option.map_some, World.orFault_some, ok_bind, Nat.reduceSub]

theorem headerSize_direct (d : Datagram) (hid : d.IsDirect) : d.headerSize = 2 := by
  rcases hid with hid | hid <;> rw [Datagram.headerSize, hid] <;> rfl

theorem headerSize_relayed (d : Datagram) (hid : d.IsRelayed) :
    2 ≤ d.headerSize ∧ d.headerSize ≤ 14 := by
  rcases hid with hid | hid <;> rw [Datagram.headerSize, hid] <;> decide

/-- On every path a data request is the common service of its body. The size of the body is right
when the header is complete and beyond every array when it is not. -/
theorem processClientRequests_serve (P : Platform) (main : DeviceServer) (w : World)
    (d : Datagram) (hid : d.IsDirect ∨ d.IsRelayed) : ∃ size length,
    processClientRequests P main d.respId (d.ptr 2) (Int16.ofInt (d.msgLen.toInt - 2)) d.src w =
      w.resetBuffers.serveRequest P main d.replySender d.replyHeader (d.ptr d.headerSize) size
        length d.src ∧
    (d.headerSize ≤ d.bytes.length → size = d.bytes.length - d.headerSize ∧
      length.toNat = d.bytes.length - d.headerSize) ∧
    (d.bytes.length < d.headerSize → maxRtpMsgSize < size) := by
  rcases hid with hid | hid
  · have hlen := toNat_payloadLen d
    rw [headerSize_direct d hid]
    refine ⟨_, _, headerSize_direct d hid ▸ processClientRequests_direct P main w d hid, ?_, ?_⟩
    · intro h
      rw [if_pos h] at hlen
      exact ⟨hlen, hlen⟩
    · intro h
      rw [hlen, if_neg (by omega)]
      decide
  · obtain ⟨hlo, hhi⟩ := headerSize_relayed d hid
    obtain ⟨hok, hbad⟩ := toSizeT_bodyLen P d (d.headerSize - 2) (by omega)
    rw [Nat.sub_add_cancel hlo] at hok hbad
    exact ⟨_, _, processClientRequests_relayed P main w d hid, hok, hbad⟩

theorem processClientRequests_data (P : Platform) (main : DeviceServer) (w : World)
    (d : Datagram) (hid : d.IsDirect ∨ d.IsRelayed) (hn : d.headerSize ≤ d.bytes.length) :
    processClientRequests P main d.respId (d.ptr 2) (Int16.ofInt (d.msgLen.toInt - 2)) d.src w =
      match w.answer P main d.body with
      | none => .error (w.called d.body (loadedRequest d.body)
          (echoedResponse (requestId d.body)))
      | some (req, resp) =>
          if d.headerSize + resp.length.toNat ≤ maxRtpMsgSize then
            .ok ((w.called d.body req resp).dtplinkSend d.replySender
              (d.replyHeader ++ resp.buffer.bytes.take resp.length.toNat) d.src)
          else .error (w.called d.body req resp) := by
  have hfits := d.fits
  obtain ⟨size, length, hproc, hok, -⟩ := processClientRequests_serve P main w d hid
  obtain ⟨rfl, hlen⟩ := hok hn
  have hroom : (d.ptr d.headerSize).offset + (d.bytes.length - d.headerSize) ≤ maxRtpMsgSize := by
    change d.headerSize + (d.bytes.length - d.headerSize) ≤ maxRtpMsgSize
    omega
  rw [hproc, w.serveRequest_reset P main _ _ _ _ _ _ hroom hlen, d.block_ptr _ hn,
    d.length_replyHeader]
  rfl

theorem processClientRequests_faults (P : Platform) (main : DeviceServer) (w : World)
    (d : Datagram) (hid : d.IsDirect ∨ d.IsRelayed) (hn : d.bytes.length < d.headerSize) :
    ∃ size, processClientRequests P main d.respId (d.ptr 2) (Int16.ofInt (d.msgLen.toInt - 2))
      d.src w = .error (w.resetBuffers.emit (.requestCopy size)) := by
  obtain ⟨size, length, hproc, -, hbad⟩ := processClientRequests_serve P main w d hid
  exact ⟨_, hproc.trans (World.serveRequest_faults _ _ _ _ _ _ _ _ _ (hbad hn))⟩

/-- A data request with a complete header is copied once and reaches the application with exactly
its body. -/
theorem dataRequest_served (P : Platform) (main : DeviceServer) (w : World) (d : Datagram)
    (hs : w.ctx.mStatus = .online) (hid : d.IsDirect ∨ d.IsRelayed)
    (hn : d.headerSize ≤ d.bytes.length) : ∃ later,
    (outcome (dtplinkDSLoop P main w (.data d.src d.bytes))).log = later ++
      .deviceServerMain (requestId d.body).toInt16 (loadedRequest d.body) ::
      .requestCopy d.body.length :: w.log ∧
    ∀ size, Event.requestCopy size ∉ later := by
  rw [dtplinkDSLoop_online P main w d hs, processClientRequests_data P main w d hid hn]
  cases w.answer P main d.body with
  | none => exact ⟨[], rfl, by simp⟩
  | some r =>
    simp only
    split_ifs
    · exact ⟨[_], rfl, by simp⟩
    · exact ⟨[], rfl, by simp⟩

/-- The iteration ends and has neither copied a request, called the application nor sent. -/
def Dropped (P : Platform) (main : DeviceServer) (w : World) (d : Datagram) : Prop :=
  ∃ w', dtplinkDSLoop P main w (.data d.src d.bytes) = .ok w' ∧ w'.log = w.log

theorem not_dropped (P : Platform) (main : DeviceServer) (w : World) (d : Datagram)
    (hs : w.ctx.mStatus = .online) (hid : d.IsDirect ∨ d.IsRelayed)
    (hn : d.bytes.length < d.headerSize) : ¬ Dropped P main w d := by
  rintro ⟨w', hw', -⟩
  obtain ⟨w'', hw''⟩ := processClientRequests_faults P main w d hid hn
  rw [dtplinkDSLoop_online P main w d hs, hw''] at hw'
  exact absurd hw' (by simp)

/-- A datagram without the two bytes of the prefix is dropped. Of any other no more is copied than
was received behind the prefix, and the application finds just that length. -/
def DirectIngress (P : Platform) (main : DeviceServer) (w : World) (d : Datagram) : Prop :=
  (d.bytes.length < 2 → Dropped P main w d) ∧
  (2 ≤ d.bytes.length → ∃ later id req size,
    (outcome (dtplinkDSLoop P main w (.data d.src d.bytes))).log =
      later ++ .deviceServerMain id req :: .requestCopy size :: w.log ∧
    (∀ k, Event.requestCopy k ∉ later) ∧ size ≤ maxRtpMsgSize ∧ size ≤ d.bytes.length - 2 ∧
    req.length.toNat = d.bytes.length - 2)

/-- The direct path takes in what it should exactly when the prefix is complete. -/
theorem directIngress_iff (P : Platform) (main : DeviceServer) (w : World) (d : Datagram)
    (hs : w.ctx.mStatus = .online) (hid : d.IsDirect) :
    DirectIngress P main w d ↔ 2 ≤ d.bytes.length := by
  have hsize := headerSize_direct d hid
  constructor
  · rintro ⟨hdrop, -⟩
    by_contra hn
    exact not_dropped P main w d hs (Or.inl hid) (by omega) (hdrop (by omega))
  · intro hn
    obtain ⟨later, hlog, honce⟩ := dataRequest_served P main w d hs (Or.inl hid) (by omega)
    have hbody : d.body.length = d.bytes.length - 2 := by rw [d.length_body, hsize]
    have hlen := length_loadedRequest d.body d.length_body_le
    exact ⟨fun h => absurd hn (by omega), fun _ => ⟨later, _, _, _, hlog, honce,
      d.length_body_le, hbody.le, hlen.trans hbody⟩⟩

def bareRequest (id : UInt8) : Datagram :=
  ⟨sampleAddress, [id], by simp, by simp [maxRtpMsgSize]⟩

theorem directIngress_bareRequest :
    DirectIngress .linux (fun _ _ => .done) onlineWorld (bareRequest queryDataToLocalDS) ↔
      2 ≤ (bareRequest queryDataToLocalDS).bytes.length :=
  directIngress_iff .linux _ onlineWorld _ rfl (Or.inr rfl)

/-- On an online server the lone byte `0x51` is not dropped. -/
theorem bareRequest_not_dropped :
    Reached .linux (fun _ _ => .done) onlineWorld ∧ onlineWorld.ctx.mStatus = .online ∧
      ¬ DirectIngress .linux (fun _ _ => .done) onlineWorld (bareRequest queryDataToRemoteDS) :=
  ⟨reached_onlineWorld, rfl, fun h =>
    not_dropped .linux _ onlineWorld _ rfl (Or.inl (Or.inl rfl)) (by decide)
      (h.1 (by decide))⟩

def Datagram.parsedLen (d : Datagram) : Option Int32 :=
  if d.respId = queryDataRelayToRemoteDS then
    (parseRelayInfoOnDS (d.ptr 2) d.payloadLen).map (fun r => r.1)
  else (parseRelayHttpInfoOnDS (d.ptr 2) d.payloadLen.toUInt32).map (fun r => r.1)

theorem parsedLen_relayed (d : Datagram) (hid : d.IsRelayed)
    (hn : d.headerSize ≤ d.bytes.length) :
    ∃ len, d.parsedLen = some len ∧ len.toInt = d.bytes.length - d.headerSize := by
  have hlen := toNat_payloadLen d
  obtain ⟨hlo, hhi⟩ := headerSize_relayed d hid
  rw [if_pos (by omega)] at hlen
  refine ⟨d.bodyLen (d.headerSize - 2), ?_, ?_⟩
  · have hne : ¬ queryDataHttpToRemoteDS = queryDataRelayToRemoteDS := by decide
    rcases hid with hid | hid
    · rw [Datagram.parsedLen, if_pos hid, d.parseRelayInfoOnDS_ptr, Datagram.headerSize,
        if_pos hid]
      rfl
    · rw [Datagram.parsedLen, hid, if_neg hne, d.parseRelayHttpInfoOnDS_ptr, Datagram.headerSize,
        hid, if_neg hne, if_pos rfl]
      rfl
  · rw [d.toInt_bodyLen _ (by omega)]
    omega

/-- A relayed datagram without the whole header is dropped. Of any other the parser computes the
exact length of the body, and the application finds just the body. -/
def RelayIngress (P : Platform) (main : DeviceServer) (w : World) (d : Datagram) : Prop :=
  (d.bytes.length < d.headerSize → Dropped P main w d) ∧
  (d.headerSize ≤ d.bytes.length →
    (∃ len, d.parsedLen = some len ∧ len.toInt = d.bytes.length - d.headerSize) ∧
    ∃ later id req size, (outcome (dtplinkDSLoop P main w (.data d.src d.bytes))).log =
        later ++ .deviceServerMain id req :: .requestCopy size :: w.log ∧
      (∀ k, Event.requestCopy k ∉ later) ∧ size ≤ maxRtpMsgSize ∧
      req.length.toNat = d.bytes.length - d.headerSize ∧
      req.buffer.bytes.take (d.bytes.length - d.headerSize) = d.bytes.drop d.headerSize)

/-- The relay paths take in what they should exactly when the header is complete. -/
theorem relayIngress_iff (P : Platform) (main : DeviceServer) (w : World) (d : Datagram)
    (hs : w.ctx.mStatus = .online) (hid : d.IsRelayed) :
    RelayIngress P main w d ↔ d.headerSize ≤ d.bytes.length := by
  constructor
  · rintro ⟨hdrop, -⟩
    by_contra hn
    exact not_dropped P main w d hs (Or.inr hid) (by omega) (hdrop (by omega))
  · intro hn
    obtain ⟨later, hlog, honce⟩ := dataRequest_served P main w d hs (Or.inr hid) hn
    have hlen := length_loadedRequest d.body d.length_body_le
    have htake := (filled_holding d.body d.length_body_le).take
    rw [d.length_body] at hlen htake
    exact ⟨fun h => absurd hn (by omega), fun _ => ⟨parsedLen_relayed d hid hn,
      later, _, _, _, hlog, honce, d.length_body_le, hlen, htake⟩⟩

theorem relayIngress_bareRequest :
    RelayIngress .windows (fun _ _ => .done) onlineWorld (bareRequest queryDataRelayToRemoteDS) ↔
      (bareRequest queryDataRelayToRemoteDS).headerSize ≤
        (bareRequest queryDataRelayToRemoteDS).bytes.length :=
  relayIngress_iff .windows _ onlineWorld _ rfl (Or.inl rfl)

theorem bareRelay_not_dropped :
    Reached .linux (fun _ _ => .done) onlineWorld ∧ onlineWorld.ctx.mStatus = .online ∧
      ¬ RelayIngress .linux (fun _ _ => .done) onlineWorld (bareRequest queryDataHttpToRemoteDS) :=
  ⟨reached_onlineWorld, rfl, fun h =>
    not_dropped .linux _ onlineWorld _ rfl (Or.inr (Or.inr rfl)) (by decide)
      (h.1 (by decide))⟩

end OpenDSLite
