import OpenDSLite.RequestIngress

/-!
# What serving a client can do

Besides the data requests there are two name queries; a datagram with any other first byte only
clears the buffers. Whatever the datagram, serving it changes nothing but the two buffers and the
log, and what it sends is an answer to a client.
-/

namespace OpenDSLite

open ByteOrder ByteArea

namespace Datagram

def name (d : Datagram) : CString :=
  ⟨(d.msg.bytes.drop 2).takeWhile (· != 0), fun h => ne_zero_of_mem_takeWhile _ 0 h rfl⟩

/-- The receive array ends with zeros, so a name behind the prefix is terminated. -/
theorem cstring_payload (d : Datagram) : (d.ptr 2).cstring = some d.name := by
  have hm := maxRtpMsgSize_eq
  have hfits := d.fits
  have hzero : (0 : UInt8) ∈ d.msg.bytes.drop 2 := by
    change (0 : UInt8) ∈ (d.bytes ++ List.replicate (maxRtpMsgSize - d.bytes.length) 0).drop 2
    rw [List.drop_append, List.drop_replicate]
    exact List.mem_append_right _ (List.mem_replicate.mpr ⟨by omega, rfl⟩)
  exact if_pos hzero

/-- The datagram asks for a name or for data. -/
def IsRequest (d : Datagram) : Prop :=
  d.respId = queryDSIPToDNSServer ∨ d.respId = queryDSIPToLocalDS ∨ d.IsDirect ∨ d.IsRelayed

theorem not_isRequest (d : Datagram) (h43 : d.respId ≠ queryDSIPToDNSServer)
    (h44 : d.respId ≠ queryDSIPToLocalDS) (hdata : ¬ (d.IsDirect ∨ d.IsRelayed)) :
    ¬ d.IsRequest := by
  rintro (h | h | h)
  · exact h43 h
  · exact h44 h
  · exact hdata h

end Datagram

theorem processClientRequests_dnsQuery (P : Platform) (main : DeviceServer) (w : World)
    (d : Datagram) (hid : d.respId = queryDSIPToDNSServer) :
    processClientRequests P main d.respId (d.ptr 2) (Int16.ofInt (d.msgLen.toInt - 2)) d.src w =
      .ok (processDNSQueryRequest (d.addressAt 2) w.resetBuffers) := by
  have hport : ((d.ptr 2).add 6).load 2 = some (((d.ptr 2).add 6).block 2) :=
    ((d.ptr 2).add 6).load_eq 2 (by change 2 + 6 + 2 ≤ 256; decide)
  simp only [processClientRequests, if_pos hid, onReceiveDNSQueryRequest, loadAddress_payload d,
    hport, World.orFault_some, ok_bind]

theorem processClientRequests_localQuery (P : Platform) (main : DeviceServer) (w : World)
    (d : Datagram) (hid : d.respId = queryDSIPToLocalDS) :
    processClientRequests P main d.respId (d.ptr 2) (Int16.ofInt (d.msgLen.toInt - 2)) d.src w =
      if w.ctx.mID = d.name then .ok (processLocalDNSQueryRequest d.src w.resetBuffers)
      else .ok w.resetBuffers := by
  have hne : ¬ queryDSIPToLocalDS = queryDSIPToDNSServer := by decide
  simp only [processClientRequests, hid, if_neg hne, if_true, onReceiveLocalDNSQueryRequest,
    d.cstring_payload, World.orFault_some, ok_bind]
  rfl

/-- A datagram that is no request clears the buffers and has no other effect. -/
theorem processClientRequests_other (P : Platform) (main : DeviceServer) (w : World)
    (d : Datagram) (hid : ¬ d.IsRequest) :
    processClientRequests P main d.respId (d.ptr 2) (Int16.ofInt (d.msgLen.toInt - 2)) d.src w =
      .ok w.resetBuffers := by
  simp only [Datagram.IsRequest, Datagram.IsDirect, Datagram.IsRelayed, not_or] at hid
  obtain ⟨h43, h44, ⟨h51, h53⟩, h61, h63⟩ := hid
  simp only [processClientRequests, if_neg h43, if_neg h44, if_neg h51, if_neg h53, h61, h63,
    or_self, if_false]

theorem processClientRequests_cleared (P : Platform) (main : DeviceServer) (w : World)
    (d : Datagram) (hid : ¬ (d.IsDirect ∨ d.IsRelayed)) (h43 : d.respId ≠ queryDSIPToDNSServer)
    (hname : d.respId = queryDSIPToLocalDS → w.ctx.mID ≠ d.name) :
    processClientRequests P main d.respId (d.ptr 2) (Int16.ofInt (d.msgLen.toInt - 2)) d.src w =
      .ok w.resetBuffers := by
  by_cases h44 : d.respId = queryDSIPToLocalDS
  · rw [processClientRequests_localQuery P main w d h44, if_neg (hname h44)]
  · exact processClientRequests_other P main w d (d.not_isRequest h43 h44 hid)

/-- The ways serving a datagram ends. -/
inductive Serving (P : Platform) (main : DeviceServer) (w : World) (d : Datagram) :
    Except World World → Prop
  | headerIncomplete (hid : d.IsDirect ∨ d.IsRelayed) (hn : d.bytes.length < d.headerSize)
      (size : ℕ) : Serving P main w d (.error (w.resetBuffers.emit (.requestCopy size)))
  | buffersLeft (hid : d.IsDirect ∨ d.IsRelayed) (hn : d.headerSize ≤ d.bytes.length)
      (ha : w.answer P main d.body = none) :
      Serving P main w d (.error (w.called d.body (loadedRequest d.body)
        (echoedResponse (requestId d.body))))
  | replyTooLong (hid : d.IsDirect ∨ d.IsRelayed) (hn : d.headerSize ≤ d.bytes.length)
      (req : CRequestBuffer) (resp : CResponseBuffer)
      (ha : w.answer P main d.body = some (req, resp))
      (hfit : ¬ d.headerSize + resp.length.toNat ≤ maxRtpMsgSize) :
      Serving P main w d (.error (w.called d.body req resp))
  | replied (hid : d.IsDirect ∨ d.IsRelayed) (hn : d.headerSize ≤ d.bytes.length)
      (req : CRequestBuffer) (resp : CResponseBuffer)
      (ha : w.answer P main d.body = some (req, resp))
      (hfit : d.headerSize + resp.length.toNat ≤ maxRtpMsgSize) :
      Serving P main w d (.ok ((w.called d.body req resp).dtplinkSend d.replySender
        (d.replyHeader ++ resp.buffer.bytes.take resp.length.toNat) d.src))
  | punched (hid : ¬ (d.IsDirect ∨ d.IsRelayed)) (h43 : d.respId = queryDSIPToDNSServer) :
      Serving P main w d (.ok (processDNSQueryRequest (d.addressAt 2) w.resetBuffers))
  | named (hid : ¬ (d.IsDirect ∨ d.IsRelayed)) (h44 : d.respId = queryDSIPToLocalDS)
      (hname : w.ctx.mID = d.name) :
      Serving P main w d (.ok (processLocalDNSQueryRequest d.src w.resetBuffers))
  | cleared (hid : ¬ (d.IsDirect ∨ d.IsRelayed)) (h43 : d.respId ≠ queryDSIPToDNSServer)
      (hname : d.respId = queryDSIPToLocalDS → w.ctx.mID ≠ d.name) :
      Serving P main w d (.ok w.resetBuffers)

theorem serving (P : Platform) (main : DeviceServer) (w : World) (d : Datagram) :
    Serving P main w d (processClientRequests P main d.respId (d.ptr 2)
      (Int16.ofInt (d.msgLen.toInt - 2)) d.src w) := by
  by_cases hid : d.IsDirect ∨ d.IsRelayed
  · by_cases hn : d.headerSize ≤ d.bytes.length
    · rw [processClientRequests_data P main w d hid hn]
      cases ha : w.answer P main d.body with
      | none => exact .buffersLeft hid hn ha
      | some r =>
        simp only
        split_ifs with hfit
        · exact .replied hid hn r.1 r.2 ha hfit
        · exact .replyTooLong hid hn r.1 r.2 ha hfit
    · obtain ⟨size, hfault⟩ := processClientRequests_faults P main w d hid (by omega)
      rw [hfault]
      exact .headerIncomplete hid (by omega) size
  by_cases h43 : d.respId = queryDSIPToDNSServer
  · rw [processClientRequests_dnsQuery P main w d h43]
    exact .punched hid h43
  by_cases hname : d.respId = queryDSIPToLocalDS ∧ w.ctx.mID = d.name
  · rw [processClientRequests_localQuery P main w d hname.1, if_pos hname.2]
    exact .named hid hname.1 hname.2
  · have hother : d.respId = queryDSIPToLocalDS → w.ctx.mID ≠ d.name :=
      fun h44 he => hname ⟨h44, he⟩
    rw [processClientRequests_cleared P main w d hid h43 hother]
    exact .cleared hid h43 hother

/-- The datagrams a client gets: a punch, the echo of its name query, or a framed response. -/
def Sent.IsAnswer (s : Sent) : Prop :=
  (s.sender = .processDNSQueryRequest ∧ s.msg = [serverPunching]) ∨
  (s.sender = .processLocalDNSQueryRequest ∧ s.msg = [queryDSIPToLocalDS]) ∨
  ((s.sender = .processRemoteDataQueryRequest ∨ s.sender = .processRelayDataQueryRequest) ∧
    ∃ op rest, s.msg = op :: rest ∧ (op = remoteDSDataRespToClient ∨
      op = remoteDSDataRespRelayToClient ∨ op = remoteDSDataRespHttpToClient))

def Event.IsService : Event → Prop
  | .requestCopy _ | .deviceServerMain _ _ => True
  | .send s => s.IsAnswer
  | .startKeepAlive => False

def AfterService (w w' : World) : Prop :=
  ∃ requestInfo responseInfo events,
    w' = { w with ctx := { w.ctx with requestInfo, responseInfo }, log := events ++ w.log } ∧
    ∀ e ∈ events, e.IsService

theorem afterService_buffers (w : World) (requestInfo : CRequestBuffer)
    (responseInfo : CResponseBuffer) :
    AfterService w { w with ctx := { w.ctx with requestInfo, responseInfo } } :=
  ⟨requestInfo, responseInfo, [], rfl, by simp⟩

theorem AfterService.emit {w w' : World} (h : AfterService w w') (e : Event) (he : e.IsService) :
    AfterService w (w'.emit e) := by
  obtain ⟨requestInfo, responseInfo, events, rfl, hev⟩ := h
  refine ⟨requestInfo, responseInfo, e :: events, rfl, fun x hx => ?_⟩
  rcases List.mem_cons.mp hx with rfl | hx
  · exact he
  · exact hev x hx

theorem afterService_resetBuffers (w : World) : AfterService w w.resetBuffers :=
  afterService_buffers w (cRequestBufferInit w.ctx.requestInfo)
    (cResponseBufferInit w.ctx.responseInfo)

theorem afterService_called (w : World) (body : List UInt8) (requestInfo : CRequestBuffer)
    (responseInfo : CResponseBuffer) :
    AfterService w (w.called body requestInfo responseInfo) :=
  ⟨requestInfo, responseInfo, [_, _], rfl, by simp [Event.IsService]⟩

theorem isAnswer_reply (d : Datagram) (fd : UInt32) (body : List UInt8) :
    Sent.IsAnswer ⟨d.replySender, fd, d.replyHeader ++ body, d.src⟩ := by
  refine Or.inr (Or.inr ⟨?_, ?_⟩)
  · unfold Datagram.replySender
    split_ifs
    · exact Or.inr rfl
    · exact Or.inl rfl
  · unfold Datagram.replyHeader
    split_ifs
    · exact ⟨remoteDSDataRespRelayToClient, _, rfl, Or.inr (Or.inl rfl)⟩
    · exact ⟨remoteDSDataRespHttpToClient, _, rfl, Or.inr (Or.inr rfl)⟩
    · exact ⟨remoteDSDataRespToClient, _, rfl, Or.inl rfl⟩

/-- Serving a client ends in such a world, be it at the end of the handler or at a bad access. -/
theorem afterService_processClientRequests (P : Platform) (main : DeviceServer) (w : World)
    (d : Datagram) : AfterService w (outcome (processClientRequests P main d.respId (d.ptr 2)
      (Int16.ofInt (d.msgLen.toInt - 2)) d.src w)) := by
  have hreset := afterService_resetBuffers w
  have hserving := serving P main w d
  generalize processClientRequests P main d.respId (d.ptr 2) (Int16.ofInt (d.msgLen.toInt - 2))
    d.src w = result at hserving ⊢
  cases hserving with
  | headerIncomplete hid hn size => exact hreset.emit _ trivial
  | buffersLeft hid hn ha => exact afterService_called w d.body _ _
  | replyTooLong hid hn req resp ha hfit => exact afterService_called w d.body req resp
  | replied hid hn req resp ha hfit =>
    exact (afterService_called w d.body req resp).emit _ (isAnswer_reply d _ _)
  | punched hid h43 => exact hreset.emit _ (Or.inl ⟨rfl, rfl⟩)
  | named hid h44 hname => exact hreset.emit _ (Or.inr (Or.inl ⟨rfl, rfl⟩))
  | cleared hid h43 hname => exact hreset

end OpenDSLite
