import OpenDSLite.RequestIngress

/-!
# Replies on their way out

The writers fill the response up to the size of an array. The reply is that response behind a
header, in an array of the same size, so a response that the writers still accept may leave no
room for the header.
-/

namespace OpenDSLite

open ByteOrder ByteArea

/-- The number of bytes a response holds after typed calls behind the echoed identifier. -/
def responseLength (P : Platform) (ws : List WriteCall) : ℕ :=
  BoundedLog.fill maxRtpMsgSize 2 (ws.map (fun c => (c.encode P).length))

theorem answer_writes (P : Platform) (ws : List WriteCall) (hw : ∀ c ∈ ws, c.IsTyped)
    (body : List UInt8) (w : World) : ∃ resp,
    w.answer P (fun _ _ => .ofWrites ws) body = some (loadedRequest body, resp) ∧
      resp.length.toNat = responseLength P ws ∧ responseLength P ws ≤ maxRtpMsgSize := by
  obtain ⟨rets, resp, hrun, hh, hl, -⟩ := writeAll_offers P ws hw
    (echoedResponse (requestId body)) _ (holds_echoedResponse (requestId body)) rfl
  have hlen : (BoundedLog.offers maxRtpMsgSize (beBytes 2 (requestId body).toNat)
      (ws.map (WriteCall.encode P))).length = responseLength P ws := by
    rw [BoundedLog.length_offers, length_beBytes, List.map_map]
    rfl
  refine ⟨resp, ?_, by rw [hl, hh.tail, hlen], hlen ▸ hh.length_le⟩
  rw [World.answer, ofWrites_run, hrun]
  rfl

/-- The iteration ends with a reply that is no longer than `omsg`. -/
def ReplyInside (P : Platform) (main : DeviceServer) (w : World) (d : Datagram) : Prop :=
  ∃ w' s, dtplinkDSLoop P main w (.data d.src d.bytes) = .ok w' ∧
    w'.log.head? = some (.send s) ∧ s.sender = d.replySender ∧ s.msg.length ≤ maxRtpMsgSize

theorem dataRequest_writes (P : Platform) (ws : List WriteCall) (hw : ∀ c ∈ ws, c.IsTyped)
    (w : World) (d : Datagram) (hs : w.ctx.mStatus = .online) (hid : d.IsDirect ∨ d.IsRelayed)
    (hn : d.headerSize ≤ d.bytes.length) : ∃ w₁ body, body.length = responseLength P ws ∧
    dtplinkDSLoop P (fun _ _ => .ofWrites ws) w (.data d.src d.bytes) =
      if d.headerSize + responseLength P ws ≤ maxRtpMsgSize then
        .ok (w₁.dtplinkSend d.replySender (d.replyHeader ++ body) d.src)
      else .error w₁ := by
  obtain ⟨resp, hanswer, hlen, hle⟩ := answer_writes P ws hw d.body w
  refine ⟨w.called d.body (loadedRequest d.body) resp,
    resp.buffer.bytes.take resp.length.toNat, ?_, ?_⟩
  · have hbytes := resp.buffer.length_bytes
    rw [List.length_take]
    omega
  · rw [dtplinkDSLoop_online P _ w d hs, processClientRequests_data P _ w d hid hn, hanswer, ← hlen]

theorem not_replyInside (P : Platform) (ws : List WriteCall) (hw : ∀ c ∈ ws, c.IsTyped)
    (w : World) (d : Datagram) (hs : w.ctx.mStatus = .online) (hid : d.IsDirect ∨ d.IsRelayed)
    (hn : d.headerSize ≤ d.bytes.length)
    (hover : maxRtpMsgSize < d.headerSize + responseLength P ws) :
    ¬ ReplyInside P (fun _ _ => .ofWrites ws) w d := by
  rintro ⟨w', s, hw', -⟩
  obtain ⟨w₁, body, -, hloop⟩ := dataRequest_writes P ws hw w d hs hid hn
  rw [hloop, if_neg (by omega)] at hw'
  exact absurd hw' (by simp)

/-- The reply stays inside `omsg` exactly when the response leaves room for the header. -/
theorem replyInside_iff (P : Platform) (ws : List WriteCall) (hw : ∀ c ∈ ws, c.IsTyped)
    (w : World) (d : Datagram) (hs : w.ctx.mStatus = .online) (hid : d.IsDirect ∨ d.IsRelayed)
    (hn : d.headerSize ≤ d.bytes.length) :
    ReplyInside P (fun _ _ => .ofWrites ws) w d ↔
      d.headerSize + responseLength P ws ≤ maxRtpMsgSize := by
  constructor
  · intro h
    by_contra hover
    exact not_replyInside P ws hw w d hs hid hn (by omega) h
  · intro hfit
    obtain ⟨w₁, body, hbody, hloop⟩ := dataRequest_writes P ws hw w d hs hid hn
    rw [if_pos hfit] at hloop
    refine ⟨_, _, hloop, rfl, rfl, ?_⟩
    change (d.replyHeader ++ body).length ≤ maxRtpMsgSize
    rwa [List.length_append, d.length_replyHeader, hbody]

def plainRequest : Datagram :=
  ⟨sampleAddress, [queryDataToRemoteDS, space, 0, 7], by decide, by decide⟩

theorem replyInside_plainRequest :
    ReplyInside .linux (fun _ _ => .ofWrites [.word 7, .byte 1]) onlineWorld plainRequest ↔
      plainRequest.headerSize + responseLength .linux [.word 7, .byte 1] ≤ maxRtpMsgSize :=
  replyInside_iff .linux _ (by decide) onlineWorld plainRequest rfl (Or.inl (Or.inl rfl))
    (by decide)

def longString : WriteCall :=
  .string ⟨List.replicate 253 0x41, fun h => absurd (List.eq_of_mem_replicate h) (by decide)⟩

/-- The writers accept the full response, and its reply needs 258 bytes. -/
theorem full_response_overflows : Reached .linux (fun _ _ => .done) onlineWorld ∧
    onlineWorld.ctx.mStatus = .online ∧
    ¬ ReplyInside .linux (fun _ _ => .ofWrites [longString]) onlineWorld plainRequest := by
  have hsize : (longString.encode .linux).length = 254 := by
    simp only [longString, WriteCall.encode, List.length_append, List.length_replicate,
      List.length_singleton]
  have hlen : responseLength .linux [longString] = 256 := by
    rw [responseLength, List.map_singleton, hsize]
    rfl
  refine ⟨reached_onlineWorld, rfl, ?_⟩
  apply not_replyInside .linux [longString] (by decide) onlineWorld plainRequest rfl
    (Or.inl (Or.inl rfl)) (by decide)
  rw [hlen]
  decide

end OpenDSLite
