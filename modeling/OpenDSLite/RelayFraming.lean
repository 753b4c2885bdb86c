import OpenDSLite.RequestService
import OpenDSLite.WriteSequences

/-!
# The frame of a relayed reply

A relayed request carries the address of its client, and through the HTTP tunnel also the file
descriptor of the relay. The handlers decode both to host order and encode them again in front of
the reply. The reply is the header of the request with another opcode, the identifier, and the
images of the writes of the application that succeed.
-/

namespace OpenDSLite

open ByteOrder ByteArea

namespace Application

/-- The application makes typed writes only, which may depend on what earlier ones returned. -/
def WritesOnly : Application → Prop
  | done => True
  | write c next => c.IsTyped ∧ ∀ ret, (next ret).WritesOnly
  | read _ _ => False

def calls (P : Platform) : Application → CResponseBuffer → List WriteCall
  | done, _ => []
  | write c next, resp => c ::
      match c.run P resp with
      | some (ret, resp') => (next ret).calls P resp'
      | none => []
  | read _ _, _ => []

def succeededWrites (P : Platform) (app : Application) (resp : CResponseBuffer) :
    List WriteCall :=
  match writeAll P (app.calls P resp) resp with
  | some (rets, _) => succeededCalls (app.calls P resp) rets
  | none => []

theorem isTyped_calls (P : Platform) (app : Application) (h : app.WritesOnly)
    (resp : CResponseBuffer) : ∀ c ∈ app.calls P resp, c.IsTyped := by
  induction app generalizing resp with
  | done => simp [calls]
  | read d next ih => exact h.elim
  | write c next ih =>
    intro c' hc'
    rw [calls] at hc'
    rcases List.mem_cons.mp hc' with rfl | hc'
    · exact h.1
    · cases hrun : c.run P resp with
      | none => simp [hrun] at hc'
      | some r =>
        simp only [hrun] at hc'
        exact ih r.1 (h.2 r.1) r.2 c' hc'

/-- What such an application does is what the list of its calls does. -/
theorem run_eq_writeAll (P : Platform) (app : Application) (h : app.WritesOnly)
    (req : CRequestBuffer) (resp : CResponseBuffer) :
    app.run P req resp = (writeAll P (app.calls P resp) resp).map (fun r => (req, r.2)) := by
  induction app generalizing resp with
  | done => rfl
  | read d next ih => exact h.elim
  | write c next ih =>
    simp only [run, calls, writeAll]
    cases hrun : c.run P resp with
    | none => rfl
    | some r =>
      simp only [Option.bind_some, ih r.1 (h.2 r.1), Option.map_map, Function.comp_def]

theorem run_writesOnly (P : Platform) (app : Application) (h : app.WritesOnly)
    (req : CRequestBuffer) (resp : CResponseBuffer) (bytes : List UInt8)
    (hh : Holds resp bytes) (hl : resp.length = resp.tail) :
    ∃ resp', app.run P req resp = some (req, resp') ∧
      Holds resp' (bytes ++ images P (app.succeededWrites P resp)) ∧
      resp'.length = resp'.tail := by
  obtain ⟨rets, resp', hw, hh', hl'⟩ :=
    writeAll_typed P (app.calls P resp) (app.isTyped_calls P h resp) resp bytes hh hl
  refine ⟨resp', ?_, ?_, hl'⟩
  · rw [app.run_eq_writeAll P h, hw, Option.map_some]
  · simpa only [succeededWrites, hw] using hh'

end Application

namespace Datagram

/-- The header of a relayed request with the opcode of its reply. -/
def relayFrame (d : Datagram) : List UInt8 :=
  if d.respId = queryDataRelayToRemoteDS then
    [remoteDSDataRespRelayToClient, space] ++ (d.bytes.drop 2).take 6 ++ [separater]
  else
    [remoteDSDataRespHttpToClient, space] ++ (d.bytes.drop 2).take 6 ++ [separater] ++
      (d.bytes.drop 9).take 4 ++ [separater]

/-- The first word of a body, zero when the body is shorter. -/
def idBytes (d : Datagram) : List UInt8 := if 2 ≤ d.body.length then d.body.take 2 else [0, 0]

theorem take_drop_msg (d : Datagram) (off k : ℕ) (h : off + k ≤ d.bytes.length) :
    (d.msg.bytes.drop off).take k = (d.bytes.drop off).take k := by
  change ((d.bytes ++ List.replicate _ 0).drop off).take k = _
  rw [List.drop_append_of_le_length (by omega),
    List.take_append_of_le_length (by rw [List.length_drop]; omega)]

theorem leBytes_addressAt (d : Datagram) (h : 8 ≤ d.bytes.length) :
    leBytes 4 (htonl (d.addressAt 2).addr).toNat ++ leBytes 2 (htons (d.addressAt 2).port).toNat =
      (d.bytes.drop 2).take 6 := by
  have haddr : ((d.bytes.drop 2).take 4).length = 4 := by
    rw [List.length_take, List.length_drop]
    omega
  have hport : ((d.bytes.drop 6).take 2).length = 2 := by
    rw [List.length_take, List.length_drop]
    omega
  have hsplit : (d.bytes.drop 2).take 6 = (d.bytes.drop 2).take 4 ++ (d.bytes.drop 6).take 2 := by
    rw [List.take_add (i := 4) (j := 2), List.drop_drop]
  simp only [addressAt, d.take_drop_msg 2 4 (by omega), d.take_drop_msg 6 2 (by omega), hsplit,
    leBytes_htonl_ntohl _ haddr, leBytes_htons_ntohs _ hport]

/-- The descriptor of the relay is encoded as received, although it goes through a signed integer. -/
theorem leBytes_relayFd (d : Datagram) (h : 13 ≤ d.bytes.length) :
    leBytes 4 (htonl d.relayFd.toUInt32).toNat = (d.bytes.drop 9).take 4 := by
  have hfd : ((d.bytes.drop 9).take 4).length = 4 := by
    rw [List.length_take, List.length_drop]
    omega
  have hblock : (d.ptr 9).block 4 = (d.bytes.drop 9).take 4 := d.take_drop_msg 9 4 (by omega)
  rw [relayFd, hblock, UInt32.toUInt32_toInt32, leBytes_htonl_ntohl _ hfd]

theorem replyHeader_eq_relayFrame (d : Datagram) (hid : d.IsRelayed)
    (hn : d.headerSize ≤ d.bytes.length) : d.replyHeader = d.relayFrame := by
  have hne : ¬ queryDataHttpToRemoteDS = queryDataRelayToRemoteDS := by decide
  unfold replyHeader relayFrame
  unfold headerSize at hn
  rcases hid with hid | hid
  · simp only [if_pos hid] at hn ⊢
    simp only [relayHeader, List.append_assoc, ← d.leBytes_addressAt (by omega)]
  · simp only [hid, if_neg hne, if_true] at hn ⊢
    simp only [httpHeader, List.append_assoc, ← d.leBytes_addressAt (by omega),
      ← d.leBytes_relayFd (by omega)]

theorem beBytes_requestId (d : Datagram) : beBytes 2 (requestId d.body).toNat = d.idBytes := by
  unfold requestId idBytes
  split_ifs with h
  · have htwo : (d.body.take 2).length = 2 := by
      rw [List.length_take]
      omega
    rw [← leBytes_byteSwap, ← toNat_htons, leBytes_htons_ntohs _ htwo]
  · rfl

end Datagram

def relayReply (P : Platform) (app : Application) (d : Datagram) : List UInt8 :=
  d.relayFrame ++ d.idBytes ++
    images P (app.succeededWrites P (echoedResponse (requestId d.body)))

/-- A relayed request is answered with one datagram to its source. -/
theorem relay_reply_framed (P : Platform) (main : DeviceServer)
    (hmain : ∀ log id, (main log id).WritesOnly) (w : World) (d : Datagram)
    (hs : w.ctx.mStatus = .online) (hid : d.IsRelayed) (hn : d.headerSize ≤ d.bytes.length)
    (app : Application)
    (happ : main (.requestCopy d.body.length :: w.log) (requestId d.body).toInt16 = app)
    (hfits : (relayReply P app d).length ≤ maxRtpMsgSize) :
    ∃ w', dtplinkDSLoop P main w (.data d.src d.bytes) = .ok w' ∧
      datagrams (newEvents w w') = [(relayReply P app d, d.src)] := by
  obtain ⟨resp, hrun, hh, hl⟩ := app.run_writesOnly P (happ ▸ hmain _ _) (loadedRequest d.body)
    (echoedResponse (requestId d.body)) _ (holds_echoedResponse _) rfl
  rw [d.beBytes_requestId] at hh
  have hframe : d.relayFrame.length = d.headerSize := by
    rw [← d.replyHeader_eq_relayFrame hid hn, d.length_replyHeader]
  have hlen := hl ▸ hh.tail
  have hbody : resp.buffer.bytes.take resp.length.toNat = d.idBytes ++
      images P (app.succeededWrites P (echoedResponse (requestId d.body))) := by
    rw [hlen]
    exact hh.filled.take
  have hroom : d.headerSize + resp.length.toNat ≤ maxRtpMsgSize := by
    rw [relayReply, List.append_assoc, List.length_append] at hfits
    rwa [hlen, ← hframe]
  have hanswer : w.answer P main d.body = some (loadedRequest d.body, resp) := by
    rw [World.answer, happ, hrun]
  have hloop := dtplinkDSLoop_online P main w d hs
  rw [processClientRequests_data P main w d (Or.inr hid) hn, hanswer] at hloop
  simp only [if_pos hroom, hbody, d.replyHeader_eq_relayFrame hid hn, ← List.append_assoc]
    at hloop
  refine ⟨_, hloop, ?_⟩
  rw [newEvents_eq w _ [_, _, _] rfl]
  rfl

def adaptiveWrites : Application :=
  .write (.byte 1) fun ret => if ret = -1 then .done else .write (.word 7) fun _ => .done

theorem writesOnly_adaptiveWrites : adaptiveWrites.WritesOnly := by
  refine ⟨trivial, fun ret => ?_⟩
  by_cases h : ret = -1
  · simp [h, Application.WritesOnly]
  · simp [h, Application.WritesOnly, WriteCall.IsTyped]

theorem relay_reply_framed_tunnelledRequest : ∃ w',
    dtplinkDSLoop .linux (fun _ _ => adaptiveWrites) onlineWorld
      (.data tunnelledRequest.src tunnelledRequest.bytes) = .ok w' ∧
    datagrams (newEvents onlineWorld w') =
      [(relayReply .linux adaptiveWrites tunnelledRequest, tunnelledRequest.src)] :=
  relay_reply_framed .linux (fun _ _ => adaptiveWrites) (fun _ _ => writesOnly_adaptiveWrites)
    onlineWorld tunnelledRequest rfl (Or.inr rfl) (by decide) adaptiveWrites rfl
    (by decide +kernel)

end OpenDSLite
