import OpenDSLite.ForwardStatus
import OpenDSLite.ReplyEgress
import OpenDSLite.RequestReads
import OpenDSLite.RetryAccounting

/-!
# Applications that keep to their buffers

The library leaves three limits to the application: what it writes must fit behind the longest
header, a string destination must be cleared and larger than any body, and the raw block calls must
be left alone. An application that keeps them, whatever its calls return, cannot leave an object;
then only a data request without its header can.
-/

namespace OpenDSLite

open ByteOrder ByteArea

/-- A destination that takes whatever a request may hold. -/
def Destination.Spacious : Destination → Prop
  | string value => ∃ m, value = List.replicate m 0 ∧ 252 < m
  | raw _ _ => False
  | _ => True

/-- On every path the typed writes of the application take no more than `room` bytes, and its reads
are typed and go to spacious destinations. -/
def Application.Careful (P : Platform) : Application → ℕ → Prop
  | done, _ => True
  | write c next, room => c.IsTyped ∧ (c.encode P).length ≤ room ∧
      ∀ ret, (next ret).Careful P (room - (c.encode P).length)
  | read d next, room => d.Spacious ∧ ∀ ret d', (next ret d').Careful P room

/-- What is left of `omsg` behind the longest header and the echoed request identifier. -/
def responseRoom : ℕ := maxRtpMsgSize - 14 - 2

/-- The poll brings no data request that lacks a part of its header. -/
def HeaderComplete (r : RecvFrom) : Prop :=
  ∀ d, dtplinkRecv r = some d → d.IsDirect ∨ d.IsRelayed → d.headerSize ≤ d.bytes.length

/-- An online server is not given such a request. -/
def Wellformed (w : World) (r : RecvFrom) : Prop := w.ctx.mStatus = .online → HeaderComplete r

theorem careful_ofWrites (P : Platform) (cs : List WriteCall) (hc : ∀ c ∈ cs, c.IsTyped)
    (room : ℕ) (h : (cs.map (WriteCall.encode P)).flatten.length ≤ room) :
    (Application.ofWrites cs).Careful P room := by
  induction cs generalizing room with
  | nil => trivial
  | cons c cs ih =>
    rw [List.map_cons, List.flatten_cons, List.length_append] at h
    exact ⟨hc c List.mem_cons_self, by omega, fun _ =>
      ih (fun x hx => hc x (List.mem_cons_of_mem c hx)) _ (by omega)⟩

theorem Destination.Spacious.roomy {d : Destination} (h : d.Spacious) (body : List UInt8)
    (hbody : body.length ≤ 252) (b : CRequestBuffer) : Roomy body b d := by
  cases d with
  | string value =>
    obtain ⟨m, rfl, hm⟩ := h
    refine ⟨m, rfl, fun _ => ?_⟩
    have hle := length_untilNul_le (body.drop b.head.toNat)
    rw [List.length_drop] at hle
    omega
  | raw value len => exact h
  | word | dword | float | byte => trivial

theorem careful_run (P : Platform) (app : Application) (room : ℕ) (h : app.Careful P room)
    (body : List UInt8) (hbody : body.length ≤ 252) (req : CRequestBuffer)
    (resp : CResponseBuffer) (bytes : List UInt8) (hreq : Reading body req)
    (hresp : Holds resp bytes) (hl : resp.length = resp.tail) :
    ∃ req' resp' bytes', app.run P req resp = some (req', resp') ∧ Holds resp' bytes' ∧
      resp'.length = resp'.tail ∧ bytes'.length ≤ bytes.length + room := by
  induction app generalizing room req resp bytes with
  | done => exact ⟨req, resp, bytes, rfl, hresp, hl, Nat.le_add_right _ _⟩
  | write c next ih =>
    obtain ⟨hc, hsize, hnext⟩ := h
    obtain ⟨ret, resp₁, hrun, hholds, hl₁, -⟩ := run_typed_offer P resp bytes c hc hresp hl
    obtain ⟨req', resp', bytes', hrest, hholds', hl', hlen⟩ :=
      ih ret _ (hnext ret) req resp₁ _ hreq hholds hl₁
    refine ⟨req', resp', bytes', ?_, hholds', hl', ?_⟩
    · rw [Application.run, hrun, Option.bind_some]
      exact hrest
    · have hoffer : (BoundedLog.offer maxRtpMsgSize bytes (c.encode P)).length ≤
          bytes.length + (c.encode P).length := by
        unfold BoundedLog.offer
        split_ifs
        · rw [List.length_append]
        · exact Nat.le_add_right _ _
      omega
  | read d next ih =>
    obtain ⟨hd, hnext⟩ := h
    have hm := maxRtpMsgSize_eq
    obtain ⟨ret, d', req₁, hrun, hreq₁, hhead, -⟩ :=
      readSafe P body (by omega) req hreq d (hd.roomy body hbody req)
    obtain ⟨req', resp', bytes', hrest, hholds', hl', hlen⟩ :=
      ih ret d' room (hnext ret d') req₁ resp bytes (hreq.step hreq₁ hhead) hresp hl
    refine ⟨req', resp', bytes', ?_, hholds', hl', hlen⟩
    rw [Application.run, hrun, Option.bind_some]
    exact hrest

theorem length_body_le_252 (d : Datagram) (hid : d.IsDirect ∨ d.IsRelayed) :
    d.body.length ≤ 252 := by
  have hfits := d.fits
  have hm := maxRtpMsgSize_eq
  have hheader : 2 ≤ d.headerSize := by
    rcases hid with hid | hid
    · exact (headerSize_direct d hid).ge
    · exact (headerSize_relayed d hid).1
  rw [d.length_body]
  omega

theorem headerSize_le (d : Datagram) : d.headerSize ≤ 14 := by
  unfold Datagram.headerSize
  split_ifs <;> decide

theorem requestSound_iff (P : Platform) (main : DeviceServer)
    (hmain : ∀ log id, (main log id).Careful P responseRoom) (w : World) (d : Datagram)
    (hid : d.IsDirect ∨ d.IsRelayed) :
    RequestSound P main w d ↔ d.headerSize ≤ d.bytes.length := by
  have hbody := length_body_le_252 d hid
  have hm := maxRtpMsgSize_eq
  obtain ⟨req', resp', bytes', hrun, hholds, hl, hlen⟩ :=
    careful_run P (main (.requestCopy d.body.length :: w.log) (requestId d.body).toInt16)
      responseRoom (hmain _ _) d.body hbody (loadedRequest d.body)
      (echoedResponse (requestId d.body)) _ (reading_loadedRequest d.body (by omega))
      (holds_echoedResponse (requestId d.body)) rfl
  refine ⟨fun h => h.1, fun h => ⟨h, req', resp', hrun, ?_⟩⟩
  have hheader := headerSize_le d
  have htail := hholds.tail
  rw [length_beBytes, responseRoom] at hlen
  rw [hl, htail]
  omega

/-- Where the name fits and the application is careful, only an incomplete header is unsound. -/
theorem along_sound_iff (P : Platform) (main : DeviceServer)
    (hmain : ∀ log id, (main log id).Careful P responseRoom) (w : World) (hn : w.NameFits)
    (polls : List RecvFrom) :
    PartialRun.Along (dtplinkDSLoop P main) (StepSound P main) w polls ↔
      PartialRun.Along (dtplinkDSLoop P main) Wellformed w polls := by
  refine PartialRun.along_iff_along (fun v => v.NameFits) (StepSound P main) Wellformed ?_ ?_
    w polls hn
  · intro v r hv
    constructor
    · intro h ho d hd hid
      exact (requestSound_iff P main hmain v d hid).1 (h.2 d hd ho hid)
    · intro h
      exact ⟨fun _ => hv, fun d hd ho hid =>
        (requestSound_iff P main hmain v d hid).2 (h ho d hd hid)⟩
  · intro v r u hv _ hu
    have hframe := (frame_step v u r (loopStep_of_ok P main v u r hu)).mID
    unfold World.NameFits at hv ⊢
    rwa [hframe]

end OpenDSLite
