import OpenDSLite.LoopSteps

/-!
# No answer is itself a request

A device server that receives an answer of a device server stays silent. Punches and framed
responses start with no opcode of a request. The echo of a name query does, but it carries no name,
so the receiver reads the empty name from its cleared array, and a device server has another one.
-/

namespace OpenDSLite

open ByteArea

/-- The opcodes of the requests are none of the opcodes answers start with, the echo apart. -/
theorem not_isRequest_of_respId (d : Datagram) (h : d.respId = serverPunching ∨
    d.respId = remoteDSDataRespToClient ∨ d.respId = remoteDSDataRespRelayToClient ∨
    d.respId = remoteDSDataRespHttpToClient) : ¬ d.IsRequest := by
  unfold Datagram.IsRequest Datagram.IsDirect Datagram.IsRelayed
  rcases h with h | h | h | h <;> rw [h] <;> decide

theorem name_echo (d : Datagram) (h : d.bytes = [queryDSIPToLocalDS]) : d.name.val = [] := by
  change ((d.bytes ++ List.replicate (maxRtpMsgSize - d.bytes.length) 0).drop 2).takeWhile _ = _
  rw [h]
  rfl

theorem answer_ignored (P : Platform) (main : DeviceServer) (w : World) (src : IPv4Address)
    (s : Sent) (hs : s.IsAnswer) (ho : w.ctx.mStatus = .online) (hname : w.ctx.mID.val ≠ []) :
    ∃ w', dtplinkDSLoop P main w (.data src s.msg) = .ok w' ∧ w'.log = w.log := by
  cases hr : dtplinkRecv (.data src s.msg) with
  | none =>
    have hw : ¬ w.ctx.mStatus.Waiting := by simp [ho, DSStatus.Waiting]
    refine ⟨w.addRecvRetryCount, ?_, rfl⟩
    simp only [dtplinkDSLoop, hr, onFailedPoll_not_waiting w hw]
  | some d =>
    obtain ⟨hsrc, hbytes⟩ := dtplinkRecv_some src s.msg d hr
    rw [← hsrc, ← hbytes, dtplinkDSLoop_online P main w d ho]
    have hid : d.respId = s.msg.headD 0 := by rw [Datagram.respId, hbytes]
    have hsilent : ¬ d.IsRequest → ∃ w', processClientRequests P main d.respId (d.ptr 2)
        (Int16.ofInt (d.msgLen.toInt - 2)) d.src w = .ok w' ∧ w'.log = w.log :=
      fun h => ⟨_, processClientRequests_other P main w d h, rfl⟩
    rcases hs with ⟨-, hmsg⟩ | ⟨-, hmsg⟩ | ⟨-, op, rest, hmsg, hop⟩
    · exact hsilent (not_isRequest_of_respId d (Or.inl (by rw [hid, hmsg]; rfl)))
    · have hne : ¬ w.ctx.mID = d.name := by
        intro he
        apply hname
        rw [he]
        exact name_echo d (hbytes.trans hmsg)
      rw [processClientRequests_localQuery P main w d (by rw [hid, hmsg]; rfl), if_neg hne]
      exact ⟨_, rfl, rfl⟩
    · have hhead : d.respId = op := by rw [hid, hmsg]; rfl
      exact hsilent (not_isRequest_of_respId d (Or.inr (hhead ▸ hop)))

/-- No datagram an online server sends in answer makes an online server send or call its
application. -/
theorem answers_start_nothing (P Q : Platform) (main main' : DeviceServer) (a b : World)
    (ha : a.ctx.mStatus = .online) (hb : b.ctx.mStatus = .online) (hname : b.ctx.mID.val ≠ [])
    (d : Datagram) (events : List Event)
    (hlog : (outcome (dtplinkDSLoop P main a (.data d.src d.bytes))).log = events ++ a.log)
    (s : Sent) (hs : .send s ∈ events) (src : IPv4Address) :
    ∃ b', dtplinkDSLoop Q main' b (.data src s.msg) = .ok b' ∧ b'.log = b.log := by
  rw [dtplinkDSLoop_online P main a d ha] at hlog
  obtain ⟨requestInfo, responseInfo, events', he, hev⟩ :=
    afterService_processClientRequests P main a d
  rw [he] at hlog
  obtain rfl : events' = events := List.append_cancel_right hlog
  exact answer_ignored Q main' b src s (hev _ hs) hb hname

def nameQuery : Datagram :=
  ⟨sampleAddress, [queryDSIPToLocalDS, space] ++ sampleName.val, by decide, by decide⟩

theorem nameQuery_echo_starts_nothing : ∃ b',
    dtplinkDSLoop .windows (fun _ _ => .done) onlineWorld
      (.data otherAddress [queryDSIPToLocalDS]) = .ok b' ∧ b'.log = onlineWorld.log :=
  answers_start_nothing .linux .windows (fun _ _ => .done) (fun _ _ => .done) onlineWorld
    onlineWorld rfl rfl (by decide) nameQuery _ rfl
    ⟨.processLocalDNSQueryRequest, onlineWorld.ctx.mRemoteFd, [queryDSIPToLocalDS], sampleAddress⟩
    (List.mem_singleton.mpr rfl) otherAddress

end OpenDSLite
