import OpenDSLite.ForwardStatus
import OpenDSLite.RetryAccounting

/-!
# Replies that come again

A probe that was sent again is answered again. Behind the status that waited for it a reply is
neither awaited nor a request, so it leaves no trace but cleared buffers. The buffers do not matter
either: every request starts from cleared ones.
-/

namespace OpenDSLite

namespace World

def withBuffers (requestInfo : CRequestBuffer) (responseInfo : CResponseBuffer) (w : World) :
    World :=
  { w with ctx := { w.ctx with requestInfo, responseInfo } }

variable (requestInfo : CRequestBuffer) (responseInfo : CResponseBuffer) (w : World)

@[simp] theorem withBuffers_mStatus :
    (w.withBuffers requestInfo responseInfo).ctx.mStatus = w.ctx.mStatus := rfl

@[simp] theorem withBuffers_mRecvRetryCount :
    (w.withBuffers requestInfo responseInfo).ctx.mRecvRetryCount = w.ctx.mRecvRetryCount := rfl

@[simp] theorem withBuffers_mSendRetryCount :
    (w.withBuffers requestInfo responseInfo).ctx.mSendRetryCount = w.ctx.mSendRetryCount := rfl

@[simp] theorem withBuffers_nameFits :
    (w.withBuffers requestInfo responseInfo).NameFits ↔ w.NameFits := Iff.rfl

theorem pingCenterServer_withBuffers : pingCenterServer (w.withBuffers requestInfo responseInfo) =
    (pingCenterServer w).withBuffers requestInfo responseInfo := by
  obtain ⟨ctx, firstPingCenterServer⟩ := w
  cases firstPingCenterServer <;> rfl

theorem pingAuxServer_withBuffers : pingAuxServer (w.withBuffers requestInfo responseInfo) =
    (pingAuxServer w).withBuffers requestInfo responseInfo := by
  obtain ⟨ctx, firstPingCenterServer, firstPingAuxServer⟩ := w
  cases firstPingAuxServer <;> rfl

theorem afterPhase2_withBuffers (a : IPv4Address) (d : Datagram) :
    (w.withBuffers requestInfo responseInfo).afterPhase2 a d =
      (w.afterPhase2 a d).withBuffers requestInfo responseInfo := by
  have hping := pingAuxServer_withBuffers requestInfo responseInfo
    { w.resetAllRetryCounts with mip2 := some (d.addressAt 2) }
  unfold afterPhase2
  split_ifs
  · exact hping
  · exact congrArg (setMappedIPAddress relayIPPort) hping

theorem request_withBuffers : (w.withBuffers requestInfo responseInfo).request =
    w.request.withBuffers requestInfo responseInfo := by
  unfold request
  rw [withBuffers_mStatus]
  cases w.ctx.mStatus with
  | waitCsPhase1 => exact pingCenterServer_withBuffers requestInfo responseInfo w
  | waitCsPhase3 => exact pingAuxServer_withBuffers requestInfo responseInfo w
  | _ => rfl

theorem gaveUp_withBuffers : (w.withBuffers requestInfo responseInfo).gaveUp =
    w.gaveUp.withBuffers requestInfo responseInfo := by
  unfold gaveUp
  rw [withBuffers_mStatus]
  cases w.ctx.mStatus <;> rfl

end World

/-- Two worlds that differ in the buffers at most. -/
def Alike (w w' : World) : Prop := ∃ requestInfo responseInfo,
  w' = w.withBuffers requestInfo responseInfo

theorem alike_refl (w : World) : Alike w w := ⟨w.ctx.requestInfo, w.ctx.responseInfo, rfl⟩

theorem Alike.trans {w w' w'' : World} (h : Alike w w') (h' : Alike w' w'') : Alike w w'' := by
  obtain ⟨req, resp, rfl⟩ := h
  obtain ⟨req', resp', rfl⟩ := h'
  exact ⟨req', resp', rfl⟩

theorem onFailedPoll_withBuffers (requestInfo : CRequestBuffer) (responseInfo : CResponseBuffer)
    (w u : World) (h : onFailedPoll w = .ok u) :
    onFailedPoll (w.withBuffers requestInfo responseInfo) =
      .ok (u.withBuffers requestInfo responseInfo) := by
  by_cases hw : w.ctx.mStatus.Waiting
  · rw [onFailedPoll_waiting w hw] at h
    rw [onFailedPoll_waiting (w.withBuffers requestInfo responseInfo) hw]
    simp only [World.withBuffers_mStatus, World.withBuffers_mRecvRetryCount,
      World.withBuffers_mSendRetryCount, World.withBuffers_nameFits]
    split_ifs at h ⊢
    · rw [← Except.ok.inj h]
      exact congrArg (fun w => Except.ok w.resetAllRetryCounts)
        (World.gaveUp_withBuffers requestInfo responseInfo w.addRecvRetryCount)
    · rw [← Except.ok.inj h]
      exact congrArg (fun w => Except.ok w.addSendRetryCount)
        (World.request_withBuffers requestInfo responseInfo
          w.addRecvRetryCount.resetRecvRetryCount)
    · rw [← Except.ok.inj h]
      rfl
  · rw [onFailedPoll_not_waiting w hw] at h
    rw [onFailedPoll_not_waiting (w.withBuffers requestInfo responseInfo) hw,
      ← Except.ok.inj h]
    rfl

/-- The step of a datagram is taken from buffers of any contents, and they are no more than left
behind. -/
theorem onDatagram_alike (P : Platform) (main : DeviceServer) (d : Datagram) (w w' u : World)
    (h : Alike w w') (hok : onDatagram P main d w = .ok u) :
    ∃ u', onDatagram P main d w' = .ok u' ∧ Alike u u' := by
  obtain ⟨req, resp, rfl⟩ := h
  have hr := dtplinkRecv_data d
  cases loopStep_of_datagram P main w u _ d hr hok with
  | phase1Reply d' hr' hs ha =>
    obtain rfl := Option.some.inj (hr.symm.trans hr')
    exact ⟨_, onDatagram_phase1 P main d (w.withBuffers req resp) hs ha, req, resp, rfl⟩
  | phase2Reply d' hr' hs ha a hm =>
    obtain rfl := Option.some.inj (hr.symm.trans hr')
    have hm' : (w.withBuffers req resp).mip1 = some a := hm
    obtain ⟨w₁, heq⟩ := onDatagram_phase2 P main d (w.withBuffers req resp) hs ha
    rw [hm', World.orFault_some, ok_bind, World.afterPhase2_withBuffers] at heq
    exact ⟨_, heq, req, resp, rfl⟩
  | phase3Reply d' hr' hs ha a hm hn =>
    obtain rfl := Option.some.inj (hr.symm.trans hr')
    have hm' : (w.withBuffers req resp).mip1 = some a := hm
    obtain ⟨w₁, heq⟩ := onDatagram_phase3 P main d (w.withBuffers req resp) hs ha hn
    rw [hm', World.orFault_some, ok_bind] at heq
    exact ⟨_, heq, req, resp, rfl⟩
  | dnsReply d' hr' hs ha =>
    obtain rfl := Option.some.inj (hr.symm.trans hr')
    have hid : d.respId = registDSIPToDNSServer := by simpa only [World.Accepts, hs] using ha
    refine ⟨_, ?_, req, resp, rfl⟩
    simp only [onDatagram, World.withBuffers_mStatus, hs, if_pos hid]
    rfl
  | ignored d' hr' hs ha =>
    obtain rfl := Option.some.inj (hr.symm.trans hr')
    exact ⟨_, onDatagram_ignores P main d (w.withBuffers req resp) hs ha, req, resp, rfl⟩
  | served d' _ hr' hs hserved =>
    -- a request clears the buffers it finds
    refine ⟨u, ?_, alike_refl u⟩
    simp only [onDatagram, hs] at hok
    simp only [onDatagram, World.withBuffers_mStatus, hs]
    exact hok
  | counted hr' | retransmitted hr' | gaveUp hr' =>
    rw [hr] at hr'
    exact absurd hr' (by simp)

theorem alike_step (P : Platform) (main : DeviceServer) (w w' u : World) (r : RecvFrom)
    (h : Alike w w') (hok : dtplinkDSLoop P main w r = .ok u) :
    ∃ u', dtplinkDSLoop P main w' r = .ok u' ∧ Alike u u' := by
  unfold dtplinkDSLoop at hok ⊢
  cases hr : dtplinkRecv r with
  | none =>
    obtain ⟨req, resp, rfl⟩ := h
    rw [hr] at hok
    exact ⟨_, onFailedPoll_withBuffers req resp w u hok, req, resp, rfl⟩
  | some d =>
    rw [hr] at hok
    exact onDatagram_alike P main d w w' u h hok

/-- The first byte of the reply a status waits for. -/
def DSStatus.replyId : DSStatus → Option UInt8
  | waitCsPhase1 => some bindReqToServer1Port1
  | waitCsPhase2 => some bindReqToServer1Port2
  | waitCsPhase3 => some bindReqToServer2Port1
  | waitDNS => some registDSIPToDNSServer
  | startup | online => none

theorem replyId_of_accepts (w : World) (d : Datagram) (h : w.Accepts d) :
    w.ctx.mStatus.replyId = some d.respId := by
  unfold World.Accepts at h
  cases hs : w.ctx.mStatus with
  | startup | online =>
    simp only [hs] at h
  | waitDNS =>
    simp only [hs] at h
    exact congrArg some h.symm
  | waitCsPhase1 | waitCsPhase2 | waitCsPhase3 =>
    simp only [hs] at h
    exact congrArg some h.1.symm

/-- No two statuses wait for the same first byte. -/
theorem replyId_inj (s s' : DSStatus) (id : UInt8) (h : s.replyId = some id)
    (h' : s'.replyId = some id) : s = s' := by
  have he := h.trans h'.symm
  cases s <;> cases s' <;>
    first
    | rfl
    | exact absurd he (by decide)
    | exact absurd h (by simp [DSStatus.replyId])

theorem not_isRequest_of_replyId (s : DSStatus) (d : Datagram) (h : s.replyId = some d.respId) :
    ¬ d.IsRequest := by
  unfold Datagram.IsRequest Datagram.IsDirect Datagram.IsRelayed
  cases s with
  | startup | online => exact absurd h (by simp [DSStatus.replyId])
  | _ =>
    rw [← Option.some.inj h]
    decide

theorem rank_lt_of_accepts (w w' : World) (r : RecvFrom) (d : Datagram)
    (hr : dtplinkRecv r = some d) (ha : w.Accepts d) (hstep : LoopStep w r w') :
    w.ctx.mStatus.rank < w'.ctx.mStatus.rank := by
  cases hstep with
  | phase1Reply d' hr' hs =>
    rw [hs]
    exact (by decide : 1 < 2)
  | phase2Reply d' hr' hs ha' a hm =>
    rw [hs, (afterPhase2_spec a d' w).1]
    decide
  | phase3Reply d' hr' hs =>
    rw [hs]
    exact (by decide : 3 < 4)
  | dnsReply d' hr' hs =>
    rw [hs]
    exact (by decide : 4 < 5)
  | ignored d' hr' hs ha' =>
    obtain rfl := Option.some.inj (hr.symm.trans hr')
    exact absurd ha ha'
  | served d' w' hr' hs hserved => exact absurd ha (by simp [World.Accepts, hs])
  | counted hr' | retransmitted hr' | gaveUp hr' =>
    rw [hr] at hr'
    exact absurd hr' (by simp)

/-- Behind the status that waited for it a reply changes at most the buffers. -/
theorem passed_reply_ignored (P : Platform) (main : DeviceServer) (s : DSStatus) (d : Datagram)
    (hid : s.replyId = some d.respId) (w : World) (hrank : s.rank < w.ctx.mStatus.rank) :
    ∃ w', onDatagram P main d w = .ok w' ∧ Alike w w' := by
  by_cases ho : w.ctx.mStatus = .online
  · refine ⟨w.resetBuffers, ?_, _, _, rfl⟩
    simp only [onDatagram, ho]
    exact processClientRequests_other P main w d (not_isRequest_of_replyId s d hid)
  · refine ⟨w, onDatagram_ignores P main d w ho (fun ha => ?_), alike_refl w⟩
    have hs := replyId_inj s w.ctx.mStatus d.respId hid (replyId_of_accepts w d ha)
    rw [hs] at hrank
    exact lt_irrefl _ hrank

/-- A datagram with the first byte and the source of `d`. -/
def Repeats (d : Datagram) (r : RecvFrom) : Prop :=
  ∃ payload, r = .data d.src payload ∧ payload.head? = some d.respId

theorem repetition_step (P : Platform) (main : DeviceServer) (s : DSStatus) (d : Datagram)
    (hid : s.replyId = some d.respId) (w w' : World) (hrank : s.rank < w.ctx.mStatus.rank)
    (h : Alike w w') (r : RecvFrom) (hr : Repeats d r) (hreceived : failedPoll r = false) :
    ∃ u', dtplinkDSLoop P main w' r = .ok u' ∧ Alike w u' := by
  obtain ⟨payload, rfl, hhead⟩ := hr
  cases hrecv : dtplinkRecv (.data d.src payload) with
  | none =>
    rw [failedPoll, hrecv] at hreceived
    exact absurd hreceived (by simp)
  | some d' =>
    obtain ⟨-, rfl⟩ := dtplinkRecv_some d.src payload d' hrecv
    have hid' : s.replyId = some d'.respId := by
      rw [hid, ← hhead, d'.head?_bytes]
    have hrank' : s.rank < w'.ctx.mStatus.rank := by
      obtain ⟨req, resp, rfl⟩ := h
      exact hrank
    obtain ⟨u', hu', halike⟩ := passed_reply_ignored P main s d' hid' w' hrank'
    exact ⟨u', by simpa only [dtplinkDSLoop, hrecv] using hu', h.trans halike⟩

/-- Repetitions of an accepted reply that are received, put into a run anywhere behind it, change
the end of the run in the buffers at most. -/
theorem repeated_reply_harmless (P : Platform) (main : DeviceServer) (w₀ w w₁ : World)
    (before after after' : List RecvFrom) (r : RecvFrom) (d : Datagram)
    (hbefore : runLoop P main w₀ before = .ok w) (hr : dtplinkRecv r = some d)
    (ha : w.Accepts d)
    (hins : PartialRun.Inserted (fun r' => Repeats d r' ∧ failedPoll r' = false) after after')
    (hrun : runLoop P main w₀ (before ++ r :: after) = .ok w₁) :
    ∃ w₂, runLoop P main w₀ (before ++ r :: after') = .ok w₂ ∧ Alike w₁ w₂ := by
  have hid := replyId_of_accepts w d ha
  obtain ⟨v, hv, hrest⟩ := (PartialRun.run_append_ok _ w₀ w₁ before (r :: after)).1 hrun
  obtain rfl := Except.ok.inj (hbefore.symm.trans hv)
  obtain ⟨u, hu, hafter⟩ := PartialRun.run_cons_ok_imp _ w w₁ r after hrest
  have hpassed : w.ctx.mStatus.rank < u.ctx.mStatus.rank :=
    rank_lt_of_accepts w u r d hr ha (loopStep_of_ok P main w u r hu)
  obtain ⟨w₂, hrun', halike⟩ := PartialRun.run_inserted
    (fun x => w.ctx.mStatus.rank < x.ctx.mStatus.rank) Alike _
    (fun x x' i t hx hxx' ht =>
      ⟨hx.trans_le (frame_step x t i (loopStep_of_ok P main x t i ht)).rank,
        alike_step P main x x' t i hxx' ht⟩)
    (fun x x' i hx hxx' hi => repetition_step P main _ d hid x x' hx hxx' i hi.1 hi.2)
    u u w₁ after after' hpassed (alike_refl u) hins hafter
  refine ⟨w₂, (PartialRun.run_append_ok _ w₀ w₂ before (r :: after')).2 ⟨w, hbefore, ?_⟩, halike⟩
  exact (PartialRun.run_cons_ok _ w u w₂ r after' hu).2 hrun'

/-- A first reply that tells the addresses of the device and of the second server. -/
def firstReply : Datagram where
  src := centerServer
  bytes := [bindReqToServer1Port1, space] ++ addressBytes sampleAddress ++ [separater] ++
    addressBytes auxServer
  pos := by decide
  fits := by decide

/-- The first reply twice more than needed, before and behind a failed poll. -/
theorem repeated_reply_harmless_sample : ∃ w₂,
    runLoop .linux (fun _ _ => .done) (bootWorld sampleName)
      ([] ++ .data firstReply.src firstReply.bytes :: [.data firstReply.src firstReply.bytes,
        .error, .data firstReply.src [bindReqToServer1Port1]]) = .ok w₂ ∧
    Alike (outcome (runLoop .linux (fun _ _ => .done) (bootWorld sampleName)
      ([] ++ .data firstReply.src firstReply.bytes :: [.error]))) w₂ := by
  have hreceived := dtplinkRecv_data firstReply
  refine repeated_reply_harmless .linux (fun _ _ => .done) (bootWorld sampleName)
    (bootWorld sampleName) _ [] [.error] _ _ firstReply rfl hreceived (by decide) ?_ rfl
  refine .extra _ ⟨⟨_, rfl, rfl⟩, ?_⟩ (.keep _ (.extra _ ⟨⟨_, rfl, rfl⟩, rfl⟩ .nil))
  rw [failedPoll, hreceived]
  rfl

/-- A repetition that fills the receive array. -/
def oversizedReply : RecvFrom :=
  .data firstReply.src (bindReqToServer1Port1 :: List.replicate 254 0)

/-- It is not received and counts as a failed poll. -/
theorem oversized_repetition_counted :
    Started (bootWorld sampleName) ∧ (bootWorld sampleName).Accepts firstReply ∧
    PartialRun.Inserted (Repeats firstReply) [] [oversizedReply] ∧
    ∃ w₁ w₂, runLoop .linux (fun _ _ => .done) (bootWorld sampleName)
        [.data firstReply.src firstReply.bytes] = .ok w₁ ∧
      runLoop .linux (fun _ _ => .done) (bootWorld sampleName)
        [.data firstReply.src firstReply.bytes, oversizedReply] = .ok w₂ ∧
      w₁.ctx.mRecvRetryCount ≠ w₂.ctx.mRecvRetryCount := by
  refine ⟨started_bootWorld, by decide, .extra _ ⟨_, rfl, rfl⟩ .nil, _, outcome (runLoop .linux
    (fun _ _ => .done) (bootWorld sampleName) [.data firstReply.src firstReply.bytes,
      oversizedReply]), rfl, by decide +kernel, by decide +kernel⟩

end OpenDSLite
