import OpenDSLite.LoopSteps

/-!
# The status only moves forward

The statuses are ordered, and no iteration goes back. The name, the addresses of the first servers
and the sockets never change, the address of the second server only with the first reply. An
online server stays online, keeps mode and address, and sends nothing of the start-up any more.
-/

namespace OpenDSLite

def DSStatus.rank : DSStatus → ℕ
  | startup => 0
  | waitCsPhase1 => 1
  | waitCsPhase2 => 2
  | waitCsPhase3 => 3
  | waitDNS => 4
  | online => 5

/-- The functions that probe and register. -/
def Sender.StartsUp : Sender → Prop
  | pingCenterServer | pingCenterServerAgain | pingAuxServer | registerDS => True
  | _ => False

theorem Sent.IsAnswer.not_startsUp {s : Sent} (h : s.IsAnswer) : ¬ s.sender.StartsUp := by
  rcases h with ⟨h, -⟩ | ⟨h, -⟩ | ⟨h | h, -⟩ <;> rw [h] <;> exact not_false

/-- What no iteration takes back or changes. -/
structure Frame (w w' : World) : Prop where
  rank : w.ctx.mStatus.rank ≤ w'.ctx.mStatus.rank
  mID : w'.ctx.mID = w.ctx.mID
  mDNS : w'.ctx.mDNS = w.ctx.mDNS
  mCS1 : w'.ctx.mCS1 = w.ctx.mCS1
  cs1P2 : w'.cs1P2 = w.cs1P2
  mRemoteFd : w'.ctx.mRemoteFd = w.ctx.mRemoteFd
  mLocalFd : w'.ctx.mLocalFd = w.ctx.mLocalFd

/-- What an online server leaves alone besides. -/
structure Settled (w w' : World) : Prop where
  mStatus : w'.ctx.mStatus = .online
  mRunningMode : w'.ctx.mRunningMode = w.ctx.mRunningMode
  mIP : w'.ctx.mIP = w.ctx.mIP
  mCS2 : w'.ctx.mCS2 = w.ctx.mCS2
  mSendRetryCount : w'.ctx.mSendRetryCount = w.ctx.mSendRetryCount
  silent : ∃ events, w'.log = events ++ w.log ∧
    ∀ s, Event.send s ∈ events → ¬ s.sender.StartsUp

/-- How an earlier and a later world of a run are related. -/
structure Forward (w w' : World) : Prop where
  frame : Frame w w'
  settled : w.ctx.mStatus = .online → Settled w w'

theorem Frame.trans {w w' w'' : World} (h : Frame w w') (h' : Frame w' w'') : Frame w w'' where
  rank := h.rank.trans h'.rank
  mID := h'.mID.trans h.mID
  mDNS := h'.mDNS.trans h.mDNS
  mCS1 := h'.mCS1.trans h.mCS1
  cs1P2 := h'.cs1P2.trans h.cs1P2
  mRemoteFd := h'.mRemoteFd.trans h.mRemoteFd
  mLocalFd := h'.mLocalFd.trans h.mLocalFd

theorem Settled.trans {w w' w'' : World} (h : Settled w w') (h' : Settled w' w'') :
    Settled w w'' := by
  obtain ⟨events, hlog, hev⟩ := h.silent
  obtain ⟨events', hlog', hev'⟩ := h'.silent
  refine ⟨h'.mStatus, h'.mRunningMode.trans h.mRunningMode, h'.mIP.trans h.mIP,
    h'.mCS2.trans h.mCS2, h'.mSendRetryCount.trans h.mSendRetryCount, events' ++ events, ?_, ?_⟩
  · rw [hlog', hlog, List.append_assoc]
  · intro s hs
    rcases List.mem_append.mp hs with hs | hs
    · exact hev' s hs
    · exact hev s hs

theorem forward_refl (w : World) : Forward w w where
  frame := ⟨le_rfl, rfl, rfl, rfl, rfl, rfl, rfl⟩
  settled hs := ⟨hs, rfl, rfl, rfl, rfl, [], rfl, by simp⟩

theorem Forward.trans {w w' w'' : World} (h : Forward w w') (h' : Forward w' w'') :
    Forward w w'' where
  frame := h.frame.trans h'.frame
  settled hs := (h.settled hs).trans (h'.settled (h.settled hs).mStatus)

theorem frame_gaveUp (w : World) (hw : w.ctx.mStatus.Waiting) :
    Frame w w.addRecvRetryCount.gaveUp.resetAllRetryCounts := by
  rcases w.gaveUp_eq hw with ⟨-, hg⟩ | ⟨hs, hg⟩
  · have hrank : w.ctx.mStatus.rank ≤ DSStatus.online.rank := by
      cases w.ctx.mStatus <;> decide
    rw [hg]
    exact ⟨hrank, rfl, rfl, rfl, rfl, rfl, rfl⟩
  · have hrank : w.ctx.mStatus.rank ≤ DSStatus.waitDNS.rank := by
      rcases hs with hs | hs <;> rw [hs] <;> decide
    rw [hg]
    exact ⟨hrank, rfl, rfl, rfl, rfl, rfl, rfl⟩

theorem frame_step (w w' : World) (r : RecvFrom) (hstep : LoopStep w r w') : Frame w w' := by
  cases hstep with
  | phase1Reply d hr hs ha =>
    have hrank : w.ctx.mStatus.rank ≤ DSStatus.waitCsPhase2.rank := by
      rw [hs]
      decide
    exact ⟨hrank, rfl, rfl, rfl, rfl, rfl, rfl⟩
  | phase2Reply d hr hs ha a hm =>
    obtain ⟨ip, mode, flag, events, he, -⟩ := afterPhase2_eq a d w
    have hrank : w.ctx.mStatus.rank ≤ DSStatus.waitCsPhase3.rank := by
      rw [hs]
      decide
    rw [he]
    exact ⟨hrank, rfl, rfl, rfl, rfl, rfl, rfl⟩
  | phase3Reply d hr hs ha a hm hn =>
    have hrank : w.ctx.mStatus.rank ≤ DSStatus.waitDNS.rank := by
      rw [hs]
      decide
    exact ⟨hrank, rfl, rfl, rfl, rfl, rfl, rfl⟩
  | dnsReply d hr hs ha =>
    have hrank : w.ctx.mStatus.rank ≤ DSStatus.online.rank := by
      rw [hs]
      decide
    exact ⟨hrank, rfl, rfl, rfl, rfl, rfl, rfl⟩
  | ignored d hr hs ha => exact (forward_refl w).frame
  | served d w' hr hs hserved =>
    obtain ⟨req, resp, events, rfl, -⟩ := hserved
    exact ⟨le_rfl, rfl, rfl, rfl, rfl, rfl, rfl⟩
  | counted hr hc => exact ⟨le_rfl, rfl, rfl, rfl, rfl, rfl, rfl⟩
  | retransmitted hr hw hsend hrecv =>
    obtain ⟨flag, flag', events, he, -⟩ := w.retransmitted_eq hw
    rw [he]
    exact ⟨le_rfl, rfl, rfl, rfl, rfl, rfl, rfl⟩
  | gaveUp hr hw hsend => exact frame_gaveUp w hw

theorem settled_step (P : Platform) (main : DeviceServer) (w w' : World) (r : RecvFrom)
    (ho : w.ctx.mStatus = .online) (h : dtplinkDSLoop P main w r = .ok w') : Settled w w' := by
  rcases onlineStep_of_ok P main w w' r ho h with rfl | ⟨req, resp, events, rfl, hev⟩
  · exact ⟨ho, rfl, rfl, rfl, rfl, [], rfl, by simp⟩
  · exact ⟨ho, rfl, rfl, rfl, rfl, events, rfl, fun s hs =>
      Sent.IsAnswer.not_startsUp (hev _ hs)⟩

theorem forward_step (P : Platform) (main : DeviceServer) (w w' : World) (r : RecvFrom)
    (h : dtplinkDSLoop P main w r = .ok w') : Forward w w' where
  frame := frame_step w w' r (loopStep_of_ok P main w w' r h)
  settled ho := settled_step P main w w' r ho h

theorem forward_of_run (P : Platform) (main : DeviceServer) (w w' : World)
    (polls : List RecvFrom) (hrun : runLoop P main w polls = .ok w') : Forward w w' :=
  PartialRun.relation_of_run Forward forward_refl (fun _ _ _ h h' => h.trans h')
    (fun w r w' h => forward_step P main w w' r h) w w' polls hrun

/-- The second server is taken from the first reply and from nowhere else. -/
theorem mCS2_step (w w' : World) (r : RecvFrom) (hstep : LoopStep w r w')
    (hne : w'.ctx.mCS2 ≠ w.ctx.mCS2) :
    w.ctx.mStatus = .waitCsPhase1 ∧ ∃ d, dtplinkRecv r = some d ∧ w.Accepts d := by
  cases hstep with
  | phase1Reply d hr hs ha => exact ⟨hs, d, hr, ha⟩
  | phase2Reply d hr hs ha a hm =>
    obtain ⟨ip, mode, flag, events, he, -⟩ := afterPhase2_eq a d w
    rw [he] at hne
    exact absurd rfl hne
  | phase3Reply d hr hs ha a hm hn => exact absurd rfl hne
  | dnsReply d hr hs ha => exact absurd rfl hne
  | ignored d hr hs ha => exact absurd rfl hne
  | served d w' hr hs hserved =>
    obtain ⟨req, resp, events, rfl, -⟩ := hserved
    exact absurd rfl hne
  | counted hr hc => exact absurd rfl hne
  | retransmitted hr hw hsend hrecv =>
    obtain ⟨flag, flag', events, he, -⟩ := w.retransmitted_eq hw
    rw [he] at hne
    exact absurd rfl hne
  | gaveUp hr hw hsend =>
    rcases w.gaveUp_eq hw with ⟨-, hg⟩ | ⟨-, hg⟩
    · rw [hg] at hne
      exact absurd rfl hne
    · rw [hg] at hne
      exact absurd rfl hne

/-- Every run goes forward from each of its worlds, and a step behind it that changes the second
server accepts a first reply. -/
theorem status_forward (P : Platform) (main : DeviceServer) (w₁ w₂ : World)
    (polls : List RecvFrom) (hrun : runLoop P main w₁ polls = .ok w₂) :
    Forward w₁ w₂ ∧ ∀ r w₃, dtplinkDSLoop P main w₂ r = .ok w₃ → w₃.ctx.mCS2 ≠ w₂.ctx.mCS2 →
      w₂.ctx.mStatus = .waitCsPhase1 ∧ ∃ d, dtplinkRecv r = some d ∧ w₂.Accepts d :=
  ⟨forward_of_run P main w₁ w₂ polls hrun,
    fun r w₃ h hne => mCS2_step w₂ w₃ r (loopStep_of_ok P main w₂ w₃ r h) hne⟩

theorem status_forward_sample : ∃ w',
    runLoop .linux (fun _ _ => .done) (bootWorld sampleName)
      (probeReplies sampleAddress sampleAddress sampleAddress ++ [registerReply]) = .ok w' ∧
    Forward (bootWorld sampleName) w' :=
  ⟨_, rfl, (status_forward .linux (fun _ _ => .done) (bootWorld sampleName) _
    (probeReplies sampleAddress sampleAddress sampleAddress ++ [registerReply]) rfl).1⟩

end OpenDSLite
