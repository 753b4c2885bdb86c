import OpenDSLite.ForwardStatus
import OpenDSLite.RetryAccounting

/-!
# When the awaited server stays silent

Only failed polls run the retry timer of a status; a datagram the status does not accept passes
without a trace. So it is the sixty-fifth failed poll that makes the server fall back, however many
datagrams come between.
-/

namespace OpenDSLite

/-- None of the polls brings the reply the status of `w` waits for. -/
def Unanswered (w : World) (polls : List RecvFrom) : Prop :=
  ∀ r ∈ polls, ∀ d, dtplinkRecv r = some d → ¬ w.Accepts d

/-- The way out of a status whose server stays silent: online in local mode, or on to the DNS
server in relay mode. -/
def FellBack (w w' : World) : Prop :=
  ((w.ctx.mStatus = .waitCsPhase1 ∨ w.ctx.mStatus = .waitDNS) ∧
    w'.ctx.mStatus = .online ∧ w'.ctx.mRunningMode = .localMode ∧ w'.ctx.mIP = noPublicIPPort) ∨
  ((w.ctx.mStatus = .waitCsPhase2 ∨ w.ctx.mStatus = .waitCsPhase3) ∧
    w'.ctx.mStatus = .waitDNS ∧ w'.ctx.mRunningMode = .remoteRelayMode ∧
    w'.ctx.mIP = relayIPPort)

/-- Two worlds that differ in the retry bookkeeping at most. -/
structure StillWaiting (w v : World) : Prop where
  ctx : v.ctx = { w.ctx with
    mRecvRetryCount := v.ctx.mRecvRetryCount, mSendRetryCount := v.ctx.mSendRetryCount }
  cs1P2 : v.cs1P2 = w.cs1P2

theorem stillWaiting_refl (w : World) : StillWaiting w w := ⟨rfl, rfl⟩

theorem StillWaiting.mStatus {w v : World} (h : StillWaiting w v) :
    v.ctx.mStatus = w.ctx.mStatus := by
  rw [h.ctx]

theorem StillWaiting.trans {w v u : World} (h : StillWaiting w v) (h' : StillWaiting v u) :
    StillWaiting w u := by
  refine ⟨?_, h'.cs1P2.trans h.cs1P2⟩
  rw [h'.ctx, h.ctx]

theorem StillWaiting.accepts_iff {w v : World} (h : StillWaiting w v) (d : Datagram) :
    v.Accepts d ↔ w.Accepts d := by
  unfold World.Accepts
  rw [h.ctx, h.cs1P2]

theorem StillWaiting.nameFits_iff {w v : World} (h : StillWaiting w v) :
    v.NameFits ↔ w.NameFits := by
  unfold World.NameFits
  rw [h.ctx]

theorem FellBack.rank_lt {w w' : World} (h : FellBack w w') :
    w.ctx.mStatus.rank < w'.ctx.mStatus.rank := by
  rcases h with ⟨hs | hs, hs', -⟩ | ⟨hs | hs, hs', -⟩ <;> rw [hs, hs'] <;> decide

theorem fellBack_gaveUp (w : World) (hw : w.ctx.mStatus.Waiting) :
    FellBack w w.addRecvRetryCount.gaveUp.resetAllRetryCounts := by
  rcases w.gaveUp_eq hw with ⟨hs, hg⟩ | ⟨hs, hg⟩
  · rw [hg]
    exact Or.inl ⟨hs, rfl, rfl, rfl⟩
  · rw [hg]
    exact Or.inr ⟨hs, rfl, rfl, rfl⟩

/-- A failed poll of a waiting status is counted or ends in the fall-back. -/
theorem failedPoll_step (w w' : World) (r : RecvFrom) (hw : w.ctx.mStatus.Waiting)
    (hr : dtplinkRecv r = none) (hstep : LoopStep w r w') :
    StillWaiting w w' ∨ FellBack w w' := by
  cases hstep with
  | counted _ hc => exact Or.inl ⟨rfl, rfl⟩
  | retransmitted _ _ hsend hrecv =>
    obtain ⟨flag, flag', events, he, -⟩ := w.retransmitted_eq hw
    rw [he]
    exact Or.inl ⟨rfl, rfl⟩
  | gaveUp _ _ hsend => exact Or.inr (fellBack_gaveUp w hw)
  | phase1Reply d hd | phase2Reply d hd | phase3Reply d hd | dnsReply d hd | ignored d hd =>
    rw [hr] at hd
    exact absurd hd (by simp)
  | served d _ hd =>
    rw [hr] at hd
    exact absurd hd (by simp)

/-- While the server is silent a status is kept, with every failed poll counted, or left by its
fall-back. -/
theorem silent_step (P : Platform) (main : DeviceServer) (w v : World) (r : RecvFrom)
    (hw : w.ctx.mStatus.Waiting) (hn : w.ctx.mStatus = .waitCsPhase1 ∨ w.NameFits)
    (hinv : LoopInvariant v) (hv : StillWaiting w v)
    (hc : ∀ d, dtplinkRecv r = some d → ¬ w.Accepts d) :
    ∃ u, dtplinkDSLoop P main v r = .ok u ∧ (FellBack w u ∨ (LoopInvariant u ∧ StillWaiting w u) ∧
      64 - silence u + (if failedPoll r then 1 else 0) ≤ 64 - silence v) := by
  have hwv : v.ctx.mStatus.Waiting := by rwa [hv.mStatus]
  cases hr : dtplinkRecv r with
  | some d =>
    have hignored := onDatagram_ignores P main d v hwv.ne_online
      (fun ha => hc d hr ((hv.accepts_iff d).1 ha))
    refine ⟨v, by simp only [dtplinkDSLoop, hr, hignored], Or.inr ⟨⟨hinv, hv⟩, ?_⟩⟩
    rw [failedPoll, hr]
    exact le_rfl
  | none =>
    have hregisters : v.Registers r → v.NameFits := by
      intro hreg
      rcases hn with hs | hn
      · simp [World.Registers, hr, hv.mStatus, hs] at hreg
      · exact hv.nameFits_iff.2 hn
    obtain ⟨u, hu⟩ := (onFailedPoll_ok_iff v r hr).2 hregisters
    have hstep := loopStep_of_failedPoll v u r hr hu
    refine ⟨u, by simp only [dtplinkDSLoop, hr, hu], ?_⟩
    rcases failedPoll_step v u r hwv hr hstep with hstill | hback
    · obtain ⟨hmore, hmax⟩ := silence_step v u r hinv hwv hr hstep hstill.mStatus
      refine Or.inr ⟨⟨loopInvariant_step v u r hinv hstep, hv.trans hstill⟩, ?_⟩
      rw [failedPoll, hr, Option.isNone_none, if_pos rfl]
      omega
    · left
      unfold FellBack at hback ⊢
      rwa [hv.mStatus] at hback

/-- Sixty-five failed polls among polls that bring no awaited reply make the server fall back. Every
state the rest of them reaches is of a later status than the one they found. -/
theorem silent_server_left (P : Platform) (main : DeviceServer) (w : World)
    (hreached : Reached P main w) (hw : w.ctx.mStatus.Waiting)
    (hn : w.ctx.mStatus = .waitCsPhase1 ∨ w.NameFits) (polls : List RecvFrom)
    (hsilent : Unanswered w polls) (hcount : 65 ≤ polls.countP failedPoll) :
    ∃ seen rest w', polls = seen ++ rest ∧ runLoop P main w seen = .ok w' ∧ FellBack w w' ∧
      ∀ next, next <+: rest → ∀ w'', runLoop P main w' next = .ok w'' →
        w.ctx.mStatus.rank < w''.ctx.mStatus.rank := by
  obtain ⟨seen, rest, w', hpolls, hrun, hback⟩ := PartialRun.exists_exit
    (fun v => LoopInvariant v ∧ StillWaiting w v) (FellBack w) (fun v => 64 - silence v) failedPoll
    (fun r => ∀ d, dtplinkRecv r = some d → ¬ w.Accepts d)
    (fun v r hv hc => silent_step P main w v r hw hn hv.1 hv.2 hc) w polls
    ⟨loopInvariant_reached hreached, stillWaiting_refl w⟩ hsilent (by omega)
  refine ⟨seen, rest, w', hpolls, hrun, hback, fun next _ w'' hnext => ?_⟩
  exact hback.rank_lt.trans_le (forward_of_run P main w' w'' next hnext).frame.rank

/-- A datagram no status of the start-up accepts. -/
def strayPoll : RecvFrom := .data otherAddress [space]

theorem unanswered_strayPolls (n : ℕ) :
    Unanswered (bootWorld sampleName) (List.replicate n strayPoll) := by
  intro r hr d hd
  obtain rfl := List.eq_of_mem_replicate hr
  obtain rfl := Option.some.inj hd
  decide

theorem unanswered_silence (n : ℕ) :
    Unanswered (bootWorld sampleName) (List.replicate n .error) := by
  intro r hr d hd
  obtain rfl := List.eq_of_mem_replicate hr
  exact absurd hd (by simp [dtplinkRecv])

theorem silent_server_left_sample : ∃ seen rest w',
    List.replicate 65 RecvFrom.error = seen ++ rest ∧
    runLoop .linux (fun _ _ => .done) (bootWorld sampleName) seen = .ok w' ∧
    FellBack (bootWorld sampleName) w' ∧
    ∀ next, next <+: rest → ∀ w'', runLoop .linux (fun _ _ => .done) w' next = .ok w'' →
      (bootWorld sampleName).ctx.mStatus.rank < w''.ctx.mStatus.rank :=
  silent_server_left .linux _ (bootWorld sampleName) reached_bootWorld trivial
    (Or.inl rfl) _ (unanswered_silence 65) (by decide)

/-- Sixty-five stray datagrams leave the first phase as it was. -/
theorem stray_datagrams_stall : Reached .linux (fun _ _ => .done) (bootWorld sampleName) ∧
    (bootWorld sampleName).ctx.mStatus.Waiting ∧
    Unanswered (bootWorld sampleName) (List.replicate 65 strayPoll) ∧
    ¬ ∃ w', runLoop .linux (fun _ _ => .done) (bootWorld sampleName)
      (List.replicate 65 strayPoll) = .ok w' ∧
      w'.ctx.mStatus ≠ (bootWorld sampleName).ctx.mStatus := by
  refine ⟨reached_bootWorld, trivial, unanswered_strayPolls 65, ?_⟩
  rintro ⟨w', hrun, hs⟩
  have hidle := PartialRun.run_of_idle (dtplinkDSLoop .linux (fun _ _ => .done))
    (bootWorld sampleName) (List.replicate 65 strayPoll) (fun r hr => by
      obtain rfl := List.eq_of_mem_replicate hr
      rfl)
  obtain rfl := Except.ok.inj (hidle.symm.trans hrun)
  exact hs rfl

end OpenDSLite
