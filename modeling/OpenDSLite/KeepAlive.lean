import OpenDSLite.LoopSteps

/-!
# Keeping the mapping alive

`DTPLink_StartKeepAlive` is called where the third reply is accepted, and nowhere else. A server
that gives up the second or third phase registers for relay mode and may come online without it.
-/

namespace OpenDSLite

def keepAlives (log : List Event) : ℕ := log.count .startKeepAlive

/-- The iteration gives up the second or the third phase. -/
def GivesUpProbing (w : World) (r : RecvFrom) : Prop :=
  dtplinkRecv r = none ∧ sendRetryCountMax ≤ w.ctx.mSendRetryCount ∧
    (w.ctx.mStatus = .waitCsPhase2 ∨ w.ctx.mStatus = .waitCsPhase3)

instance (w : World) (r : RecvFrom) : Decidable (GivesUpProbing w r) := by
  unfold GivesUpProbing
  infer_instance

/-- Since `w` the keep-alive was started once at most, and once if the server is registered. -/
def KeptAlive (w w' : World) : Prop :=
  keepAlives w'.log ≤ keepAlives w.log + 1 ∧
  (w'.ctx.mStatus = .online →
    w'.ctx.mRunningMode = .remoteDirectMode ∨ w'.ctx.mRunningMode = .remoteRelayMode →
    keepAlives w'.log = keepAlives w.log + 1)

/-- Up to the third phase no keep-alive has been started. Behind it there is one at most, and one
where all phases were completed and the server is not in local mode. -/
def KeepAliveInvariant (n : ℕ) (completed : Prop) (w : World) : Prop :=
  match w.ctx.mStatus with
  | .startup | .waitCsPhase1 | .waitCsPhase2 | .waitCsPhase3 => keepAlives w.log = n
  | .waitDNS => keepAlives w.log ≤ n + 1 ∧ (completed → keepAlives w.log = n + 1)
  | .online => keepAlives w.log ≤ n + 1 ∧
      (completed → w.ctx.mRunningMode ≠ .localMode → keepAlives w.log = n + 1)

@[simp] theorem keepAlives_send (s : Sent) (log : List Event) :
    keepAlives (.send s :: log) = keepAlives log :=
  List.count_cons_of_ne (by simp)

@[simp] theorem keepAlives_start (log : List Event) :
    keepAlives (.startKeepAlive :: log) = keepAlives log + 1 :=
  List.count_cons_self

theorem keepAlives_service (events log : List Event) (h : ∀ e ∈ events, e.IsService) :
    keepAlives (events ++ log) = keepAlives log := by
  have hnone : Event.startKeepAlive ∉ events := fun he => h _ he
  rw [keepAlives, List.count_append, List.count_eq_zero_of_not_mem hnone, Nat.zero_add]
  rfl

@[simp] theorem keepAlives_pingCenterServer (w : World) :
    keepAlives (pingCenterServer w).log = keepAlives w.log := by
  unfold pingCenterServer
  by_cases hf : w.firstPingCenterServer = true <;>
    simp [hf, World.dtplinkSend, World.emit, World.setStatus]

@[simp] theorem keepAlives_pingAuxServer (w : World) :
    keepAlives (pingAuxServer w).log = keepAlives w.log := by
  unfold pingAuxServer
  by_cases hf : w.firstPingAuxServer = true <;>
    simp [hf, World.dtplinkSend, World.emit, World.setStatus]

theorem keepAlives_request (w : World) : keepAlives w.request.log = keepAlives w.log := by
  unfold World.request
  cases w.ctx.mStatus with
  | startup | online => rfl
  | waitCsPhase1 => exact keepAlives_pingCenterServer w
  | waitCsPhase2 => exact keepAlives_send _ _
  | waitCsPhase3 => exact keepAlives_pingAuxServer w
  | waitDNS => exact keepAlives_send _ _

theorem keepAlives_afterPhase2 (a : IPv4Address) (d : Datagram) (w : World) :
    keepAlives (w.afterPhase2 a d).log = keepAlives w.log := by
  have hping := keepAlives_pingAuxServer
    { w.resetAllRetryCounts with mip2 := some (d.addressAt 2) }
  unfold World.afterPhase2
  split_ifs
  · exact hping
  · exact hping

theorem keepAliveInvariant_gaveUp (n : ℕ) (completed : Prop) (w : World) (r : RecvFrom)
    (h : KeepAliveInvariant n completed w) (hc : completed → ¬ GivesUpProbing w r)
    (hr : dtplinkRecv r = none) (hw : w.ctx.mStatus.Waiting)
    (hsend : sendRetryCountMax ≤ w.ctx.mSendRetryCount) :
    KeepAliveInvariant n completed w.addRecvRetryCount.gaveUp.resetAllRetryCounts := by
  rcases w.gaveUp_eq hw with ⟨hs, hg⟩ | ⟨hs, hg⟩
  · -- local mode needs no keep-alive
    have hle : keepAlives w.log ≤ n + 1 := by
      rcases hs with hs | hs
      · simp only [KeepAliveInvariant, hs] at h
        omega
      · simp only [KeepAliveInvariant, hs] at h
        exact h.1
    rw [hg]
    exact ⟨hle, fun _ hmode => absurd rfl hmode⟩
  · have heq : keepAlives w.log = n := by
      rcases hs with hs | hs
      · simpa only [KeepAliveInvariant, hs] using h
      · simpa only [KeepAliveInvariant, hs] using h
    rw [hg]
    change keepAlives (.send _ :: w.log) ≤ n + 1 ∧
      (completed → keepAlives (.send _ :: w.log) = n + 1)
    rw [keepAlives_send]
    exact ⟨by omega, fun hcompleted => absurd ⟨hr, hsend, hs⟩ (hc hcompleted)⟩

theorem keepAliveInvariant_congr (n : ℕ) (completed : Prop) (w w' : World)
    (hs : w'.ctx.mStatus = w.ctx.mStatus) (hmode : w'.ctx.mRunningMode = w.ctx.mRunningMode)
    (hlog : keepAlives w'.log = keepAlives w.log) (h : KeepAliveInvariant n completed w) :
    KeepAliveInvariant n completed w' := by
  unfold KeepAliveInvariant at h ⊢
  rwa [hs, hmode, hlog]

theorem keepAliveInvariant_step (P : Platform) (main : DeviceServer) (n : ℕ) (completed : Prop)
    (w w' : World) (r : RecvFrom) (h : KeepAliveInvariant n completed w)
    (hc : completed → ¬ GivesUpProbing w r) (hok : dtplinkDSLoop P main w r = .ok w') :
    KeepAliveInvariant n completed w' := by
  cases loopStep_of_ok P main w w' r hok with
  | phase1Reply d hr hs ha =>
    simp only [KeepAliveInvariant, hs] at h
    exact (keepAlives_send _ _).trans h
  | phase2Reply d hr hs ha a hm =>
    simp only [KeepAliveInvariant, hs] at h
    simp only [KeepAliveInvariant, (afterPhase2_spec a d w).1, keepAlives_afterPhase2, h]
  | phase3Reply d hr hs ha a hm hn =>
    simp only [KeepAliveInvariant, hs] at h
    have hlog : keepAlives (w.afterPhase3 a d).log = n + 1 := by
      change keepAlives (.startKeepAlive :: .send _ :: w.log) = n + 1
      rw [keepAlives_start, keepAlives_send, h]
    exact ⟨hlog.le, fun _ => hlog⟩
  | dnsReply d hr hs ha =>
    simp only [KeepAliveInvariant, hs] at h
    exact ⟨h.1, fun hcompleted _ => h.2 hcompleted⟩
  | ignored d hr hs ha => exact h
  | served d w' hr hs hserved =>
    rcases onlineStep_of_ok P main w w' r hs hok with rfl | ⟨req, resp, events, rfl, hev⟩
    · exact h
    · exact keepAliveInvariant_congr n completed w _ rfl rfl (keepAlives_service events w.log hev) h
  | counted hr hcount => exact h
  | retransmitted hr hw hsend hrecv =>
    have hlog : keepAlives (w.addRecvRetryCount.resetRecvRetryCount.request.addSendRetryCount).log
        = keepAlives w.log := keepAlives_request _
    obtain ⟨flag, flag', events, he, -⟩ := w.retransmitted_eq hw
    rw [he] at hlog ⊢
    exact keepAliveInvariant_congr n completed w _ rfl rfl hlog h
  | gaveUp hr hw hsend => exact keepAliveInvariant_gaveUp n completed w r h hc hr hw hsend

theorem keepAliveInvariant_of_run (P : Platform) (main : DeviceServer) (completed : Prop)
    (w w' : World) (polls : List RecvFrom) (hs : Started w)
    (hc : PartialRun.Along (dtplinkDSLoop P main) (fun w r => completed → ¬ GivesUpProbing w r) w
      polls) (hrun : runLoop P main w polls = .ok w') :
    KeepAliveInvariant (keepAlives w.log) completed w' := by
  have hstart : KeepAliveInvariant (keepAlives w.log) completed w := by
    simp only [KeepAliveInvariant, (started_spec w hs).1]
  exact PartialRun.invariant (KeepAliveInvariant (keepAlives w.log) completed) _
    (fun v r u hv hnot hu => keepAliveInvariant_step P main _ completed v u r hv hnot hu)
    w w' polls hstart hc hrun

/-- No run starts the keep-alive twice. -/
theorem keepAlive_at_most_once (P : Platform) (main : DeviceServer) (w w' : World)
    (polls : List RecvFrom) (hs : Started w) (hrun : runLoop P main w polls = .ok w') :
    keepAlives w'.log ≤ keepAlives w.log + 1 := by
  have hend := keepAliveInvariant_of_run P main False w w' polls hs
    (PartialRun.along_of_forall _ _ (fun _ _ => False.elim) w polls) hrun
  unfold KeepAliveInvariant at hend
  cases hs' : w'.ctx.mStatus with
  | waitDNS | online =>
    simp only [hs'] at hend
    exact hend.1
  | _ =>
    simp only [hs'] at hend
    omega

/-- A run that gives up neither the second nor the third phase has started the keep-alive where
the server is registered. -/
theorem keepAlive_started (P : Platform) (main : DeviceServer) (w w' : World)
    (polls : List RecvFrom) (hs : Started w)
    (hc : PartialRun.Along (dtplinkDSLoop P main) (fun w r => ¬ GivesUpProbing w r) w polls)
    (hrun : runLoop P main w polls = .ok w') : KeptAlive w w' := by
  refine ⟨keepAlive_at_most_once P main w w' polls hs hrun, fun hs' hmode => ?_⟩
  have hend := keepAliveInvariant_of_run P main True w w' polls hs (by simpa using hc) hrun
  simp only [KeepAliveInvariant, hs'] at hend
  apply hend.2 trivial
  rcases hmode with hmode | hmode <;> rw [hmode] <;> decide

theorem keepAlive_started_sample : ∃ w',
    runLoop .linux (fun _ _ => .done) (bootWorld sampleName)
      (probeReplies sampleAddress sampleAddress sampleAddress ++ [registerReply]) = .ok w' ∧
    KeptAlive (bootWorld sampleName) w' :=
  ⟨_, rfl, keepAlive_started .linux (fun _ _ => .done) _ _
    (probeReplies sampleAddress sampleAddress sampleAddress ++ [registerReply])
    started_bootWorld (by decide +kernel) rfl⟩

/-- The first reply, silence until the second phase is given up, and the reply of the DNS
server. -/
def relayedPolls : List RecvFrom :=
  probeReply bindReqToServer1Port1 centerServer sampleAddress :: List.replicate 65 .error ++
    [registerReply]

/-- The server comes online in relay mode and has no keep-alive. -/
theorem relayed_without_keepAlive : Started (bootWorld sampleName) ∧ ∃ w',
    runLoop .linux (fun _ _ => .done) (bootWorld sampleName) relayedPolls = .ok w' ∧
    ¬ KeptAlive (bootWorld sampleName) w' := by
  refine ⟨started_bootWorld, outcome (runLoop .linux (fun _ _ => .done) (bootWorld sampleName)
    relayedPolls), by decide +kernel, fun h => ?_⟩
  have honce := h.2 (by decide +kernel) (Or.inr (by decide +kernel))
  exact absurd honce (by decide +kernel)

end OpenDSLite
