import OpenDSLite.LoopSteps

/-!
# When direct mode is earned

The second reply may put the server into relay mode before the third is compared, and the third is
compared with the first only. Along a run in which a third reply never restores the address that
the second one contradicted, direct mode after the probing means three equal addresses.
-/

namespace OpenDSLite

def DSStatus.Probing : DSStatus → Prop
  | waitCsPhase1 | waitCsPhase2 | waitCsPhase3 => True
  | startup | waitDNS | online => False

instance : DecidablePred DSStatus.Probing := fun s => by
  cases s <;> unfold DSStatus.Probing <;> infer_instance

theorem DSStatus.Probing.waiting {s : DSStatus} (h : s.Probing) : s.Waiting := by
  cases s <;> trivial

/-- The reply accepted by an iteration of the probing, with the address it reports. -/
def acceptedReply (w : World) (r : RecvFrom) : List (DSStatus × IPv4Address) :=
  match dtplinkRecv r with
  | some d => if w.ctx.mStatus.Probing ∧ w.Accepts d then [(w.ctx.mStatus, d.addressAt 2)] else []
  | none => []

/-- Behind the probing direct mode comes with an accepted reply in each phase and one address in
all of them. -/
def DirectEarned (replies : List (DSStatus × IPv4Address)) (w : World) : Prop :=
  w.ctx.mStatus = .waitDNS ∨ w.ctx.mStatus = .online → w.ctx.mRunningMode = .remoteDirectMode →
    ∃ a, (.waitCsPhase1, a) ∈ replies ∧ (.waitCsPhase2, a) ∈ replies ∧
      (.waitCsPhase3, a) ∈ replies ∧ ∀ reply ∈ replies, reply.2 = a

/-- The third reply repeats a usable first address although the second one differed from it. -/
def VerdictOverridden (w : World) (r : RecvFrom) : Prop :=
  match dtplinkRecv r with
  | some d => w.ctx.mStatus = .waitCsPhase3 ∧ w.Accepts d ∧
      w.ctx.mRunningMode = .remoteRelayMode ∧ w.mip1 = some (d.addressAt 2) ∧
      modeOfAddr (d.addressAt 2).addr = .remoteDirectMode
  | none => False

instance (w : World) (r : RecvFrom) : Decidable (VerdictOverridden w r) := by
  unfold VerdictOverridden
  split <;> infer_instance

/-- What the replies accepted so far tell about the status they led to. -/
def Probed (replies : List (DSStatus × IPv4Address)) (w : World) : Prop :=
  match w.ctx.mStatus with
  | .startup => False
  | .waitCsPhase1 => replies = []
  | .waitCsPhase2 => ∃ a, replies = [(.waitCsPhase1, a)] ∧ w.mip1 = some a
  | .waitCsPhase3 => ∃ a b, replies = [(.waitCsPhase1, a), (.waitCsPhase2, b)] ∧
      w.mip1 = some a ∧ (a ≠ b → w.ctx.mRunningMode = .remoteRelayMode)
  | .waitDNS | .online => w.ctx.mRunningMode = .remoteDirectMode →
      ∃ a, replies = [(.waitCsPhase1, a), (.waitCsPhase2, a), (.waitCsPhase3, a)]

theorem acceptedReply_of_failedPoll (w : World) (r : RecvFrom) (hr : dtplinkRecv r = none) :
    acceptedReply w r = [] := by
  simp only [acceptedReply, hr]

theorem acceptedReply_of_accepts (w : World) (r : RecvFrom) (d : Datagram)
    (hr : dtplinkRecv r = some d) (hp : w.ctx.mStatus.Probing) (ha : w.Accepts d) :
    acceptedReply w r = [(w.ctx.mStatus, d.addressAt 2)] := by
  simp only [acceptedReply, hr, if_pos (And.intro hp ha)]

theorem acceptedReply_of_not (w : World) (r : RecvFrom) (d : Datagram)
    (hr : dtplinkRecv r = some d) (h : ¬ (w.ctx.mStatus.Probing ∧ w.Accepts d)) :
    acceptedReply w r = [] := by
  simp only [acceptedReply, hr, if_neg h]

theorem probed_congr (replies : List (DSStatus × IPv4Address)) (w w' : World)
    (hs : w'.ctx.mStatus = w.ctx.mStatus) (hm : w'.mip1 = w.mip1)
    (hmode : w'.ctx.mRunningMode = w.ctx.mRunningMode) (h : Probed replies w) :
    Probed replies w' := by
  unfold Probed at h ⊢
  rwa [hs, hm, hmode]

/-- The relay sentinel has the relay mode. -/
theorem modeOfAddr_relay : modeOfAddr relayIPPort.addr = .remoteRelayMode := by decide

theorem probed_phase3Reply (replies : List (DSStatus × IPv4Address)) (w : World) (r : RecvFrom)
    (d : Datagram) (hr : dtplinkRecv r = some d) (hs : w.ctx.mStatus = .waitCsPhase3)
    (ha : w.Accepts d) (a : IPv4Address) (hm : w.mip1 = some a) (h : Probed replies w)
    (hc : ¬ VerdictOverridden w r) :
    Probed (replies ++ [(.waitCsPhase3, d.addressAt 2)]) (w.afterPhase3 a d) := by
  simp only [Probed, hs] at h
  obtain ⟨a', b, rfl, hm', hmode⟩ := h
  obtain rfl := Option.some.inj (hm.symm.trans hm')
  intro hdirect
  change modeOfAddr (if a.equal (d.addressAt 2) then a else relayIPPort).addr = _ at hdirect
  by_cases hac : a = d.addressAt 2
  · rw [if_pos ((IPv4Address.equal_iff _ _).2 hac)] at hdirect
    have hab : a = b := by
      by_contra hne
      apply hc
      simp only [VerdictOverridden, hr]
      exact ⟨hs, ha, hmode hne, hac ▸ hm, hac ▸ hdirect⟩
    exact ⟨a, by rw [← hab, ← hac]; rfl⟩
  · rw [if_neg (fun he => hac ((IPv4Address.equal_iff _ _).1 he)), modeOfAddr_relay] at hdirect
    exact absurd hdirect (by decide)

theorem probed_gaveUp (replies : List (DSStatus × IPv4Address)) (w : World)
    (hw : w.ctx.mStatus.Waiting) :
    Probed replies w.addRecvRetryCount.gaveUp.resetAllRetryCounts := by
  rcases w.gaveUp_eq hw with ⟨-, hg⟩ | ⟨-, hg⟩
  · rw [hg]
    intro hdirect
    exact RunningMode.noConfusion hdirect
  · rw [hg]
    intro hdirect
    exact RunningMode.noConfusion hdirect

theorem probed_step (replies : List (DSStatus × IPv4Address)) (w w' : World) (r : RecvFrom)
    (h : Probed replies w) (hc : ¬ VerdictOverridden w r) (hstep : LoopStep w r w') :
    Probed (replies ++ acceptedReply w r) w' := by
  cases hstep with
  | phase1Reply d hr hs ha =>
    simp only [Probed, hs] at h
    rw [acceptedReply_of_accepts w r d hr (by rw [hs]; trivial) ha, hs, h]
    exact ⟨d.addressAt 2, rfl, rfl⟩
  | phase2Reply d hr hs ha a hm =>
    simp only [Probed, hs] at h
    obtain ⟨a', rfl, hm'⟩ := h
    obtain rfl := Option.some.inj (hm.symm.trans hm')
    obtain ⟨hstatus, hmip, -, -, hmode⟩ := afterPhase2_spec a d w
    rw [acceptedReply_of_accepts w r d hr (by rw [hs]; trivial) ha, hs]
    simp only [Probed, hstatus]
    exact ⟨a, d.addressAt 2, rfl, hmip.trans hm, hmode⟩
  | phase3Reply d hr hs ha a hm hn =>
    rw [acceptedReply_of_accepts w r d hr (by rw [hs]; trivial) ha, hs]
    exact probed_phase3Reply replies w r d hr hs ha a hm h hc
  | dnsReply d hr hs ha =>
    rw [acceptedReply_of_not w r d hr (by simp [hs, DSStatus.Probing]), List.append_nil]
    simp only [Probed, hs] at h
    exact h
  | ignored d hr hs ha =>
    rw [acceptedReply_of_not w r d hr (fun hp => ha hp.2), List.append_nil]
    exact h
  | served d w' hr hs hserved =>
    rw [acceptedReply_of_not w r d hr (by simp [hs, DSStatus.Probing]), List.append_nil]
    obtain ⟨req, resp, events, rfl, -⟩ := hserved
    exact probed_congr replies w _ rfl rfl rfl h
  | counted hr hc =>
    rw [acceptedReply_of_failedPoll w r hr, List.append_nil]
    exact probed_congr replies w _ rfl rfl rfl h
  | retransmitted hr hw hsend hrecv =>
    rw [acceptedReply_of_failedPoll w r hr, List.append_nil]
    obtain ⟨flag, flag', events, he, -⟩ := w.retransmitted_eq hw
    rw [he]
    exact probed_congr replies w _ rfl rfl rfl h
  | gaveUp hr hw hsend =>
    rw [acceptedReply_of_failedPoll w r hr, List.append_nil]
    exact probed_gaveUp replies w hw

theorem directEarned_of_probed (replies : List (DSStatus × IPv4Address)) (w : World)
    (h : Probed replies w) : DirectEarned replies w := by
  intro hs hdirect
  have hlist : ∃ a, replies =
      [(.waitCsPhase1, a), (.waitCsPhase2, a), (.waitCsPhase3, a)] := by
    rcases hs with hs | hs
    · simp only [Probed, hs] at h
      exact h hdirect
    · simp only [Probed, hs] at h
      exact h hdirect
  obtain ⟨a, rfl⟩ := hlist
  exact ⟨a, by simp, by simp, by simp, by simp⟩

/-- Along every run that overrides no verdict direct mode is earned. -/
theorem direct_mode_earned (P : Platform) (main : DeviceServer) (w w' : World)
    (polls : List RecvFrom) (hs : Started w)
    (hc : PartialRun.Along (dtplinkDSLoop P main) (fun w r => ¬ VerdictOverridden w r) w polls)
    (hrun : runLoop P main w polls = .ok w') :
    DirectEarned (PartialRun.history (dtplinkDSLoop P main) acceptedReply w polls) w' := by
  apply directEarned_of_probed
  have hstart : Probed [] w := by
    simp only [Probed, (started_spec w hs).1]
  exact PartialRun.invariant_history acceptedReply Probed _
    (fun replies w r t h hv ht => probed_step replies w t r h hv (loopStep_of_ok P main w t r ht))
    [] w w' polls hstart hc hrun

theorem direct_mode_earned_sample : ∃ w',
    runLoop .linux (fun _ _ => .done) (bootWorld sampleName)
      (probeReplies sampleAddress sampleAddress sampleAddress) = .ok w' ∧
    DirectEarned (PartialRun.history (dtplinkDSLoop .linux (fun _ _ => .done)) acceptedReply
      (bootWorld sampleName) (probeReplies sampleAddress sampleAddress sampleAddress)) w' :=
  ⟨_, rfl, direct_mode_earned .linux _ _ _ _ started_bootWorld (by decide +kernel) rfl⟩

/-- The second server sees another port than the first and the third: the server registers and
runs in direct mode. -/
theorem contradicted_address_direct : Started (bootWorld sampleName) ∧ ∃ w',
    runLoop .linux (fun _ _ => .done) (bootWorld sampleName)
      (probeReplies sampleAddress otherAddress sampleAddress) = .ok w' ∧
    ¬ DirectEarned (PartialRun.history (dtplinkDSLoop .linux (fun _ _ => .done)) acceptedReply
      (bootWorld sampleName) (probeReplies sampleAddress otherAddress sampleAddress)) w' := by
  refine ⟨started_bootWorld, _, rfl, fun h => ?_⟩
  obtain ⟨a, -, -, -, ha⟩ := h (Or.inl rfl) rfl
  have hreplies : PartialRun.history (dtplinkDSLoop .linux (fun _ _ => .done)) acceptedReply
      (bootWorld sampleName) (probeReplies sampleAddress otherAddress sampleAddress) =
      [(.waitCsPhase1, sampleAddress), (.waitCsPhase2, otherAddress),
        (.waitCsPhase3, sampleAddress)] := rfl
  rw [hreplies] at ha
  have hfirst : sampleAddress = a := ha (.waitCsPhase1, sampleAddress) (by simp)
  have hsecond : otherAddress = a := ha (.waitCsPhase2, otherAddress) (by simp)
  exact absurd (hfirst.trans hsecond.symm) (by decide)

end OpenDSLite
