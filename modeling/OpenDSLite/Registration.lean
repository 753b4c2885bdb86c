import OpenDSLite.LoopSteps

/-!
# The registered mode

`RegisterDS` tells the DNS server the mode of the moment. In the third phase that is the mode
before the third reply is compared, so the server is told what the comparison then overwrites,
unless the verdict repeats the mode.
-/

namespace OpenDSLite

/-- The newest datagram `RegisterDS` sent; the log has its newest event first. -/
def latestRegistration (log : List Event) : Option Sent :=
  log.findSome? fun
    | .send s => if s.sender = .registerDS then some s else none
    | _ => none

/-- Behind the probing a server that is not in local mode has registered, and the letter of its
latest registration is `R` in relay mode and `D` in direct mode. -/
def ModeRegistered (w : World) : Prop :=
  w.ctx.mStatus = .waitDNS ∨ w.ctx.mStatus = .online → w.ctx.mRunningMode ≠ .localMode →
    ∃ s letter, latestRegistration w.log = some s ∧ s.msg.getLast? = some letter ∧
      (letter = 0x52 ↔ w.ctx.mRunningMode = .remoteRelayMode) ∧
      (letter = 0x44 ↔ w.ctx.mRunningMode = .remoteDirectMode)

def thirdVerdict (w : World) (d : Datagram) : RunningMode :=
  if w.mip1 = some (d.addressAt 2) then modeOfAddr (d.addressAt 2).addr else .remoteRelayMode

/-- The third reply leaves the mode in which it registers, or ends in local mode. -/
def VerdictForeseen (w : World) (r : RecvFrom) : Prop :=
  match dtplinkRecv r with
  | some d => w.ctx.mStatus = .waitCsPhase3 → w.Accepts d →
      thirdVerdict w d = .localMode ∨ thirdVerdict w d = w.ctx.mRunningMode
  | none => True

theorem verdictForeseen_iff (w : World) (r : RecvFrom) :
    VerdictForeseen w r ↔ ∀ d ∈ dtplinkRecv r, w.ctx.mStatus = .waitCsPhase3 → w.Accepts d →
      thirdVerdict w d = .localMode ∨ thirdVerdict w d = w.ctx.mRunningMode := by
  unfold VerdictForeseen
  cases dtplinkRecv r <;> simp

instance (w : World) (r : RecvFrom) : Decidable (VerdictForeseen w r) :=
  decidable_of_iff' _ (verdictForeseen_iff w r)

/-- Behind the probing the latest registration carries the current mode. -/
def Announced (w : World) : Prop :=
  w.ctx.mStatus = .waitDNS ∨ w.ctx.mStatus = .online → w.ctx.mRunningMode ≠ .localMode →
    ∃ s, latestRegistration w.log = some s ∧
      s.msg = registrationText w.ctx.mID w.ctx.mRunningMode

theorem latestRegistration_append (events log : List Event)
    (h : ∀ s, Event.send s ∈ events → s.sender ≠ .registerDS) :
    latestRegistration (events ++ log) = latestRegistration log := by
  have hnone : latestRegistration events = none := by
    apply List.findSome?_eq_none_iff.mpr
    intro e he
    cases e with
    | send s => exact if_neg (h s he)
    | _ => rfl
  rw [latestRegistration, List.findSome?_append]
  change (latestRegistration events).or (latestRegistration log) = _
  rw [hnone, Option.none_or]

theorem announced_gaveUp (w : World) (hw : w.ctx.mStatus.Waiting) :
    Announced w.addRecvRetryCount.gaveUp.resetAllRetryCounts := by
  intro hs hmode
  rcases w.gaveUp_eq hw with ⟨-, hg⟩ | ⟨-, hg⟩
  · rw [hg] at hmode
    exact absurd rfl hmode
  · rw [hg]
    exact ⟨_, rfl, rfl⟩

theorem announced_phase3Reply (w : World) (r : RecvFrom) (d : Datagram)
    (hr : dtplinkRecv r = some d) (hs : w.ctx.mStatus = .waitCsPhase3) (ha : w.Accepts d)
    (a : IPv4Address) (hm : w.mip1 = some a) (hc : VerdictForeseen w r) :
    Announced (w.afterPhase3 a d) := by
  intro _ hmode
  have hverdict : (w.afterPhase3 a d).ctx.mRunningMode = thirdVerdict w d := by
    change modeOfAddr (if a.equal (d.addressAt 2) then a else relayIPPort).addr = _
    rw [thirdVerdict, hm]
    by_cases h : a = d.addressAt 2
    · rw [if_pos ((IPv4Address.equal_iff _ _).2 h), if_pos (congrArg some h), h]
    · rw [if_neg (fun he => h ((IPv4Address.equal_iff _ _).1 he)),
        if_neg (fun he => h (Option.some.inj he))]
      rfl
  simp only [VerdictForeseen, hr] at hc
  rcases hc hs ha with hlocal | hsame
  · exact absurd (hverdict.trans hlocal) hmode
  · rw [hverdict, hsame]
    exact ⟨_, rfl, rfl⟩

theorem announced_retransmitted (w : World) (hw : w.ctx.mStatus.Waiting) :
    Announced w.request.addSendRetryCount := by
  intro hs' _
  by_cases hs : w.ctx.mStatus = .waitDNS
  · have hreq : w.request = w.registered := by simp only [World.request, hs]
    rw [hreq]
    exact ⟨_, rfl, rfl⟩
  · obtain ⟨flag, flag', events, he, -⟩ := w.request_eq hw
    rw [he] at hs'
    rcases hs' with hdns | honline
    · exact absurd hdns hs
    · exact absurd honline hw.ne_online

theorem announced_step (w w' : World) (r : RecvFrom) (h : Announced w)
    (hc : VerdictForeseen w r) (hstep : LoopStep w r w') : Announced w' := by
  cases hstep with
  | phase1Reply d hr hs ha =>
    intro hs'
    change DSStatus.waitCsPhase2 = .waitDNS ∨ DSStatus.waitCsPhase2 = .online at hs'
    exact absurd hs' (by decide)
  | phase2Reply d hr hs ha a hm =>
    intro hs'
    rw [(afterPhase2_spec a d w).1] at hs'
    exact absurd hs' (by decide)
  | phase3Reply d hr hs ha a hm hn => exact announced_phase3Reply w r d hr hs ha a hm hc
  | dnsReply d hr hs ha => exact fun _ hmode => h (Or.inl hs) hmode
  | ignored d hr hs ha => exact h
  | served d w' hr hs hserved =>
    obtain ⟨req, resp, events, rfl, hev⟩ := hserved
    intro hs' hmode
    rw [latestRegistration_append events w.log hev]
    exact h hs' hmode
  | counted hr hcount => exact h
  | retransmitted hr hw hsend hrecv =>
    exact announced_retransmitted _ hw
  | gaveUp hr hw hsend => exact announced_gaveUp w hw

theorem modeRegistered_of_announced (w : World) (h : Announced w) : ModeRegistered w := by
  intro hs hmode
  obtain ⟨s, hlatest, hmsg⟩ := h hs hmode
  refine ⟨s, modeLetter w.ctx.mRunningMode, hlatest, ?_, ?_⟩
  · rw [hmsg, registrationText, List.getLast?_append]
    rfl
  · cases hm : w.ctx.mRunningMode with
    | localMode => exact absurd hm hmode
    | remoteDirectMode => decide
    | remoteRelayMode => decide

/-- Along every run whose third reply leaves the mode it registers, the registered mode is the
real one. -/
theorem mode_registered (P : Platform) (main : DeviceServer) (w w' : World)
    (polls : List RecvFrom) (hs : Started w)
    (hc : PartialRun.Along (dtplinkDSLoop P main) VerdictForeseen w polls)
    (hrun : runLoop P main w polls = .ok w') : ModeRegistered w' := by
  apply modeRegistered_of_announced
  have hstart : Announced w := by
    intro hs'
    rw [(started_spec w hs).1] at hs'
    exact absurd hs' (by decide)
  exact PartialRun.invariant Announced VerdictForeseen
    (fun w r t h hv ht => announced_step w t r h hv (loopStep_of_ok P main w t r ht))
    w w' polls hstart hc hrun

theorem mode_registered_sample : ∃ w',
    runLoop .linux (fun _ _ => .done) (bootWorld sampleName)
      (probeReplies sampleAddress sampleAddress sampleAddress ++ [registerReply]) = .ok w' ∧
    ModeRegistered w' :=
  ⟨_, rfl, mode_registered .linux (fun _ _ => .done) _ _
    (probeReplies sampleAddress sampleAddress sampleAddress ++ [registerReply])
    started_bootWorld (by decide +kernel) rfl⟩

/-- The third server sees another port: the server registers in direct mode and runs in relay
mode. -/
theorem registered_direct_runs_relayed : Started (bootWorld sampleName) ∧ ∃ w',
    runLoop .linux (fun _ _ => .done) (bootWorld sampleName)
      (probeReplies sampleAddress sampleAddress otherAddress) = .ok w' ∧ ¬ ModeRegistered w' := by
  refine ⟨started_bootWorld, _, rfl, fun h => ?_⟩
  have hrelay : (outcome (runLoop .linux (fun _ _ => .done) (bootWorld sampleName)
      (probeReplies sampleAddress sampleAddress otherAddress))).ctx.mRunningMode =
      .remoteRelayMode := rfl
  obtain ⟨s, letter, hlatest, hlast, hr, -⟩ := h (Or.inl rfl) (fun he =>
    absurd (hrelay.symm.trans he) (by decide))
  obtain rfl := Option.some.inj hlatest
  obtain rfl := Option.some.inj hlast
  exact absurd (hr.2 hrelay) (by decide)

end OpenDSLite
