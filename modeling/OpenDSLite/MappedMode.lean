import OpenDSLite.LoopSteps

/-!
# Mode and mapped address

Before the verdict of the probing the mapped address is still zero while the mode is direct. Every
way out of the probing sets both together, and nothing behind it sets one alone.
-/

namespace OpenDSLite

def ModeMapped (w : World) : Prop :=
  w.ctx.mStatus = .waitDNS ∨ w.ctx.mStatus = .online →
    w.ctx.mRunningMode = modeOfAddr w.ctx.mIP.addr

/-- The relay sentinel is the largest address, and zero the local one. -/
theorem modeOfAddr_iff (addr : UInt32) :
    (modeOfAddr addr = .remoteRelayMode ↔ addr.toNat = 2 ^ 32 - 1) ∧
    (modeOfAddr addr = .localMode ↔ addr.toNat = 0) ∧
    (modeOfAddr addr = .remoteDirectMode ↔ addr.toNat ≠ 2 ^ 32 - 1 ∧ addr.toNat ≠ 0) := by
  have hrelay : addr = relayIPPort.addr ↔ addr.toNat = 2 ^ 32 - 1 := UInt32.toNat_inj.symm
  have hlocal : addr = noPublicIPPort.addr ↔ addr.toNat = 0 := UInt32.toNat_inj.symm
  simp only [modeOfAddr, hrelay, hlocal]
  by_cases h : addr.toNat = 2 ^ 32 - 1
  · have h0 : addr.toNat ≠ 0 := by rw [h]; decide
    rw [if_pos h]
    exact ⟨iff_of_true rfl h, iff_of_false (by decide) h0,
      iff_of_false (by decide) (fun hd => hd.1 h)⟩
  rw [if_neg h]
  by_cases h0 : addr.toNat = 0
  · rw [if_pos h0]
    exact ⟨iff_of_false (by decide) h, iff_of_true rfl h0,
      iff_of_false (by decide) (fun hd => hd.2 h0)⟩
  · rw [if_neg h0]
    exact ⟨iff_of_false (by decide) h, iff_of_false (by decide) h0, iff_of_true rfl ⟨h, h0⟩⟩

theorem modeMapped_started (w : World) (h : Started w) : ModeMapped w := by
  intro hs
  rw [(started_spec w h).1] at hs
  exact absurd hs (by decide)

theorem modeMapped_gaveUp (w : World) (hw : w.ctx.mStatus.Waiting) :
    ModeMapped w.addRecvRetryCount.gaveUp.resetAllRetryCounts := by
  intro _
  rcases w.gaveUp_eq hw with ⟨-, hg⟩ | ⟨-, hg⟩ <;> rw [hg] <;> rfl

theorem modeMapped_step (w w' : World) (r : RecvFrom) (h : ModeMapped w)
    (hstep : LoopStep w r w') : ModeMapped w' := by
  cases hstep with
  | phase1Reply d hr hs ha =>
    intro hs'
    change DSStatus.waitCsPhase2 = .waitDNS ∨ DSStatus.waitCsPhase2 = .online at hs'
    exact absurd hs' (by decide)
  | phase2Reply d hr hs ha a hm =>
    intro hs'
    rw [(afterPhase2_spec a d w).1] at hs'
    exact absurd hs' (by decide)
  | phase3Reply d hr hs ha a hm hn => exact fun _ => rfl
  | dnsReply d hr hs ha => exact fun _ => h (Or.inl hs)
  | ignored d hr hs ha => exact h
  | served d w' hr hs hserved =>
    obtain ⟨req, resp, events, rfl, -⟩ := hserved
    exact h
  | counted hr hc => exact h
  | retransmitted hr hw hsend hrecv =>
    obtain ⟨flag, flag', events, he, -⟩ := w.retransmitted_eq hw
    rw [he]
    exact h
  | gaveUp hr hw hsend => exact modeMapped_gaveUp w hw

/-- Behind the probing the mapped address tells the mode. -/
theorem mode_of_mapped_address (P : Platform) (main : DeviceServer) (w : World)
    (h : Reached P main w) (hs : w.ctx.mStatus = .waitDNS ∨ w.ctx.mStatus = .online) :
    (w.ctx.mRunningMode = .remoteRelayMode ↔ w.ctx.mIP.addr.toNat = 2 ^ 32 - 1) ∧
    (w.ctx.mRunningMode = .localMode ↔ w.ctx.mIP.addr.toNat = 0) ∧
    (w.ctx.mRunningMode = .remoteDirectMode ↔
      w.ctx.mIP.addr.toNat ≠ 2 ^ 32 - 1 ∧ w.ctx.mIP.addr.toNat ≠ 0) := by
  have hmapped : ModeMapped w := h.invariant ModeMapped modeMapped_started modeMapped_step
  rw [hmapped hs]
  exact modeOfAddr_iff w.ctx.mIP.addr

theorem mode_of_mapped_address_sample : onlineWorld.ctx.mRunningMode = .remoteDirectMode ↔
    onlineWorld.ctx.mIP.addr.toNat ≠ 2 ^ 32 - 1 ∧ onlineWorld.ctx.mIP.addr.toNat ≠ 0 :=
  (mode_of_mapped_address .linux (fun _ _ => .done) onlineWorld reached_onlineWorld
    (Or.inr rfl)).2.2

end OpenDSLite
