import OpenDSLite.LoopSteps
import OpenDSLite.RetryTimer

/-!
# Which iterations stay inside their objects

An iteration fails exactly when it prints a registration that does not fit, or is asked for data
that it cannot serve: the header is incomplete, the application leaves its buffers, or the reply
does not fit behind the header.
-/

namespace OpenDSLite

open ByteOrder ByteArea

/-- The iteration calls `RegisterDS`. -/
def World.Registers (w : World) (r : RecvFrom) : Prop :=
  match dtplinkRecv r with
  | some d => w.ctx.mStatus = .waitCsPhase3 ∧ w.Accepts d
  | none =>
      (sendRetryCountMax ≤ w.ctx.mSendRetryCount ∧
        (w.ctx.mStatus = .waitCsPhase2 ∨ w.ctx.mStatus = .waitCsPhase3)) ∨
      (w.ctx.mSendRetryCount < sendRetryCountMax ∧
        recvRetryCountMax ≤ w.ctx.mRecvRetryCount + 1 ∧ w.ctx.mStatus = .waitDNS)

/-- The header of the request is complete, and the application, called on its body, stays in the
two buffers and leaves a response that fits behind the header of the reply. -/
def RequestSound (P : Platform) (main : DeviceServer) (w : World) (d : Datagram) : Prop :=
  d.headerSize ≤ d.bytes.length ∧ ∃ req resp, w.answer P main d.body = some (req, resp) ∧
    d.headerSize + resp.length.toNat ≤ maxRtpMsgSize

def StepSound (P : Platform) (main : DeviceServer) (w : World) (r : RecvFrom) : Prop :=
  (w.Registers r → w.NameFits) ∧
  ∀ d, dtplinkRecv r = some d → w.ctx.mStatus = .online → d.IsDirect ∨ d.IsRelayed →
    RequestSound P main w d

theorem dataRequest_ok_iff (P : Platform) (main : DeviceServer) (w : World) (d : Datagram)
    (hid : d.IsDirect ∨ d.IsRelayed) :
    (∃ w', processClientRequests P main d.respId (d.ptr 2) (Int16.ofInt (d.msgLen.toInt - 2)) d.src
      w = .ok w') ↔ RequestSound P main w d := by
  constructor
  · rintro ⟨w', hw'⟩
    have hserving := serving P main w d
    rw [hw'] at hserving
    cases hserving with
    | replied hid hn req resp ha hfit => exact ⟨hn, req, resp, ha, hfit⟩
    | punched hother | named hother | cleared hother => exact absurd hid hother
  · rintro ⟨hn, req, resp, ha, hfit⟩
    rw [processClientRequests_data P main w d hid hn, ha]
    exact ⟨_, if_pos hfit⟩

/-- Only data requests can fail. -/
theorem processClientRequests_ok (P : Platform) (main : DeviceServer) (w : World) (d : Datagram)
    (hid : ¬ (d.IsDirect ∨ d.IsRelayed)) :
    ∃ w', processClientRequests P main d.respId (d.ptr 2) (Int16.ofInt (d.msgLen.toInt - 2)) d.src
      w = .ok w' := by
  have hserving := serving P main w d
  generalize processClientRequests P main d.respId (d.ptr 2) (Int16.ofInt (d.msgLen.toInt - 2))
    d.src w = result at hserving ⊢
  cases hserving with
  | headerIncomplete hdata | buffersLeft hdata | replyTooLong hdata | replied hdata =>
    exact absurd hdata hid
  | punched | named | cleared => exact ⟨_, rfl⟩

theorem onDatagram_ok_iff (P : Platform) (main : DeviceServer) (w : World) (d : Datagram)
    (hm : w.ctx.mStatus = .waitCsPhase2 ∨ w.ctx.mStatus = .waitCsPhase3 → ∃ a, w.mip1 = some a) :
    (∃ w', onDatagram P main d w = .ok w') ↔
      (w.ctx.mStatus = .waitCsPhase3 ∧ w.Accepts d → w.NameFits) ∧
      (w.ctx.mStatus = .online → d.IsDirect ∨ d.IsRelayed → RequestSound P main w d) := by
  by_cases ho : w.ctx.mStatus = .online
  · simp only [onDatagram, ho, reduceCtorEq, false_and, false_imp_iff, true_and, true_imp_iff]
    by_cases hid : d.IsDirect ∨ d.IsRelayed
    · rw [dataRequest_ok_iff P main w d hid]
      exact ⟨fun h _ => h, fun h => h hid⟩
    · exact iff_of_true (processClientRequests_ok P main w d hid) (fun h => absurd h hid)
  by_cases ha : w.Accepts d
  · cases hs : w.ctx.mStatus with
    | startup => exact absurd ha (by simp [World.Accepts, hs])
    | online => exact absurd hs ho
    | waitCsPhase1 => exact iff_of_true ⟨_, onDatagram_phase1 P main d w hs ha⟩ (by simp)
    | waitCsPhase2 =>
      obtain ⟨a, hmip⟩ := hm (Or.inl hs)
      obtain ⟨w₁, heq⟩ := onDatagram_phase2 P main d w hs ha
      rw [hmip, World.orFault_some, ok_bind] at heq
      exact iff_of_true ⟨_, heq⟩ (by simp)
    | waitCsPhase3 =>
      by_cases hn : w.NameFits
      · obtain ⟨a, hmip⟩ := hm (Or.inr hs)
        obtain ⟨w₁, heq⟩ := onDatagram_phase3 P main d w hs ha hn
        rw [hmip, World.orFault_some, ok_bind] at heq
        exact iff_of_true ⟨_, heq⟩ ⟨fun _ => hn, by simp⟩
      · obtain ⟨w₁, heq⟩ := onDatagram_phase3_faults P main d w hs ha hn
        rw [heq]
        exact iff_of_false (by simp) (fun h => hn (h.1 ⟨rfl, ha⟩))
    | waitDNS =>
      have hid : d.respId = registDSIPToDNSServer := by simpa only [World.Accepts, hs] using ha
      simp only [onDatagram, hs, if_pos hid]
      exact iff_of_true ⟨_, rfl⟩ (by simp)
  · exact iff_of_true ⟨w, onDatagram_ignores P main d w ho ha⟩
      ⟨fun h => absurd h.2 ha, fun h => absurd h ho⟩

theorem onFailedPoll_ok_iff (w : World) (r : RecvFrom) (hr : dtplinkRecv r = none) :
    (∃ w', onFailedPoll w = .ok w') ↔ (w.Registers r → w.NameFits) := by
  simp only [World.Registers, hr]
  by_cases hw : w.ctx.mStatus.Waiting
  · rw [onFailedPoll_waiting w hw]
    by_cases hn : w.NameFits
    · refine iff_of_true ?_ (fun _ => hn)
      simp only [hn, not_true_eq_false, and_false, if_false]
      split_ifs
      · exact ⟨_, rfl⟩
      · exact ⟨_, rfl⟩
      · exact ⟨_, rfl⟩
    · simp only [hn, not_false_iff, and_true, imp_false, not_or, not_and]
      by_cases hsend : sendRetryCountMax ≤ w.ctx.mSendRetryCount
      · rw [if_pos hsend]
        by_cases hs : w.ctx.mStatus = .waitCsPhase2 ∨ w.ctx.mStatus = .waitCsPhase3
        · rw [if_pos hs]
          exact iff_of_false (by simp) (fun h => absurd hs (not_or.mpr (h.1 hsend)))
        · rw [if_neg hs]
          exact iff_of_true ⟨_, rfl⟩
            ⟨fun _ => not_or.mp hs, fun h => absurd hsend (UInt8.not_le.mpr h)⟩
      · rw [if_neg hsend]
        by_cases hrecv : recvRetryCountMax ≤ w.ctx.mRecvRetryCount + 1
        · rw [if_pos hrecv]
          by_cases hs : w.ctx.mStatus = .waitDNS
          · rw [if_pos hs]
            exact iff_of_false (by simp) (fun h => h.2 (UInt8.not_le.mp hsend) hrecv hs)
          · rw [if_neg hs]
            exact iff_of_true ⟨_, rfl⟩ ⟨fun h => absurd h hsend, fun _ _ => hs⟩
        · rw [if_neg hrecv]
          exact iff_of_true ⟨_, rfl⟩ ⟨fun h => absurd h hsend, fun _ h => absurd h hrecv⟩
  · rw [onFailedPoll_not_waiting w hw]
    refine iff_of_true ⟨_, rfl⟩ (fun h => ?_)
    rcases w.ctx.mStatus.not_waiting_iff.1 hw with hs | hs
    · simp [hs] at h
    · simp [hs] at h

/-- An iteration stays inside its objects exactly when it is sound. -/
theorem dtplinkDSLoop_ok_iff (P : Platform) (main : DeviceServer) (w : World) (r : RecvFrom)
    (hm : w.ctx.mStatus = .waitCsPhase2 ∨ w.ctx.mStatus = .waitCsPhase3 → ∃ a, w.mip1 = some a) :
    (∃ w', dtplinkDSLoop P main w r = .ok w') ↔ StepSound P main w r := by
  unfold dtplinkDSLoop StepSound
  cases hr : dtplinkRecv r with
  | none => simp [onFailedPoll_ok_iff w r hr]
  | some d =>
    simp only [onDatagram_ok_iff P main w d hm, World.Registers, hr, Option.some.injEq,
      forall_eq']

end OpenDSLite
