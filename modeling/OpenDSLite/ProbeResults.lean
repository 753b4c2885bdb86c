import OpenDSLite.LoopSteps

/-!
# Where the probe results are used

`MIP1` and `MIP2` of the loop and `mCS2` of the context have no value when the loop starts.
`uses` lists the places where an iteration reads them, each with the value found there; what they
hold otherwise does not show in the iteration. Each value used was decoded from a reply: those of
`MIP1` and `mCS2` from the one first reply of the run, that of `MIP2` from the reply at hand.
-/

namespace OpenDSLite

/-- A read of a probe result with the value found. -/
inductive Use
  | mip1 (value : Option IPv4Address)
  | mip2 (value : Option IPv4Address)
  | mCS2 (value : IPv4Address)
  deriving DecidableEq

def usesOfComparison (w : World) : List Use := [.mip1 w.mip1, .mip2 w.mip2]

/-- `SetMappedIPAddress(MIP1)` behind a comparison that found equal addresses. -/
def usesOfVerdict (w : World) : List Use :=
  match w.mip1, w.mip2 with
  | some mip1, some mip2 => if mip1.equal mip2 then [.mip1 w.mip1] else []
  | _, _ => []

def usesOnDatagram (d : Datagram) (w : World) : List Use :=
  match w.ctx.mStatus with
  | .waitCsPhase2 =>
      if d.respId = bindReqToServer1Port2 ∧ d.src.equal w.cs1P2 then
        -- `PingAuxServer` sends to `mCS2`
        .mCS2 w.ctx.mCS2 ::
          match onReceiveCenterServerResponse2 (d.ptr 2) w.resetAllRetryCounts with
          | .ok w => usesOfComparison w
          | .error _ => []
      else []
  | .waitCsPhase3 =>
      if d.respId = bindReqToServer2Port1 then
        .mCS2 w.ctx.mCS2 ::
          if d.src.equal w.ctx.mCS2 then
            match onReceiveAuxServerResponse (d.ptr 2) w.resetAllRetryCounts with
            | .ok w => usesOfComparison w ++ usesOfVerdict w
            | .error _ => []
          else []
      else []
  | _ => []

/-- The reads of the branches for a failed poll: `PingAuxServer` sends to `mCS2`. -/
def usesOnFailedPoll (w : World) : List Use :=
  let w := w.addRecvRetryCount
  match w.ctx.mStatus with
  | .waitCsPhase3 =>
      if w.ctx.mSendRetryCount ≥ sendRetryCountMax then []
      else if w.ctx.mRecvRetryCount ≥ recvRetryCountMax then [.mCS2 w.ctx.mCS2]
      else []
  | _ => []

def uses (w : World) (r : RecvFrom) : List Use :=
  match dtplinkRecv r with
  | some d => usesOnDatagram d w
  | none => usesOnFailedPoll w

/-- The first reply, in an iteration that accepts it. -/
def firstReplies (w : World) (r : RecvFrom) : List Datagram :=
  match dtplinkRecv r with
  | some d => if w.ctx.mStatus = .waitCsPhase1 ∧ w.Accepts d then [d] else []
  | none => []

/-- A use finds what an accepted reply reported: the only first reply so far, or the one at hand. -/
def Use.Defined (replies : List Datagram) (r : RecvFrom) : Use → Prop
  | mip1 value => ∃ d, replies = [d] ∧ value = some (d.addressAt 2)
  | mip2 value => ∃ d, dtplinkRecv r = some d ∧ value = some (d.addressAt 2)
  | mCS2 value => ∃ d, replies = [d] ∧ value = d.addressAt 9

theorem usesOnDatagram_phase2 (d : Datagram) (w : World) (hs : w.ctx.mStatus = .waitCsPhase2)
    (ha : w.Accepts d) :
    usesOnDatagram d w = [.mCS2 w.ctx.mCS2, .mip1 w.mip1, .mip2 (some (d.addressAt 2))] := by
  obtain ⟨flag, events, he, -⟩ :=
    pingAuxServer_eq { w.resetAllRetryCounts with mip2 := some (d.addressAt 2) }
  simp only [World.Accepts, hs] at ha
  simp only [usesOnDatagram, hs, IPv4Address.equal_iff, if_pos ha,
    onReceiveCenterServerResponse2_ptr, usesOfComparison, he]
  rfl

theorem usesOnDatagram_phase2_ignored (d : Datagram) (w : World)
    (hs : w.ctx.mStatus = .waitCsPhase2) (ha : ¬ w.Accepts d) : usesOnDatagram d w = [] := by
  simp only [World.Accepts, hs] at ha
  simp only [usesOnDatagram, hs, IPv4Address.equal_iff, if_neg ha]

/-- The source of what may be a third reply is compared with `mCS2` first. -/
theorem usesOnDatagram_phase3 (d : Datagram) (w : World) (hs : w.ctx.mStatus = .waitCsPhase3)
    (hid : d.respId = bindReqToServer2Port1) : ∃ rest,
    usesOnDatagram d w = .mCS2 w.ctx.mCS2 :: rest ∧ (¬ w.Accepts d → rest = []) ∧
    (w.Accepts d → ¬ w.NameFits → rest = []) ∧
    (w.Accepts d → w.NameFits → ∃ verdict, (∀ u ∈ verdict, u = .mip1 w.mip1) ∧
      rest = .mip1 w.mip1 :: .mip2 (some (d.addressAt 2)) :: verdict) := by
  simp only [usesOnDatagram, hs, World.Accepts, hid, IPv4Address.equal_iff, true_and,
    onReceiveAuxServerResponse_ptr]
  refine ⟨_, rfl, fun ha => if_neg ha, fun ha hn => ?_, fun ha hn => ?_⟩
  · have hreg := World.registerDS_of_not_fits
      { w.resetAllRetryCounts with mip2 := some (d.addressAt 2) } hn
    rw [if_pos ha, hreg]
  · have hreg := World.registerDS_of_fits
      { w.resetAllRetryCounts with mip2 := some (d.addressAt 2) } hn
    rw [if_pos ha, hreg]
    refine ⟨usesOfVerdict { w.resetAllRetryCounts with mip2 := some (d.addressAt 2) }, ?_, rfl⟩
    intro u hu
    unfold usesOfVerdict at hu
    split at hu
    · split_ifs at hu
      · exact List.mem_singleton.mp hu
      · exact absurd hu List.not_mem_nil
    · exact absurd hu List.not_mem_nil

theorem usesOnFailedPoll_cases (w : World) (u : Use) (hu : u ∈ usesOnFailedPoll w) :
    w.ctx.mStatus = .waitCsPhase3 ∧ u = .mCS2 w.ctx.mCS2 := by
  have hs' : w.addRecvRetryCount.ctx.mStatus = w.ctx.mStatus := rfl
  cases hs : w.ctx.mStatus with
  | waitCsPhase3 =>
    simp only [usesOnFailedPoll, hs', hs] at hu
    split_ifs at hu
    · exact absurd hu List.not_mem_nil
    · exact ⟨rfl, List.mem_singleton.mp hu⟩
    · exact absurd hu List.not_mem_nil
  | _ =>
    simp only [usesOnFailedPoll, hs', hs] at hu
    exact absurd hu List.not_mem_nil

theorem usesOnDatagram_cases (d : Datagram) (w : World) (u : Use) (hu : u ∈ usesOnDatagram d w) :
    (w.ctx.mStatus = .waitCsPhase2 ∨ w.ctx.mStatus = .waitCsPhase3) ∧
    (u = .mCS2 w.ctx.mCS2 ∨ u = .mip1 w.mip1 ∨ u = .mip2 (some (d.addressAt 2))) := by
  cases hs : w.ctx.mStatus with
  | waitCsPhase2 =>
    refine ⟨Or.inl rfl, ?_⟩
    by_cases ha : w.Accepts d
    · rw [usesOnDatagram_phase2 d w hs ha] at hu
      simpa only [List.mem_cons, List.not_mem_nil, or_false] using hu
    · rw [usesOnDatagram_phase2_ignored d w hs ha] at hu
      exact absurd hu List.not_mem_nil
  | waitCsPhase3 =>
    refine ⟨Or.inr rfl, ?_⟩
    by_cases hid : d.respId = bindReqToServer2Port1
    · obtain ⟨rest, huses, hforeign, hlong, hfits⟩ := usesOnDatagram_phase3 d w hs hid
      rw [huses] at hu
      rcases List.mem_cons.mp hu with hu | hu
      · exact Or.inl hu
      by_cases ha : w.Accepts d
      · by_cases hn : w.NameFits
        · obtain ⟨verdict, hverdict, rfl⟩ := hfits ha hn
          rcases List.mem_cons.mp hu with hu | hu
          · exact Or.inr (Or.inl hu)
          rcases List.mem_cons.mp hu with hu | hu
          · exact Or.inr (Or.inr hu)
          · exact Or.inr (Or.inl (hverdict u hu))
        · exact absurd (hlong ha hn ▸ hu) List.not_mem_nil
      · exact absurd (hforeign ha ▸ hu) List.not_mem_nil
    · simp only [usesOnDatagram, hs, if_neg hid] at hu
      exact absurd hu List.not_mem_nil
  | _ =>
    simp only [usesOnDatagram, hs] at hu
    exact absurd hu List.not_mem_nil

/-- What an iteration can use: the probe results as they are, and the second address at hand. -/
theorem use_cases (w : World) (r : RecvFrom) (u : Use) (hu : u ∈ uses w r) :
    (w.ctx.mStatus = .waitCsPhase2 ∨ w.ctx.mStatus = .waitCsPhase3) ∧
    (u = .mCS2 w.ctx.mCS2 ∨ u = .mip1 w.mip1 ∨
      ∃ d, dtplinkRecv r = some d ∧ u = .mip2 (some (d.addressAt 2))) := by
  unfold uses at hu
  cases hr : dtplinkRecv r with
  | none =>
    simp only [hr] at hu
    obtain ⟨hs, hcs2⟩ := usesOnFailedPoll_cases w u hu
    exact ⟨Or.inr hs, Or.inl hcs2⟩
  | some d =>
    simp only [hr] at hu
    obtain ⟨hs, huse⟩ := usesOnDatagram_cases d w u hu
    exact ⟨hs, huse.imp_right (Or.imp_right fun hmip2 => ⟨d, rfl, hmip2⟩)⟩

namespace World

def withProbes (mip1 mip2 : Option IPv4Address) (mCS2 : IPv4Address) (w : World) : World :=
  { w with mip1, mip2, ctx := { w.ctx with mCS2 } }

variable (mip1 mip2 : Option IPv4Address) (mCS2 : IPv4Address) (w : World)

@[simp] theorem withProbes_mStatus :
    (w.withProbes mip1 mip2 mCS2).ctx.mStatus = w.ctx.mStatus := rfl

@[simp] theorem withProbes_mRecvRetryCount :
    (w.withProbes mip1 mip2 mCS2).ctx.mRecvRetryCount = w.ctx.mRecvRetryCount := rfl

@[simp] theorem withProbes_mSendRetryCount :
    (w.withProbes mip1 mip2 mCS2).ctx.mSendRetryCount = w.ctx.mSendRetryCount := rfl

@[simp] theorem withProbes_nameFits :
    (w.withProbes mip1 mip2 mCS2).NameFits ↔ w.NameFits := Iff.rfl

theorem withProbes_accepts_iff (d : Datagram)
    (h : w.ctx.mStatus = .waitCsPhase3 → mCS2 = w.ctx.mCS2) :
    (w.withProbes mip1 mip2 mCS2).Accepts d ↔ w.Accepts d := by
  unfold Accepts
  rw [withProbes_mStatus]
  cases hs : w.ctx.mStatus with
  | waitCsPhase3 =>
    obtain rfl := h hs
    rfl
  | _ => rfl

/-- Among the requests only that to the second server looks at a probe result. -/
theorem request_withProbes (h : w.ctx.mStatus = .waitCsPhase3 → mCS2 = w.ctx.mCS2) :
    (w.withProbes mip1 mip2 mCS2).request = w.request.withProbes mip1 mip2 mCS2 := by
  obtain ⟨ctx, firstPingCenterServer, firstPingAuxServer⟩ := w
  unfold request
  rw [withProbes_mStatus]
  cases hs : ctx.mStatus with
  | waitCsPhase1 => cases firstPingCenterServer <;> rfl
  | waitCsPhase3 =>
    obtain rfl := h hs
    cases firstPingAuxServer <;> rfl
  | _ => rfl

theorem gaveUp_withProbes :
    (w.withProbes mip1 mip2 mCS2).gaveUp = w.gaveUp.withProbes mip1 mip2 mCS2 := by
  unfold gaveUp
  rw [withProbes_mStatus]
  cases w.ctx.mStatus <;> rfl

end World

/-- Two worlds that differ in the probe results at most. -/
def ProbesApart (w v : World) : Prop := ∃ mip1 mip2 mCS2, v = w.withProbes mip1 mip2 mCS2

theorem usesOnFailedPoll_phase3 (w : World) (hs : w.ctx.mStatus = .waitCsPhase3)
    (hsend : ¬ sendRetryCountMax ≤ w.ctx.mSendRetryCount)
    (hrecv : recvRetryCountMax ≤ w.ctx.mRecvRetryCount + 1) :
    usesOnFailedPoll w = [.mCS2 w.ctx.mCS2] := by
  have hs' : w.addRecvRetryCount.ctx.mStatus = .waitCsPhase3 := hs
  simp only [usesOnFailedPoll, hs']
  exact (if_neg hsend).trans (if_pos hrecv)

theorem onFailedPoll_of_same_uses (w v u : World) (h : ProbesApart w v)
    (huses : usesOnFailedPoll v = usesOnFailedPoll w) (hok : onFailedPoll w = .ok u) :
    ∃ u', onFailedPoll v = .ok u' ∧ ProbesApart u u' := by
  obtain ⟨mip1, mip2, mCS2, rfl⟩ := h
  by_cases hw : w.ctx.mStatus.Waiting
  · rw [onFailedPoll_waiting w hw] at hok
    rw [onFailedPoll_waiting (w.withProbes mip1 mip2 mCS2) hw]
    simp only [World.withProbes_mStatus, World.withProbes_mRecvRetryCount,
      World.withProbes_mSendRetryCount, World.withProbes_nameFits]
    split_ifs at hok ⊢ with hsend _ hrecv
    · rw [← Except.ok.inj hok]
      exact ⟨_, congrArg (fun w => Except.ok w.resetAllRetryCounts)
        (World.gaveUp_withProbes mip1 mip2 mCS2 w.addRecvRetryCount), mip1, mip2, mCS2, rfl⟩
    · have hsame : w.ctx.mStatus = .waitCsPhase3 → mCS2 = w.ctx.mCS2 := by
        intro hs
        rw [usesOnFailedPoll_phase3 w hs hsend hrecv,
          usesOnFailedPoll_phase3 (w.withProbes mip1 mip2 mCS2) hs hsend hrecv] at huses
        exact Use.mCS2.inj (List.cons.inj huses).1
      rw [← Except.ok.inj hok]
      exact ⟨_, congrArg (fun w => Except.ok w.addSendRetryCount)
        (World.request_withProbes mip1 mip2 mCS2 w.addRecvRetryCount.resetRecvRetryCount hsame),
        mip1, mip2, mCS2, rfl⟩
    · rw [← Except.ok.inj hok]
      exact ⟨_, rfl, mip1, mip2, mCS2, rfl⟩
  · rw [onFailedPoll_not_waiting w hw] at hok
    rw [onFailedPoll_not_waiting (w.withProbes mip1 mip2 mCS2) hw, ← Except.ok.inj hok]
    exact ⟨_, rfl, mip1, mip2, mCS2, rfl⟩

theorem processClientRequests_withProbes (P : Platform) (main : DeviceServer) (w u : World)
    (d : Datagram) (mip1 mip2 : Option IPv4Address) (mCS2 : IPv4Address)
    (hok : processClientRequests P main d.respId (d.ptr 2) (Int16.ofInt (d.msgLen.toInt - 2)) d.src
      w = .ok u) :
    processClientRequests P main d.respId (d.ptr 2) (Int16.ofInt (d.msgLen.toInt - 2)) d.src
      (w.withProbes mip1 mip2 mCS2) = .ok (u.withProbes mip1 mip2 mCS2) := by
  have hserving := serving P main w d
  rw [hok] at hserving
  cases hserving with
  | replied hid hn req resp ha hfit =>
    have ha' : (w.withProbes mip1 mip2 mCS2).answer P main d.body = some (req, resp) := ha
    rw [processClientRequests_data P main _ d hid hn, ha']
    exact if_pos hfit
  | punched hid h43 => exact processClientRequests_dnsQuery P main _ d h43
  | named hid h44 hname =>
    rw [processClientRequests_localQuery P main _ d h44]
    exact if_pos hname
  | cleared hid h43 hname => exact processClientRequests_cleared P main _ d hid h43 hname

theorem mCS2_of_same_uses (w : World) (d : Datagram) (mip1 mip2 : Option IPv4Address)
    (mCS2 : IPv4Address) (hs : w.ctx.mStatus = .waitCsPhase3)
    (hid : d.respId = bindReqToServer2Port1)
    (huses : usesOnDatagram d (w.withProbes mip1 mip2 mCS2) = usesOnDatagram d w) :
    mCS2 = w.ctx.mCS2 := by
  obtain ⟨rest, hw, -⟩ := usesOnDatagram_phase3 d w hs hid
  obtain ⟨rest', hv, -⟩ := usesOnDatagram_phase3 d (w.withProbes mip1 mip2 mCS2) hs hid
  rw [hw, hv] at huses
  exact Use.mCS2.inj (List.cons.inj huses).1

theorem onDatagram_of_same_uses (P : Platform) (main : DeviceServer) (d : Datagram)
    (w v u : World) (h : ProbesApart w v) (huses : usesOnDatagram d v = usesOnDatagram d w)
    (hok : onDatagram P main d w = .ok u) :
    ∃ u', onDatagram P main d v = .ok u' ∧ ProbesApart u u' := by
  obtain ⟨mip1, mip2, mCS2, rfl⟩ := h
  have hr := dtplinkRecv_data d
  cases loopStep_of_datagram P main w u _ d hr hok with
  | phase1Reply d' hr' hs ha =>
    obtain rfl := Option.some.inj (hr.symm.trans hr')
    have ha' := (w.withProbes_accepts_iff mip1 mip2 mCS2 d (by simp [hs])).2 ha
    exact ⟨_, onDatagram_phase1 P main d _ hs ha', some (d.addressAt 2), mip2, d.addressAt 9, rfl⟩
  | phase2Reply d' hr' hs ha a hm =>
    obtain rfl := Option.some.inj (hr.symm.trans hr')
    have ha' := (w.withProbes_accepts_iff mip1 mip2 mCS2 d (by simp [hs])).2 ha
    rw [usesOnDatagram_phase2 d w hs ha,
      usesOnDatagram_phase2 d (w.withProbes mip1 mip2 mCS2) hs ha'] at huses
    obtain ⟨hcs2, huses⟩ := List.cons.inj huses
    obtain rfl : mCS2 = w.ctx.mCS2 := Use.mCS2.inj hcs2
    obtain rfl : mip1 = w.mip1 := Use.mip1.inj (List.cons.inj huses).1
    obtain ⟨w₁, heq⟩ := onDatagram_phase2 P main d (w.withProbes w.mip1 mip2 w.ctx.mCS2) hs ha'
    have hm' : (w.withProbes w.mip1 mip2 w.ctx.mCS2).mip1 = some a := hm
    rw [hm', World.orFault_some, ok_bind] at heq
    exact ⟨_, heq, _, _, _, rfl⟩
  | phase3Reply d' hr' hs ha a hm hn =>
    obtain rfl := Option.some.inj (hr.symm.trans hr')
    have hid : d.respId = bindReqToServer2Port1 := by
      simp only [World.Accepts, hs] at ha
      exact ha.1
    obtain rfl : mCS2 = w.ctx.mCS2 := mCS2_of_same_uses w d mip1 mip2 mCS2 hs hid huses
    have ha' := (w.withProbes_accepts_iff mip1 mip2 w.ctx.mCS2 d (fun _ => rfl)).2 ha
    have hmip1 : mip1 = w.mip1 := by
      obtain ⟨rest, hw, -, -, hrest⟩ := usesOnDatagram_phase3 d w hs hid
      obtain ⟨rest', hv, -, -, hrest'⟩ :=
        usesOnDatagram_phase3 d (w.withProbes mip1 mip2 w.ctx.mCS2) hs hid
      obtain ⟨verdict, -, rfl⟩ := hrest ha hn
      obtain ⟨verdict', -, rfl⟩ := hrest' ha' hn
      rw [hw, hv] at huses
      exact Use.mip1.inj (List.cons.inj (List.cons.inj huses).2).1
    obtain rfl := hmip1
    obtain ⟨w₁, heq⟩ := onDatagram_phase3 P main d (w.withProbes w.mip1 mip2 w.ctx.mCS2) hs ha' hn
    have hm' : (w.withProbes w.mip1 mip2 w.ctx.mCS2).mip1 = some a := hm
    rw [hm', World.orFault_some, ok_bind] at heq
    exact ⟨_, heq, _, _, _, rfl⟩
  | dnsReply d' hr' hs ha =>
    obtain rfl := Option.some.inj (hr.symm.trans hr')
    have hid : d.respId = registDSIPToDNSServer := by simpa only [World.Accepts, hs] using ha
    refine ⟨_, ?_, mip1, mip2, mCS2, rfl⟩
    simp only [onDatagram, World.withProbes_mStatus, hs, if_pos hid]
    rfl
  | ignored d' hr' hs ha =>
    obtain rfl := Option.some.inj (hr.symm.trans hr')
    have ha' : ¬ (w.withProbes mip1 mip2 mCS2).Accepts d := by
      intro hv
      refine ha ((w.withProbes_accepts_iff mip1 mip2 mCS2 d (fun hs => ?_)).1 hv)
      have hid : d.respId = bindReqToServer2Port1 := by
        simp only [World.Accepts, World.withProbes_mStatus, hs] at hv
        exact hv.1
      exact mCS2_of_same_uses w d mip1 mip2 mCS2 hs hid huses
    exact ⟨_, onDatagram_ignores P main d _ hs ha', mip1, mip2, mCS2, rfl⟩
  | served d' _ hr' hs hserved =>
    simp only [onDatagram, hs] at hok
    refine ⟨_, ?_, mip1, mip2, mCS2, rfl⟩
    simp only [onDatagram, World.withProbes_mStatus, hs]
    exact processClientRequests_withProbes P main w u d mip1 mip2 mCS2 hok
  | counted hr' | retransmitted hr' | gaveUp hr' =>
    rw [hr] at hr'
    exact absurd hr' (by simp)

/-- An iteration that finds the same values where it uses them ends in the same way, whatever else
the probe results are. -/
theorem step_of_same_uses (P : Platform) (main : DeviceServer) (w v u : World) (r : RecvFrom)
    (h : ProbesApart w v) (huses : uses v r = uses w r)
    (hok : dtplinkDSLoop P main w r = .ok u) :
    ∃ u', dtplinkDSLoop P main v r = .ok u' ∧ ProbesApart u u' := by
  unfold dtplinkDSLoop at hok ⊢
  unfold uses at huses
  cases hr : dtplinkRecv r with
  | none =>
    simp only [hr] at hok huses
    exact onFailedPoll_of_same_uses w v u h huses hok
  | some d =>
    simp only [hr] at hok huses
    exact onDatagram_of_same_uses P main d w v u h huses hok

/-- While the second and third replies are awaited, the probe results are those of the only first
reply. -/
def ProbesHeld (replies : List Datagram) (w : World) : Prop :=
  match w.ctx.mStatus with
  | .startup => False
  | .waitCsPhase1 => replies = []
  | .waitCsPhase2 | .waitCsPhase3 => ∃ d, replies = [d] ∧ w.mip1 = some (d.addressAt 2) ∧
      w.ctx.mCS2 = d.addressAt 9
  | .waitDNS | .online => True

theorem firstReplies_of_failedPoll (w : World) (r : RecvFrom) (hr : dtplinkRecv r = none) :
    firstReplies w r = [] := by
  simp only [firstReplies, hr]

theorem firstReplies_of_not (w : World) (r : RecvFrom) (d : Datagram)
    (hr : dtplinkRecv r = some d) (h : ¬ (w.ctx.mStatus = .waitCsPhase1 ∧ w.Accepts d)) :
    firstReplies w r = [] := by
  simp only [firstReplies, hr, if_neg h]

theorem probesHeld_congr (replies : List Datagram) (w w' : World)
    (hs : w'.ctx.mStatus = w.ctx.mStatus) (hm : w'.mip1 = w.mip1)
    (hcs : w'.ctx.mCS2 = w.ctx.mCS2) (h : ProbesHeld replies w) : ProbesHeld replies w' := by
  unfold ProbesHeld at h ⊢
  rwa [hs, hm, hcs]

theorem probesHeld_step (replies : List Datagram) (w w' : World) (r : RecvFrom)
    (h : ProbesHeld replies w) (hstep : LoopStep w r w') :
    ProbesHeld (replies ++ firstReplies w r) w' := by
  cases hstep with
  | phase1Reply d hr hs ha =>
    simp only [ProbesHeld, hs] at h
    have hfirst : firstReplies w r = [d] := by
      simp only [firstReplies, hr, if_pos (And.intro hs ha)]
    rw [h, hfirst]
    exact ⟨d, rfl, rfl, rfl⟩
  | phase2Reply d hr hs ha a hm =>
    simp only [ProbesHeld, hs] at h
    obtain ⟨ip, mode, flag, events, he, -⟩ := afterPhase2_eq a d w
    rw [firstReplies_of_not w r d hr (by simp [hs]), List.append_nil, he]
    exact h
  | phase3Reply d hr hs ha a hm hn => trivial
  | dnsReply d hr hs ha => trivial
  | ignored d hr hs ha =>
    rw [firstReplies_of_not w r d hr (fun hp => ha hp.2), List.append_nil]
    exact h
  | served d w' hr hs hserved =>
    rw [firstReplies_of_not w r d hr (by simp [hs]), List.append_nil]
    obtain ⟨req, resp, events, rfl, -⟩ := hserved
    exact probesHeld_congr replies w _ rfl rfl rfl h
  | counted hr hc =>
    rw [firstReplies_of_failedPoll w r hr, List.append_nil]
    exact probesHeld_congr replies w _ rfl rfl rfl h
  | retransmitted hr hw hsend hrecv =>
    rw [firstReplies_of_failedPoll w r hr, List.append_nil]
    obtain ⟨flag, flag', events, he, -⟩ := w.retransmitted_eq hw
    rw [he]
    exact probesHeld_congr replies w _ rfl rfl rfl h
  | gaveUp hr hw hsend =>
    rcases w.gaveUp_eq hw with ⟨-, hg⟩ | ⟨-, hg⟩
    · rw [hg]
      trivial
    · rw [hg]
      trivial

/-- Behind every run an iteration uses no probe result that no reply has set. -/
theorem probe_results_defined (P : Platform) (main : DeviceServer) (w w' : World)
    (polls : List RecvFrom) (hs : Started w) (hrun : runLoop P main w polls = .ok w')
    (r : RecvFrom) (u : Use) (hu : u ∈ uses w' r) :
    u.Defined (PartialRun.history (dtplinkDSLoop P main) firstReplies w polls) r := by
  have hstart : ProbesHeld [] w := by
    simp only [ProbesHeld, (started_spec w hs).1]
  have hheld := PartialRun.invariant_history firstReplies ProbesHeld (fun _ _ => True)
    (fun replies w r t h _ ht =>
      probesHeld_step replies w t r h (loopStep_of_ok P main w t r ht))
    [] w w' polls hstart (PartialRun.along_of_forall _ _ (fun _ _ => trivial) w polls) hrun
  obtain ⟨hstatus, hu⟩ := use_cases w' r u hu
  have hprobes : ∃ d, PartialRun.history (dtplinkDSLoop P main) firstReplies w polls = [d] ∧
      w'.mip1 = some (d.addressAt 2) ∧ w'.ctx.mCS2 = d.addressAt 9 := by
    rcases hstatus with hstatus | hstatus
    · simpa only [ProbesHeld, hstatus, List.nil_append] using hheld
    · simpa only [ProbesHeld, hstatus, List.nil_append] using hheld
  obtain ⟨d, hreplies, hmip1, hmCS2⟩ := hprobes
  rcases hu with rfl | rfl | ⟨d', hr, rfl⟩
  · exact ⟨d, hreplies, hmCS2⟩
  · exact ⟨d, hreplies, hmip1⟩
  · exact ⟨d', hr, rfl⟩

theorem probe_results_defined_secondReply : ∃ w',
    runLoop .linux (fun _ _ => .done) (bootWorld sampleName)
      [probeReply bindReqToServer1Port1 centerServer sampleAddress, .error] = .ok w' ∧
    .mip1 (some sampleAddress) ∈ uses w' (probeReply bindReqToServer1Port2
      { centerServer with port := centerServer.port + 1 } otherAddress) ∧
    (Use.mip1 (some sampleAddress)).Defined
      (PartialRun.history (dtplinkDSLoop .linux (fun _ _ => .done)) firstReplies
        (bootWorld sampleName)
        [probeReply bindReqToServer1Port1 centerServer sampleAddress, .error])
      (probeReply bindReqToServer1Port2
        { centerServer with port := centerServer.port + 1 } otherAddress) :=
  ⟨_, rfl, by decide +kernel, probe_results_defined .linux (fun _ _ => .done)
    (bootWorld sampleName) _ [probeReply bindReqToServer1Port1 centerServer sampleAddress, .error]
    started_bootWorld rfl _ _ (by decide +kernel)⟩

end OpenDSLite
