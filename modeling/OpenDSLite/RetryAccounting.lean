import OpenDSLite.LoopSoundness

/-!
# Retry accounting

The two counters of a waiting status are a retry timer of eight polls and eight retransmissions.
Every way into a status restarts it, a failed poll ticks it, and the status is left when it
expires. A level for each status, large enough for the time the statuses behind it can take, bounds
the failed polls of a start-up.
-/

namespace OpenDSLite

def failedPoll (r : RecvFrom) : Bool := (dtplinkRecv r).isNone

/-- The counters of the context are those of the timer. -/
def Timed (w : World) (t : RetryTimer 8 8) : Prop :=
  w.ctx.mRecvRetryCount.toNat = t.recv ∧ w.ctx.mSendRetryCount.toNat = t.send

/-- The failed polls a start-up can still take from the entry into a status. -/
def DSStatus.level : DSStatus → ℕ
  | startup => 322
  | waitCsPhase1 => 258
  | waitCsPhase2 => 194
  | waitCsPhase3 => 130
  | waitDNS => 65
  | online => 0

theorem DSStatus.level_of_waiting (s : DSStatus) (h : s.Waiting) : 64 < s.level := by
  cases s with
  | startup | online => exact h.elim
  | _ => decide

/-- What an iteration does to the timer of the current status. -/
inductive TimerStep (w : World) : Bool → World → Prop
  | left (w' : World) (hlevel : w'.ctx.mStatus.level + 64 ≤ w.ctx.mStatus.level)
      (hrecv : w'.ctx.mRecvRetryCount = 0) (hsend : w'.ctx.mSendRetryCount = 0) :
      TimerStep w false w'
  | expired (w' : World) (t : RetryTimer 8 8) (ht : Timed w t) (htick : t.tick = none)
      (hlevel : w'.ctx.mStatus.level + 65 ≤ w.ctx.mStatus.level)
      (hrecv : w'.ctx.mRecvRetryCount = 0) (hsend : w'.ctx.mSendRetryCount = 0) :
      TimerStep w true w'
  | idle : TimerStep w false w
  | ticked (w' : World) (hs : w'.ctx.mStatus = w.ctx.mStatus) (t t' : RetryTimer 8 8)
      (ht : Timed w t) (htick : t.tick = some t') (ht' : Timed w' t') (events : List Event)
      (hlog : w'.log = events ++ w.log)
      (hcount : events.countP w.ctx.mStatus.isRequest + t.send = t'.send) : TimerStep w true w'
  | online (failed : Bool) (w' : World) (hs : w.ctx.mStatus = .online)
      (hs' : w'.ctx.mStatus = .online) : TimerStep w failed w'

structure LoopInvariant (w : World) : Prop where
  entered : w.ctx.mStatus ≠ .startup
  timed : w.ctx.mStatus.Waiting → ∃ t, Timed w t
  mapped : w.ctx.mStatus = .waitCsPhase2 ∨ w.ctx.mStatus = .waitCsPhase3 → ∃ a, w.mip1 = some a

theorem LoopInvariant.online_of_not_waiting {w : World} (h : LoopInvariant w)
    (hw : ¬ w.ctx.mStatus.Waiting) : w.ctx.mStatus = .online :=
  (w.ctx.mStatus.not_waiting_iff.1 hw).resolve_left h.entered

theorem timerStep_counted (w : World) (t : RetryTimer 8 8) (ht : Timed w t)
    (hsend : w.ctx.mSendRetryCount < sendRetryCountMax)
    (hrecv : w.ctx.mRecvRetryCount + 1 < recvRetryCountMax) :
    TimerStep w true w.addRecvRetryCount := by
  have hrecv' : (w.ctx.mRecvRetryCount + 1).toNat = w.ctx.mRecvRetryCount.toNat + 1 := by
    have hlt := t.recv_lt
    rw [UInt8.toNat_add, ht.1]
    change (t.recv + 1) % 256 = t.recv + 1
    omega
  have hs8 : w.ctx.mSendRetryCount.toNat < 8 := UInt8.lt_iff_toNat_lt.mp hsend
  have hr8 : (w.ctx.mRecvRetryCount + 1).toNat < 8 := UInt8.lt_iff_toNat_lt.mp hrecv
  rw [ht.2] at hs8
  rw [hrecv', ht.1] at hr8
  obtain ⟨t', htick, hrecvt, hsendt⟩ := t.tick_counts hs8.ne hr8.ne
  refine .ticked _ rfl t t' ht htick ⟨?_, ?_⟩ [] rfl ?_
  · rw [hrecvt, ← ht.1]
    exact hrecv'
  · rw [hsendt]
    exact ht.2
  · rw [hsendt, List.countP_nil, Nat.zero_add]

theorem timerStep_retransmitted (w : World) (hw : w.ctx.mStatus.Waiting) (t : RetryTimer 8 8)
    (ht : Timed w t) (hsend : w.ctx.mSendRetryCount < sendRetryCountMax)
    (hrecv : recvRetryCountMax ≤ w.ctx.mRecvRetryCount + 1) :
    TimerStep w true w.addRecvRetryCount.resetRecvRetryCount.request.addSendRetryCount := by
  have hlt := t.recv_lt
  have hs8 : w.ctx.mSendRetryCount.toNat < 8 := UInt8.lt_iff_toNat_lt.mp hsend
  have hr8 : 8 ≤ (w.ctx.mRecvRetryCount + 1).toNat := UInt8.le_iff_toNat_le.mp hrecv
  have hrecv8 : t.recv + 1 = 8 := by
    rw [UInt8.toNat_add, ht.1] at hr8
    change 8 ≤ (t.recv + 1) % 256 at hr8
    omega
  obtain ⟨t', htick, hrecvt, hsendt⟩ := t.tick_retransmits (ht.2 ▸ hs8.ne) hrecv8
  obtain ⟨flag, flag', events, he, hcount⟩ := w.retransmitted_eq hw
  rw [he]
  refine .ticked _ rfl t t' ht htick ⟨?_, ?_⟩ events rfl ?_
  · rw [hrecvt]
    rfl
  · change (w.ctx.mSendRetryCount + 1).toNat = _
    rw [hsendt, UInt8.toNat_add, ht.2]
    change (t.send + 1) % 256 = t.send + 1
    have hle := t.send_le
    omega
  · rw [hsendt, Nat.add_comm]
    exact congrArg (t.send + ·) hcount

theorem timerStep_gaveUp (w : World) (hw : w.ctx.mStatus.Waiting) (t : RetryTimer 8 8)
    (ht : Timed w t) (hsend : sendRetryCountMax ≤ w.ctx.mSendRetryCount) :
    TimerStep w true w.addRecvRetryCount.gaveUp.resetAllRetryCounts := by
  have hspent : t.send = 8 := by
    have hs8 : 8 ≤ w.ctx.mSendRetryCount.toNat := UInt8.le_iff_toNat_le.mp hsend
    have hle := t.send_le
    rw [ht.2] at hs8
    omega
  have htick : t.tick = none := t.tick_eq_none_iff.2 (t.elapsed_of_spent hspent)
  refine .expired _ t ht htick ?_ rfl rfl
  rcases w.gaveUp_eq hw with ⟨hs, hg⟩ | ⟨hs, hg⟩
  · rw [hg]
    change 0 + 65 ≤ w.ctx.mStatus.level
    rcases hs with hs | hs <;> rw [hs] <;> decide
  · rw [hg]
    change 65 + 65 ≤ w.ctx.mStatus.level
    rcases hs with hs | hs <;> rw [hs] <;> decide

/-- Every iteration runs the timer of its status. -/
theorem timerStep_of_loopStep (w w' : World) (r : RecvFrom) (h : LoopInvariant w)
    (hstep : LoopStep w r w') : TimerStep w (failedPoll r) w' := by
  cases hstep with
  | phase1Reply d hr hs ha =>
    have hlevel : 194 + 64 ≤ w.ctx.mStatus.level := by
      rw [hs]
      decide
    rw [failedPoll, hr]
    exact .left _ hlevel rfl rfl
  | phase2Reply d hr hs ha a hm =>
    obtain ⟨hstatus, -, hrecv, hsend, -⟩ := afterPhase2_spec a d w
    rw [failedPoll, hr]
    exact .left _ (by rw [hstatus, hs]; decide) hrecv hsend
  | phase3Reply d hr hs ha a hm hn =>
    have hlevel : 65 + 64 ≤ w.ctx.mStatus.level := by
      rw [hs]
      decide
    rw [failedPoll, hr]
    exact .left _ hlevel rfl rfl
  | dnsReply d hr hs ha =>
    have hlevel : 0 + 64 ≤ w.ctx.mStatus.level := by
      rw [hs]
      decide
    rw [failedPoll, hr]
    exact .left _ hlevel rfl rfl
  | ignored d hr hs ha =>
    rw [failedPoll, hr]
    exact .idle
  | served d w' hr hs hserved =>
    obtain ⟨req, resp, events, rfl, -⟩ := hserved
    exact .online _ _ hs hs
  | counted hr hc =>
    rw [failedPoll, hr]
    by_cases hw : w.ctx.mStatus.Waiting
    · obtain ⟨t, ht⟩ := h.timed hw
      exact timerStep_counted w t ht (hc hw).1 (hc hw).2
    · exact .online _ _ (h.online_of_not_waiting hw) (h.online_of_not_waiting hw)
  | retransmitted hr hw hsend hrecv =>
    obtain ⟨t, ht⟩ := h.timed hw
    rw [failedPoll, hr]
    exact timerStep_retransmitted w hw t ht hsend hrecv
  | gaveUp hr hw hsend =>
    obtain ⟨t, ht⟩ := h.timed hw
    rw [failedPoll, hr]
    exact timerStep_gaveUp w hw t ht hsend

theorem elapsed_timed (w : World) (t : RetryTimer 8 8) (h : Timed w t) :
    8 * w.ctx.mSendRetryCount.toNat + w.ctx.mRecvRetryCount.toNat = t.elapsed := by
  rw [h.1, h.2]
  rfl

theorem timed_start (w : World) (hrecv : w.ctx.mRecvRetryCount = 0)
    (hsend : w.ctx.mSendRetryCount = 0) : Timed w (.start 8 (by decide)) :=
  ⟨congrArg UInt8.toNat hrecv, congrArg UInt8.toNat hsend⟩

theorem loopInvariant_started (w : World) (h : Started w) : LoopInvariant w := by
  obtain ⟨hs, -, hrecv, hsend⟩ := started_spec w h
  refine ⟨by rw [hs]; decide, fun _ => ⟨_, timed_start w hrecv hsend⟩, fun hm => ?_⟩
  rw [hs] at hm
  exact absurd hm (by decide)

theorem mapped_step (w w' : World) (r : RecvFrom) (h : LoopInvariant w)
    (hstep : LoopStep w r w')
    (hs' : w'.ctx.mStatus = .waitCsPhase2 ∨ w'.ctx.mStatus = .waitCsPhase3) :
    ∃ a, w'.mip1 = some a := by
  cases hstep with
  | phase1Reply d hr hs ha => exact ⟨d.addressAt 2, rfl⟩
  | phase2Reply d hr hs ha a hm => exact ⟨a, (afterPhase2_spec a d w).2.1.trans hm⟩
  | phase3Reply d hr hs ha a hm hn => exact ⟨a, hm⟩
  | dnsReply d hr hs ha =>
    change DSStatus.online = .waitCsPhase2 ∨ DSStatus.online = .waitCsPhase3 at hs'
    exact absurd hs' (by decide)
  | ignored d hr hs ha => exact h.mapped hs'
  | served d w' hr hs hserved =>
    obtain ⟨req, resp, events, rfl, -⟩ := hserved
    exact h.mapped hs'
  | counted hr hc => exact h.mapped hs'
  | retransmitted hr hw hsend hrecv =>
    obtain ⟨flag, flag', events, he, -⟩ := w.retransmitted_eq hw
    rw [he] at hs' ⊢
    exact h.mapped hs'
  | gaveUp hr hw hsend =>
    rcases w.gaveUp_eq hw with ⟨-, hg⟩ | ⟨-, hg⟩
    · rw [hg] at hs'
      change DSStatus.online = .waitCsPhase2 ∨ DSStatus.online = .waitCsPhase3 at hs'
      exact absurd hs' (by decide)
    · rw [hg] at hs'
      change DSStatus.waitDNS = .waitCsPhase2 ∨ DSStatus.waitDNS = .waitCsPhase3 at hs'
      exact absurd hs' (by decide)

theorem loopInvariant_of_timerStep (w w' : World) (failed : Bool) (h : LoopInvariant w)
    (hmapped : w'.ctx.mStatus = .waitCsPhase2 ∨ w'.ctx.mStatus = .waitCsPhase3 →
      ∃ a, w'.mip1 = some a)
    (ht : TimerStep w failed w') : LoopInvariant w' := by
  have hle : w.ctx.mStatus.level ≤ 322 := by cases w.ctx.mStatus <;> decide
  cases ht with
  | left _ hlevel hrecv hsend =>
    refine ⟨fun hs' => ?_, fun _ => ⟨_, timed_start w' hrecv hsend⟩, hmapped⟩
    rw [hs'] at hlevel
    change 322 + 64 ≤ _ at hlevel
    omega
  | expired _ t ht htick hlevel hrecv hsend =>
    refine ⟨fun hs' => ?_, fun _ => ⟨_, timed_start w' hrecv hsend⟩, hmapped⟩
    rw [hs'] at hlevel
    change 322 + 65 ≤ _ at hlevel
    omega
  | idle => exact h
  | ticked _ hs t t' ht htick ht' events hlog hcount =>
    exact ⟨hs ▸ h.entered, fun _ => ⟨t', ht'⟩, hmapped⟩
  | online _ _ hs hs' =>
    refine ⟨by rw [hs']; decide, fun hw => ?_, hmapped⟩
    rw [hs'] at hw
    exact hw.elim

theorem loopInvariant_step (w w' : World) (r : RecvFrom) (h : LoopInvariant w)
    (hstep : LoopStep w r w') : LoopInvariant w' :=
  loopInvariant_of_timerStep w w' (failedPoll r) h (mapped_step w w' r h hstep)
    (timerStep_of_loopStep w w' r h hstep)

theorem loopInvariant_reached {P : Platform} {main : DeviceServer} {w : World}
    (h : Reached P main w) : LoopInvariant w :=
  h.invariant LoopInvariant loopInvariant_started loopInvariant_step

/-- The failed polls left before the server is online. -/
def pollsLeft (w : World) : ℕ :=
  w.ctx.mStatus.level - (8 * w.ctx.mSendRetryCount.toNat + w.ctx.mRecvRetryCount.toNat)

theorem pollsLeft_step (w w' : World) (failed : Bool) (h : LoopInvariant w)
    (hstep : TimerStep w failed w') :
    pollsLeft w' ≤ pollsLeft w - (if failed then 1 else 0) := by
  unfold pollsLeft
  cases hstep with
  | left _ hlevel hrecv hsend =>
    by_cases hw : w.ctx.mStatus.Waiting
    · obtain ⟨t, ht⟩ := h.timed hw
      have hle := t.elapsed_le
      rw [elapsed_timed w t ht, if_neg Bool.false_ne_true]
      omega
    · rw [h.online_of_not_waiting hw] at hlevel
      change _ + 64 ≤ 0 at hlevel
      omega
  | expired _ t ht htick hlevel hrecv hsend =>
    rw [elapsed_timed w t ht, t.tick_eq_none_iff.1 htick]
    simp only [if_true]
    omega
  | idle => simp
  | ticked _ hs t t' ht htick ht' events hlog hcount =>
    rw [elapsed_timed w t ht, elapsed_timed w' t' ht', t.elapsed_of_tick t' htick, hs]
    simp only [if_true]
    omega
  | online _ _ hs hs' =>
    rw [hs']
    change 0 - _ ≤ _
    omega

/-- The failed polls the counters of a waiting status tell. -/
def silence (w : World) : ℕ := 8 * w.ctx.mSendRetryCount.toNat + w.ctx.mRecvRetryCount.toNat

/-- While the status lasts every failed poll shows in the counters, which tell 64 at most. -/
theorem silence_step (w w' : World) (r : RecvFrom) (h : LoopInvariant w)
    (hw : w.ctx.mStatus.Waiting) (hr : dtplinkRecv r = none) (hstep : LoopStep w r w')
    (hs : w'.ctx.mStatus = w.ctx.mStatus) : silence w + 1 ≤ silence w' ∧ silence w' ≤ 64 := by
  have htick := timerStep_of_loopStep w w' r h hstep
  have hle := pollsLeft_step w w' _ h htick
  obtain ⟨t, ht⟩ := h.timed hw
  obtain ⟨t', ht'⟩ := (loopInvariant_step w w' r h hstep).timed (hs ▸ hw)
  have hlevel := w.ctx.mStatus.level_of_waiting hw
  have hmax := t.elapsed_le
  have hmax' := t'.elapsed_le
  rw [failedPoll, hr, Option.isNone_none, if_pos rfl, pollsLeft, pollsLeft, hs,
    elapsed_timed w t ht, elapsed_timed w' t' ht'] at hle
  rw [silence, silence, elapsed_timed w t ht, elapsed_timed w' t' ht']
  omega

/-- A server that has no failed polls left is online. -/
theorem online_of_pollsLeft (w : World) (h : LoopInvariant w) (hzero : pollsLeft w = 0) :
    w.ctx.mStatus = .online := by
  by_cases hw : w.ctx.mStatus.Waiting
  · obtain ⟨t, ht⟩ := h.timed hw
    have hle := t.elapsed_le
    have hlevel := w.ctx.mStatus.level_of_waiting hw
    rw [pollsLeft, elapsed_timed w t ht] at hzero
    omega
  · exact h.online_of_not_waiting hw

/-- What an iteration leaves to the record: the status it started in, whether its poll failed, and
what it added to the log. -/
structure Iteration where
  status : DSStatus
  failed : Bool
  events : List Event

def iteration (P : Platform) (main : DeviceServer) (w : World) (r : RecvFrom) : List Iteration :=
  match dtplinkDSLoop P main w r with
  | .ok w' => [⟨w.ctx.mStatus, failedPoll r, w'.log.take (w'.log.length - w.log.length)⟩]
  | .error _ => []

/-- The iterations since the status was entered, newest first. -/
def sinceEntry (status : DSStatus) (record : List Iteration) : List Iteration :=
  record.reverse.takeWhile (fun i => i.status = status)

/-- In a waiting status the counters stay in their range and tell the failed polls and the
retransmissions since the status was entered. -/
def Accounted (record : List Iteration) (w : World) : Prop :=
  w.ctx.mStatus.Waiting →
    w.ctx.mRecvRetryCount.toNat ≤ 7 ∧ w.ctx.mSendRetryCount.toNat ≤ 8 ∧
    8 * w.ctx.mSendRetryCount.toNat + w.ctx.mRecvRetryCount.toNat =
      (sinceEntry w.ctx.mStatus record).countP Iteration.failed ∧
    ((sinceEntry w.ctx.mStatus record).flatMap Iteration.events).countP w.ctx.mStatus.isRequest =
      w.ctx.mSendRetryCount.toNat

/-- The timer of a waiting status agrees with the record since its entry. -/
def Timing (record : List Iteration) (w : World) : Prop :=
  w.ctx.mStatus.Waiting → ∃ t, Timed w t ∧
    (sinceEntry w.ctx.mStatus record).countP Iteration.failed = t.elapsed ∧
    ((sinceEntry w.ctx.mStatus record).flatMap Iteration.events).countP w.ctx.mStatus.isRequest =
      t.send

theorem sinceEntry_concat_same (status : DSStatus) (record : List Iteration) (i : Iteration)
    (h : i.status = status) :
    sinceEntry status (record ++ [i]) = i :: sinceEntry status record := by
  simp [sinceEntry, h]

theorem sinceEntry_concat_new (status : DSStatus) (record : List Iteration) (i : Iteration)
    (h : i.status ≠ status) : sinceEntry status (record ++ [i]) = [] := by
  simp [sinceEntry, h]

theorem iteration_ok (P : Platform) (main : DeviceServer) (w w' : World) (r : RecvFrom)
    (h : dtplinkDSLoop P main w r = .ok w') : iteration P main w r =
      [⟨w.ctx.mStatus, failedPoll r, w'.log.take (w'.log.length - w.log.length)⟩] := by
  simp only [iteration, h]

theorem timing_step (record : List Iteration) (w w' : World) (failed : Bool)
    (h : Timing record w) (hstep : TimerStep w failed w') :
    Timing (record ++ [⟨w.ctx.mStatus, failed, w'.log.take (w'.log.length - w.log.length)⟩])
      w' := by
  intro hw'
  cases hstep with
  | left _ hlevel hrecv hsend =>
    have hne : w.ctx.mStatus ≠ w'.ctx.mStatus := by
      intro he
      rw [he] at hlevel
      omega
    rw [sinceEntry_concat_new _ _ _ hne]
    exact ⟨_, timed_start w' hrecv hsend, rfl, rfl⟩
  | expired _ t ht htick hlevel hrecv hsend =>
    have hne : w.ctx.mStatus ≠ w'.ctx.mStatus := by
      intro he
      rw [he] at hlevel
      omega
    rw [sinceEntry_concat_new _ _ _ hne]
    exact ⟨_, timed_start w' hrecv hsend, rfl, rfl⟩
  | idle =>
    obtain ⟨t, ht, hfailed, hsent⟩ := h hw'
    rw [sinceEntry_concat_same w.ctx.mStatus _ _ rfl]
    refine ⟨t, ht, ?_, ?_⟩
    · rw [List.countP_cons_of_neg (by simp), hfailed]
    · simp [hsent]
  | ticked _ hs t t' ht htick ht' events hlog hcount =>
    rw [hs] at hw' ⊢
    obtain ⟨t₀, ht₀, hfailed, hsent⟩ := h hw'
    have hevents : w'.log.take (w'.log.length - w.log.length) = events := by
      rw [hlog, List.length_append, Nat.add_sub_cancel, List.take_left' rfl]
    have helapsed : t₀.elapsed = t.elapsed := by
      rw [← elapsed_timed w t₀ ht₀, elapsed_timed w t ht]
    rw [sinceEntry_concat_same w.ctx.mStatus _ _ rfl, hevents]
    refine ⟨t', ht', ?_, ?_⟩
    · rw [List.countP_cons_of_pos rfl, hfailed, helapsed, t.elapsed_of_tick t' htick]
    · rw [List.flatMap_cons, List.countP_append, hsent, ← ht₀.2, ht.2]
      exact hcount
  | online _ _ hs hs' =>
    rw [hs'] at hw'
    exact hw'.elim

theorem accounted_of_timing (record : List Iteration) (w : World) (h : Timing record w) :
    Accounted record w := by
  intro hw
  obtain ⟨t, ht, hfailed, hsent⟩ := h hw
  have hrecv := t.recv_lt
  refine ⟨by rw [ht.1]; omega, ht.2 ▸ t.send_le, ?_, by rw [hsent, ht.2]⟩
  rw [elapsed_timed w t ht, hfailed]

/-- A run that is not cut short keeps the account and ends its start-up in time. -/
theorem accounted_of_run (P : Platform) (main : DeviceServer) (w w' : World)
    (polls : List RecvFrom) (hs : Started w) (hrun : runLoop P main w polls = .ok w') :
    Accounted (PartialRun.history (dtplinkDSLoop P main) (iteration P main) w polls) w' ∧
      (258 ≤ polls.countP failedPoll → w'.ctx.mStatus = .online) := by
  obtain ⟨hstatus, -, hrecv, hsend⟩ := started_spec w hs
  have hinv := loopInvariant_started w hs
  constructor
  · have hstart : LoopInvariant w ∧ Timing [] w :=
      ⟨hinv, fun _ => ⟨_, timed_start w hrecv hsend, rfl, rfl⟩⟩
    have hend := PartialRun.invariant_history (iteration P main)
      (fun record w => LoopInvariant w ∧ Timing record w) (fun _ _ => True)
      (fun record v r u hv _ hu => by
        have hstep := loopStep_of_ok P main v u r hu
        rw [iteration_ok P main v u r hu]
        exact ⟨loopInvariant_step v u r hv.1 hstep,
          timing_step record v u _ hv.2 (timerStep_of_loopStep v u r hv.1 hstep)⟩)
      [] w w' polls hstart (PartialRun.along_of_forall _ _ (fun _ _ => trivial) w polls) hrun
    exact accounted_of_timing _ w' hend.2
  · intro hcount
    have hstep : ∀ v r u, LoopInvariant v → dtplinkDSLoop P main v r = .ok u →
        LoopInvariant u ∧ pollsLeft u ≤ pollsLeft v - (if failedPoll r then 1 else 0) := by
      intro v r u hv hu
      have hloop := loopStep_of_ok P main v u r hu
      exact ⟨loopInvariant_step v u r hv hloop,
        pollsLeft_step v u _ hv (timerStep_of_loopStep v u r hv hloop)⟩
    have hleft := PartialRun.rank_le_sub_countP LoopInvariant pollsLeft failedPoll hstep w w'
      polls hinv hrun
    have hinv' := PartialRun.invariant LoopInvariant (fun _ _ => True)
      (fun v r u hv _ hu => (hstep v r u hv hu).1) w w' polls hinv
      (PartialRun.along_of_forall _ _ (fun _ _ => trivial) w polls) hrun
    have h258 : pollsLeft w = 258 := by
      rw [pollsLeft, hstatus, hrecv, hsend]
      rfl
    exact online_of_pollsLeft w' hinv' (by omega)

/-- After every part of the polls the loop is in a state in which the counters are accounted for,
and which is online once 258 polls have failed. -/
def RetryBounded (P : Platform) (main : DeviceServer) (w : World) (polls : List RecvFrom) : Prop :=
  ∀ seen rest, polls = seen ++ rest → ∃ w', runLoop P main w seen = .ok w' ∧
    Accounted (PartialRun.history (dtplinkDSLoop P main) (iteration P main) w seen) w' ∧
    (258 ≤ seen.countP failedPoll → w'.ctx.mStatus = .online)

theorem run_ok_iff_sound (P : Platform) (main : DeviceServer) (w : World)
    (polls : List RecvFrom) (hs : Started w) : (∃ w', runLoop P main w polls = .ok w') ↔
      PartialRun.Along (dtplinkDSLoop P main) (StepSound P main) w polls :=
  PartialRun.run_ok_iff_along LoopInvariant (StepSound P main)
    (fun v r hv => dtplinkDSLoop_ok_iff P main v r hv.mapped)
    (fun v r u hv hu => loopInvariant_step v u r hv (loopStep_of_ok P main v u r hu))
    w polls (loopInvariant_started w hs)

/-- The account is kept and the start-up bounded exactly along the runs of sound iterations. -/
theorem retryBounded_iff (P : Platform) (main : DeviceServer) (w : World)
    (polls : List RecvFrom) (hs : Started w) : RetryBounded P main w polls ↔
      PartialRun.Along (dtplinkDSLoop P main) (StepSound P main) w polls := by
  constructor
  · intro h
    obtain ⟨w', hrun, -⟩ := h polls [] (List.append_nil polls).symm
    exact (run_ok_iff_sound P main w polls hs).1 ⟨w', hrun⟩
  · rintro hc seen rest rfl
    obtain ⟨u, hrun⟩ := (run_ok_iff_sound P main w _ hs).2 hc
    obtain ⟨w', hseen, -⟩ := (PartialRun.run_append_ok _ w u seen rest).1 hrun
    exact ⟨w', hseen, accounted_of_run P main w w' seen hs hseen⟩

theorem retryBounded_silence :
    RetryBounded .linux (fun _ _ => .done) (bootWorld sampleName) (List.replicate 258 .error) ↔
      PartialRun.Along (dtplinkDSLoop .linux (fun _ _ => .done))
        (StepSound .linux (fun _ _ => .done)) (bootWorld sampleName) (List.replicate 258 .error) :=
  retryBounded_iff .linux _ _ _ started_bootWorld

/-- 258 failed polls, interrupted by the lone byte `0x51` once the server is online. -/
def interruptedPolls : List RecvFrom :=
  List.replicate 65 .error ++ [.data sampleAddress [queryDataToRemoteDS]] ++
    List.replicate 193 .error

/-- The datagram of one byte ends the loop in a copy of 65535 bytes. -/
theorem lone_byte_stops_loop : Started (bootWorld sampleName) ∧
    258 ≤ interruptedPolls.countP failedPoll ∧
    ¬ RetryBounded .linux (fun _ _ => .done) (bootWorld sampleName) interruptedPolls := by
  refine ⟨started_bootWorld, by decide +kernel, fun h => ?_⟩
  obtain ⟨w', hrun, -⟩ := h interruptedPolls [] (List.append_nil _).symm
  have hfault : (runLoop .linux (fun _ _ => .done) (bootWorld sampleName)
      interruptedPolls).isOk = false := by decide +kernel
  rw [hrun] at hfault
  exact absurd hfault (by simp [Except.isOk, Except.toBool])

end OpenDSLite
