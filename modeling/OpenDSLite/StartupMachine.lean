import OpenDSLite.DirectMode
import OpenDSLite.ForwardStatus
import OpenDSLite.RetryAccounting
import OpenDSLite.RetriedStages

/-!
# The start-up as a machine that asks three servers

Seen from outside the start-up asks for its public address three times, registers, and is online
with an address in the end, or with none, or behind the relay. This machine knows what the replies
reported and nothing of sockets, buffers or server addresses. The loop refines it: whatever is
received, its status, its mode, its mapped address and what it sends are those of the machine.
-/

namespace OpenDSLite

open RetriedStages (State)

/-- What has been reported, or the address the device registers with. -/
inductive Stage
  | first
  | second (a : IPv4Address)
  | third (a b : IPv4Address)
  | registering (ip : IPv4Address)
  deriving DecidableEq

/-- What a server does while it starts up, the punches left out. -/
inductive Action
  | askFirst
  | askSecond
  | askThird
  | register (letter : UInt8)
  | keepAlive
  deriving DecidableEq

namespace Stage

def status : Stage → DSStatus
  | first => .waitCsPhase1
  | second _ => .waitCsPhase2
  | third _ _ => .waitCsPhase3
  | registering _ => .waitDNS

/-- The second reply puts the server into relay mode when it contradicts the first. -/
def mode : Stage → RunningMode
  | first | second _ => .remoteDirectMode
  | third a b => if a = b then .remoteDirectMode else .remoteRelayMode
  | registering ip => modeOfAddr ip.addr

def request : Stage → Action
  | first => .askFirst
  | second _ => .askSecond
  | third _ _ => .askThird
  | registering ip => .register (modeLetter (modeOfAddr ip.addr))

end Stage

/-- The address the device takes: the first one if the third server saw it too, the second one
does not matter. -/
def verdict (a c : IPv4Address) : IPv4Address := if a = c then a else relayIPPort

def startup : RetriedStages Stage IPv4Address IPv4Address Action where
  onReply
    | .first, a => (.inl (.second a), [.askSecond])
    | .second a, b => (.inl (.third a b), [.askThird])
    -- the registration carries the mode the second reply left
    | .third a b, c => (.inl (.registering (verdict a c)),
        [.register (modeLetter (Stage.third a b).mode), .keepAlive])
    | .registering ip, _ => (.inr ip, [])
  onExpiry
    | .first | .registering _ => (.inr noPublicIPPort, [])
    | .second _ | .third _ _ => (.inl (.registering relayIPPort),
        [.register (modeLetter .remoteRelayMode)])
  onRetry s := [s.request]

def startupBegin : State 8 8 Stage IPv4Address := .waiting .first (.start 8 (by decide))

/-- What a poll is to the start-up. -/
def stimulus (w : World) (r : RecvFrom) : List (Stimulus IPv4Address) :=
  match dtplinkRecv r with
  | none => [.silence]
  | some d => if w.Accepts d then [.reply (d.addressAt 2)] else [.other]

/-- The last byte of a registration is its letter. -/
def actionOf : Event → Option Action
  | .send s =>
      match s.sender with
      | .pingCenterServer => if s.msg = [bindReqToServer1Port1] then some .askFirst else none
      | .pingCenterServerAgain => some .askSecond
      | .pingAuxServer => if s.msg = [bindReqToServer2Port1] then some .askThird else none
      | .registerDS => s.msg.getLast?.map .register
      | _ => none
  | .startKeepAlive => some .keepAlive
  | _ => none

/-- What is done in some events, oldest first. -/
def actions (events : List Event) : List Action := (events.filterMap actionOf).reverse

theorem actions_append (events log : List Event) :
    actions (events ++ log) = actions log ++ actions events := by
  rw [actions, List.filterMap_append, List.reverse_append]
  rfl

theorem actions_service (events : List Event) (h : ∀ e ∈ events, e.IsService) :
    actions events = [] := by
  have hnone : ∀ e ∈ events, actionOf e = none := by
    intro e he
    cases e with
    | requestCopy | deviceServerMain => rfl
    | startKeepAlive => exact (h _ he).elim
    | send s =>
      have hanswer : s.IsAnswer := h _ he
      rcases hanswer with ⟨hs, -⟩ | ⟨hs, -⟩ | ⟨hs | hs, -⟩ <;> simp only [actionOf, hs]
  rw [actions, List.filterMap_eq_nil_iff.mpr hnone, List.reverse_nil]

theorem getLast_registrationText (id : CString) (mode : RunningMode) :
    (registrationText id mode).getLast? = some (modeLetter mode) := by
  rw [registrationText, List.getLast?_append]
  rfl

theorem actions_registered (fd : UInt32) (id : CString) (mode : RunningMode) (dst : IPv4Address) :
    actions [.send ⟨.registerDS, fd, registrationText id mode, dst⟩] =
      [.register (modeLetter mode)] := by
  simp [actions, actionOf, getLast_registrationText]

theorem pingCenterServer_actions (w : World) : ∃ flag events, pingCenterServer w = { w with
      ctx := { w.ctx with mStatus := .waitCsPhase1 }
      firstPingCenterServer := flag
      log := events ++ w.log } ∧ actions events = [.askFirst] := by
  unfold pingCenterServer
  by_cases hf : w.firstPingCenterServer = true
  · simp only [if_pos hf]
    exact ⟨false, [_, _, _], rfl, rfl⟩
  · simp only [if_neg hf]
    exact ⟨w.firstPingCenterServer, [_], rfl, rfl⟩

theorem pingAuxServer_actions (w : World) : ∃ flag events, pingAuxServer w = { w with
      ctx := { w.ctx with mStatus := .waitCsPhase3 }
      firstPingAuxServer := flag
      log := events ++ w.log } ∧ actions events = [.askThird] := by
  unfold pingAuxServer
  by_cases hf : w.firstPingAuxServer = true
  · simp only [if_pos hf]
    exact ⟨false, [_, _, _], rfl, rfl⟩
  · simp only [if_neg hf]
    exact ⟨w.firstPingAuxServer, [_], rfl, rfl⟩

structure Stage.Describes (s : Stage) (w : World) : Prop where
  status : w.ctx.mStatus = s.status
  mode : w.ctx.mRunningMode = s.mode
  reported : ∀ a, s = .second a ∨ (∃ b, s = .third a b) → w.mip1 = some a
  mapped : ∀ ip, s = .registering ip → w.ctx.mIP = ip

/-- The world is the machine's, seen from inside. -/
def Refines (w : World) : State 8 8 Stage IPv4Address → Prop
  | .waiting s t => s.Describes w ∧ Timed w t
  | .done ip => w.ctx.mStatus = .online ∧ w.ctx.mIP = ip ∧
      w.ctx.mRunningMode = modeOfAddr ip.addr

theorem Stage.waiting_status (s : Stage) : s.status.Waiting := by
  cases s <;> trivial

theorem refines_startupBegin (w : World) (h : Started w) : Refines w startupBegin := by
  obtain ⟨hstatus, hmode, hrecv, hsend⟩ := started_spec w h
  refine ⟨⟨hstatus, hmode, ?_, ?_⟩, timed_start w hrecv hsend⟩
  · rintro a (h | ⟨b, h⟩)
    · exact absurd h (by simp)
    · exact absurd h (by simp)
  · intro ip h
    exact absurd h (by simp)

/-- An online server stays at the result. -/
theorem refines_online (P : Platform) (main : DeviceServer) (w w' : World) (r : RecvFrom)
    (ip : IPv4Address) (h : Refines w (.done ip)) (hok : dtplinkDSLoop P main w r = .ok w') :
    Refines w' (.done ip) ∧ ∃ events, w'.log = events ++ w.log ∧ actions events = [] := by
  obtain ⟨hs, hip, hmode⟩ := h
  rcases onlineStep_of_ok P main w w' r hs hok with rfl | ⟨req, resp, events, rfl, hev⟩
  · exact ⟨⟨hs, hip, hmode⟩, [], rfl, rfl⟩
  · exact ⟨⟨hs, hip, hmode⟩, events, rfl, actions_service events hev⟩

/-- What a machine that waits does in one step, seen in the worlds before and after. -/
def Matched (w w' : World) (q : State 8 8 Stage IPv4Address) (i : Stimulus IPv4Address) : Prop :=
  Refines w' (startup.step q i).1 ∧
    ∃ events, w'.log = events ++ w.log ∧ actions events = (startup.step q i).2

theorem matched_phase1 (w : World) (s : Stage) (t : RetryTimer 8 8) (h : s.Describes w)
    (d : Datagram) (hs : w.ctx.mStatus = .waitCsPhase1) :
    Matched w (w.afterPhase1 d) (.waiting s t) (.reply (d.addressAt 2)) := by
  have hstatus := h.status.symm.trans hs
  cases s with
  | first =>
    refine ⟨⟨⟨rfl, h.mode, ?_, ?_⟩, timed_start _ rfl rfl⟩, [_], rfl, rfl⟩
    · rintro a (he | ⟨b, he⟩)
      · rw [← Stage.second.inj he]
        rfl
      · exact absurd he (by simp)
    · intro ip he
      exact absurd he (by simp)
  | second a | third a b | registering ip => exact absurd hstatus (by simp [Stage.status])

theorem matched_phase2 (w : World) (s : Stage) (t : RetryTimer 8 8) (h : s.Describes w)
    (d : Datagram) (hs : w.ctx.mStatus = .waitCsPhase2) (a : IPv4Address)
    (hm : w.mip1 = some a) :
    Matched w (w.afterPhase2 a d) (.waiting s t) (.reply (d.addressAt 2)) := by
  have hstatus := h.status.symm.trans hs
  cases s with
  | second a' =>
    obtain rfl := Option.some.inj (hm.symm.trans (h.reported a' (Or.inl rfl)))
    obtain ⟨flag, events, he, hactions⟩ :=
      pingAuxServer_actions { w.resetAllRetryCounts with mip2 := some (d.addressAt 2) }
    have hmode : (w.afterPhase2 a d).ctx.mRunningMode = (Stage.third a (d.addressAt 2)).mode := by
      simp only [World.afterPhase2, he, Stage.mode]
      split_ifs with heq hne hne
      · exact h.mode
      · exact absurd ((IPv4Address.equal_iff _ _).1 heq) hne
      · exact absurd ((IPv4Address.equal_iff _ _).2 hne) heq
      · rfl
    have hlog : (w.afterPhase2 a d).log = events ++ w.log := by
      simp only [World.afterPhase2, he]
      split_ifs <;> rfl
    obtain ⟨hphase, hmip, hrecv, hsend, -⟩ := afterPhase2_spec a d w
    refine ⟨⟨⟨hphase, hmode, ?_, ?_⟩, timed_start _ hrecv hsend⟩, events, hlog, hactions⟩
    · rintro x (hx | ⟨b, hx⟩)
      · exact absurd hx (by simp)
      · rw [← (Stage.third.inj hx).1]
        exact hmip.trans hm
    · intro ip hip
      exact absurd hip (by simp)
  | first | third a b | registering ip => exact absurd hstatus (by simp [Stage.status])

theorem matched_phase3 (w : World) (s : Stage) (t : RetryTimer 8 8) (h : s.Describes w)
    (d : Datagram) (hs : w.ctx.mStatus = .waitCsPhase3) (a : IPv4Address)
    (hm : w.mip1 = some a) :
    Matched w (w.afterPhase3 a d) (.waiting s t) (.reply (d.addressAt 2)) := by
  have hstatus := h.status.symm.trans hs
  cases s with
  | third a' b =>
    obtain rfl := Option.some.inj (hm.symm.trans (h.reported a' (Or.inr ⟨b, rfl⟩)))
    have hverdict : (if a.equal (d.addressAt 2) then a else relayIPPort) =
        verdict a (d.addressAt 2) := by
      simp only [IPv4Address.equal_iff, verdict]
    refine ⟨⟨⟨rfl, ?_, ?_, ?_⟩, timed_start _ rfl rfl⟩, [.startKeepAlive, _], rfl, ?_⟩
    · exact congrArg (fun ip => modeOfAddr ip.addr) hverdict
    · rintro x (hx | ⟨b, hx⟩)
      · exact absurd hx (by simp)
      · exact absurd hx (by simp)
    · intro ip hip
      exact hverdict.trans (Stage.registering.inj hip)
    · change actions ([.startKeepAlive] ++ [_]) = _
      rw [actions_append, actions_registered]
      exact congrArg (fun m => [Action.register (modeLetter m), .keepAlive]) h.mode
  | first | second a | registering ip => exact absurd hstatus (by simp [Stage.status])

theorem matched_dns (w : World) (s : Stage) (t : RetryTimer 8 8) (h : s.Describes w)
    (hs : w.ctx.mStatus = .waitDNS) (a : IPv4Address) :
    Matched w (w.setStatus .online).resetAllRetryCounts (.waiting s t) (.reply a) := by
  have hstatus := h.status.symm.trans hs
  cases s with
  | registering ip => exact ⟨⟨rfl, h.mapped ip rfl, h.mode⟩, [], rfl, rfl⟩
  | first | second a | third a b => exact absurd hstatus (by simp [Stage.status])

theorem Timed.unique {w : World} {t t' : RetryTimer 8 8} (h : Timed w t) (h' : Timed w t') :
    t = t' := by
  obtain ⟨recv, send, hlt, hle, hspent⟩ := t
  obtain ⟨recv', send', hlt', hle', hspent'⟩ := t'
  obtain rfl : recv = recv' := h.1.symm.trans h'.1
  obtain rfl : send = send' := h.2.symm.trans h'.2
  rfl

/-- A failed poll that keeps the status is a tick of the timer; a tick that the timer counts as a
retransmission is one. -/
theorem tick_of_timerStep (w w' : World) (t : RetryTimer 8 8) (ht : Timed w t)
    (hw : w.ctx.mStatus.Waiting) (hs : w'.ctx.mStatus = w.ctx.mStatus) (events : List Event)
    (hlog : w'.log = events ++ w.log) (hstep : TimerStep w true w') :
    ∃ t', t.tick = some t' ∧ Timed w' t' ∧
      t'.send = t.send + events.countP w.ctx.mStatus.isRequest := by
  cases hstep with
  | expired _ u hu htick hlevel =>
    rw [hs] at hlevel
    omega
  | ticked _ hs' u u' hu htick hu' events' hlog' hcount =>
    obtain rfl := ht.unique hu
    obtain rfl : events' = events := List.append_cancel_right (hlog'.symm.trans hlog)
    exact ⟨u', htick, hu', by omega⟩
  | online _ _ ho =>
    rw [ho] at hw
    exact hw.elim

theorem Stage.Describes.congr {s : Stage} {w w' : World} (h : s.Describes w)
    (hstatus : w'.ctx.mStatus = w.ctx.mStatus)
    (hmode : w'.ctx.mRunningMode = w.ctx.mRunningMode) (hmip : w'.mip1 = w.mip1)
    (hip : w'.ctx.mIP = w.ctx.mIP) : s.Describes w' :=
  ⟨hstatus.trans h.status, hmode.trans h.mode, fun a ha => hmip.trans (h.reported a ha),
    fun ip he => hip.trans (h.mapped ip he)⟩

theorem matched_counted (w : World) (s : Stage) (t : RetryTimer 8 8) (h : s.Describes w)
    (ht : Timed w t) (hsend : w.ctx.mSendRetryCount < sendRetryCountMax)
    (hrecv : w.ctx.mRecvRetryCount + 1 < recvRetryCountMax) :
    Matched w w.addRecvRetryCount (.waiting s t) .silence := by
  have hw : w.ctx.mStatus.Waiting := h.status ▸ s.waiting_status
  obtain ⟨t', htick, ht', hsame⟩ := tick_of_timerStep w w.addRecvRetryCount t ht hw rfl [] rfl
    (timerStep_counted w t ht hsend hrecv)
  have hstep : startup.step (.waiting s t) .silence = (.waiting s t', []) := by
    simp only [RetriedStages.step, htick]
    exact congrArg (State.waiting s t', ·) (if_pos hsame)
  rw [Matched, hstep]
  exact ⟨⟨h.congr rfl rfl rfl rfl, ht'⟩, [], rfl, rfl⟩

theorem request_actions (w : World) (s : Stage) (h : s.Describes w) :
    ∃ events, w.request.log = events ++ w.log ∧ actions events = [s.request] := by
  unfold World.request
  rw [h.status]
  cases s with
  | first =>
    obtain ⟨flag, events, he, hactions⟩ := pingCenterServer_actions w
    exact ⟨events, congrArg World.log he, hactions⟩
  | second a => exact ⟨[_], rfl, rfl⟩
  | third a b =>
    obtain ⟨flag, events, he, hactions⟩ := pingAuxServer_actions w
    exact ⟨events, congrArg World.log he, hactions⟩
  | registering ip =>
    refine ⟨[_], rfl, ?_⟩
    rw [actions_registered]
    exact congrArg (fun m => [Action.register (modeLetter m)]) h.mode

theorem matched_retransmitted (w : World) (s : Stage) (t : RetryTimer 8 8) (h : s.Describes w)
    (ht : Timed w t) (hsend : w.ctx.mSendRetryCount < sendRetryCountMax)
    (hrecv : recvRetryCountMax ≤ w.ctx.mRecvRetryCount + 1) :
    Matched w w.addRecvRetryCount.resetRecvRetryCount.request.addSendRetryCount (.waiting s t)
      .silence := by
  have hw : w.ctx.mStatus.Waiting := h.status ▸ s.waiting_status
  obtain ⟨flag, flag', events, he, hcount⟩ := w.retransmitted_eq hw
  obtain ⟨events', hlog, hactions⟩ :=
    request_actions w.addRecvRetryCount.resetRecvRetryCount s (h.congr rfl rfl rfl rfl)
  obtain rfl : events = events' :=
    List.append_cancel_right ((congrArg World.log he).symm.trans hlog)
  have htimer := timerStep_retransmitted w hw t ht hsend hrecv
  rw [he] at htimer ⊢
  obtain ⟨t', htick, ht', hmore⟩ := tick_of_timerStep w _ t ht hw (by rfl) events (by rfl) htimer
  rw [hcount] at hmore
  have hstep : startup.step (.waiting s t) .silence = (.waiting s t', [s.request]) := by
    simp only [RetriedStages.step, htick]
    rw [if_neg (by omega)]
    rfl
  rw [Matched, hstep]
  exact ⟨⟨h.congr rfl rfl rfl rfl, ht'⟩, events, rfl, hactions⟩

theorem matched_gaveUp (w : World) (s : Stage) (t : RetryTimer 8 8) (h : s.Describes w)
    (ht : Timed w t) (hsend : sendRetryCountMax ≤ w.ctx.mSendRetryCount) :
    Matched w w.addRecvRetryCount.gaveUp.resetAllRetryCounts (.waiting s t) .silence := by
  have hw : w.ctx.mStatus.Waiting := h.status ▸ s.waiting_status
  have hspent : t.send = 8 := by
    have hs8 : 8 ≤ w.ctx.mSendRetryCount.toNat := UInt8.le_iff_toNat_le.mp hsend
    have hle := t.send_le
    rw [ht.2] at hs8
    omega
  have htick : t.tick = none := t.tick_eq_none_iff.2 (t.elapsed_of_spent hspent)
  have hstatus := h.status
  simp only [Matched, RetriedStages.step, htick]
  rcases w.gaveUp_eq hw with ⟨hs, hg⟩ | ⟨hs, hg⟩
  · rw [hg]
    rw [hstatus] at hs
    cases s with
    | first | registering ip => exact ⟨⟨rfl, rfl, rfl⟩, [], rfl, rfl⟩
    | second a | third a b => exact absurd hs (by simp [Stage.status])
  · rw [hg]
    rw [hstatus] at hs
    cases s with
    | first | registering ip => exact absurd hs (by simp [Stage.status])
    | second a | third a b =>
      refine ⟨⟨⟨rfl, modeOfAddr_relay.symm, ?_, ?_⟩, timed_start _ rfl rfl⟩, [_], rfl,
        actions_registered _ _ _ _⟩
      · rintro x (hx | ⟨b, hx⟩)
        · exact absurd hx (by simp)
        · exact absurd hx (by simp)
      · intro ip hip
        exact Stage.registering.inj hip

/-- One iteration of the loop is one step of the machine. -/
theorem matched_step (P : Platform) (main : DeviceServer) (w w' : World) (r : RecvFrom)
    (q : State 8 8 Stage IPv4Address) (h : Refines w q)
    (hok : dtplinkDSLoop P main w r = .ok w') : ∃ i, stimulus w r = [i] ∧ Matched w w' q i := by
  cases q with
  | done ip =>
    obtain ⟨hend, hlog⟩ := refines_online P main w w' r ip h hok
    have hone : ∃ i, stimulus w r = [i] := by
      unfold stimulus
      cases dtplinkRecv r with
      | none => exact ⟨_, rfl⟩
      | some d =>
        simp only
        split_ifs
        · exact ⟨_, rfl⟩
        · exact ⟨_, rfl⟩
    obtain ⟨i, hi⟩ := hone
    exact ⟨i, hi, hend, hlog⟩
  | waiting s t =>
    obtain ⟨hd, ht⟩ := h
    have hw : w.ctx.mStatus.Waiting := hd.status ▸ s.waiting_status
    have haccepted : ∀ d, dtplinkRecv r = some d → w.Accepts d →
        stimulus w r = [.reply (d.addressAt 2)] :=
      fun d hr ha => by simp only [stimulus, hr, if_pos ha]
    have hsilent : dtplinkRecv r = none → stimulus w r = [.silence] :=
      fun hr => by simp only [stimulus, hr]
    cases loopStep_of_ok P main w w' r hok with
    | phase1Reply d hr hs ha =>
      exact ⟨_, haccepted d hr ha, matched_phase1 w s t hd d hs⟩
    | phase2Reply d hr hs ha a hm =>
      exact ⟨_, haccepted d hr ha, matched_phase2 w s t hd d hs a hm⟩
    | phase3Reply d hr hs ha a hm hn =>
      exact ⟨_, haccepted d hr ha, matched_phase3 w s t hd d hs a hm⟩
    | dnsReply d hr hs ha =>
      exact ⟨_, haccepted d hr ha, matched_dns w s t hd hs _⟩
    | ignored d hr hs ha =>
      exact ⟨.other, by simp only [stimulus, hr, if_neg ha], ⟨hd, ht⟩, [], rfl, rfl⟩
    | served d _ hr hs hserved => exact absurd hs hw.ne_online
    | counted hr hc =>
      exact ⟨_, hsilent hr, matched_counted w s t hd ht (hc hw).1 (hc hw).2⟩
    | retransmitted hr _ hsend hrecv =>
      exact ⟨_, hsilent hr, matched_retransmitted w s t hd ht hsend hrecv⟩
    | gaveUp hr _ hsend => exact ⟨_, hsilent hr, matched_gaveUp w s t hd ht hsend⟩

/-- What the polls of a run are to the start-up. -/
def stimuli (P : Platform) (main : DeviceServer) (w : World) (polls : List RecvFrom) :
    List (Stimulus IPv4Address) :=
  PartialRun.history (dtplinkDSLoop P main) stimulus w polls

/-- From a world the machine describes every run of the loop is a run of the machine. -/
theorem refines_run (P : Platform) (main : DeviceServer) (w w' : World) (polls : List RecvFrom)
    (q : State 8 8 Stage IPv4Address) (h : Refines w q) (hrun : runLoop P main w polls = .ok w') :
    Refines w' (startup.run q (stimuli P main w polls)).1 ∧
      ∃ events, w'.log = events ++ w.log ∧
        actions events = (startup.run q (stimuli P main w polls)).2 := by
  have hend := PartialRun.invariant_history stimulus
    (fun is v => Refines v (startup.run q is).1 ∧ ∃ events, v.log = events ++ w.log ∧
      actions events = (startup.run q is).2) (fun _ _ => True)
    (fun is v r u hv _ hu => by
      obtain ⟨hrefines, events, hlog, hactions⟩ := hv
      obtain ⟨i, hi, hnext, events', hlog', hactions'⟩ := matched_step P main v u r _ hrefines hu
      rw [hi, RetriedStages.run_concat]
      refine ⟨hnext, events' ++ events, ?_, ?_⟩
      · rw [hlog', hlog, List.append_assoc]
      · rw [actions_append, hactions, hactions'])
    [] w w' polls ⟨h, [], rfl, rfl⟩
    (PartialRun.along_of_forall _ _ (fun _ _ => trivial) w polls) hrun
  exact hend

/-- Every run of the loop is a run of the machine: it ends in a world the machine describes and has
done what the machine puts out, in the same order. -/
theorem startup_refined (P : Platform) (main : DeviceServer) (w w' : World)
    (polls : List RecvFrom) (hs : Started w) (hrun : runLoop P main w polls = .ok w') :
    Refines w' (startup.run startupBegin (stimuli P main w polls)).1 ∧
      ∃ events, w'.log = events ++ w.log ∧
        actions events = (startup.run startupBegin (stimuli P main w polls)).2 :=
  refines_run P main w w' polls startupBegin (refines_startupBegin w hs) hrun

theorem startup_refined_sample : ∃ w',
    runLoop .linux (fun _ _ => .done) (bootWorld sampleName)
      (probeReplies sampleAddress otherAddress sampleAddress ++ [registerReply]) = .ok w' ∧
    Refines w' (startup.run startupBegin (stimuli .linux (fun _ _ => .done) (bootWorld sampleName)
      (probeReplies sampleAddress otherAddress sampleAddress ++ [registerReply]))).1 :=
  have hrun : ∃ w', runLoop .linux (fun _ _ => .done) (bootWorld sampleName)
      (probeReplies sampleAddress otherAddress sampleAddress ++ [registerReply]) = .ok w' :=
    ⟨_, rfl⟩
  hrun.imp fun w' h => ⟨h, (startup_refined .linux (fun _ _ => .done) (bootWorld sampleName) w'
    (probeReplies sampleAddress otherAddress sampleAddress ++ [registerReply])
    started_bootWorld h).1⟩

theorem waiting_step_ok (P : Platform) (main : DeviceServer) (w : World) (r : RecvFrom)
    (hinv : LoopInvariant w) (hn : w.NameFits) (hw : w.ctx.mStatus.Waiting) :
    ∃ w', dtplinkDSLoop P main w r = .ok w' :=
  (dtplinkDSLoop_ok_iff P main w r hinv.mapped).2
    ⟨fun _ => hn, fun _ _ ho => absurd ho hw.ne_online⟩

theorem run_ok_of_waiting (P : Platform) (main : DeviceServer) (w : World)
    (polls : List RecvFrom) (q : State 8 8 Stage IPv4Address) (hinv : LoopInvariant w)
    (hn : w.NameFits) (h : Refines w q)
    (hwait : ∀ is js, stimuli P main w polls = is ++ js → js ≠ [] →
      ∃ s t, (startup.run q is).1 = .waiting s t) :
    ∃ w', runLoop P main w polls = .ok w' := by
  induction polls generalizing w q with
  | nil => exact ⟨w, rfl⟩
  | cons r rs ih =>
    have hone : stimulus w r ≠ [] := by
      unfold stimulus
      cases dtplinkRecv r with
      | none => simp
      | some d =>
        simp only
        split_ifs <;> simp
    obtain ⟨s, t, rfl⟩ : ∃ s t, q = .waiting s t :=
      hwait [] _ rfl (fun he => hone (List.append_eq_nil_iff.mp he).1)
    obtain ⟨u, hu⟩ := waiting_step_ok P main w r hinv hn (h.1.status ▸ s.waiting_status)
    obtain ⟨i, hi, hnext, -⟩ := matched_step P main w u r _ h hu
    have hstep := loopStep_of_ok P main w u r hu
    have hn' : u.NameFits := by
      unfold World.NameFits
      rwa [(frame_step w u r hstep).mID]
    obtain ⟨w', hrest⟩ := ih u _ (loopInvariant_step w u r hinv hstep) hn' hnext
      (fun is js hsplit hne => hwait (i :: is) js (by
        simp only [stimuli, PartialRun.history, hu, hi] at hsplit ⊢
        rw [hsplit]
        rfl) hne)
    exact ⟨w', (PartialRun.run_cons_ok _ w u w' r rs hu).2 hrest⟩

/-- Nothing awaited comes, and the silence is not too long for a stage. -/
def Bearable (is : List (Stimulus IPv4Address)) : Prop :=
  (∀ i ∈ is, i.Quiet) ∧ is.countP Stimulus.isSilence ≤ 64

theorem startup_run_answered (s s' : Stage) (out : List Action) (a : IPv4Address)
    (is : List (Stimulus IPv4Address)) (h : Bearable is)
    (hreply : startup.onReply s a = (.inl s', out)) : ∃ k,
    startup.run (.waiting s (.start 8 (by decide)) : State 8 8 Stage IPv4Address)
        (is ++ [Stimulus.reply a]) =
      (.waiting s' (.start 8 (by decide)), List.replicate k s.request ++ out) ∧ k ≤ 8 := by
  have hcount : is.countP Stimulus.isSilence ≤ 8 * 8 := h.2
  obtain ⟨k, hrun, hk⟩ := startup.run_answered (show 0 < 8 by decide) s is a h.1 hcount
  have hflat : (List.replicate k (startup.onRetry s)).flatten = List.replicate k s.request := by
    change (List.replicate k [s.request]).flatten = _
    simp
  rw [hflat, hreply] at hrun
  exact ⟨k, hrun, hk⟩

theorem startup_run_quiet (s : Stage) (is : List (Stimulus IPv4Address)) (h : Bearable is) :
    ∃ t k, startup.run (.waiting s (.start 8 (by decide)) : State 8 8 Stage IPv4Address) is =
      (.waiting s t, List.replicate k s.request) ∧ k ≤ 8 := by
  have hcount : (RetryTimer.start 8 (by decide) : RetryTimer 8 8).elapsed +
      is.countP Stimulus.isSilence ≤ 8 * 8 := by
    have hle := h.2
    change 0 + _ ≤ 64
    omega
  obtain ⟨t, k, hrun, hsend⟩ := startup.run_quiet s _ is h.1 hcount
  have hflat : (List.replicate k (startup.onRetry s)).flatten = List.replicate k s.request := by
    change (List.replicate k [s.request]).flatten = _
    simp
  have hle := t.send_le
  rw [hsend] at hle
  rw [hflat] at hrun
  exact ⟨t, k, hrun, (Nat.le_add_left k _).trans hle⟩

/-- What a server does that is answered four times, with the retransmissions of each status. -/
def startupActions (a b c : IPv4Address) (k₁ k₂ k₃ k₄ : ℕ) : List Action :=
  List.replicate k₁ Action.askFirst ++ [Action.askSecond] ++
    (List.replicate k₂ Action.askSecond ++ [Action.askThird]) ++
    (List.replicate k₃ Action.askThird ++
      [Action.register (modeLetter (Stage.third a b).mode), Action.keepAlive]) ++
    List.replicate k₄ (Action.register (modeLetter (modeOfAddr (verdict a c).addr)))

/-- The stimuli of a start-up in which the servers report `a`, `b` and `c`. -/
def answers (is₁ is₂ is₃ is₄ : List (Stimulus IPv4Address)) (a b c : IPv4Address) :
    List (Stimulus IPv4Address) :=
  is₁ ++ [Stimulus.reply a] ++ (is₂ ++ [Stimulus.reply b]) ++ (is₃ ++ [Stimulus.reply c]) ++ is₄

theorem startup_answered (is₁ is₂ is₃ is₄ : List (Stimulus IPv4Address)) (a b c : IPv4Address)
    (h₁ : Bearable is₁) (h₂ : Bearable is₂) (h₃ : Bearable is₃) (h₄ : Bearable is₄) :
    ∃ t k₁ k₂ k₃ k₄, startup.run startupBegin (answers is₁ is₂ is₃ is₄ a b c) =
        (.waiting (.registering (verdict a c)) t, startupActions a b c k₁ k₂ k₃ k₄) ∧
      k₁ ≤ 8 ∧ k₂ ≤ 8 ∧ k₃ ≤ 8 ∧ k₄ ≤ 8 := by
  obtain ⟨k₁, hrun₁, hk₁⟩ := startup_run_answered .first (.second a) _ a is₁ h₁ rfl
  obtain ⟨k₂, hrun₂, hk₂⟩ := startup_run_answered (.second a) (.third a b) _ b is₂ h₂ rfl
  obtain ⟨k₃, hrun₃, hk₃⟩ :=
    startup_run_answered (.third a b) (.registering (verdict a c)) _ c is₃ h₃ rfl
  obtain ⟨t, k₄, hrun₄, hk₄⟩ := startup_run_quiet (.registering (verdict a c)) is₄ h₄
  refine ⟨t, k₁, k₂, k₃, k₄, ?_, hk₁, hk₂, hk₃, hk₄⟩
  have hrun₁₂ := startup.run_append_eq _ _ _ _ _ _ _ hrun₁ hrun₂
  have hrun₁₃ := startup.run_append_eq _ _ _ _ _ _ _ hrun₁₂ hrun₃
  exact startup.run_append_eq _ _ _ _ _ _ _ hrun₁₃ hrun₄

/-- When every awaited server answers within 64 failed polls, whatever else is received, the server
comes online with the verdict on the first and the third address. Its first registration tells
what the second address made of the mode, and every question is asked nine times at most. -/
theorem startup_verdict (P : Platform) (main : DeviceServer) (w : World)
    (polls : List RecvFrom) (hs : Started w) (hn : w.NameFits)
    (is₁ is₂ is₃ is₄ : List (Stimulus IPv4Address)) (a b c x : IPv4Address)
    (h₁ : Bearable is₁) (h₂ : Bearable is₂) (h₃ : Bearable is₃) (h₄ : Bearable is₄)
    (hpolls : stimuli P main w polls = answers is₁ is₂ is₃ is₄ a b c ++ [.reply x]) :
    ∃ w' events k₁ k₂ k₃ k₄, runLoop P main w polls = .ok w' ∧ w'.ctx.mStatus = .online ∧
      w'.ctx.mIP = verdict a c ∧ w'.ctx.mRunningMode = modeOfAddr (verdict a c).addr ∧
      w'.log = events ++ w.log ∧ actions events = startupActions a b c k₁ k₂ k₃ k₄ ∧
      k₁ ≤ 8 ∧ k₂ ≤ 8 ∧ k₃ ≤ 8 ∧ k₄ ≤ 8 := by
  obtain ⟨t, k₁, k₂, k₃, k₄, hanswered, hk⟩ :=
    startup_answered is₁ is₂ is₃ is₄ a b c h₁ h₂ h₃ h₄
  have hfull : startup.run startupBegin (answers is₁ is₂ is₃ is₄ a b c ++ [.reply x]) =
      (.done (verdict a c), startupActions a b c k₁ k₂ k₃ k₄) := by
    rw [RetriedStages.run_concat, hanswered]
    simp only [RetriedStages.step, startup, RetriedStages.enter, List.append_nil]
  obtain ⟨w', hrun⟩ := run_ok_of_waiting P main w polls startupBegin (loopInvariant_started w hs)
    hn (refines_startupBegin w hs) (fun is js hsplit hne => by
      -- a machine that waits before the last reply has waited all the time
      rw [hpolls] at hsplit
      obtain ⟨js', y, rfl⟩ := List.eq_nil_or_concat js |>.resolve_left hne
      rw [List.concat_eq_append, ← List.append_assoc] at hsplit
      have hinit := (List.append_inj' hsplit rfl).1
      exact startup.waiting_of_append startupBegin is js' _ _
        (by rw [← hinit, hanswered]))
  obtain ⟨hend, events, hlog, hactions⟩ :=
    refines_run P main w w' polls startupBegin (refines_startupBegin w hs) hrun
  rw [hpolls, hfull] at hend hactions
  exact ⟨w', events, k₁, k₂, k₃, k₄, hrun, hend.1, hend.2.1, hend.2.2, hlog, hactions, hk⟩

/-- The second server sees another port than the two others, and the first reply is late. -/
theorem startup_verdict_sample : ∃ w' events k₁ k₂ k₃ k₄,
    runLoop .linux (fun _ _ => .done) (bootWorld sampleName)
      (.error :: probeReplies sampleAddress otherAddress sampleAddress ++ [registerReply]) =
        .ok w' ∧ w'.ctx.mStatus = .online ∧
      w'.ctx.mIP = verdict sampleAddress sampleAddress ∧
      w'.ctx.mRunningMode = modeOfAddr (verdict sampleAddress sampleAddress).addr ∧
      w'.log = events ++ (bootWorld sampleName).log ∧
      actions events = startupActions sampleAddress otherAddress sampleAddress k₁ k₂ k₃ k₄ ∧
      k₁ ≤ 8 ∧ k₂ ≤ 8 ∧ k₃ ≤ 8 ∧ k₄ ≤ 8 :=
  startup_verdict .linux (fun _ _ => .done) (bootWorld sampleName)
    (.error :: probeReplies sampleAddress otherAddress sampleAddress ++ [registerReply])
    started_bootWorld (by decide) [.silence] [] [] [] sampleAddress otherAddress sampleAddress
    ⟨0, 0⟩ (by simp [Bearable, Stimulus.Quiet, Stimulus.isSilence]) (by simp [Bearable])
    (by simp [Bearable]) (by simp [Bearable]) (by decide +kernel)

end OpenDSLite
