import OpenDSLite.DeviceNames
import OpenDSLite.ForwardStatus
import OpenDSLite.KeepAlive

/-!
# The loop and its heartbeat

`DTPLink_StartKeepAlive` starts a thread that prints the registration once and then sends it each
time `mHearbeatTime` has passed. The thread reads the context of the loop. It is taken to do so
between two iterations, but between any two, and its first step may come at any time.
-/

namespace OpenDSLite

/-- A thread before and after it has printed its message. -/
inductive HeartBeat
  | started
  | beating (fd : UInt32) (msg : List UInt8)
  deriving DecidableEq

structure Beat where
  fd : UInt32
  msg : List UInt8
  dst : IPv4Address
  deriving DecidableEq

structure Process where
  world : World
  threads : List HeartBeat
  beats : List Beat

/-- Whose turn it is: the loop polls, or a thread takes its next step. -/
inductive Move
  | poll (r : RecvFrom)
  | print (i : ℕ)
  | beat (i : ℕ)

def Move.poll? : Move → Option RecvFrom
  | poll r => some r
  | _ => none

namespace Process

def entered (w : World) : Process := ⟨w, [], []⟩

/-- An iteration of the loop and the threads it starts. -/
def poll (P : Platform) (main : DeviceServer) (r : RecvFrom) (p : Process) :
    Except Process Process :=
  match dtplinkDSLoop P main p.world r with
  | .ok w => .ok { p with
      world := w
      threads := p.threads ++
        List.replicate (keepAlives w.log - keepAlives p.world.log) .started }
  | .error w => .error { p with world := w }

def print (i : ℕ) (p : Process) : Except Process Process :=
  match p.threads[i]? with
  | some .started =>
      match dtplinkDSHeartBeatMsg p.world with
      | .ok msg => .ok { p with threads := p.threads.set i (.beating p.world.ctx.mRemoteFd msg) }
      | .error w => .error { p with world := w }
  | _ => .ok p

/-- One round of the loop of `DTPLink_DSHeartBeat`. -/
def beat (i : ℕ) (p : Process) : Process :=
  match p.threads[i]? with
  | some (.beating fd msg) => { p with beats := ⟨fd, msg, p.world.ctx.mDNS⟩ :: p.beats }
  | _ => p

def step (P : Platform) (main : DeviceServer) (p : Process) : Move → Except Process Process
  | .poll r => p.poll P main r
  | .print i => p.print i
  | .beat i => .ok (p.beat i)

end Process

/-- The message is the registration the server would send now, or the one for relay mode where it
has fallen back to local mode. -/
def World.Repeats (w : World) (fd : UInt32) (msg : List UInt8) : Prop :=
  fd = w.ctx.mRemoteFd ∧ (msg = registrationText w.ctx.mID w.ctx.mRunningMode ∨
    w.ctx.mRunningMode = .localMode ∧ msg = registrationText w.ctx.mID .remoteRelayMode)

def World.HasRegistered (w : World) : Prop :=
  ∃ mode, Event.send ⟨.registerDS, w.ctx.mRemoteFd, registrationText w.ctx.mID mode, w.ctx.mDNS⟩ ∈
    w.log

/-- What an iteration means for the threads: none is started, and a registered server changes its
mode to local mode at most, or the reply of the third phase starts one. -/
theorem keepAlives_step (P : Platform) (main : DeviceServer) (w w' : World) (r : RecvFrom)
    (h : dtplinkDSLoop P main w r = .ok w') : (∃ events, w'.log = events ++ w.log) ∧
      ((keepAlives w'.log = keepAlives w.log ∧ (3 < w.ctx.mStatus.rank →
        w'.ctx.mRunningMode = w.ctx.mRunningMode ∨ w'.ctx.mRunningMode = .localMode)) ∨
      (w.ctx.mStatus = .waitCsPhase3 ∧ w.NameFits ∧ w'.HasRegistered ∧
        keepAlives w'.log = keepAlives w.log + 1)) := by
  have hearly : ∀ {s : DSStatus}, w.ctx.mStatus = s → s.rank ≤ 3 → ¬ 3 < w.ctx.mStatus.rank := by
    intro s hs hrank
    rw [hs]
    omega
  cases loopStep_of_ok P main w w' r h with
  | phase1Reply d hr hs ha =>
    exact ⟨⟨[_], rfl⟩, Or.inl ⟨keepAlives_send _ _, fun hlate =>
      absurd hlate (hearly hs (by decide))⟩⟩
  | phase2Reply d hr hs ha a hm =>
    have hcount := keepAlives_afterPhase2 a d w
    obtain ⟨ip, mode, flag, events, he, -⟩ := afterPhase2_eq a d w
    refine ⟨⟨events, by rw [he]⟩, Or.inl ⟨hcount, fun hlate =>
      absurd hlate (hearly hs (by decide))⟩⟩
  | phase3Reply d hr hs ha a hm hn =>
    refine ⟨⟨[.startKeepAlive, _], rfl⟩, Or.inr ⟨hs, hn, ⟨w.ctx.mRunningMode, ?_⟩, ?_⟩⟩
    · exact List.mem_cons_of_mem _ List.mem_cons_self
    · change keepAlives (.startKeepAlive :: .send _ :: w.log) = _
      rw [keepAlives_start, keepAlives_send]
  | dnsReply d hr hs ha => exact ⟨⟨[], rfl⟩, Or.inl ⟨rfl, fun _ => Or.inl rfl⟩⟩
  | ignored d hr hs ha => exact ⟨⟨[], rfl⟩, Or.inl ⟨rfl, fun _ => Or.inl rfl⟩⟩
  | served d w' hr hs hserved =>
    rcases onlineStep_of_ok P main w w' r hs h with rfl | ⟨req, resp, events, rfl, hev⟩
    · exact ⟨⟨[], rfl⟩, Or.inl ⟨rfl, fun _ => Or.inl rfl⟩⟩
    · exact ⟨⟨events, rfl⟩, Or.inl ⟨keepAlives_service events w.log hev, fun _ => Or.inl rfl⟩⟩
  | counted hr hc => exact ⟨⟨[], rfl⟩, Or.inl ⟨rfl, fun _ => Or.inl rfl⟩⟩
  | retransmitted hr hw hsend hrecv =>
    have hcount : keepAlives
        (w.addRecvRetryCount.resetRecvRetryCount.request.addSendRetryCount).log =
        keepAlives w.log := keepAlives_request _
    obtain ⟨flag, flag', events, he, -⟩ := w.retransmitted_eq hw
    rw [he] at hcount ⊢
    exact ⟨⟨events, rfl⟩, Or.inl ⟨hcount, fun _ => Or.inl rfl⟩⟩
  | gaveUp hr hw hsend =>
    rcases w.gaveUp_eq hw with ⟨hs, hg⟩ | ⟨hs, hg⟩
    · rw [hg]
      exact ⟨⟨[], rfl⟩, Or.inl ⟨rfl, fun _ => Or.inr rfl⟩⟩
    · have hrank : ¬ 3 < w.ctx.mStatus.rank := by
        rcases hs with hs | hs
        · exact hearly hs (by decide)
        · exact hearly hs (by decide)
      rw [hg]
      exact ⟨⟨[_], rfl⟩, Or.inl ⟨keepAlives_send _ _, fun hlate => absurd hlate hrank⟩⟩

/-- What holds between the loop and the threads since it was entered with `n` of them started. -/
structure HeartBeatInvariant (n : ℕ) (p : Process) : Prop where
  loop : KeepAliveInvariant n False p.world
  count : p.threads.length + n = keepAlives p.world.log
  registered : p.threads ≠ [] → p.world.NameFits ∧ p.world.HasRegistered
  printed : ∀ fd msg, .beating fd msg ∈ p.threads → p.world.Repeats fd msg
  sent : ∀ b ∈ p.beats, p.threads ≠ [] ∧ p.world.Repeats b.fd b.msg ∧ b.dst = p.world.ctx.mDNS

theorem keepAlives_of_early {n : ℕ} {completed : Prop} {w : World}
    (h : KeepAliveInvariant n completed w) (hrank : w.ctx.mStatus.rank ≤ 3) :
    keepAlives w.log = n := by
  unfold KeepAliveInvariant at h
  cases hs : w.ctx.mStatus with
  | waitDNS | online =>
    rw [hs] at hrank
    exact absurd hrank (by decide)
  | _ => simpa only [hs] using h

theorem keepAlives_le {n : ℕ} {completed : Prop} {w : World}
    (h : KeepAliveInvariant n completed w) : keepAlives w.log ≤ n + 1 := by
  unfold KeepAliveInvariant at h
  cases hs : w.ctx.mStatus with
  | waitDNS | online =>
    simp only [hs] at h
    exact h.1
  | _ =>
    simp only [hs] at h
    omega

/-- Direct and local mode are registered in the same words, so the message stays good when the
server falls back to local mode. -/
theorem World.Repeats.forward {w w' : World} {fd : UInt32} {msg : List UInt8}
    (h : w.Repeats fd msg) (hframe : Frame w w')
    (hmode : w'.ctx.mRunningMode = w.ctx.mRunningMode ∨ w'.ctx.mRunningMode = .localMode) :
    w'.Repeats fd msg := by
  obtain ⟨hfd, hmsg⟩ := h
  refine ⟨hfd.trans hframe.mRemoteFd.symm, ?_⟩
  rw [hframe.mID]
  rcases hmsg with rfl | ⟨hlocal, rfl⟩
  · rcases hmode with hsame | hlocal'
    · exact Or.inl (by rw [hsame])
    · rw [hlocal']
      cases w.ctx.mRunningMode with
      | remoteRelayMode => exact Or.inr ⟨rfl, rfl⟩
      | remoteDirectMode | localMode => exact Or.inl rfl
  · refine Or.inr ⟨?_, rfl⟩
    rcases hmode with hsame | hlocal'
    · exact hsame.trans hlocal
    · exact hlocal'

theorem World.HasRegistered.forward {w w' : World} (h : w.HasRegistered) (hframe : Frame w w')
    (hlog : ∃ events, w'.log = events ++ w.log) : w'.HasRegistered := by
  obtain ⟨mode, hmem⟩ := h
  obtain ⟨events, hlog⟩ := hlog
  refine ⟨mode, ?_⟩
  rw [hframe.mRemoteFd, hframe.mID, hframe.mDNS, hlog]
  exact List.mem_append_right _ hmem

namespace HeartBeatInvariant

variable {n : ℕ} {p p' : Process}

theorem entered (w : World) (hs : w.ctx.mStatus = .waitCsPhase1) :
    HeartBeatInvariant (keepAlives w.log) (.entered w) where
  loop := by
    change KeepAliveInvariant _ False w
    simp only [KeepAliveInvariant, hs]
  count := Nat.zero_add _
  registered h := absurd rfl h
  printed _ _ h := absurd h List.not_mem_nil
  sent _ h := absurd h List.not_mem_nil

/-- With a thread about, the server has left the probing. -/
theorem late (h : HeartBeatInvariant n p) (ht : p.threads ≠ []) : 3 < p.world.ctx.mStatus.rank := by
  by_contra hearly
  have hnone := keepAlives_of_early h.loop (Nat.not_lt.mp hearly)
  have hcount := h.count
  have hpos := List.length_pos_iff.mpr ht
  omega

theorem poll (P : Platform) (main : DeviceServer) (r : RecvFrom) (h : HeartBeatInvariant n p)
    (hpoll : p.poll P main r = .ok p') : HeartBeatInvariant n p' := by
  unfold Process.poll at hpoll
  cases hstep : dtplinkDSLoop P main p.world r with
  | error w => simp only [hstep] at hpoll; exact absurd hpoll (by simp)
  | ok w =>
    simp only [hstep] at hpoll
    obtain rfl := Except.ok.inj hpoll
    have hframe := (forward_step P main p.world w r hstep).frame
    have hloop := keepAliveInvariant_step P main n False p.world w r h.loop False.elim hstep
    have hcount := h.count
    obtain ⟨hlog, ⟨hnone, hmode⟩ | ⟨hs, hfits, hregistered, hone⟩⟩ :=
      keepAlives_step P main p.world w r hstep
    · have hthreads : p.threads ++
          List.replicate (keepAlives w.log - keepAlives p.world.log) .started = p.threads := by
        rw [hnone, Nat.sub_self, List.replicate_zero, List.append_nil]
      rw [hthreads]
      refine ⟨hloop, hcount.trans hnone.symm, fun ht => ?_, fun fd msg hmem => ?_, fun b hb => ?_⟩
      · obtain ⟨hfits, hregistered⟩ := h.registered ht
        refine ⟨?_, hregistered.forward hframe hlog⟩
        unfold World.NameFits at hfits ⊢
        rwa [hframe.mID]
      · exact (h.printed fd msg hmem).forward hframe (hmode (h.late (List.ne_nil_of_mem hmem)))
      · obtain ⟨ht, hrepeats, hdst⟩ := h.sent b hb
        exact ⟨ht, hrepeats.forward hframe (hmode (h.late ht)), hdst.trans hframe.mDNS.symm⟩
    · -- the first thread of all
      have hnil : p.threads = [] := by
        by_contra ht
        have hlate := h.late ht
        rw [hs] at hlate
        exact absurd hlate (by decide)
      have hbeats : ∀ b, b ∉ p.beats := fun b hb => (h.sent b hb).1 hnil
      have hthreads : p.threads ++
          List.replicate (keepAlives w.log - keepAlives p.world.log) .started = [.started] := by
        rw [hone, Nat.add_sub_cancel_left, hnil]
        rfl
      rw [hnil, List.length_nil] at hcount
      rw [hthreads]
      refine ⟨hloop, ?_, fun _ => ⟨?_, hregistered⟩, fun fd msg hmem => ?_, fun b hb =>
        absurd hb (hbeats b)⟩
      · change 1 + n = keepAlives w.log
        omega
      · unfold World.NameFits at hfits ⊢
        rwa [hframe.mID]
      · rw [List.mem_singleton] at hmem
        exact absurd hmem (by simp)

theorem print (i : ℕ) (h : HeartBeatInvariant n p) :
    ∃ p', p.print i = .ok p' ∧ p'.world = p.world ∧ HeartBeatInvariant n p' := by
  unfold Process.print
  cases ht : p.threads[i]? with
  | none => exact ⟨p, rfl, rfl, h⟩
  | some t =>
    cases t with
    | beating fd msg => exact ⟨p, rfl, rfl, h⟩
    | started =>
      have hne : p.threads ≠ [] := List.ne_nil_of_mem (List.mem_of_getElem? ht)
      have hmsg : dtplinkDSHeartBeatMsg p.world =
          .ok (registrationText p.world.ctx.mID p.world.ctx.mRunningMode) := by
        rw [dtplinkDSHeartBeatMsg_eq, if_pos (h.registered hne).1]
      simp only [hmsg]
      refine ⟨_, rfl, rfl, h.loop, ?_, fun _ => h.registered hne, fun fd msg hmem => ?_,
        fun b hb => ⟨?_, (h.sent b hb).2⟩⟩
      · rw [List.length_set]
        exact h.count
      · rcases List.mem_or_eq_of_mem_set hmem with hmem | heq
        · exact h.printed fd msg hmem
        · obtain ⟨rfl, rfl⟩ := HeartBeat.beating.inj heq
          exact ⟨rfl, Or.inl rfl⟩
      · rw [ne_eq, ← List.length_eq_zero_iff, List.length_set, List.length_eq_zero_iff]
        exact hne

theorem beat (i : ℕ) (h : HeartBeatInvariant n p) :
    (p.beat i).world = p.world ∧ HeartBeatInvariant n (p.beat i) := by
  unfold Process.beat
  cases ht : p.threads[i]? with
  | none => exact ⟨rfl, h⟩
  | some t =>
    cases t with
    | started => exact ⟨rfl, h⟩
    | beating fd msg =>
      have hmem := List.mem_of_getElem? ht
      refine ⟨rfl, h.loop, h.count, h.registered, h.printed, fun b hb => ?_⟩
      rcases List.mem_cons.mp hb with rfl | hb
      · exact ⟨List.ne_nil_of_mem hmem, h.printed fd msg hmem, rfl⟩
      · exact h.sent b hb

theorem step (P : Platform) (main : DeviceServer) (m : Move) (h : HeartBeatInvariant n p)
    (hstep : p.step P main m = .ok p') : HeartBeatInvariant n p' := by
  cases m with
  | poll r => exact h.poll P main r hstep
  | print i =>
    obtain ⟨q, hq, -, hinv⟩ := h.print i
    obtain rfl := Except.ok.inj (hq.symm.trans hstep)
    exact hinv
  | beat i =>
    obtain rfl := Except.ok.inj hstep
    exact (h.beat i).2

end HeartBeatInvariant

/-- Whenever the threads take their steps, none of them leaves an array, and the loop gets exactly
as far and to the same world as without them. -/
theorem heartbeats_transparent (P : Platform) (main : DeviceServer) (w : World) (moves : List Move)
    (hs : Started w) :
    (PartialRun.run (Process.step P main) (.entered w) moves).toOption.map Process.world =
      (runLoop P main w (moves.filterMap Move.poll?)).toOption := by
  refine PartialRun.run_projected (dtplinkDSLoop P main) Process.world Move.poll?
    (HeartBeatInvariant (keepAlives w.log)) (fun p m p' h hstep => h.step P main m hstep) ?_ ?_
    (.entered w) moves (.entered w (started_spec w hs).1)
  · intro p m r h hview
    cases m with
    | poll r' =>
      obtain rfl := Option.some.inj hview
      simp only [Process.step, Process.poll]
      cases dtplinkDSLoop P main p.world r' with
      | error e => rfl
      | ok w' => rfl
    | print i => exact absurd hview (by simp [Move.poll?])
    | beat i => exact absurd hview (by simp [Move.poll?])
  · intro p m h hview
    cases m with
    | poll r => exact absurd hview (by simp [Move.poll?])
    | print i =>
      obtain ⟨p', hprint, hworld, -⟩ := h.print i
      exact ⟨p', hprint, hworld⟩
    | beat i => exact ⟨p.beat i, rfl, (h.beat i).1⟩

/-- In every order of steps there is one thread at most. What it sends goes to the DNS server
through the socket of the loop, after a registration, and in the words of the registration the
server would send now; a server that has fallen back to local mode may still be announced for relay
mode. -/
theorem heartbeats_repeat (P : Platform) (main : DeviceServer) (w : World) (moves : List Move)
    (p : Process) (hs : Started w)
    (hrun : PartialRun.run (Process.step P main) (.entered w) moves = .ok p) :
    p.threads.length ≤ 1 ∧ ∀ b ∈ p.beats, p.world.HasRegistered ∧
      b.dst = p.world.ctx.mDNS ∧ p.world.Repeats b.fd b.msg := by
  have h : HeartBeatInvariant (keepAlives w.log) p :=
    PartialRun.invariant (HeartBeatInvariant (keepAlives w.log)) (fun _ _ => True)
      (fun q m q' hq _ hstep => hq.step P main m hstep) (.entered w) p moves
      (.entered w (started_spec w hs).1) (PartialRun.along_of_forall _ _ (fun _ _ => trivial) _ _)
      hrun
  have hcount := h.count
  have hle := keepAlives_le h.loop
  refine ⟨by omega, fun b hb => ?_⟩
  obtain ⟨ht, hrepeats, hdst⟩ := h.sent b hb
  exact ⟨(h.registered ht).2, hdst, hrepeats⟩

def beatingMoves : List Move :=
  (probeReplies sampleAddress sampleAddress sampleAddress).map .poll ++
    [.print 0, .beat 0, .poll registerReply, .poll .error, .beat 0]

theorem heartbeats_transparent_sample :
    (PartialRun.run (Process.step .linux fun _ _ => .done) (.entered (bootWorld sampleName))
      beatingMoves).toOption.map Process.world =
      (runLoop .linux (fun _ _ => .done) (bootWorld sampleName)
        (beatingMoves.filterMap Move.poll?)).toOption :=
  heartbeats_transparent .linux _ (bootWorld sampleName) beatingMoves started_bootWorld

theorem heartbeats_repeat_sample : ∃ p,
    PartialRun.run (Process.step .linux fun _ _ => .done) (.entered (bootWorld sampleName))
      beatingMoves = .ok p ∧ p.beats.length = 2 ∧
    p.threads.length ≤ 1 ∧ ∀ b ∈ p.beats, p.world.HasRegistered ∧
      b.dst = p.world.ctx.mDNS ∧ p.world.Repeats b.fd b.msg :=
  ⟨_, rfl, rfl, heartbeats_repeat .linux (fun _ _ => .done) _ beatingMoves _ started_bootWorld rfl⟩

end OpenDSLite
