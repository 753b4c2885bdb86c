import OpenDSLite.ServerLoop

/-!
# What initialisation does

`InitDSContext` writes into the shared context as it goes and takes nothing back: the name is
stored before the DNS server is resolved, the server address before the endpoints are created, and
an endpoint that was created stays open. The status, the mode and the counters are set last, so a
failed initialisation does not touch them.
-/

namespace OpenDSLite

/-- A name that is neither blank nor too long. -/
def AcceptableName (s : CString) : Prop := s.val ≠ [] ∧ s.val.length < maxDSId

namespace Environment

variable (env : Environment)

def endpoint (fd : UInt32) (port : UInt16) : UInt32 :=
  if fd = invalidSocket then env.dtplinkOpenPort port else fd

/-- Both endpoints were open or can be opened. -/
def EndpointsExist (w : World) : Prop :=
  env.endpoint w.endpointInternet defaultDSRemotePort ≠ invalidSocket ∧
    env.endpoint w.endpointIntranet defaultDSLocalPort ≠ invalidSocket

/-- The context with the name, the server at `addr` and the two endpoints. -/
def configured (s : CString) (addr : UInt32) (w : World) : World :=
  { w with
    endpointInternet := env.endpoint w.endpointInternet defaultDSRemotePort
    endpointIntranet := env.endpoint w.endpointIntranet defaultDSLocalPort
    ctx := { w.ctx with
      mID := s
      mDNS := ⟨stunPort, ntohl addr⟩
      mCS1 := ⟨stunPort, ntohl addr⟩
      mRemoteFd := env.endpoint w.endpointInternet defaultDSRemotePort
      mLocalFd := env.endpoint w.endpointIntranet defaultDSLocalPort } }

/-- The context at the end of a successful initialisation, before the first request. -/
def ready (w : World) : World :=
  { w with ctx := { w.ctx with
      requestInfo := cRequestBufferInit w.ctx.requestInfo
      responseInfo := cResponseBufferInit w.ctx.responseInfo
      mHearbeatTime := dsHeartbeatInterval
      mRunningMode := .remoteDirectMode
      mStatus := .startup
      mRecvRetryCount := 0
      mSendRetryCount := 0 } }

theorem dtplinkGetLocalEndpointInternet_eq (w : World) :
    env.dtplinkGetLocalEndpointInternet w =
      { w with endpointInternet := env.endpoint w.endpointInternet defaultDSRemotePort } := by
  unfold dtplinkGetLocalEndpointInternet endpoint
  split_ifs <;> rfl

theorem dtplinkGetLocalEndpointIntranet_eq (w : World) :
    env.dtplinkGetLocalEndpointIntranet w =
      { w with endpointIntranet := env.endpoint w.endpointIntranet defaultDSLocalPort } := by
  unfold dtplinkGetLocalEndpointIntranet endpoint
  split_ifs <;> rfl

/-- The ways an initialisation on a working network ends. -/
inductive InitOutcome (dns : Option CString) (w : World) :
    Option CString → Except World (Bool × World) → Prop
  | rejected (id : Option CString) (hid : ∀ s ∈ id, ¬ AcceptableName s) :
      InitOutcome dns w id (.ok (false, w))
  | noHostEntry (s : CString) (hs : AcceptableName s)
      (hr : env.gethostbyname (dnsName dns) = none) :
      InitOutcome dns w (some s) (.error { w with ctx := { w.ctx with mID := s } })
  | noAddress (s : CString) (hs : AcceptableName s)
      (hr : env.gethostbyname (dnsName dns) = some 0) :
      InitOutcome dns w (some s) (.ok (false, { w with ctx := { w.ctx with mID := s } }))
  | noEndpoint (s : CString) (hs : AcceptableName s) (addr : UInt32) (hne : addr ≠ 0)
      (hr : env.gethostbyname (dnsName dns) = some addr) (hend : ¬ env.EndpointsExist w) :
      InitOutcome dns w (some s) (.ok (false, env.configured s addr w))
  | initialised (s : CString) (hs : AcceptableName s) (addr : UInt32) (hne : addr ≠ 0)
      (hr : env.gethostbyname (dnsName dns) = some addr) (hend : env.EndpointsExist w) :
      InitOutcome dns w (some s) (.ok (true, pingCenterServer (ready (env.configured s addr w))))

theorem not_endpointsExist_iff (w : World) : ¬ env.EndpointsExist w ↔
    env.endpoint w.endpointInternet defaultDSRemotePort = invalidSocket ∨
      env.endpoint w.endpointIntranet defaultDSLocalPort = invalidSocket := by
  unfold EndpointsExist
  tauto

theorem initDSContext_resolved (s : CString) (dns : Option CString) (w : World) (addr : UInt32)
    (hs : AcceptableName s) (hr : env.gethostbyname (dnsName dns) = some addr) (hne : addr ≠ 0) :
    env.initDSContext (some s) dns w =
      if env.endpoint w.endpointInternet defaultDSRemotePort = invalidSocket ∨
          env.endpoint w.endpointIntranet defaultDSLocalPort = invalidSocket then
        .ok (false, env.configured s addr w)
      else .ok (true, ready (env.configured s addr w)) := by
  simp only [initDSContext, if_neg hs.1, if_neg (Nat.not_le.mpr hs.2), dtplinkDNSResolve, hr,
    World.orFault_some, ok_bind, if_neg hne, dtplinkGetLocalEndpointInternet_eq,
    dtplinkGetLocalEndpointIntranet_eq]
  rfl

theorem initOutcome (id dns : Option CString) (w : World) (hnet : env.initNetwork = true) :
    env.InitOutcome dns w id (env.dtplinkDSInit id dns w) := by
  rw [dtplinkDSInit, if_pos hnet]
  by_cases hid : ∃ s ∈ id, AcceptableName s
  · obtain ⟨s, rfl, hs⟩ := hid
    cases hr : env.gethostbyname (dnsName dns) with
    | none =>
      simp only [initDSContext, if_neg hs.1, if_neg (Nat.not_le.mpr hs.2), dtplinkDNSResolve, hr,
        World.orFault_none, error_bind]
      exact .noHostEntry s hs hr
    | some addr =>
      by_cases hne : addr = 0
      · subst hne
        simp only [initDSContext, if_neg hs.1, if_neg (Nat.not_le.mpr hs.2), dtplinkDNSResolve, hr,
          World.orFault_some, ok_bind, if_true]
        exact .noAddress s hs hr
      · rw [env.initDSContext_resolved s dns w addr hs hr hne]
        by_cases hend : env.EndpointsExist w
        · rw [if_neg (fun hbad => (env.not_endpointsExist_iff w).2 hbad hend)]
          exact .initialised s hs addr hne hr hend
        · rw [if_pos ((env.not_endpointsExist_iff w).1 hend)]
          exact .noEndpoint s hs addr hne hr hend
  · have hrejected : env.initDSContext id dns w = .ok (false, w) := by
      cases id with
      | none => rfl
      | some s =>
        simp only [initDSContext]
        split_ifs with hempty hlong
        · rfl
        · rfl
        · exact absurd ⟨s, rfl, hempty, Nat.not_le.mp hlong⟩ hid
    rw [hrejected]
    exact .rejected id (fun s hs hok => hid ⟨s, hs, hok⟩)

end Environment

theorem pingCenterServer_ctx (w : World) :
    (pingCenterServer w).ctx = { w.ctx with mStatus := .waitCsPhase1 } := by
  unfold pingCenterServer
  split_ifs
  · rfl
  · rfl

/-- What a failed initialisation leaves behind. Only a rejected name has no effect at all. -/
structure FailedInit (env : Environment) (id dns : Option CString) (w w' : World) : Prop where
  silent : w'.log = w.log
  status : w'.ctx.mStatus = w.ctx.mStatus
  mode : w'.ctx.mRunningMode = w.ctx.mRunningMode
  counters : w'.ctx.mRecvRetryCount = w.ctx.mRecvRetryCount ∧
    w'.ctx.mSendRetryCount = w.ctx.mSendRetryCount
  rejected : (∀ s ∈ id, ¬ AcceptableName s) → w' = w
  unresolved : ∀ s ∈ id, AcceptableName s → env.gethostbyname (dnsName dns) = some 0 →
    w' = { w with ctx := { w.ctx with mID := s } }
  unopened : ∀ s ∈ id, AcceptableName s → ∀ addr ≠ 0,
    env.gethostbyname (dnsName dns) = some addr → w' = env.configured s addr w

namespace Environment.InitOutcome

variable {env : Environment} {id dns : Option CString} {w w' : World} {ret : Bool}

theorem ready (h : env.InitOutcome dns w id (.ok (true, w'))) :
    w'.ctx.mStatus = .waitCsPhase1 ∧ w'.ctx.mRunningMode = .remoteDirectMode ∧
      w'.ctx.mRecvRetryCount = 0 ∧ w'.ctx.mSendRetryCount = 0 := by
  cases h with
  | initialised s hs addr hne hr hend =>
    rw [pingCenterServer_ctx]
    exact ⟨rfl, rfl, rfl, rfl⟩

theorem failed (h : env.InitOutcome dns w id (.ok (false, w'))) : FailedInit env id dns w w' := by
  cases h with
  | rejected id hid =>
    exact ⟨rfl, rfl, rfl, ⟨rfl, rfl⟩, fun _ => rfl, fun s hs hok => absurd hok (hid s hs),
      fun s hs hok => absurd hok (hid s hs)⟩
  | noAddress s hs hr =>
    refine ⟨rfl, rfl, rfl, ⟨rfl, rfl⟩, fun hid => absurd hs (hid s rfl), ?_, ?_⟩
    · rintro s' hs' - -
      rw [Option.some.inj hs']
    · rintro s' - - addr hne haddr
      exact absurd (Option.some.inj (haddr.symm.trans hr)) hne
  | noEndpoint s hs addr hne hr hend =>
    refine ⟨rfl, rfl, rfl, ⟨rfl, rfl⟩, fun hid => absurd hs (hid s rfl), ?_, ?_⟩
    · rintro s' - - haddr
      exact absurd (Option.some.inj (hr.symm.trans haddr)) hne
    · rintro s' hs' - addr' - haddr
      rw [Option.some.inj hs', Option.some.inj (haddr.symm.trans hr)]

theorem succeeds_iff (h : env.InitOutcome dns w id (.ok (ret, w'))) :
    ret = true ↔ (∃ s ∈ id, AcceptableName s) ∧
      (∃ addr ≠ 0, env.gethostbyname (dnsName dns) = some addr) ∧ env.EndpointsExist w := by
  cases h with
  | rejected id hid =>
    refine iff_of_false (by decide) ?_
    rintro ⟨⟨s, hs, hok⟩, -⟩
    exact hid s hs hok
  | noAddress s hs hr =>
    refine iff_of_false (by decide) ?_
    rintro ⟨-, ⟨addr, hne, haddr⟩, -⟩
    exact hne (Option.some.inj (haddr.symm.trans hr))
  | noEndpoint s hs addr hne hr hend => exact iff_of_false (by decide) (fun h => hend h.2.2)
  | initialised s hs addr hne hr hend =>
    exact iff_of_true rfl ⟨⟨s, rfl, hs⟩, ⟨addr, hne, hr⟩, hend⟩

/-- Only a missing host entry keeps an initialisation from returning. -/
theorem returns {result : Except World (Bool × World)} (h : env.InitOutcome dns w id result)
    (hhost : ∀ s ∈ id, AcceptableName s → (env.gethostbyname (dnsName dns)).isSome) :
    ∃ ret w', result = .ok (ret, w') := by
  cases h with
  | noHostEntry s hs hr =>
    have hentry := hhost s rfl hs
    rw [hr] at hentry
    exact absurd hentry (by decide)
  | rejected | noAddress | noEndpoint | initialised => exact ⟨_, _, rfl⟩

end Environment.InitOutcome

/-- With an acceptable name initialisation has no result exactly where no host entry is found. -/
theorem Environment.init_error_iff (env : Environment) (s : CString) (dns : Option CString)
    (w : World) (hs : AcceptableName s) :
    (∃ w', env.dtplinkDSInit (some s) dns w = .error w') ↔
      env.initNetwork = true ∧ env.gethostbyname (dnsName dns) = none := by
  by_cases hnet : env.initNetwork = true
  · have houtcome := env.initOutcome (some s) dns w hnet
    generalize env.dtplinkDSInit (some s) dns w = result at houtcome ⊢
    cases houtcome with
    | rejected id hid => exact absurd hs (hid s rfl)
    | noHostEntry s hs hr => exact iff_of_true ⟨_, rfl⟩ ⟨hnet, hr⟩
    | noAddress s hs hr => exact iff_of_false (by simp) (by simp [hr])
    | noEndpoint s hs addr hne hr | initialised s hs addr hne hr =>
      exact iff_of_false (by simp) (by simp [hr])
  · rw [Environment.dtplinkDSInit, if_neg hnet]
    exact iff_of_false (by simp) (fun h => hnet h.1)

/-- An initialisation that finds a host entry whenever it looks for one returns. It succeeds if and
only if the name is acceptable, the address is not zero and both endpoints exist. -/
theorem init_verdict (env : Environment) (id dns : Option CString) (w : World)
    (hnet : env.initNetwork = true)
    (hhost : ∀ s ∈ id, AcceptableName s → (env.gethostbyname (dnsName dns)).isSome) :
    ∃ ret w', env.dtplinkDSInit id dns w = .ok (ret, w') ∧
      (ret = true ↔ (∃ s ∈ id, AcceptableName s) ∧
        (∃ addr ≠ 0, env.gethostbyname (dnsName dns) = some addr) ∧ env.EndpointsExist w) ∧
      (ret = true → w'.ctx.mStatus = .waitCsPhase1 ∧ w'.ctx.mRecvRetryCount = 0 ∧
        w'.ctx.mSendRetryCount = 0) ∧
      (ret = false → FailedInit env id dns w w') := by
  have houtcome := env.initOutcome id dns w hnet
  obtain ⟨ret, w', hresult⟩ := houtcome.returns hhost
  rw [hresult] at houtcome
  refine ⟨ret, w', hresult, houtcome.succeeds_iff, ?_, ?_⟩
  · rintro rfl
    obtain ⟨hstatus, -, hcounters⟩ := houtcome.ready
    exact ⟨hstatus, hcounters⟩
  · rintro rfl
    exact houtcome.failed

theorem init_verdict_loopbackHost : ∃ ret w',
    loopbackHost.dtplinkDSInit (some sampleName) none staticWorld = .ok (ret, w') ∧
    (ret = true ↔ (∃ s ∈ some sampleName, AcceptableName s) ∧
      (∃ addr ≠ 0, loopbackHost.gethostbyname (dnsName none) = some addr) ∧
      loopbackHost.EndpointsExist staticWorld) ∧
    (ret = true → w'.ctx.mStatus = .waitCsPhase1 ∧ w'.ctx.mRecvRetryCount = 0 ∧
      w'.ctx.mSendRetryCount = 0) ∧
    (ret = false → FailedInit loopbackHost (some sampleName) none staticWorld w') :=
  init_verdict loopbackHost (some sampleName) none staticWorld rfl (fun _ _ _ => rfl)

def busyHost : Environment := { loopbackHost with bind := fun port => port != defaultDSLocalPort }

def zeroHost : Environment := { loopbackHost with gethostbyname := fun _ => some 0 }

/-- On both hosts initialisation fails, on one with a new name, server and endpoint, on the other
with a new name. -/
theorem failed_half_initialised :
    (∃ w', busyHost.dtplinkDSInit (some sampleName) none staticWorld = .ok (false, w') ∧
      w'.ctx.mID ≠ staticWorld.ctx.mID ∧ w'.ctx.mDNS ≠ staticWorld.ctx.mDNS ∧
      w'.ctx.mCS1 ≠ staticWorld.ctx.mCS1 ∧ w'.ctx.mRemoteFd ≠ staticWorld.ctx.mRemoteFd) ∧
    ∃ w', zeroHost.dtplinkDSInit (some sampleName) none staticWorld = .ok (false, w') ∧
      w'.ctx.mID ≠ staticWorld.ctx.mID :=
  ⟨⟨_, rfl, by decide, by decide, by decide, by decide⟩, _, rfl, by decide⟩

end OpenDSLite
