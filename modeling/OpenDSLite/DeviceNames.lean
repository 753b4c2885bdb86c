import OpenDSLite.LoopSteps

/-!
# Device names on the wire

A name is accepted up to 255 characters. Registering puts four characters and a terminator around
it into an array of 256 bytes, and a query for it has two bytes in front and must leave two bytes
of the receive array free, so the longest accepted names can be neither registered nor asked for.
-/

namespace OpenDSLite

open ByteOrder ByteArea

/-- The message `DTPLink_DSHeartBeat` builds once and then sends every `mHearbeatTime`. -/
def dtplinkDSHeartBeatMsg (w : World) : Except World (List UInt8) :=
  let msg :=
    if w.ctx.mRunningMode = .remoteRelayMode then
      [registDSIPToDNSServer, space] ++ w.ctx.mID.val ++ [separater, 0x52]
    else [registDSIPToDNSServer, space] ++ w.ctx.mID.val ++ [separater, 0x44]
  if msg.length + 1 ≤ maxRtpMsgSize then .ok msg else .error w

theorem dtplinkDSHeartBeatMsg_eq (w : World) : dtplinkDSHeartBeatMsg w =
    if w.NameFits then .ok (registrationText w.ctx.mID w.ctx.mRunningMode) else .error w := by
  have hmsg : (if w.ctx.mRunningMode = .remoteRelayMode then
      [registDSIPToDNSServer, space] ++ w.ctx.mID.val ++ [separater, 0x52]
      else [registDSIPToDNSServer, space] ++ w.ctx.mID.val ++ [separater, 0x44]) =
      registrationText w.ctx.mID w.ctx.mRunningMode := by
    cases hmode : w.ctx.mRunningMode with
    | remoteRelayMode => rfl
    | remoteDirectMode => rfl
    | localMode => rfl
  simp only [dtplinkDSHeartBeatMsg, hmsg, World.length_registrationText]
  rfl

/-- The two bytes in front of a queried name; the second is not looked at. -/
def localNameQuery (second : UInt8) (id : CString) : List UInt8 :=
  queryDSIPToLocalDS :: second :: id.val

/-- The name can be registered, in the same words by `RegisterDS` and by the heartbeat, and a
query for it is received and answered. -/
structure UsableOnWire (P : Platform) (main : DeviceServer) (id : CString) : Prop where
  fits : ∀ mode, (registrationText id mode).length + 1 ≤ maxRtpMsgSize
  registered : ∀ w : World, w.ctx.mID = id → ∃ w', registerDS w = .ok w' ∧
    w'.log = .send ⟨.registerDS, w.ctx.mRemoteFd, registrationText id w.ctx.mRunningMode,
      w.ctx.mDNS⟩ :: w.log
  repeated : ∀ w : World, w.ctx.mID = id →
    dtplinkDSHeartBeatMsg w = .ok (registrationText id w.ctx.mRunningMode)
  answered : ∀ (w : World) (src : IPv4Address) (second : UInt8), w.ctx.mStatus = .online →
    w.ctx.mID = id → (dtplinkRecv (.data src (localNameQuery second id))).isSome ∧
      ∃ w', dtplinkDSLoop P main w (.data src (localNameQuery second id)) = .ok w' ∧
        w'.log = .send ⟨.processLocalDNSQueryRequest, w.ctx.mRemoteFd, [queryDSIPToLocalDS],
          src⟩ :: w.log

theorem nameFits_iff (w : World) : w.NameFits ↔ w.ctx.mID.val.length ≤ 251 := by
  have hm := maxRtpMsgSize_eq
  unfold World.NameFits
  omega

def nameQueryFrom (src : IPv4Address) (second : UInt8) (id : CString)
    (h : id.val.length ≤ 252) : Datagram :=
  ⟨src, localNameQuery second id, Nat.succ_pos _, by
    have hm := maxRtpMsgSize_eq
    change id.val.length + 1 + 1 + 1 < maxRtpMsgSize
    omega⟩

theorem name_nameQueryFrom (src : IPv4Address) (second : UInt8) (id : CString)
    (h : id.val.length ≤ 252) : (nameQueryFrom src second id h).name = id := by
  have hm := maxRtpMsgSize_eq
  have hname := (nameQueryFrom src second id h).cstring_payload
  have hpos : 0 < maxRtpMsgSize - (localNameQuery second id).length := by
    change 0 < maxRtpMsgSize - (id.val.length + 1 + 1)
    omega
  exact Option.some.inj (hname.symm.trans (cstringOf_append_zeros id _ hpos))

theorem nameQuery_answered (P : Platform) (main : DeviceServer) (w : World) (src : IPv4Address)
    (second : UInt8) (hs : w.ctx.mStatus = .online) (h : w.ctx.mID.val.length ≤ 252) :
    dtplinkDSLoop P main w (.data src (localNameQuery second w.ctx.mID)) =
      .ok (processLocalDNSQueryRequest src w.resetBuffers) := by
  have hname := name_nameQueryFrom src second w.ctx.mID h
  have hserve := processClientRequests_localQuery P main w (nameQueryFrom src second w.ctx.mID h)
    rfl
  rw [if_pos hname.symm] at hserve
  exact (dtplinkDSLoop_online P main w (nameQueryFrom src second w.ctx.mID h) hs).trans hserve

/-- A name is usable on the wire exactly when it leaves room for the words of the registration. -/
theorem usableOnWire_iff (P : Platform) (main : DeviceServer) (id : CString) :
    UsableOnWire P main id ↔ id.val.length ≤ 251 := by
  have hm := maxRtpMsgSize_eq
  constructor
  · intro h
    have hfits := h.fits .remoteDirectMode
    rw [World.length_registrationText] at hfits
    omega
  · intro h
    refine ⟨fun mode => ?_, ?_, ?_, ?_⟩
    · rw [World.length_registrationText]
      omega
    · rintro w rfl
      exact ⟨_, World.registerDS_of_fits w ((nameFits_iff w).2 h), rfl⟩
    · rintro w rfl
      rw [dtplinkDSHeartBeatMsg_eq, if_pos ((nameFits_iff w).2 h)]
    · rintro w src second hs rfl
      refine ⟨?_, _, nameQuery_answered P main w src second hs (by omega), rfl⟩
      rw [dtplinkRecv_isSome_iff]
      change 0 < w.ctx.mID.val.length + 1 + 1 ∧ w.ctx.mID.val.length + 1 + 1 + 1 < maxRtpMsgSize
      omega

def longestName : CString :=
  ⟨List.replicate 255 0x61, fun h => absurd (List.eq_of_mem_replicate h) (by decide)⟩

theorem length_longestName : longestName.val.length = 255 := List.length_replicate

theorem longestName_unusable :
    (∃ w, loopbackHost.initDSContext (some longestName) none staticWorld = .ok (true, w) ∧
      w.ctx.mID = longestName) ∧
    ¬ UsableOnWire .linux (fun _ _ => .done) longestName := by
  constructor
  · have hname : AcceptableName longestName :=
      ⟨List.ne_nil_of_length_pos (by rw [length_longestName]; decide),
        by rw [length_longestName]; decide⟩
    have hctx := loopbackHost.initDSContext_resolved longestName none staticWorld 0x0100007F hname
      rfl (by decide)
    rw [if_neg (by decide)] at hctx
    exact ⟨_, hctx, rfl⟩
  · intro h
    have hfits := h.fits .remoteDirectMode
    rw [World.length_registrationText, length_longestName] at hfits
    exact absurd hfits (by decide)

end OpenDSLite
