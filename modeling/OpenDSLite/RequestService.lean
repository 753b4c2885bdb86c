import OpenDSLite.ClientAnswers
import OpenDSLite.ReplyEgress

/-!
# What serving a request shows

`service` collects what can be seen of an online server that receives a datagram: whether it stays
inside its objects, how it calls the user application, what the application learns from its calls,
and what is sent to whom. The request is read from cleared buffers, so nothing of an earlier one
shows, and behind the header all paths are the same.
-/

namespace OpenDSLite

inductive Observation
  | wrote (ret : ℤ)
  | read (ret : ℤ) (value : Destination)
  deriving DecidableEq

/-- A run of the application together with what it learns. -/
def Application.trace (P : Platform) : Application → CRequestBuffer → CResponseBuffer →
    List Observation × Option (CRequestBuffer × CResponseBuffer)
  | done, req, resp => ([], some (req, resp))
  | write c next, req, resp =>
      match c.run P resp with
      | none => ([], none)
      | some (ret, resp') =>
          let (seen, result) := (next ret).trace P req resp'
          (.wrote ret :: seen, result)
  | read d next, req, resp =>
      match d.read P req with
      | none => ([], none)
      | some (ret, value, req') =>
          let (seen, result) := (next ret value).trace P req' resp
          (.read ret value :: seen, result)

theorem trace_run (P : Platform) (app : Application) (req : CRequestBuffer)
    (resp : CResponseBuffer) : (app.trace P req resp).2 = app.run P req resp := by
  induction app generalizing req resp with
  | done => rfl
  | write c next ih =>
    simp only [Application.trace, Application.run]
    cases c.run P resp with
    | none => rfl
    | some r => exact ih r.1 req r.2
  | read d next ih =>
    simp only [Application.trace, Application.run]
    cases d.read P req with
    | none => rfl
    | some r => exact ih r.1 r.2.1 r.2.2 resp

def newEvents (w w' : World) : List Event := w'.log.take (w'.log.length - w.log.length)

theorem newEvents_eq (w w' : World) (events : List Event) (h : w'.log = events ++ w.log) :
    newEvents w w' = events := by
  rw [newEvents, h, List.length_append, Nat.add_sub_cancel]
  exact List.take_left' rfl

def applicationCalls (events : List Event) : List (Int16 × CRequestBuffer) :=
  events.filterMap fun
    | .deviceServerMain id req => some (id, req)
    | _ => none

def datagrams (events : List Event) : List (List UInt8 × IPv4Address) :=
  events.filterMap fun
    | .send s => some (s.msg, s.dst)
    | _ => none

/-- The response buffer the application finds; one that does nothing leaves it. -/
def responseAtCall (P : Platform) (d : Datagram) (w : World) : CResponseBuffer :=
  (outcome (dtplinkDSLoop P (fun _ _ => .done) w (.data d.src d.bytes))).ctx.responseInfo

structure Service where
  ended : Bool
  calls : List (Int16 × CRequestBuffer)
  seen : List (List Observation)
  sent : List (List UInt8 × IPv4Address)

/-- What can be seen when `d` arrives. -/
def service (P : Platform) (app : Int16 → Application) (d : Datagram) (w : World) : Service :=
  let result := dtplinkDSLoop P (fun _ id => app id) w (.data d.src d.bytes)
  let events := newEvents w (outcome result)
  { ended := result.isOk
    calls := applicationCalls events
    seen := (applicationCalls events).map fun (id, req) =>
      ((app id).trace P req (responseAtCall P d w)).1
    sent := datagrams events }

/-- The response of the application to a body, unless it leaves its buffers. -/
def responseTo (P : Platform) (app : Int16 → Application) (body : List UInt8) :
    Option (List UInt8) :=
  ((app (requestId body).toInt16).trace P (loadedRequest body)
    (echoedResponse (requestId body))).2.map fun (_, resp) =>
      resp.buffer.bytes.take resp.length.toNat

def replyTo (P : Platform) (app : Int16 → Application) (d : Datagram) : Option (List UInt8) :=
  (responseTo P app d.body).bind fun response =>
    if d.headerSize + response.length ≤ maxRtpMsgSize then some (d.replyHeader ++ response)
    else none

theorem headerSize_pos (d : Datagram) : 0 < d.headerSize := by
  unfold Datagram.headerSize
  split_ifs <;> decide

theorem responseAtCall_data (P : Platform) (w : World) (d : Datagram)
    (hs : w.ctx.mStatus = .online) (hid : d.IsDirect ∨ d.IsRelayed)
    (hn : d.headerSize ≤ d.bytes.length) :
    responseAtCall P d w = echoedResponse (requestId d.body) := by
  have hanswer : w.answer P (fun _ _ => .done) d.body =
      some (loadedRequest d.body, echoedResponse (requestId d.body)) := rfl
  rw [responseAtCall, dtplinkDSLoop_online P _ w d hs, processClientRequests_data P _ w d hid hn,
    hanswer]
  simp only
  split_ifs
  · rfl
  · rfl

/-- What is seen of a data request depends on its bytes and on the application only. -/
theorem service_data (P : Platform) (app : Int16 → Application) (w : World) (d : Datagram)
    (hs : w.ctx.mStatus = .online) (hid : d.IsDirect ∨ d.IsRelayed)
    (hn : d.headerSize ≤ d.bytes.length) : service P app d w =
      { ended := (replyTo P app d).isSome
        calls := [((requestId d.body).toInt16, loadedRequest d.body)]
        seen := [((app (requestId d.body).toInt16).trace P (loadedRequest d.body)
          (echoedResponse (requestId d.body))).1]
        sent := (replyTo P app d).toList.map fun msg => (msg, d.src) } := by
  have hanswer : w.answer P (fun _ id => app id) d.body =
      ((app (requestId d.body).toInt16).trace P (loadedRequest d.body)
        (echoedResponse (requestId d.body))).2 :=
    (trace_run P (app (requestId d.body).toInt16) _ _).symm
  simp only [service, responseAtCall_data P w d hs hid hn, replyTo, responseTo,
    dtplinkDSLoop_online P _ w d hs, processClientRequests_data P _ w d hid hn, hanswer]
  cases ((app (requestId d.body).toInt16).trace P (loadedRequest d.body)
    (echoedResponse (requestId d.body))).2 with
  | none =>
    have hev := newEvents_eq w (w.called d.body (loadedRequest d.body)
      (echoedResponse (requestId d.body))) [_, _] rfl
    simp only [outcome, hev]
    rfl
  | some r =>
    have hlen : d.headerSize + r.2.length.toNat ≤ maxRtpMsgSize ↔ d.headerSize +
        (r.2.buffer.bytes.take r.2.length.toNat).length ≤ maxRtpMsgSize := by
      have hbytes := r.2.buffer.length_bytes
      have hpos := headerSize_pos d
      rw [List.length_take]
      omega
    simp only [Option.map_some, Option.bind_some, ← hlen]
    split_ifs
    · have hev := newEvents_eq w ((w.called d.body r.1 r.2).dtplinkSend d.replySender
        (d.replyHeader ++ r.2.buffer.bytes.take r.2.length.toNat) d.src) [_, _, _] rfl
      simp only [outcome, hev]
      rfl
    · have hev := newEvents_eq w (w.called d.body r.1 r.2) [_, _] rfl
      simp only [outcome, hev]
      rfl

theorem service_of_ok (P : Platform) (app : Int16 → Application) (d : Datagram) (w w' : World)
    (events : List Event)
    (h : dtplinkDSLoop P (fun _ id => app id) w (.data d.src d.bytes) = .ok w')
    (hlog : w'.log = events ++ w.log) (hcalls : applicationCalls events = []) :
    service P app d w = { ended := true, calls := [], seen := [], sent := datagrams events } := by
  have hev := newEvents_eq w w' events hlog
  simp only [service, h, outcome, hev, hcalls]
  rfl

/-- Any other datagram gets a punch, an echo of the queried name, or nothing. -/
theorem service_query (P : Platform) (app : Int16 → Application) (d : Datagram) (w : World)
    (hs : w.ctx.mStatus = .online) (hid : ¬ (d.IsDirect ∨ d.IsRelayed)) : service P app d w =
      { ended := true, calls := [], seen := []
        sent :=
          if d.respId = queryDSIPToDNSServer then [([serverPunching], d.addressAt 2)]
          else if d.respId = queryDSIPToLocalDS ∧ w.ctx.mID = d.name then
            [([queryDSIPToLocalDS], d.src)]
          else [] } := by
  have hne : ¬ queryDSIPToLocalDS = queryDSIPToDNSServer := by decide
  have hserving := serving P (fun _ id => app id) w d
  rw [← dtplinkDSLoop_online P (fun _ id => app id) w d hs] at hserving
  generalize hresult : dtplinkDSLoop P (fun _ id => app id) w (.data d.src d.bytes) = result
    at hserving
  cases hserving with
  | headerIncomplete hdata | buffersLeft hdata | replyTooLong hdata | replied hdata =>
    exact absurd hdata hid
  | punched _ h43 =>
    rw [service_of_ok P app d w _ [_] hresult rfl rfl, if_pos h43]
    rfl
  | named _ h44 hname =>
    rw [service_of_ok P app d w _ [_] hresult rfl rfl, if_neg (fun h43 => hne (h44.symm.trans h43)),
      if_pos ⟨h44, hname⟩]
    rfl
  | cleared _ h43 hname =>
    rw [service_of_ok P app d w _ [] hresult rfl rfl, if_neg h43,
      if_neg (fun h => hname h.1 h.2)]
    rfl

/-- What is seen of an online server that receives a datagram does not depend on what it received
before. -/
theorem service_same (P : Platform) (app : Int16 → Application) (d : Datagram) (w₁ w₂ : World)
    (h₁ : w₁.ctx.mStatus = .online) (h₂ : w₂.ctx.mStatus = .online)
    (hname : w₁.ctx.mID = w₂.ctx.mID) (hn : d.headerSize ≤ d.bytes.length) :
    service P app d w₁ = service P app d w₂ := by
  by_cases hdata : d.IsDirect ∨ d.IsRelayed
  · rw [service_data P app w₁ d h₁ hdata hn, service_data P app w₂ d h₂ hdata hn]
  · rw [service_query P app d w₁ h₁ hdata, service_query P app d w₂ h₂ hdata, hname]

def servedWorld : World :=
  outcome (dtplinkDSLoop .linux (fun _ _ => .ofWrites [.word 7, .byte 1]) onlineWorld
    (.data plainRequest.src plainRequest.bytes))

theorem service_same_servedWorld :
    service .linux (fun _ => .ofWrites [.byte 1]) plainRequest onlineWorld =
      service .linux (fun _ => .ofWrites [.byte 1]) plainRequest servedWorld :=
  service_same .linux _ plainRequest onlineWorld servedWorld rfl (by decide +kernel)
    (by decide +kernel) (by decide)

/-- On every path a body reaches the application in the same way, once, and the response that the
longest header leaves room for is sent behind a header of the path's size. -/
theorem paths_served_alike (P : Platform) (app : Int16 → Application) (body : List UInt8)
    (w : World) (d : Datagram) (hs : w.ctx.mStatus = .online) (hid : d.IsDirect ∨ d.IsRelayed)
    (hn : d.headerSize ≤ d.bytes.length) (hbody : d.body = body) :
    (service P app d w).calls = [((requestId body).toInt16, loadedRequest body)] ∧
    ∀ response, responseTo P app body = some response → 14 + response.length ≤ maxRtpMsgSize →
      (service P app d w).ended = true ∧ ∃ header, header.length = d.headerSize ∧
        (service P app d w).sent = [(header ++ response, d.src)] := by
  subst hbody
  rw [service_data P app w d hs hid hn]
  refine ⟨rfl, fun response hresponse hfits => ?_⟩
  have hsize : d.headerSize ≤ 14 := by
    unfold Datagram.headerSize
    split_ifs <;> decide
  have hreply : replyTo P app d = some (d.replyHeader ++ response) := by
    rw [replyTo, hresponse, Option.bind_some, if_pos (by omega)]
  rw [hreply]
  exact ⟨rfl, d.replyHeader, d.length_replyHeader, rfl⟩

def tunnelledRequest : Datagram where
  src := otherAddress
  bytes := [queryDataHttpToRemoteDS, space] ++ addressBytes sampleAddress ++
    [separater, 0, 0, 0, 5, separater] ++ [0, 7]
  pos := by decide
  fits := by decide

theorem paths_served_alike_tunnelledRequest :
    (service .linux (fun _ => .ofWrites [.byte 1]) tunnelledRequest onlineWorld).calls =
      [((requestId [0, 7]).toInt16, loadedRequest [0, 7])] ∧
    ∀ response, responseTo .linux (fun _ => .ofWrites [.byte 1]) [0, 7] = some response →
      14 + response.length ≤ maxRtpMsgSize →
      (service .linux (fun _ => .ofWrites [.byte 1]) tunnelledRequest onlineWorld).ended = true ∧
      ∃ header, header.length = tunnelledRequest.headerSize ∧
        (service .linux (fun _ => .ofWrites [.byte 1]) tunnelledRequest onlineWorld).sent =
          [(header ++ response, tunnelledRequest.src)] :=
  paths_served_alike .linux _ [0, 7] onlineWorld tunnelledRequest rfl (Or.inr (Or.inr rfl))
    (by decide) rfl

end OpenDSLite
