import OpenDSLite.ForwardStatus
import OpenDSLite.ReplyLoops
import OpenDSLite.RequestService

/-!
# The service an online server gives

To its clients an online server is a machine that keeps the calls its application has had and the
datagrams it has sent, and nothing else: buffers, counters and failed polls do not show. When the
application remembers nothing either, what a client gets depends on what concerns that client.
-/

namespace OpenDSLite

abbrev Calls := List (Int16 × CRequestBuffer)

/-- An application that remembers its calls. -/
abbrev Responder := Calls → Int16 → Application

def Responder.deviceServer (app : Responder) : DeviceServer :=
  fun log id => app (applicationCalls log) id

/-- What clients can tell about the server, latest first. -/
structure Session where
  calls : Calls
  sent : List (List UInt8 × IPv4Address)

def World.session (w : World) : Session := ⟨applicationCalls w.log, datagrams w.log⟩

instance (d : Datagram) : Decidable (d.IsDirect ∨ d.IsRelayed) :=
  inferInstanceAs (Decidable ((_ ∨ _) ∨ _ ∨ _))

def queryReply (name : CString) (d : Datagram) : List (List UInt8 × IPv4Address) :=
  if d.respId = queryDSIPToDNSServer then [([serverPunching], d.addressAt 2)]
  else if d.respId = queryDSIPToLocalDS ∧ name = d.name then [([queryDSIPToLocalDS], d.src)]
  else []

/-- A data request calls the application, whose response must fit behind the header. -/
def Session.serve (P : Platform) (app : Responder) (s : Session) (d : Datagram) :
    Except Unit Session :=
  if d.headerSize ≤ d.bytes.length then
    match replyTo P (app s.calls) d with
    | some msg => .ok
        { calls := ((requestId d.body).toInt16, loadedRequest d.body) :: s.calls
          sent := (msg, d.src) :: s.sent }
    | none => .error ()
  else .error ()

def Session.step (P : Platform) (app : Responder) (name : CString) (s : Session) (r : RecvFrom) :
    Except Unit Session :=
  match dtplinkRecv r with
  | none => .ok s
  | some d =>
      if d.IsDirect ∨ d.IsRelayed then s.serve P app d
      else .ok { s with sent := queryReply name d ++ s.sent }

theorem answer_responder (P : Platform) (app : Responder) (w : World) (body : List UInt8) :
    w.answer P app.deviceServer body =
      ((app (applicationCalls w.log) (requestId body).toInt16).trace P (loadedRequest body)
        (echoedResponse (requestId body))).2 :=
  (trace_run P (app (applicationCalls w.log) (requestId body).toInt16) _ _).symm

theorem replyTo_of_answer (P : Platform) (app : Responder) (w : World) (d : Datagram)
    (req : CRequestBuffer) (resp : CResponseBuffer)
    (ha : w.answer P app.deviceServer d.body = some (req, resp)) :
    replyTo P (app w.session.calls) d =
      if d.headerSize + resp.length.toNat ≤ maxRtpMsgSize then
        some (d.replyHeader ++ resp.buffer.bytes.take resp.length.toNat)
      else none := by
  have hbytes := resp.buffer.length_bytes
  have hpos := headerSize_pos d
  have hlen : d.headerSize + (resp.buffer.bytes.take resp.length.toNat).length ≤ maxRtpMsgSize ↔
      d.headerSize + resp.length.toNat ≤ maxRtpMsgSize := by
    rw [List.length_take]
    omega
  rw [answer_responder] at ha
  simp only [replyTo, responseTo, World.session, ha, Option.map_some, Option.bind_some, hlen]

theorem session_datagram (P : Platform) (app : Responder) (w : World) (r : RecvFrom)
    (d : Datagram) (hr : dtplinkRecv r = some d) :
    (processClientRequests P app.deviceServer d.respId (d.ptr 2)
      (Int16.ofInt (d.msgLen.toInt - 2)) d.src w).toOption.map World.session =
      (w.session.step P app w.ctx.mID r).toOption := by
  have hserving := serving P app.deviceServer w d
  generalize processClientRequests P app.deviceServer d.respId (d.ptr 2)
    (Int16.ofInt (d.msgLen.toInt - 2)) d.src w = result at hserving ⊢
  simp only [Session.step, hr]
  cases hserving with
  | headerIncomplete hid hn size =>
    rw [if_pos hid, Session.serve, if_neg (Nat.not_le.mpr hn)]
    rfl
  | buffersLeft hid hn ha =>
    have hnone : replyTo P (app w.session.calls) d = none := by
      rw [answer_responder] at ha
      simp only [replyTo, responseTo, World.session, ha, Option.map_none, Option.bind_none]
    rw [if_pos hid, Session.serve, if_pos hn, hnone]
    rfl
  | replyTooLong hid hn req resp ha hfit =>
    rw [if_pos hid, Session.serve, if_pos hn, replyTo_of_answer P app w d req resp ha,
      if_neg hfit]
    rfl
  | replied hid hn req resp ha hfit =>
    rw [if_pos hid, Session.serve, if_pos hn, replyTo_of_answer P app w d req resp ha,
      if_pos hfit]
    rfl
  | punched hid h43 =>
    rw [if_neg hid, queryReply, if_pos h43]
    rfl
  | named hid h44 hname =>
    have hne : ¬ d.respId = queryDSIPToDNSServer := by
      rw [h44]
      decide
    rw [if_neg hid, queryReply, if_neg hne, if_pos ⟨h44, hname⟩]
    rfl
  | cleared hid h43 hname =>
    rw [if_neg hid, queryReply, if_neg h43, if_neg (fun h => hname h.1 h.2)]
    rfl

def World.OnlineAs (name : CString) (w : World) : Prop :=
  w.ctx.mStatus = .online ∧ w.ctx.mID = name

theorem onlineAs_step (P : Platform) (app : Responder) (name : CString) (w : World)
    (r : RecvFrom) (w' : World) (h : w.OnlineAs name)
    (hok : dtplinkDSLoop P app.deviceServer w r = .ok w') : w'.OnlineAs name := by
  have hforward := forward_step P app.deviceServer w w' r hok
  exact ⟨(hforward.settled h.1).mStatus, hforward.frame.mID.trans h.2⟩

/-- A poll moves an online server as it moves the machine. -/
theorem session_loop (P : Platform) (app : Responder) (name : CString) (w : World) (r : RecvFrom)
    (h : w.OnlineAs name) : (dtplinkDSLoop P app.deviceServer w r).toOption.map World.session =
      (w.session.step P app name r).toOption := by
  cases hr : dtplinkRecv r with
  | none =>
    have hw : ¬ w.ctx.mStatus.Waiting := by simp [h.1, DSStatus.Waiting]
    simp only [dtplinkDSLoop, hr, onFailedPoll_not_waiting w hw, Session.step]
    rfl
  | some d =>
    rw [← h.2, ← session_datagram P app w r d hr]
    simp only [dtplinkDSLoop, hr, onDatagram, h.1]

/-- Every run of an online server, seen by its clients, is a run of the machine. -/
theorem online_refined (P : Platform) (app : Responder) (w : World) (polls : List RecvFrom)
    (ho : w.ctx.mStatus = .online) :
    (runLoop P app.deviceServer w polls).toOption.map World.session =
      (PartialRun.run (Session.step P app w.ctx.mID) w.session polls).toOption :=
  PartialRun.run_abstracted _ World.session (World.OnlineAs w.ctx.mID) (onlineAs_step P app _)
    (session_loop P app _) w polls ⟨ho, rfl⟩

/-- An application that counts its calls and answers with the count. -/
def countingResponder : Responder := fun calls _ => .ofWrites [.byte calls.length.toUInt8]

theorem online_refined_countingResponder :
    (runLoop .linux countingResponder.deviceServer onlineWorld
      [.data plainRequest.src plainRequest.bytes, .error,
        .data plainRequest.src plainRequest.bytes]).toOption.map World.session =
      (PartialRun.run (Session.step .linux countingResponder onlineWorld.ctx.mID)
        onlineWorld.session [.data plainRequest.src plainRequest.bytes, .error,
          .data plainRequest.src plainRequest.bytes]).toOption :=
  online_refined .linux countingResponder onlineWorld _ rfl

/-- The machine runs to the sessions of the worlds the server runs to. -/
theorem session_run_iff (P : Platform) (app : Responder) (w : World) (polls : List RecvFrom)
    (ho : w.ctx.mStatus = .online) (s : Session) :
    PartialRun.run (Session.step P app w.ctx.mID) w.session polls = .ok s ↔
      ∃ w', runLoop P app.deviceServer w polls = .ok w' ∧ w'.session = s :=
  PartialRun.run_abstracted_ok_iff _ World.session (World.OnlineAs w.ctx.mID)
    (onlineAs_step P app _) (session_loop P app _) w polls ⟨ho, rfl⟩ s

/-- What a poll makes a server send whose application remembers nothing. -/
def answersTo (P : Platform) (app : Int16 → Application) (name : CString) (r : RecvFrom) :
    List (List UInt8 × IPv4Address) :=
  match dtplinkRecv r with
  | none => []
  | some d =>
      if d.IsDirect ∨ d.IsRelayed then (replyTo P app d).toList.map fun msg => (msg, d.src)
      else queryReply name d

theorem session_step_stateless (P : Platform) (app : Int16 → Application) (name : CString)
    (s s' : Session) (r : RecvFrom) (h : s.step P (fun _ => app) name r = .ok s') :
    s'.sent = (answersTo P app name r).reverse ++ s.sent := by
  unfold Session.step at h
  unfold answersTo
  cases hr : dtplinkRecv r with
  | none =>
    simp only [hr] at h
    obtain rfl := Except.ok.inj h
    rfl
  | some d =>
    simp only [hr] at h
    by_cases hid : d.IsDirect ∨ d.IsRelayed
    · rw [if_pos hid, Session.serve] at h
      split_ifs at h with hn
      cases hreply : replyTo P app d with
      | none =>
        simp only [hreply] at h
        exact absurd h (by simp)
      | some msg =>
        simp only [hreply] at h
        obtain rfl := Except.ok.inj h
        simp only [if_pos hid, hreply]
        rfl
    · rw [if_neg hid] at h
      obtain rfl := Except.ok.inj h
      have hsingle : (queryReply name d).reverse = queryReply name d := by
        unfold queryReply
        split_ifs <;> rfl
      simp only [if_neg hid, hsingle]

theorem session_run_stateless (P : Platform) (app : Int16 → Application) (name : CString)
    (s s' : Session) (polls : List RecvFrom)
    (h : PartialRun.run (Session.step P (fun _ => app) name) s polls = .ok s') :
    s'.sent = (polls.flatMap (answersTo P app name)).reverse ++ s.sent := by
  induction polls generalizing s with
  | nil =>
    obtain rfl := Except.ok.inj h
    rfl
  | cons r rest ih =>
    obtain ⟨u, hu, hrest⟩ := PartialRun.run_cons_ok_imp _ s s' r rest h
    rw [ih u hrest, session_step_stateless P app name s u r hu, List.flatMap_cons,
      List.reverse_append, List.append_assoc]

/-- The poll brings no data request whose header is incomplete or whose reply cannot be sent. -/
def Servable (P : Platform) (app : Int16 → Application) (r : RecvFrom) : Prop :=
  ∀ d, dtplinkRecv r = some d → d.IsDirect ∨ d.IsRelayed →
    d.headerSize ≤ d.bytes.length ∧ (replyTo P app d).isSome

theorem session_step_ok_iff (P : Platform) (app : Int16 → Application) (name : CString)
    (s : Session) (r : RecvFrom) :
    (∃ s', s.step P (fun _ => app) name r = .ok s') ↔ Servable P app r := by
  unfold Session.step Servable
  cases hr : dtplinkRecv r with
  | none => exact iff_of_true ⟨s, rfl⟩ (fun d hd => absurd hd (by simp))
  | some d =>
    simp only [Option.some.injEq, forall_eq']
    by_cases hid : d.IsDirect ∨ d.IsRelayed
    · simp only [Session.serve, hid, if_true, true_imp_iff]
      by_cases hn : d.headerSize ≤ d.bytes.length
      · rw [if_pos hn]
        cases replyTo P app d with
        | none => exact iff_of_false (by simp) (by simp)
        | some msg => exact iff_of_true ⟨_, rfl⟩ ⟨hn, rfl⟩
      · rw [if_neg hn]
        exact iff_of_false (by simp) (fun h => hn h.1)
    · rw [if_neg hid]
      exact iff_of_true ⟨_, rfl⟩ (fun h => absurd h hid)

theorem session_run_ok_iff (P : Platform) (app : Int16 → Application) (name : CString)
    (s : Session) (polls : List RecvFrom) :
    (∃ s', PartialRun.run (Session.step P (fun _ => app) name) s polls = .ok s') ↔
      ∀ r ∈ polls, Servable P app r := by
  induction polls generalizing s with
  | nil => exact iff_of_true ⟨s, rfl⟩ (fun r hr => absurd hr List.not_mem_nil)
  | cons r rest ih =>
    rw [List.forall_mem_cons]
    constructor
    · rintro ⟨s', hrun⟩
      obtain ⟨u, hu, hrest⟩ := PartialRun.run_cons_ok_imp _ s s' r rest hrun
      exact ⟨(session_step_ok_iff P app name s r).1 ⟨u, hu⟩, (ih u).1 ⟨s', hrest⟩⟩
    · rintro ⟨hr, hrest⟩
      obtain ⟨u, hu⟩ := (session_step_ok_iff P app name s r).2 hr
      obtain ⟨s', hs'⟩ := (ih u).2 hrest
      exact ⟨s', (PartialRun.run_cons_ok _ s u s' r rest hu).2 hs'⟩

theorem online_run_ok_iff (P : Platform) (app : Int16 → Application) (w : World)
    (polls : List RecvFrom) (ho : w.ctx.mStatus = .online) :
    (∃ w', runLoop P (fun _ id => app id) w polls = .ok w') ↔ ∀ r ∈ polls, Servable P app r := by
  rw [← session_run_ok_iff P app w.ctx.mID w.session polls]
  have hiff := session_run_iff P (fun _ => app) w polls ho
  constructor
  · rintro ⟨w', hrun⟩
    exact ⟨w'.session, (hiff _).2 ⟨w', hrun, rfl⟩⟩
  · rintro ⟨s, hs⟩
    obtain ⟨w', hrun, -⟩ := (hiff s).1 hs
    exact ⟨w', hrun⟩

theorem online_run_sent (P : Platform) (app : Int16 → Application) (w w' : World)
    (polls : List RecvFrom) (ho : w.ctx.mStatus = .online)
    (hrun : runLoop P (fun _ id => app id) w polls = .ok w') :
    datagrams w'.log =
      (polls.flatMap (answersTo P app w.ctx.mID)).reverse ++ datagrams w.log :=
  session_run_stateless P app w.ctx.mID w.session w'.session polls
    ((session_run_iff P (fun _ => app) w polls ho _).2 ⟨w', hrun, rfl⟩)

end OpenDSLite
