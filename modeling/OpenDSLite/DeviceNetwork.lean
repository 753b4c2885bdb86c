import OpenDSLite.PotentialNetwork
import OpenDSLite.Sends

/-!
# Device servers on one network

Any number of device servers, each in its own phase and with its own application, share a network
that reorders, loses and misroutes datagrams, rewrites their source addresses and lets in others.
The loop of a device server never sends what another one would answer. So what the loops send
together is bounded by the retries they have left and the requests that reach them from outside.
-/

open scoped BigOperators

namespace OpenDSLite

open PotentialNetwork

/-- An iteration that receives a payload, from whatever address it seems to come, or nothing. -/
inductive Reacts (P : Platform) (main : DeviceServer) :
    World → Option (List UInt8) → World → List (List UInt8) → Prop
  | received (w w' : World) (src : IPv4Address) (payload : List UInt8) (out : List Sent)
      (h : dtplinkDSLoop P main w (.data src payload) = .ok w')
      (hlog : sentOf w'.log = out ++ sentOf w.log) :
      Reacts P main w (some payload) w' (out.map Sent.msg)
  | silent (w w' : World) (out : List Sent) (h : dtplinkDSLoop P main w .error = .ok w')
      (hlog : sentOf w'.log = out ++ sentOf w.log) :
      Reacts P main w none w' (out.map Sent.msg)

def askWeight (payload : List UInt8) : ℕ := if asks payload then 1 else 0

theorem StartupDatagram.not_asks {ctx : CServerContext} {s : Sent} (h : StartupDatagram ctx s) :
    asks s.msg = false := by
  cases h with
  | register | punchCenter | pingCenter | pingCenterAgain | punchAux | pingAux => rfl

theorem asks_replyHeader (d : Datagram) (response : List UInt8) :
    asks (d.replyHeader ++ response) = false := by
  have hhead : ∀ op rest, requestOpcodes.contains op = false → asks (op :: rest) = false := by
    intro op rest h
    rw [asks, List.headD_cons, h, Bool.false_and]
  unfold Datagram.replyHeader
  split_ifs
  · exact hhead _ _ (by decide)
  · exact hhead _ _ (by decide)
  · exact hhead _ _ (by decide)

theorem ClientDatagram.not_asks {ctx : CServerContext} {d : Datagram} {s : Sent}
    (h : ClientDatagram ctx d s) : asks s.msg = false := by
  cases h with
  | reply hid hn response hfit => exact asks_replyHeader d response
  | punch | echo => rfl

theorem cost_of_stepSends (w w' : World) (r : RecvFrom) (out : List Sent)
    (h : StepSends w r w' out) :
    cost askWeight (out.map Sent.msg) + w'.sendsLeft ≤
      w.sendsLeft + (if r.asks then 1 else 0) := by
  have hfree : (((out.map Sent.msg).map askWeight)).sum = 0 := by
    apply List.sum_eq_zero
    intro k hk
    rw [List.map_map] at hk
    obtain ⟨s, hs, rfl⟩ := List.mem_map.mp hk
    have hnot : asks s.msg = false := by
      rcases h.source s hs with hstart | ⟨d, -, hclient⟩
      · exact hstart.not_asks
      · exact hclient.not_asks
    rw [Function.comp_apply, askWeight, hnot, if_neg Bool.false_ne_true]
  rw [cost, hfree, List.length_map, Nat.add_zero]
  exact h.paid

theorem StepSends.unique {w w' : World} {r : RecvFrom} {out out' : List Sent}
    (h : StepSends w r w' out) (hlog : sentOf w'.log = out' ++ sentOf w.log) : out' = out :=
  List.append_cancel_right (hlog.symm.trans h.log)

/-- A device server pays for what it sends out of its retries and the requests it receives. -/
theorem reacts_pays (P : Platform) (main : DeviceServer) (w : World)
    (payload : Option (List UInt8)) (w' : World) (out : List (List UInt8)) (h : SendInvariant w)
    (hreacts : Reacts P main w payload w' out) : SendInvariant w' ∧
      cost askWeight out + w'.sendsLeft ≤ w.sendsLeft + (payload.map askWeight).getD 0 := by
  cases hreacts with
  | received _ src payload sent hok hlog =>
    obtain ⟨sent', hsends⟩ := stepSends_of_ok P main w w' _ h hok
    obtain rfl := hsends.unique hlog
    exact ⟨sendInvariant_step w w' _ h (loopStep_of_ok P main w w' _ hok),
      cost_of_stepSends w w' _ sent hsends⟩
  | silent _ sent hok hlog =>
    obtain ⟨sent', hsends⟩ := stepSends_of_ok P main w w' _ h hok
    obtain rfl := hsends.unique hlog
    exact ⟨sendInvariant_step w w' _ h (loopStep_of_ok P main w w' _ hok),
      cost_of_stepSends w w' _ sent hsends⟩

theorem sendInvariant_reached {P : Platform} {main : DeviceServer} {w : World}
    (h : Reached P main w) : SendInvariant w :=
  h.invariant SendInvariant sendInvariant_started sendInvariant_step

/-- Before any of the device servers has reacted. -/
def network {ι : Type} (node : ι → World) (flight : Multiset (List UInt8)) :
    Network ι World (List UInt8) := ⟨node, flight, 0, 0, 0⟩

/-- The requests among some payloads. -/
def requests (payloads : Multiset (List UInt8)) : ℕ := (payloads.map askWeight).sum

/-- The loops send what their retries and the requests from outside allow, and after as many
deliveries the network is empty. -/
theorem devices_fall_silent {ι : Type} [Fintype ι] [DecidableEq ι] (P : ι → Platform)
    (main : ι → DeviceServer) (node : ι → World) (flight : Multiset (List UInt8))
    (hnode : ∀ i, Reached (P i) (main i) (node i)) (net : Network ι World (List UInt8))
    (h : Steps (fun i => Reacts (P i) (main i)) (network node flight) net) :
    net.sent ≤ ∑ i, (node i).sendsLeft + requests flight + requests net.injected ∧
    net.taken + net.flight.card = flight.card + net.injected.card + net.sent := by
  constructor
  · have hbalance := balance_of_steps (fun _ => World.sendsLeft) askWeight
      (fun _ => SendInvariant)
      (fun i w payload w' out hw hr => reacts_pays (P i) (main i) w payload w' out hw hr)
      (network node flight) net (fun i => sendInvariant_reached (hnode i)) h
    simp only [Network.balance, network, Multiset.map_zero, Multiset.sum_zero] at hbalance
    rw [requests, requests]
    omega
  · have htaken := taken_add_flight (network node flight) net h
    simp only [network, Multiset.card_zero] at htaken
    omega

/-- Two online device servers, to one of which the name query of a client is delivered. -/
theorem devices_fall_silent_nameQuery : ∃ net,
    Steps (fun _ : Fin 2 => Reacts .linux (fun _ _ => .done))
      (network (fun _ => onlineWorld) {nameQuery.bytes}) net ∧ net.sent = 1 ∧
    net.sent ≤ ∑ _i : Fin 2, onlineWorld.sendsLeft + requests {nameQuery.bytes} +
      requests net.injected ∧
    net.taken + net.flight.card =
      ({nameQuery.bytes} : Multiset (List UInt8)).card + net.injected.card + net.sent := by
  have hreacts : Reacts .linux (fun _ _ => .done) onlineWorld (some nameQuery.bytes)
      (outcome (dtplinkDSLoop .linux (fun _ _ => .done) onlineWorld
        (.data nameQuery.src nameQuery.bytes)))
      ([⟨.processLocalDNSQueryRequest, onlineWorld.ctx.mRemoteFd, [queryDSIPToLocalDS],
        sampleAddress⟩].map Sent.msg) :=
    .received _ _ nameQuery.src nameQuery.bytes _ rfl rfl
  have hstep : Step (fun _ : Fin 2 => Reacts .linux (fun _ _ => .done))
      (network (fun _ => onlineWorld) {nameQuery.bytes}) _ :=
    .deliver _ 0 nameQuery.bytes 0 _ _ rfl hreacts
  have hsteps := Relation.ReflTransGen.single hstep
  exact ⟨_, hsteps, rfl, devices_fall_silent (fun _ => .linux) (fun _ _ _ => .done)
    (fun _ => onlineWorld) {nameQuery.bytes} (fun _ => reached_onlineWorld) _ hsteps⟩

end OpenDSLite
