import Mathlib.Algebra.BigOperators.Group.Finset.Piecewise
import Mathlib.Tactic

/-!
# Networks whose nodes spend a potential

Nodes exchange messages over a network that delivers them in any order and to any node, loses them,
and lets in others from outside. A message has a weight, and a node that reacts to one sends at most
as much, each message counted with its weight, as its potential drops and the weight of what it
received. Then the potentials and weights at the start bound all that is ever sent.
-/

open scoped BigOperators

namespace PotentialNetwork

variable {ι σ μ : Type*}

/-- A network: the states of its nodes, the messages under way, and a record of what happened. -/
structure Network (ι σ μ : Type*) where
  node : ι → σ
  flight : Multiset μ
  sent : ℕ
  taken : ℕ
  injected : Multiset μ

variable [DecidableEq ι] (react : ι → σ → Option μ → σ → List μ → Prop)

def Network.put (net : Network ι σ μ) (i : ι) (s : σ) (out : List μ) : Network ι σ μ :=
  { net with
    node := Function.update net.node i s
    flight := out + net.flight
    sent := net.sent + out.length }

def Network.take (net : Network ι σ μ) (rest : Multiset μ) : Network ι σ μ :=
  { net with flight := rest, taken := net.taken + 1 }

def Network.inject (net : Network ι σ μ) (m : μ) : Network ι σ μ :=
  { net with flight := m ::ₘ net.flight, injected := m ::ₘ net.injected }

/-- A node reacts to a message or, in `silence`, to a wait that ended without one. -/
inductive Step : Network ι σ μ → Network ι σ μ → Prop
  | deliver (net : Network ι σ μ) (i : ι) (m : μ) (rest : Multiset μ) (s : σ) (out : List μ)
      (hm : net.flight = m ::ₘ rest) (hs : react i (net.node i) (some m) s out) :
      Step net ((net.take rest).put i s out)
  | silence (net : Network ι σ μ) (i : ι) (s : σ) (out : List μ)
      (hs : react i (net.node i) none s out) : Step net (net.put i s out)
  | lose (net : Network ι σ μ) (m : μ) (rest : Multiset μ) (hm : net.flight = m ::ₘ rest) :
      Step net (net.take rest)
  | inject (net : Network ι σ μ) (m : μ) : Step net (net.inject m)

abbrev Steps : Network ι σ μ → Network ι σ μ → Prop := Relation.ReflTransGen (Step react)

variable {react}

/-- What every reaction keeps at its node holds at all nodes of every network reached. -/
theorem nodes_of_steps (Inv : ι → σ → Prop)
    (hreact : ∀ i s m s' out, Inv i s → react i s m s' out → Inv i s')
    (net net' : Network ι σ μ) (hinv : ∀ i, Inv i (net.node i)) (h : Steps react net net') :
    ∀ i, Inv i (net'.node i) := by
  induction h with
  | refl => exact hinv
  | tail _ hstep ih =>
    have hput : ∀ (u : Network ι σ μ) (i : ι) (s : σ) (out : List μ), (∀ j, Inv j (u.node j)) →
        Inv i s → ∀ j, Inv j ((u.put i s out).node j) := by
      intro u i s out hu hs j
      by_cases hj : j = i
      · subst hj
        simpa only [Network.put, Function.update_self] using hs
      · simpa only [Network.put, Function.update_of_ne hj] using hu j
    cases hstep with
    | deliver i m rest s out hm hs => exact hput _ i s out ih (hreact i _ _ s out (ih i) hs)
    | silence i s out hs => exact hput _ i s out ih (hreact i _ _ s out (ih i) hs)
    | lose m rest hm => exact ih
    | inject m => exact ih

/-- Every message under way was sent, injected or there from the start, and is taken once. -/
theorem taken_add_flight (net net' : Network ι σ μ) (h : Steps react net net') :
    net'.taken + net'.flight.card + net.sent + net.injected.card =
      net.taken + net.flight.card + net'.sent + net'.injected.card := by
  induction h with
  | refl => rfl
  | tail _ hstep ih =>
    cases hstep with
    | deliver i m rest s out hm hs =>
      rw [hm, Multiset.card_cons] at ih
      simp only [Network.put, Network.take, Multiset.card_add, Multiset.coe_card]
      omega
    | silence i s out hs =>
      simp only [Network.put, Multiset.card_add, Multiset.coe_card]
      omega
    | lose m rest hm =>
      rw [hm, Multiset.card_cons] at ih
      simp only [Network.take]
      omega
    | inject m =>
      simp only [Network.inject, Multiset.card_cons]
      omega

variable [Fintype ι] (potential : ι → σ → ℕ) (weight : μ → ℕ)

def cost (out : List μ) : ℕ := out.length + (out.map weight).sum

/-- What has been sent with what can still be. -/
def Network.balance (net : Network ι σ μ) : ℕ :=
  net.sent + ∑ i, potential i (net.node i) + (net.flight.map weight).sum

theorem balance_put (net : Network ι σ μ) (i : ι) (s : σ) (out : List μ) (gain : ℕ)
    (h : cost weight out + potential i s ≤ potential i (net.node i) + gain) :
    (net.put i s out).balance potential weight ≤ net.balance potential weight + gain := by
  have hsum : ∑ j, potential j ((net.put i s out).node j) + potential i (net.node i) =
      ∑ j, potential j (net.node j) + potential i s := by
    have herase := Finset.add_sum_erase Finset.univ (fun j => potential j (net.node j))
      (Finset.mem_univ i)
    have hput := Finset.add_sum_erase Finset.univ
      (fun j => potential j ((net.put i s out).node j)) (Finset.mem_univ i)
    have hrest : ∑ j ∈ Finset.univ.erase i, potential j ((net.put i s out).node j) =
        ∑ j ∈ Finset.univ.erase i, potential j (net.node j) := by
      apply Finset.sum_congr rfl
      intro j hj
      simp only [Network.put, Function.update_of_ne (Finset.ne_of_mem_erase hj)]
    simp only [Network.put, Function.update_self] at hput hrest ⊢
    omega
  have hflight : ((net.put i s out).flight.map weight).sum =
      (out.map weight).sum + (net.flight.map weight).sum := by
    simp only [Network.put, Multiset.map_add, Multiset.sum_add, Multiset.map_coe,
      Multiset.sum_coe]
  have hsent : (net.put i s out).sent = net.sent + out.length := rfl
  rw [cost] at h
  rw [Network.balance, Network.balance, hflight, hsent]
  omega

omit [DecidableEq ι] in
theorem balance_take (net : Network ι σ μ) (m : μ) (rest : Multiset μ)
    (hm : net.flight = m ::ₘ rest) :
    (net.take rest).balance potential weight + weight m = net.balance potential weight := by
  have hflight : (net.flight.map weight).sum = weight m + (rest.map weight).sum := by
    rw [hm, Multiset.map_cons, Multiset.sum_cons]
  rw [Network.balance, Network.balance, hflight]
  simp only [Network.take]
  omega

/-- The reactions are paid for, so the balance grows with what comes from outside only. -/
theorem balance_of_steps (Inv : ι → σ → Prop)
    (hreact : ∀ i s m s' out, Inv i s → react i s m s' out → Inv i s' ∧
      cost weight out + potential i s' ≤ potential i s + (m.map weight).getD 0)
    (net net' : Network ι σ μ) (hinv : ∀ i, Inv i (net.node i)) (h : Steps react net net') :
    net'.balance potential weight + (net.injected.map weight).sum ≤
      net.balance potential weight + (net'.injected.map weight).sum := by
  induction h with
  | refl => exact le_rfl
  | @tail u v hrun hstep ih =>
    have hu := nodes_of_steps Inv (fun i s m s' out hi hs => (hreact i s m s' out hi hs).1)
      net u hinv hrun
    cases hstep with
    | deliver i m rest s out hm hs =>
      have htake := balance_take potential weight u m rest hm
      have hput := balance_put potential weight (u.take rest) i s out (weight m)
        (hreact i _ _ s out (hu i) hs).2
      have hinj : ((u.take rest).put i s out).injected = u.injected := rfl
      rw [hinj]
      omega
    | silence i s out hs =>
      have hput := balance_put potential weight u i s out 0 (hreact i _ _ s out (hu i) hs).2
      have hinj : (u.put i s out).injected = u.injected := rfl
      rw [hinj]
      omega
    | lose m rest hm =>
      have htake := balance_take potential weight u m rest hm
      have hinj : (u.take rest).injected = u.injected := rfl
      rw [hinj]
      omega
    | inject m =>
      have hbalance : (u.inject m).balance potential weight =
          u.balance potential weight + weight m := by
        rw [Network.balance, Network.balance]
        simp only [Network.inject, Multiset.map_cons, Multiset.sum_cons]
        omega
      have hinj : ((u.inject m).injected.map weight).sum =
          weight m + (u.injected.map weight).sum := by
        simp only [Network.inject, Multiset.map_cons, Multiset.sum_cons]
      rw [hbalance, hinj]
      omega

end PotentialNetwork
