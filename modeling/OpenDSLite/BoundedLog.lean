import Mathlib.Tactic

/-!
# An append-only log of bounded capacity

A log of at most `cap` symbols is offered chunks one after another. A chunk that fits is appended
as a whole and any other leaves the log as it was. How long the log gets depends on the sizes of
the chunks only, and what it holds is the concatenation of the chunks that were accepted.
-/

namespace BoundedLog

variable {α : Type*} (cap : ℕ)

def offer (log chunk : List α) : List α :=
  if log.length + chunk.length ≤ cap then log ++ chunk else log

def offers : List α → List (List α) → List α
  | log, [] => log
  | log, c :: cs => offers (offer cap log c) cs

/-- The length reached from `n` by offers of the given sizes. -/
def fill : ℕ → List ℕ → ℕ
  | n, [] => n
  | n, k :: ks => fill (if n + k ≤ cap then n + k else n) ks

/-- The items whose offers are accepted, when `size` says how much room each takes. -/
def accepted {β : Type*} (size : β → ℕ) : ℕ → List β → List β
  | _, [] => []
  | n, x :: xs => if n + size x ≤ cap then x :: accepted size (n + size x) xs
      else accepted size n xs

theorem length_offer (log chunk : List α) : (offer cap log chunk).length =
    if log.length + chunk.length ≤ cap then log.length + chunk.length else log.length := by
  unfold offer
  split_ifs
  · exact List.length_append
  · rfl

theorem length_offers (log : List α) (chunks : List (List α)) :
    (offers cap log chunks).length = fill cap log.length (chunks.map List.length) := by
  induction chunks generalizing log with
  | nil => rfl
  | cons c cs ih => rw [offers, ih, length_offer, List.map_cons, fill]

theorem offers_append (log : List α) (cs ds : List (List α)) :
    offers cap log (cs ++ ds) = offers cap (offers cap log cs) ds := by
  induction cs generalizing log with
  | nil => rfl
  | cons c cs ih => exact ih (offer cap log c)

/-- Chunks that fit together are all accepted. -/
theorem offers_of_fits (log : List α) (chunks : List (List α))
    (h : log.length + chunks.flatten.length ≤ cap) :
    offers cap log chunks = log ++ chunks.flatten := by
  induction chunks generalizing log with
  | nil => rw [offers, List.flatten_nil, List.append_nil]
  | cons c cs ih =>
    rw [List.flatten_cons, List.length_append] at h
    have hc : offer cap log c = log ++ c := if_pos (by omega)
    rw [offers, hc, ih (log ++ c) (by rw [List.length_append]; omega), List.flatten_cons,
      List.append_assoc]

theorem offers_eq_append_accepted {β : Type*} (f : β → List α) (log : List α) (xs : List β) :
    offers cap log (xs.map f) =
      log ++ ((accepted cap (fun x => (f x).length) log.length xs).map f).flatten := by
  induction xs generalizing log with
  | nil => simp [offers, accepted]
  | cons x xs ih =>
    rw [List.map_cons, offers, ih, accepted]
    by_cases hfit : log.length + (f x).length ≤ cap
    · simp only [offer, if_pos hfit, List.length_append, List.map_cons, List.flatten_cons,
        List.append_assoc]
    · simp only [offer, if_neg hfit]

/-- Which of the first items are accepted does not depend on what follows them. -/
theorem accepted_prefix {β : Type*} (size : β → ℕ) (n : ℕ) (xs ys : List β) :
    accepted cap size n xs <+: accepted cap size n (xs ++ ys) := by
  induction xs generalizing n with
  | nil => exact List.nil_prefix
  | cons x xs ih =>
    rw [List.cons_append, accepted, accepted]
    split_ifs with hfit
    · exact List.cons_prefix_cons.mpr ⟨rfl, ih (n + size x)⟩
    · exact ih n

/-- Two size functions that agree on the accepted items, one never the smaller, accept alike. -/
theorem accepted_congr {β : Type*} (size size' : β → ℕ) (hle : ∀ x, size x ≤ size' x) (n : ℕ)
    (xs : List β) (h : ∀ x ∈ accepted cap size n xs, size' x = size x) :
    accepted cap size' n xs = accepted cap size n xs := by
  induction xs generalizing n with
  | nil => rfl
  | cons x xs ih =>
    rw [accepted] at h ⊢
    rw [accepted]
    by_cases hfit : n + size x ≤ cap
    · simp only [if_pos hfit] at h ⊢
      have hx : size' x = size x := h x List.mem_cons_self
      rw [hx, if_pos hfit, ih (n + size x) (fun y hy => h y (List.mem_cons_of_mem x hy))]
    · have hle' := hle x
      have hfit' : ¬ n + size' x ≤ cap := by omega
      simp only [if_neg hfit] at h ⊢
      rw [if_neg hfit', ih n h]

end BoundedLog
