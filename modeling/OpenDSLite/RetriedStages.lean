import OpenDSLite.RetryTimer

/-!
# Machines that ask and wait

A machine goes through stages. In each it has asked a question and waits for the reply, which leads
to another stage or ends the machine with a result. Silence runs a retry timer: the machine asks
again a bounded number of times and then gives the stage up. What else reaches it leaves no trace.
-/

/-- What reaches a machine. -/
inductive Stimulus (α : Type*)
  | reply (a : α)
  | silence
  | other
  deriving DecidableEq

namespace Stimulus

variable {α : Type*}

def isSilence : Stimulus α → Bool
  | silence => true
  | _ => false

/-- Nothing that is awaited. -/
def Quiet : Stimulus α → Prop
  | reply _ => False
  | _ => True

instance : DecidablePred (Quiet (α := α)) := fun i => by
  cases i <;> unfold Quiet <;> infer_instance

end Stimulus

/-- The stages `S`, the replies `A`, the results `R`, and what the machine puts out. -/
structure RetriedStages (S A R O : Type*) where
  onReply : S → A → (S ⊕ R) × List O
  onExpiry : S → (S ⊕ R) × List O
  onRetry : S → List O

namespace RetriedStages

inductive State (polls sends : ℕ) (S R : Type*)
  | waiting (s : S) (t : RetryTimer polls sends)
  | done (r : R)

variable {S A R O : Type*} (M : RetriedStages S A R O) {polls sends : ℕ}

/-- A stage is entered with a fresh timer. -/
def enter (h : 0 < polls) : S ⊕ R → State polls sends S R
  | .inl s => .waiting s (.start sends h)
  | .inr r => .done r

def step : State polls sends S R → Stimulus A → State polls sends S R × List O
  | .done r, _ => (.done r, [])
  | .waiting s t, .other => (.waiting s t, [])
  | .waiting s t, .reply a => (enter (Nat.zero_lt_of_lt t.recv_lt) (M.onReply s a).1,
      (M.onReply s a).2)
  | .waiting s t, .silence =>
      match t.tick with
      | none => (enter (Nat.zero_lt_of_lt t.recv_lt) (M.onExpiry s).1, (M.onExpiry s).2)
      | some t' => (.waiting s t', if t'.send = t.send then [] else M.onRetry s)

def run : State polls sends S R → List (Stimulus A) → State polls sends S R × List O
  | q, [] => (q, [])
  | q, i :: is => ((run (M.step q i).1 is).1, (M.step q i).2 ++ (run (M.step q i).1 is).2)

theorem run_append (q : State polls sends S R) (is js : List (Stimulus A)) :
    M.run q (is ++ js) = ((M.run (M.run q is).1 js).1,
      (M.run q is).2 ++ (M.run (M.run q is).1 js).2) := by
  induction is generalizing q with
  | nil => rfl
  | cons i is ih =>
    simp only [List.cons_append, run, ih, List.append_assoc]

theorem run_append_eq (q q' q'' : State polls sends S R) (is js : List (Stimulus A))
    (out out' : List O) (h : M.run q is = (q', out)) (h' : M.run q' js = (q'', out')) :
    M.run q (is ++ js) = (q'', out ++ out') := by
  rw [run_append, h, h']

theorem run_concat (q : State polls sends S R) (is : List (Stimulus A)) (i : Stimulus A) :
    M.run q (is ++ [i]) = ((M.step (M.run q is).1 i).1,
      (M.run q is).2 ++ (M.step (M.run q is).1 i).2) := by
  rw [run_append]
  simp only [run, List.append_nil]

/-- A result is final. -/
theorem run_done (r : R) (is : List (Stimulus A)) :
    M.run (.done r : State polls sends S R) is = (.done r, []) := by
  induction is with
  | nil => rfl
  | cons i is ih => simp only [run, step, ih, List.append_nil]

/-- A machine that still waits behind some stimuli has waited behind each of the earlier ones. -/
theorem waiting_of_append (q : State polls sends S R) (is js : List (Stimulus A)) (s : S)
    (t : RetryTimer polls sends) (h : (M.run q (is ++ js)).1 = .waiting s t) :
    ∃ s' t', (M.run q is).1 = .waiting s' t' := by
  cases hq : (M.run q is).1 with
  | waiting s' t' => exact ⟨s', t', rfl⟩
  | done r =>
    rw [run_append, hq, run_done] at h
    exact absurd h (by simp)

theorem send_of_tick (t t' : RetryTimer polls sends) (h : t.tick = some t') :
    t'.send = t.send ∨ t'.send = t.send + 1 := by
  unfold RetryTimer.tick at h
  split_ifs at h with hs hr
  · rw [← Option.some.inj h]
    exact Or.inr rfl
  · rw [← Option.some.inj h]
    exact Or.inl rfl

/-- One silence that the timer bears asks again once at most. -/
theorem step_silence (s : S) (t : RetryTimer polls sends) (h : t.elapsed < polls * sends) :
    ∃ t' k, M.step (.waiting s t : State polls sends S R) .silence =
        (.waiting s t', (List.replicate k (M.onRetry s)).flatten) ∧
      t'.elapsed = t.elapsed + 1 ∧ t'.send = t.send + k := by
  cases htick : t.tick with
  | none => exact absurd (t.tick_eq_none_iff.1 htick) (Nat.ne_of_lt h)
  | some t' =>
    have helapsed := t.elapsed_of_tick t' htick
    rcases send_of_tick t t' htick with hsend | hsend
    · refine ⟨t', 0, ?_, helapsed, hsend⟩
      simp only [step, htick, if_pos hsend]
      rfl
    · refine ⟨t', 1, ?_, helapsed, hsend⟩
      simp only [step, htick, if_neg (show ¬ t'.send = t.send by omega)]
      simp

/-- While the silences are no more than the timer bears, a stage without a reply lasts, and all
that is put out are the questions asked again. -/
theorem run_quiet (s : S) (t : RetryTimer polls sends) (is : List (Stimulus A))
    (hq : ∀ i ∈ is, i.Quiet) (h : t.elapsed + is.countP Stimulus.isSilence ≤ polls * sends) :
    ∃ t' k, M.run (.waiting s t : State polls sends S R) is =
        (.waiting s t', (List.replicate k (M.onRetry s)).flatten) ∧ t'.send = t.send + k := by
  induction is generalizing t with
  | nil => exact ⟨t, 0, rfl, rfl⟩
  | cons i is ih =>
    have hrest : ∀ j ∈ is, j.Quiet := fun j hj => hq j (List.mem_cons_of_mem i hj)
    cases i with
    | reply a => exact (hq _ List.mem_cons_self).elim
    | other =>
      rw [List.countP_cons_of_neg (by simp [Stimulus.isSilence])] at h
      obtain ⟨t', k, hrun, hsend⟩ := ih t hrest h
      refine ⟨t', k, ?_, hsend⟩
      rw [run]
      change ((M.run (.waiting s t) is).1, [] ++ (M.run (.waiting s t) is).2) = _
      rw [hrun, List.nil_append]
    | silence =>
      rw [List.countP_cons_of_pos rfl] at h
      obtain ⟨u, m, hstep, helapsed, hsend⟩ := M.step_silence s t (by omega)
      obtain ⟨t', k, hrun, hsend'⟩ := ih u hrest (by omega)
      refine ⟨t', m + k, ?_, by omega⟩
      rw [run, hstep, hrun, List.replicate_add, List.flatten_append]

/-- A reply within the time of a stage ends it. -/
theorem run_answered (h : 0 < polls) (s : S) (is : List (Stimulus A)) (a : A)
    (hq : ∀ i ∈ is, i.Quiet) (hcount : is.countP Stimulus.isSilence ≤ polls * sends) :
    ∃ k, M.run (.waiting s (.start sends h)) (is ++ [.reply a]) =
      (enter h (M.onReply s a).1,
        (List.replicate k (M.onRetry s)).flatten ++ (M.onReply s a).2) ∧ k ≤ sends := by
  have hstart : (RetryTimer.start sends h).elapsed = 0 := rfl
  obtain ⟨t', k, hrun, hsend⟩ := M.run_quiet s (.start sends h) is hq (by omega)
  have hle := t'.send_le
  refine ⟨k, ?_, by rw [hsend] at hle; exact (Nat.le_add_left k _).trans hle⟩
  rw [run_append, hrun]
  simp only [run, step, List.append_nil]

end RetriedStages
