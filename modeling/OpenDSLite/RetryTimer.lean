import Mathlib.Tactic

/-!
# Retry timers

A retry timer counts unanswered polls. After `polls` of them it asks for a retransmission and
counts that instead; a poll behind `sends` retransmissions expires it. The two counters together
tell how many polls the timer has seen since it was started.
-/

structure RetryTimer (polls sends : ℕ) where
  recv : ℕ
  send : ℕ
  recv_lt : recv < polls
  send_le : send ≤ sends
  spent : send = sends → recv = 0

namespace RetryTimer

variable {polls sends : ℕ}

def start (sends : ℕ) (h : 0 < polls) : RetryTimer polls sends :=
  ⟨0, 0, h, Nat.zero_le sends, fun _ => rfl⟩

/-- One more unanswered poll; `none` when the timer expires. -/
def tick (t : RetryTimer polls sends) : Option (RetryTimer polls sends) :=
  if hs : t.send = sends then none
  else if hr : t.recv + 1 = polls then
    some ⟨0, t.send + 1, by omega, by have := t.send_le; omega, fun _ => rfl⟩
  else some ⟨t.recv + 1, t.send, by have := t.recv_lt; omega, t.send_le, fun h => absurd h hs⟩

def elapsed (t : RetryTimer polls sends) : ℕ := polls * t.send + t.recv

theorem elapsed_of_spent (t : RetryTimer polls sends) (h : t.send = sends) :
    t.elapsed = polls * sends := by
  rw [elapsed, t.spent h, h, Nat.add_zero]

theorem elapsed_lt_of_not_spent (t : RetryTimer polls sends) (h : t.send ≠ sends) :
    t.elapsed < polls * sends := by
  have hrecv := t.recv_lt
  have hsend : t.send + 1 ≤ sends := Nat.lt_of_le_of_ne t.send_le h
  have hmul : polls * (t.send + 1) ≤ polls * sends := Nat.mul_le_mul_left polls hsend
  rw [Nat.mul_add, Nat.mul_one] at hmul
  rw [elapsed]
  omega

theorem elapsed_le (t : RetryTimer polls sends) : t.elapsed ≤ polls * sends := by
  by_cases h : t.send = sends
  · exact (t.elapsed_of_spent h).le
  · exact (t.elapsed_lt_of_not_spent h).le

/-- A timer expires exactly at the end of its time. -/
theorem tick_eq_none_iff (t : RetryTimer polls sends) :
    t.tick = none ↔ t.elapsed = polls * sends := by
  unfold tick
  by_cases h : t.send = sends
  · simp only [dif_pos h, true_iff]
    exact t.elapsed_of_spent h
  · have hlt := t.elapsed_lt_of_not_spent h
    rw [dif_neg h]
    constructor
    · intro hnone
      split_ifs at hnone
    · intro he
      omega

theorem tick_counts (t : RetryTimer polls sends) (hs : t.send ≠ sends) (hr : t.recv + 1 ≠ polls) :
    ∃ t', t.tick = some t' ∧ t'.recv = t.recv + 1 ∧ t'.send = t.send := by
  rw [tick, dif_neg hs, dif_neg hr]
  exact ⟨_, rfl, rfl, rfl⟩

theorem tick_retransmits (t : RetryTimer polls sends) (hs : t.send ≠ sends)
    (hr : t.recv + 1 = polls) :
    ∃ t', t.tick = some t' ∧ t'.recv = 0 ∧ t'.send = t.send + 1 := by
  rw [tick, dif_neg hs, dif_pos hr]
  exact ⟨_, rfl, rfl, rfl⟩

theorem elapsed_of_tick (t t' : RetryTimer polls sends) (h : t.tick = some t') :
    t'.elapsed = t.elapsed + 1 := by
  unfold tick at h
  split_ifs at h with hs hr
  · rw [← Option.some.inj h]
    change polls * (t.send + 1) + 0 = polls * t.send + t.recv + 1
    rw [Nat.mul_add]
    omega
  · rw [← Option.some.inj h]
    rfl

end RetryTimer
