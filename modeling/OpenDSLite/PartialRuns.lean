import Mathlib.Tactic

/-!
# Runs of a fallible step function

A step function takes a state and an input to a state or to an error, and a run applies it to a
list of inputs until the list ends or a step fails. `Along C` says that every step a run takes
meets the condition `C`, and `history` collects what an observer records at each step. The rules
derive facts about runs from facts about single steps.
-/

namespace PartialRun

variable {σ ι ε : Type*} (step : σ → ι → Except ε σ)

def run : σ → List ι → Except ε σ
  | s, [] => .ok s
  | s, i :: is => (step s i).bind (fun t => run t is)

def Along (C : σ → ι → Prop) : σ → List ι → Prop
  | _, [] => True
  | s, i :: is => C s i ∧ ∀ t, step s i = .ok t → Along C t is

def history {ο : Type*} (obs : σ → ι → List ο) : σ → List ι → List ο
  | _, [] => []
  | s, i :: is => obs s i ++
      match step s i with
      | .ok t => history obs t is
      | .error _ => []

instance decidableAlong (C : σ → ι → Prop) [∀ s i, Decidable (C s i)] :
    (s : σ) → (is : List ι) → Decidable (Along step C s is)
  | _, [] => .isTrue trivial
  | s, i :: is =>
    match hs : step s i with
    | .ok t =>
      haveI := decidableAlong C t is
      decidable_of_iff (C s i ∧ Along step C t is) (by simp [Along, hs])
    | .error _ => decidable_of_iff (C s i) (by simp [Along, hs])

theorem along_of_forall (C : σ → ι → Prop) (h : ∀ s i, C s i) (s : σ) (is : List ι) :
    Along step C s is := by
  induction is generalizing s with
  | nil => trivial
  | cons i is ih => exact ⟨h s i, fun t _ => ih t⟩

theorem run_cons_ok (s t u : σ) (i : ι) (is : List ι) (hs : step s i = .ok t) :
    run step s (i :: is) = .ok u ↔ run step t is = .ok u := by
  rw [run, hs]
  rfl

theorem run_cons_ok_imp (s u : σ) (i : ι) (is : List ι) (h : run step s (i :: is) = .ok u) :
    ∃ t, step s i = .ok t ∧ run step t is = .ok u := by
  cases hs : step s i with
  | error e => simp [run, hs, Except.bind] at h
  | ok t => exact ⟨t, rfl, (run_cons_ok step s t u i is hs).1 h⟩

theorem run_append_ok (s u : σ) (is js : List ι) :
    run step s (is ++ js) = .ok u ↔ ∃ t, run step s is = .ok t ∧ run step t js = .ok u := by
  induction is generalizing s with
  | nil => simp [run]
  | cons i is ih =>
    cases hs : step s i with
    | error e => simp [run, hs, Except.bind]
    | ok t =>
      rw [List.cons_append, run_cons_ok step s t u i (is ++ js) hs, ih]
      apply exists_congr
      intro v
      rw [run_cons_ok step s t v i is hs]

theorem run_of_idle (s : σ) (is : List ι) (h : ∀ i ∈ is, step s i = .ok s) :
    run step s is = .ok s := by
  induction is with
  | nil => rfl
  | cons i is ih =>
    rw [run_cons_ok step s s s i is (h i List.mem_cons_self)]
    exact ih (fun j hj => h j (List.mem_cons_of_mem i hj))

variable {step}

/-- What every step that meets the condition preserves holds at the end of a run of such steps. -/
theorem invariant (Inv : σ → Prop) (C : σ → ι → Prop)
    (hstep : ∀ s i t, Inv s → C s i → step s i = .ok t → Inv t)
    (s t : σ) (is : List ι) (hs : Inv s) (hc : Along step C s is) (hrun : run step s is = .ok t) :
    Inv t := by
  induction is generalizing s with
  | nil => exact Except.ok.inj hrun ▸ hs
  | cons i is ih =>
    obtain ⟨u, hu, hrest⟩ := run_cons_ok_imp step s t i is hrun
    exact ih u (hstep s i u hs hc.1 hu) (hc.2 u hu) hrest

/-- Two conditions that agree in the states of an invariant, which steps meeting the second keep,
are met by the same runs. -/
theorem along_iff_along (Inv : σ → Prop) (C D : σ → ι → Prop)
    (hiff : ∀ s i, Inv s → (C s i ↔ D s i))
    (hstep : ∀ s i t, Inv s → D s i → step s i = .ok t → Inv t)
    (s : σ) (is : List ι) (hs : Inv s) : Along step C s is ↔ Along step D s is := by
  induction is generalizing s with
  | nil => rfl
  | cons i is ih =>
    constructor
    · rintro ⟨hc, hrest⟩
      have hd := (hiff s i hs).1 hc
      exact ⟨hd, fun t ht => (ih t (hstep s i t hs hd ht)).1 (hrest t ht)⟩
    · rintro ⟨hd, hrest⟩
      exact ⟨(hiff s i hs).2 hd, fun t ht => (ih t (hstep s i t hs hd ht)).2 (hrest t ht)⟩

/-- Along the runs of an invariant that steps meeting `C` keep, `C` can be weakened to what the
invariant makes of it. -/
theorem along_mono (Inv : σ → Prop) (C D : σ → ι → Prop) (himp : ∀ s i, Inv s → C s i → D s i)
    (hstep : ∀ s i t, Inv s → C s i → step s i = .ok t → Inv t)
    (s : σ) (is : List ι) (hs : Inv s) (hc : Along step C s is) : Along step D s is := by
  induction is generalizing s with
  | nil => trivial
  | cons i is ih =>
    exact ⟨himp s i hs hc.1, fun t ht => ih t (hstep s i t hs hc.1 ht) (hc.2 t ht)⟩

/-- When a condition decides which steps succeed, it decides which runs do. -/
theorem run_ok_iff_along (Inv : σ → Prop) (C : σ → ι → Prop)
    (hiff : ∀ s i, Inv s → ((∃ t, step s i = .ok t) ↔ C s i))
    (hstep : ∀ s i t, Inv s → step s i = .ok t → Inv t)
    (s : σ) (is : List ι) (hs : Inv s) : (∃ t, run step s is = .ok t) ↔ Along step C s is := by
  induction is generalizing s with
  | nil => exact iff_of_true ⟨s, rfl⟩ trivial
  | cons i is ih =>
    constructor
    · rintro ⟨u, hrun⟩
      obtain ⟨t, ht, hrest⟩ := run_cons_ok_imp step s u i is hrun
      refine ⟨(hiff s i hs).1 ⟨t, ht⟩, fun t' ht' => ?_⟩
      obtain rfl := Except.ok.inj (ht.symm.trans ht')
      exact (ih t (hstep s i t hs ht)).1 ⟨u, hrest⟩
    · rintro ⟨hc, hrest⟩
      obtain ⟨t, ht⟩ := (hiff s i hs).2 hc
      obtain ⟨u, hu⟩ := (ih t (hstep s i t hs ht)).2 (hrest t ht)
      exact ⟨u, (run_cons_ok step s t u i is ht).2 hu⟩

/-- A rank that every ticking step lowers and no step raises is used up after that many ticks. -/
theorem rank_le_sub_countP (Inv : σ → Prop) (rank : σ → ℕ) (tick : ι → Bool)
    (hstep : ∀ s i t, Inv s → step s i = .ok t →
      Inv t ∧ rank t ≤ rank s - (if tick i then 1 else 0))
    (s t : σ) (is : List ι) (hs : Inv s) (hrun : run step s is = .ok t) :
    rank t ≤ rank s - is.countP tick := by
  induction is generalizing s with
  | nil =>
    rw [Except.ok.inj hrun]
    simp
  | cons i is ih =>
    obtain ⟨u, hu, hrest⟩ := run_cons_ok_imp step s t i is hrun
    obtain ⟨hinv, hrank⟩ := hstep s i u hs hu
    have hle := ih u hinv hrest
    rw [List.countP_cons]
    omega

/-- When no step spends more than its potential drops, but for one unit it may be given, a run
spends the potential it starts with and the units it is given at most. -/
theorem spent_le (Inv : σ → Prop) (spent potential : σ → ℕ) (given : ι → Bool)
    (hstep : ∀ s i t, Inv s → step s i = .ok t →
      Inv t ∧ spent t + potential t ≤ spent s + potential s + (if given i then 1 else 0))
    (s t : σ) (is : List ι) (hs : Inv s) (hrun : run step s is = .ok t) :
    spent t + potential t ≤ spent s + potential s + is.countP given := by
  induction is generalizing s with
  | nil =>
    rw [Except.ok.inj hrun]
    exact Nat.le_add_right _ _
  | cons i is ih =>
    obtain ⟨u, hu, hrest⟩ := run_cons_ok_imp step s t i is hrun
    obtain ⟨hinv, hspent⟩ := hstep s i u hs hu
    have hle := ih u hinv hrest
    rw [List.countP_cons]
    omega

/-- The invariant rule for a property that also speaks of what was observed on the way. -/
theorem invariant_history {ο : Type*} (obs : σ → ι → List ο) (Inv : List ο → σ → Prop)
    (C : σ → ι → Prop)
    (hstep : ∀ h s i t, Inv h s → C s i → step s i = .ok t → Inv (h ++ obs s i) t)
    (h : List ο) (s t : σ) (is : List ι) (hs : Inv h s) (hc : Along step C s is)
    (hrun : run step s is = .ok t) : Inv (h ++ history step obs s is) t := by
  induction is generalizing s h with
  | nil =>
    rw [history, List.append_nil, ← Except.ok.inj hrun]
    exact hs
  | cons i is ih =>
    obtain ⟨u, hu, hrest⟩ := run_cons_ok_imp step s t i is hrun
    have hnext := ih (h ++ obs s i) u (hstep h s i u hs hc.1 hu) (hc.2 u hu) hrest
    simpa only [history, hu, List.append_assoc] using hnext

/-- A reflexive and transitive relation that every step keeps holds between the ends of a run. -/
theorem relation_of_run (R : σ → σ → Prop) (hrefl : ∀ s, R s s)
    (htrans : ∀ s t u, R s t → R t u → R s u) (hstep : ∀ s i t, step s i = .ok t → R s t)
    (s t : σ) (is : List ι) (hrun : run step s is = .ok t) : R s t := by
  induction is generalizing s with
  | nil => exact Except.ok.inj hrun ▸ hrefl s
  | cons i is ih =>
    obtain ⟨u, hu, hrest⟩ := run_cons_ok_imp step s t i is hrun
    exact htrans s u t (hstep s i u hu) (ih u hrest)

/-- A machine whose inputs are either steps of an abstract machine or bystanders, which always
succeed and do not show in the abstraction. Every run, seen through it, is the run of the abstract
machine on its own inputs, and the two end together. -/
theorem run_projected {τ κ ε' : Type*} (step' : τ → κ → Except ε' τ) (abs : σ → τ)
    (view : ι → Option κ) (Inv : σ → Prop)
    (hkeep : ∀ s i t, Inv s → step s i = .ok t → Inv t)
    (hstep : ∀ s i k, Inv s → view i = some k →
      (step s i).toOption.map abs = (step' (abs s) k).toOption)
    (hidle : ∀ s i, Inv s → view i = none → ∃ t, step s i = .ok t ∧ abs t = abs s)
    (s : σ) (is : List ι) (hs : Inv s) :
    (run step s is).toOption.map abs = (run step' (abs s) (is.filterMap view)).toOption := by
  induction is generalizing s with
  | nil => rfl
  | cons i is ih =>
    cases hi : view i with
    | none =>
      obtain ⟨t, ht, habs⟩ := hidle s i hs hi
      have hrest := ih t (hkeep s i t hs ht)
      rw [habs] at hrest
      simpa only [run, ht, Except.bind, List.filterMap_cons, hi] using hrest
    | some k =>
      have hsi := hstep s i k hs hi
      simp only [List.filterMap_cons, hi]
      cases ht : step s i with
      | ok t =>
        cases ht' : step' (abs s) k with
        | ok u =>
          rw [ht, ht'] at hsi
          have hu : abs t = u := Option.some.inj hsi
          have hrest := ih t (hkeep s i t hs ht)
          rw [hu] at hrest
          simpa only [run, ht, ht', Except.bind] using hrest
        | error e =>
          rw [ht, ht'] at hsi
          exact absurd hsi (Option.some_ne_none _)
      | error e =>
        cases ht' : step' (abs s) k with
        | ok u =>
          rw [ht, ht'] at hsi
          exact absurd hsi.symm (Option.some_ne_none _)
        | error e' => simp only [run, ht, ht', Except.bind, Except.toOption, Option.map_none]

/-- When every step, seen through an abstraction, is a step of an abstract machine, then so is every
run, and the two end together. -/
theorem run_abstracted {τ ε' : Type*} (step' : τ → ι → Except ε' τ) (abs : σ → τ) (Inv : σ → Prop)
    (hkeep : ∀ s i t, Inv s → step s i = .ok t → Inv t)
    (hstep : ∀ s i, Inv s → (step s i).toOption.map abs = (step' (abs s) i).toOption)
    (s : σ) (is : List ι) (hs : Inv s) :
    (run step s is).toOption.map abs = (run step' (abs s) is).toOption := by
  have hrun := run_projected step' abs some Inv hkeep
    (fun s i k hs hi => Option.some.inj hi ▸ hstep s i hs)
    (fun s i _ hi => absurd hi (Option.some_ne_none i)) s is hs
  rwa [List.filterMap_some] at hrun

/-- Under the same conditions the abstract machine reaches what the abstraction makes of the ends of
the concrete runs, and nothing else. -/
theorem run_abstracted_ok_iff {τ ε' : Type*} (step' : τ → ι → Except ε' τ) (abs : σ → τ)
    (Inv : σ → Prop) (hkeep : ∀ s i t, Inv s → step s i = .ok t → Inv t)
    (hstep : ∀ s i, Inv s → (step s i).toOption.map abs = (step' (abs s) i).toOption)
    (s : σ) (is : List ι) (hs : Inv s) (u : τ) :
    run step' (abs s) is = .ok u ↔ ∃ t, run step s is = .ok t ∧ abs t = u := by
  have hends := run_abstracted step' abs Inv hkeep hstep s is hs
  generalize run step s is = result, run step' (abs s) is = result' at hends ⊢
  cases result with
  | error e =>
    cases result' with
    | error e' => exact iff_of_false (by simp) (by simp)
    | ok v => exact absurd hends.symm (Option.some_ne_none v)
  | ok t =>
    cases result' with
    | error e => exact absurd hends (Option.some_ne_none (abs t))
    | ok v =>
      obtain rfl : abs t = v := Option.some.inj hends
      constructor
      · intro hu
        exact ⟨t, rfl, Except.ok.inj hu⟩
      · rintro ⟨t', ht', rfl⟩
        rw [Except.ok.inj ht']

/-- While no step of a run leaves a phase each of its ticks uses up rank, so a run with more ticks
than rank leaves the phase. -/
theorem exists_exit (Inv Exit : σ → Prop) (rank : σ → ℕ) (tick : ι → Bool) (C : ι → Prop)
    (hstep : ∀ s i, Inv s → C i → ∃ t, step s i = .ok t ∧
      (Exit t ∨ Inv t ∧ rank t + (if tick i then 1 else 0) ≤ rank s))
    (s : σ) (is : List ι) (hs : Inv s) (hc : ∀ i ∈ is, C i) (hcount : rank s < is.countP tick) :
    ∃ seen rest t, is = seen ++ rest ∧ run step s seen = .ok t ∧ Exit t := by
  induction is generalizing s with
  | nil => exact absurd hcount (Nat.not_lt_zero _)
  | cons i is ih =>
    obtain ⟨t, ht, hexit | ⟨hinv, hrank⟩⟩ := hstep s i hs (hc i List.mem_cons_self)
    · exact ⟨[i], is, t, rfl, (run_cons_ok step s t t i [] ht).2 rfl, hexit⟩
    · rw [List.countP_cons] at hcount
      obtain ⟨seen, rest, u, rfl, hrun, hexit⟩ :=
        ih t hinv (fun j hj => hc j (List.mem_cons_of_mem i hj)) (by omega)
      exact ⟨i :: seen, rest, u, rfl, (run_cons_ok step s t u i seen ht).2 hrun, hexit⟩

/-- `Inserted Extra is js` says that `js` is `is` with extra inputs put in. -/
inductive Inserted (Extra : ι → Prop) : List ι → List ι → Prop
  | nil : Inserted Extra [] []
  | keep (i : ι) {is js : List ι} (h : Inserted Extra is js) : Inserted Extra (i :: is) (i :: js)
  | extra (i : ι) {is js : List ι} (hi : Extra i) (h : Inserted Extra is js) :
      Inserted Extra is (i :: js)

/-- Extra inputs whose steps stay in a relation that the other steps keep do not show in it. -/
theorem run_inserted (Inv : σ → Prop) (R : σ → σ → Prop) (Extra : ι → Prop)
    (hstep : ∀ s s' i t, Inv s → R s s' → step s i = .ok t →
      Inv t ∧ ∃ t', step s' i = .ok t' ∧ R t t')
    (hextra : ∀ s s' i, Inv s → R s s' → Extra i → ∃ t', step s' i = .ok t' ∧ R s t')
    (s s' t : σ) (is js : List ι) (hs : Inv s) (hR : R s s') (hins : Inserted Extra is js)
    (hrun : run step s is = .ok t) : ∃ t', run step s' js = .ok t' ∧ R t t' := by
  induction hins generalizing s s' with
  | nil => exact ⟨s', rfl, Except.ok.inj hrun ▸ hR⟩
  | @keep i is js hins ih =>
    obtain ⟨u, hu, hrest⟩ := run_cons_ok_imp step s t i is hrun
    obtain ⟨hinv, u', hu', hR'⟩ := hstep s s' i u hs hR hu
    obtain ⟨t', hrun', ht'⟩ := ih u u' hinv hR' hrest
    exact ⟨t', (run_cons_ok step s' u' t' i js hu').2 hrun', ht'⟩
  | @extra i is js hi hins ih =>
    obtain ⟨u', hu', hR'⟩ := hextra s s' i hs hR hi
    obtain ⟨t', hrun', ht'⟩ := ih s u' hs hR' hrun
    exact ⟨t', (run_cons_ok step s' u' t' i js hu').2 hrun', ht'⟩

end PartialRun
