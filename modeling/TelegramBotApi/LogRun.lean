import Mathlib.Data.List.Induction

/-!
# Runs that write a log

A component takes steps that may stop it, and every step adds a group of records to its log. Wherever the
log of a run is cut, the cut lies behind the log of one state of the run, and within the group that the next
step adds.
-/

namespace LogRun

variable {σ α ρ : Type*} (act : σ → α → Option σ)

def run (s : σ) (as : List α) : Option σ := as.foldlM act s

@[simp] theorem run_nil (s : σ) : run act s [] = some s := rfl

theorem run_concat (s : σ) (as : List α) (a : α) :
    run act s (as ++ [a]) = (run act s as).bind fun s' => act s' a := by
  unfold run
  rw [List.foldlM_append]
  simp only [List.foldlM_cons, List.foldlM_nil, bind_pure]
  rfl

variable {act} {I : σ → Prop} (log : σ → List ρ) {s₀ s : σ} {as : List α} {m : Nat}

/-- The invariant rule: a property that every step keeps holds at the end of every run. -/
theorem run_invariant (hstep : ∀ s a s', I s → act s a = some s' → I s') (hs : I s₀)
    (hrun : run act s₀ as = some s) : I s := by
  induction as using List.reverseRecOn generalizing s with
  | nil =>
      obtain rfl := Option.some.inj hrun
      exact hs
  | append_singleton as a ih =>
      rw [run_concat, Option.bind_eq_some_iff] at hrun
      obtain ⟨s', hrun', hact⟩ := hrun
      exact hstep s' a s (ih hrun') hact

/-- A property that a step keeps while a bound holds, which no step takes back. -/
theorem run_invariant_while {J B : σ → Prop} (hstep : ∀ s a s', I s → act s a = some s' → I s' ∧ (B s' → B s))
    (hkeep : ∀ s a s', I s → B s → J s → act s a = some s' → J s') (hs : I s₀) (hJ : J s₀)
    (hrun : run act s₀ as = some s) (hB : B s) : J s := by
  have hboth : I s ∧ (B s → J s) := by
    refine run_invariant (I := fun s => I s ∧ (B s → J s)) (fun s a s' hboth hact => ?_) ⟨hs, fun _ => hJ⟩ hrun
    obtain ⟨hs', hbound⟩ := hstep s a s' hboth.1 hact
    exact ⟨hs', fun hB' => hkeep s a s' hboth.1 (hbound hB') (hboth.2 (hbound hB')) hact⟩
  exact hboth.2 hB

/-- The state after the first actions of a longer run. -/
theorem run_take_concat (s₀ : σ) {a : α} {i : Nat} (hi : i ≤ as.length) :
    run act s₀ ((as ++ [a]).take i) = run act s₀ (as.take i) := by
  rw [List.take_append_of_le_length hi]

/-- `u` is the last state of the run whose log has at most `m` records, and `v` the one behind it. -/
structure CutAt (act : σ → α → Option σ) (log : σ → List ρ) (s₀ : σ) (as : List α) (m i : Nat) (u v : σ) : Prop where
  le : i ≤ as.length
  before : run act s₀ (as.take i) = some u
  after : run act s₀ (as.take (i + 1)) = some v
  sent : (log u).length ≤ m
  within : m ≤ (log v).length
  step : v = u ∨ ∃ a, act u a = some v
  last : ∀ j ≤ as.length, ∀ w, run act s₀ (as.take j) = some w → (log w).length ≤ m → j ≤ i

/-- What is left of the log: that of the first state, and a beginning of the group that the step has added. -/
theorem CutAt.take {i : Nat} {u v : σ} {rs : List ρ} (h : CutAt act log s₀ as m i u v) (hv : log v <+: log s)
    (hlog : log v = log u ++ rs) : (log s).take m = log u ++ rs.take (m - (log u).length) := by
  obtain ⟨later, hlater⟩ := hv
  rw [← hlater, List.take_append_of_le_length h.within, hlog, List.take_append, List.take_of_length_le h.sent]

/-- Wherever the log is cut, the cut lies between two neighbouring states of the run, and the log of the
second is a beginning of the whole log. -/
theorem exists_cut (hstep : ∀ s a s', I s → act s a = some s' → I s' ∧ log s <+: log s') (hs : I s₀)
    (hrun : run act s₀ as = some s) (h₀ : (log s₀).length ≤ m) (hm : m ≤ (log s).length) :
    ∃ i u v, CutAt act log s₀ as m i u v ∧ log v <+: log s := by
  induction as using List.reverseRecOn generalizing s with
  | nil =>
      obtain rfl := Option.some.inj hrun
      exact ⟨0, s₀, s₀, ⟨Nat.le_refl 0, rfl, rfl, h₀, hm, Or.inl rfl, fun j hj _ _ _ => hj⟩, List.prefix_refl _⟩
  | append_singleton as a ih =>
      have hlength : (as ++ [a]).length = as.length + 1 := List.length_append
      have hwhole : run act s₀ ((as ++ [a]).take (as.length + 1)) = some s := by
        rw [← hlength, List.take_length]
        exact hrun
      rw [run_concat, Option.bind_eq_some_iff] at hrun
      obtain ⟨s', hrun', hact⟩ := hrun
      have hs' : I s' := run_invariant (fun t b t' ht hact => (hstep t b t' ht hact).1) hs hrun'
      have hprefix := (hstep s' a s hs' hact).2
      by_cases hall : m = (log s).length
      · -- everything is there: the last state is the one
        subst hall
        refine ⟨as.length + 1, s, s, ⟨Nat.le_of_eq hlength.symm, hwhole, ?_, Nat.le_refl _, Nat.le_refl _, Or.inl rfl,
          fun j hj _ _ _ => hlength ▸ hj⟩, List.prefix_refl _⟩
        rw [List.take_of_length_le (by omega), ← List.take_of_length_le (Nat.le_of_eq hlength)]
        exact hwhole
      have hlast : ∀ j ≤ (as ++ [a]).length, ∀ w, run act s₀ ((as ++ [a]).take j) = some w → (log w).length ≤ m →
          j ≤ as.length := by
        intro j hj w hw hle
        by_contra hnot
        obtain rfl : j = as.length + 1 := by omega
        obtain rfl := Option.some.inj (hwhole.symm.trans hw)
        omega
      by_cases hold : m < (log s').length
      · obtain ⟨i, u, v, hcut, hv⟩ := ih hrun' (Nat.le_of_lt hold)
        have hi : i < as.length := by
          refine Nat.lt_of_le_of_ne hcut.le fun heq => ?_
          have hbefore := hcut.before
          rw [heq, List.take_length] at hbefore
          obtain rfl := Option.some.inj (hrun'.symm.trans hbefore)
          exact absurd hcut.sent (Nat.not_le.2 hold)
        refine ⟨i, u, v, ⟨by omega, ?_, ?_, hcut.sent, hcut.within, hcut.step, fun j hj w hw hle => ?_⟩,
          hv.trans hprefix⟩
        · rw [run_take_concat s₀ hcut.le]
          exact hcut.before
        · rw [run_take_concat s₀ hi]
          exact hcut.after
        · have hj' := hlast j hj w hw hle
          rw [run_take_concat s₀ hj'] at hw
          exact hcut.last j hj' w hw hle
      · refine ⟨as.length, s', s, ⟨by omega, ?_, hwhole, Nat.le_of_not_lt hold, hm, Or.inr ⟨a, hact⟩, hlast⟩,
          List.prefix_refl _⟩
        rw [List.take_left]
        exact hrun'

end LogRun
