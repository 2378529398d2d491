import Mathlib.Algebra.Order.Ring.Int
import Mathlib.Data.List.Basic

/-!
# Runs of a deterministic step function

A component is a step function `step : σ → ε → σ`; a run feeds it a finite list of inputs.
`AllSteps` asks a condition of every step that a run takes, at the state the step starts from.
The rules below carry an invariant along a run and compare two step conditions under one.
-/

namespace StepRun

variable {σ ε : Type*} (step : σ → ε → σ)

def run (s : σ) (es : List ε) : σ := es.foldl step s

@[simp] theorem run_nil (s : σ) : run step s [] = s := rfl

@[simp] theorem run_cons (s : σ) (e : ε) (es : List ε) :
    run step s (e :: es) = run step (step s e) es := rfl

theorem run_append (s : σ) (es fs : List ε) :
    run step s (es ++ fs) = run step (run step s es) fs := List.foldl_append

theorem run_concat (s : σ) (es : List ε) (e : ε) :
    run step s (es ++ [e]) = step (run step s es) e := by
  rw [run_append, run_cons, run_nil]

/-- Every step of the run meets `ok` at the state it starts from. -/
def AllSteps (ok : σ → ε → Prop) : σ → List ε → Prop
  | _, [] => True
  | s, e :: es => ok s e ∧ AllSteps ok (step s e) es

instance AllSteps.decidable (ok : σ → ε → Prop) [∀ s e, Decidable (ok s e)] :
    ∀ s es, Decidable (AllSteps step ok s es)
  | _, [] => inferInstanceAs (Decidable True)
  | s, e :: es =>
    have := AllSteps.decidable ok (step s e) es
    inferInstanceAs (Decidable (ok s e ∧ AllSteps step ok (step s e) es))

variable {step} {ok p q : σ → ε → Prop} {I : σ → Prop}

theorem allSteps_append (s : σ) (es fs : List ε) :
    AllSteps step ok s (es ++ fs) ↔
      AllSteps step ok s es ∧ AllSteps step ok (run step s es) fs := by
  induction es generalizing s with
  | nil => simp [AllSteps]
  | cons e es ih => simp only [List.cons_append, AllSteps, ih, run_cons, and_assoc]

theorem allSteps_concat (s : σ) (es : List ε) (e : ε) :
    AllSteps step ok s (es ++ [e]) ↔ AllSteps step ok s es ∧ ok (run step s es) e := by
  rw [allSteps_append]
  simp only [AllSteps, and_true]

/-- The condition holds of every step, however the run is cut at it. -/
theorem allSteps_iff_split (s : σ) (es : List ε) :
    AllSteps step ok s es ↔
      ∀ before e after, es = before ++ e :: after → ok (run step s before) e := by
  induction es generalizing s with
  | nil => exact iff_of_true trivial fun before e after h => by simp at h
  | cons e es ih =>
      refine ⟨fun h before f after he => ?_, fun h => ⟨h [] e es rfl, (ih _).2 ?_⟩⟩
      · cases before with
        | nil =>
            obtain ⟨rfl, -⟩ := List.cons.inj he
            exact h.1
        | cons b before =>
            obtain ⟨rfl, rfl⟩ := List.cons.inj he
            exact (ih _).1 h.2 before f after rfl
      · intro before f after he
        exact h (e :: before) f after (by rw [he]; rfl)

/-- The invariant rule: a property kept by every step that meets `ok` holds at the end of every
run whose steps meet `ok`. -/
theorem run_invariant (hstep : ∀ s e, I s → ok s e → I (step s e)) {s : σ} (hs : I s)
    {es : List ε} (hok : AllSteps step ok s es) : I (run step s es) := by
  induction es generalizing s with
  | nil => exact hs
  | cons e es ih => exact ih (hstep s e hs hok.1) hok.2

theorem run_invariant_always (hstep : ∀ s e, I s → I (step s e)) {s : σ} (hs : I s)
    (es : List ε) : I (run step s es) := by
  induction es generalizing s with
  | nil => exact hs
  | cons e es ih => exact ih (hstep s e hs)

/-- Two step conditions that agree on every state of an invariant agree on every run, if the steps
that meet them keep the invariant. -/
theorem allSteps_congr (hstep : ∀ s e, I s → q s e → I (step s e))
    (hpq : ∀ s e, I s → (p s e ↔ q s e)) {s : σ} (hs : I s) (es : List ε) :
    AllSteps step p s es ↔ AllSteps step q s es := by
  induction es generalizing s with
  | nil => exact Iff.rfl
  | cons e es ih =>
      refine ⟨fun h => ?_, fun h => ⟨(hpq s e hs).2 h.1, (ih (hstep s e hs h.1)).2 h.2⟩⟩
      have hq := (hpq s e hs).1 h.1
      exact ⟨hq, (ih (hstep s e hs hq)).1 h.2⟩

/-- If a step from a good state leads to a good state exactly when it meets `ok`, then all states of
a run are good exactly when all its steps meet `ok`. -/
theorem allSteps_good_iff {Good : σ → Prop} (hstep : ∀ s e, I s → I (step s e))
    (hgood : ∀ s e, I s → Good s → (Good (step s e) ↔ ok s e)) {s : σ} (hs : I s) (hg : Good s)
    (es : List ε) :
    AllSteps step (fun s e => Good (step s e)) s es ↔ AllSteps step ok s es := by
  refine allSteps_congr (I := fun s => I s ∧ Good s) ?_ ?_ ⟨hs, hg⟩ es
  · intro s e h hok
    exact ⟨hstep s e h.1, (hgood s e h.1 h.2).2 hok⟩
  · exact fun s e h => hgood s e h.1 h.2

theorem AllSteps.imp (hstep : ∀ s e, I s → ok s e → I (step s e))
    (hp : ∀ s e, I s → ok s e → p s e) {s : σ} (hs : I s) {es : List ε}
    (hok : AllSteps step ok s es) : AllSteps step p s es := by
  induction es generalizing s with
  | nil => trivial
  | cons e es ih => exact ⟨hp s e hs hok.1, ih (hstep s e hs hok.1) hok.2⟩

/-- A property that is lost exactly at the steps that break `ok`, and never regained, holds at the
end of a run if and only if all its steps meet `ok`. -/
theorem run_iff_allSteps (I Good : σ → Prop) (hgood : ∀ s, I s → Good s)
    (hstep : ∀ s e, I s → ok s e → I (step s e))
    (hlost : ∀ s e, I s → ¬ ok s e → ¬ Good (step s e))
    (hkeep : ∀ s e, ¬ Good s → ¬ Good (step s e)) {s : σ} (hs : I s) (es : List ε) :
    Good (run step s es) ↔ AllSteps step ok s es := by
  have hbad : ∀ (fs : List ε) t, ¬ Good t → ¬ Good (run step t fs) := by
    intro fs
    induction fs with
    | nil => exact fun t ht => ht
    | cons f fs ih => exact fun t ht => ih _ (hkeep t f ht)
  induction es generalizing s with
  | nil => exact iff_of_true (hgood s hs) trivial
  | cons e es ih =>
      by_cases hok : ok s e
      · exact (ih (hstep s e hs hok)).trans (and_iff_right hok).symm
      · exact iff_of_false (hbad es _ (hlost s e hs hok)) fun h => hok h.1

end StepRun
