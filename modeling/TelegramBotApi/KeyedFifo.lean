import TelegramBotApi.StepRun
import Mathlib.Data.List.Nodup
import Mathlib.Logic.Function.Basic

/-!
# First-in first-out queues with keys

Elements wait in one queue for each key. An element may be served any number of times while it is the
first of its queue, and is dropped from there. In a legal history an element that was pushed behind
another one is therefore not served before that one was dropped.
-/

namespace KeyedFifo

variable {κ α : Type*}

inductive Op (κ α : Type*) where
  | push (k : κ) (x : α)
  | serve (x : α)
  | drop (x : α)

def step [DecidableEq κ] [DecidableEq α] (Q : κ → List α) : Op κ α → κ → List α
  | .push k x => Function.update Q k (Q k ++ [x])
  | .serve _ => Q
  | .drop x => fun k => if (Q k).head? = some x then (Q k).tail else Q k

/-- Only new elements are pushed, and only first ones are served or dropped. -/
def Legal (Q : κ → List α) : Op κ α → Prop
  | .push _ x => ∀ k, x ∉ Q k
  | .serve x => ∃ k, (Q k).head? = some x
  | .drop x => ∃ k, (Q k).head? = some x

/-- Every element is in one place. -/
structure Clean (Q : κ → List α) : Prop where
  nodup : ∀ k, (Q k).Nodup
  disjoint : ∀ {k k' x}, x ∈ Q k → x ∈ Q k' → k = k'

variable {Q : κ → List α} {k : κ} {x y : α} {op : Op κ α}

theorem clean_empty : Clean fun _ : κ => ([] : List α) :=
  ⟨fun _ => List.nodup_nil, fun h => absurd h List.not_mem_nil⟩

def Ahead (Q : κ → List α) (k : κ) (x y : α) : Prop := ∃ a b c, Q k = a ++ x :: (b ++ y :: c)

theorem Ahead.not_served (h : Ahead Q k x y) (hQ : Clean Q) : ¬ Legal Q (.serve y) := by
  rintro ⟨k', hhead⟩
  obtain ⟨a, b, c, hq⟩ := h
  have hnodup := hQ.nodup k
  have hk : k' = k := hQ.disjoint (List.mem_of_head? hhead) (by rw [hq]; simp : y ∈ Q k)
  subst hk
  rw [hq] at hhead hnodup
  cases a with
  | nil =>
      obtain rfl : x = y := by simpa using hhead
      simp at hnodup
  | cons a rest =>
      obtain rfl : a = y := by simpa using hhead
      simp at hnodup

variable [DecidableEq κ] [DecidableEq α]

theorem drop_sublist (Q : κ → List α) (x : α) (k : κ) : (step Q (.drop x) k).Sublist (Q k) := by
  simp only [step]
  split_ifs
  · exact List.tail_sublist _
  · exact List.Sublist.refl _

theorem mem_push {k' : κ} {z : α} :
    z ∈ step Q (.push k x) k' ↔ z ∈ Q k' ∨ (k' = k ∧ z = x) := by
  simp only [step, Function.update_apply]
  split_ifs with hk
  · subst hk
    simp
  · simp [hk]

theorem Clean.step (h : Clean Q) (hop : Legal Q op) : Clean (step Q op) := by
  cases op with
  | push k x =>
      refine ⟨fun k' => ?_, fun {a b z} ha hb => ?_⟩
      · simp only [KeyedFifo.step, Function.update_apply]
        split_ifs with hk
        · refine List.nodup_append.2 ⟨h.nodup k, by simp, ?_⟩
          rintro a ha b hb rfl
          exact hop k (List.mem_singleton.1 hb ▸ ha)
        · exact h.nodup k'
      · rcases mem_push.1 ha with ha' | ⟨hak, rfl⟩ <;> rcases mem_push.1 hb with hb' | ⟨hbk, hz⟩
        · exact h.disjoint ha' hb'
        · exact absurd (hz ▸ ha') (hop a)
        · exact absurd hb' (hop b)
        · rw [hak, hbk]
  | serve x => exact h
  | drop x =>
      exact ⟨fun k => (h.nodup k).sublist (drop_sublist Q x k),
        fun ha hb => h.disjoint ((drop_sublist Q x _).mem ha) ((drop_sublist Q x _).mem hb)⟩

/-- Only a drop takes an element out. -/
theorem mem_step (hx : x ∈ Q k) (hop : op ≠ .drop x) : x ∈ step Q op k := by
  cases op with
  | push k' z => exact mem_push.2 (Or.inl hx)
  | serve z => exact hx
  | drop z =>
      have hz : z ≠ x := fun he => hop (he ▸ rfl)
      simp only [step]
      split_ifs with hhead
      · cases hq : Q k with
        | nil =>
            rw [hq] at hx
            cases hx
        | cons a rest =>
            rw [hq] at hx hhead
            rw [List.head?_cons, Option.some.injEq] at hhead
            subst hhead
            exact (List.mem_cons.1 hx).resolve_left (Ne.symm hz)
      · exact hx

theorem Ahead.step (h : Ahead Q k x y) (hop : op ≠ .drop x) : Ahead (step Q op) k x y := by
  obtain ⟨a, b, c, hq⟩ := h
  cases op with
  | push k' z =>
      simp only [Ahead, KeyedFifo.step, Function.update_apply]
      split_ifs with hk
      · subst hk
        exact ⟨a, b, c ++ [z], by rw [hq]; simp⟩
      · exact ⟨a, b, c, hq⟩
  | serve z => exact ⟨a, b, c, hq⟩
  | drop z =>
      simp only [Ahead, KeyedFifo.step]
      split_ifs with hhead
      · cases a with
        | nil =>
            rw [hq, List.nil_append, List.head?_cons, Option.some.injEq] at hhead
            exact absurd (hhead ▸ rfl) hop
        | cons a rest => exact ⟨rest, b, c, by rw [hq]; rfl⟩
      · exact ⟨a, b, c, hq⟩

/-- What a step keeps unless it drops `x` is kept by a history that does not drop `x`. -/
theorem run_keeps {I : (κ → List α) → Prop} (hstep : ∀ Q op, I Q → op ≠ .drop x → I (step Q op))
    (hQ : I Q) {ops : List (Op κ α)} (hops : .drop x ∉ ops) : I (StepRun.run step Q ops) := by
  induction ops generalizing Q with
  | nil => exact hQ
  | cons op ops ih =>
      rw [List.mem_cons, not_or] at hops
      exact ih (hstep Q op hQ (Ne.symm hops.1)) hops.2

/-- In a legal history an element is served only after every element that was pushed before it into
the same queue was dropped. -/
theorem served_after_drop {l₁ l₂ m n : List (Op κ α)} (hQ : Clean Q)
    (h : StepRun.AllSteps step Legal Q
      (l₁ ++ .push k x :: (l₂ ++ .push k y :: (m ++ .serve y :: n)))) :
    .drop x ∈ l₂ ++ m := by
  by_contra hnot
  rw [List.mem_append, not_or] at hnot
  obtain ⟨hl₁, h⟩ := (StepRun.allSteps_append _ _ _).1 h
  obtain ⟨hx, h⟩ := h
  obtain ⟨hl₂, h⟩ := (StepRun.allSteps_append _ _ _).1 h
  obtain ⟨hy, h⟩ := h
  obtain ⟨hm, hserve, -⟩ := (StepRun.allSteps_append _ _ _).1 h
  have hrule := fun (Q : κ → List α) op (hQ : Clean Q) (hop : Legal Q op) => Clean.step hQ hop
  have hclean₁ := Clean.step (StepRun.run_invariant hrule hQ hl₁) hx
  have hclean₂ := Clean.step (StepRun.run_invariant hrule hclean₁ hl₂) hy
  have hclean₃ := StepRun.run_invariant hrule hclean₂ hm
  have hpushed : x ∈ step (StepRun.run step Q l₁) (.push k x) k := mem_push.2 (Or.inr ⟨rfl, rfl⟩)
  have hwaits := run_keeps (I := fun Q => x ∈ Q k) (fun Q op => mem_step) hpushed hnot.1
  generalize StepRun.run step (step (StepRun.run step Q l₁) (.push k x)) l₂ = R at *
  have hahead : Ahead (step R (.push k y)) k x y := by
    obtain ⟨a, b, hR⟩ := List.append_of_mem hwaits
    refine ⟨a, b, [], ?_⟩
    simp only [step, Function.update_self, hR]
    simp
  exact (run_keeps (I := fun Q => Ahead Q k x y) (fun Q op => Ahead.step) hahead hnot.2).not_served
    hclean₃ hserve

end KeyedFifo
