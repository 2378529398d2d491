import Mathlib.Data.List.Basic

/-!
# Properties of every entry of a history

`Each P past l` asks `P` of every entry of `l` together with all that precedes it, starting from
`past`. It is the form in which ordering requirements on a log are stated: a log satisfies `Each P []`
exactly when `P` holds at every way of cutting it before an entry. `lastWord` reads the answer to a
yes-or-no question off the last entry that has one.
-/

namespace History

variable {α : Type*}

def Each (P : List α → α → Prop) : List α → List α → Prop
  | _, [] => True
  | past, x :: xs => P past x ∧ Each P (past ++ [x]) xs

instance Each.decidable (P : List α → α → Prop) [∀ past x, Decidable (P past x)] :
    ∀ past l, Decidable (Each P past l)
  | _, [] => inferInstanceAs (Decidable True)
  | past, x :: xs =>
    have := Each.decidable P (past ++ [x]) xs
    inferInstanceAs (Decidable (P past x ∧ Each P (past ++ [x]) xs))

variable {P Q : List α → α → Prop}

@[simp] theorem each_nil (past : List α) : Each P past [] := trivial

@[simp] theorem each_cons (past : List α) (x : α) (xs : List α) :
    Each P past (x :: xs) ↔ P past x ∧ Each P (past ++ [x]) xs := Iff.rfl

theorem each_append (past xs ys : List α) :
    Each P past (xs ++ ys) ↔ Each P past xs ∧ Each P (past ++ xs) ys := by
  induction xs generalizing past with
  | nil => simp
  | cons x xs ih =>
      simp only [List.cons_append, each_cons, ih, and_assoc, List.append_assoc, List.nil_append]

/-- Entries for which `P` asks nothing can be appended freely. -/
theorem each_append_of_forall {past xs ys : List α} (h : Each P past xs)
    (hys : ∀ y ∈ ys, ∀ past, P past y) : Each P past (xs ++ ys) := by
  rw [each_append]
  refine ⟨h, ?_⟩
  generalize past ++ xs = before
  induction ys generalizing before with
  | nil => trivial
  | cons y ys ih =>
      exact ⟨hys y (by simp) before, ih (fun z hz => hys z (by simp [hz])) _⟩

/-- The last thing that a log says on a question, where `say` is what one entry says on it. -/
def lastWord (say : α → Option Bool) (l : List α) : Bool := l.foldl (fun b a => (say a).getD b) false

variable {say : α → Option Bool} {l k : List α}

theorem foldl_getD_of_none (b : Bool) (h : ∀ a ∈ k, say a = none) :
    k.foldl (fun b a => (say a).getD b) b = b := by
  induction k with
  | nil => rfl
  | cons a k ih =>
      rw [List.foldl_cons, h a List.mem_cons_self]
      exact ih fun c hc => h c (List.mem_cons_of_mem _ hc)

theorem lastWord_append_of_silent (h : ∀ a ∈ k, say a = none) :
    lastWord say (l ++ k) = lastWord say l := by
  rw [lastWord, List.foldl_append]
  exact foldl_getD_of_none _ h

theorem foldl_getD_of_affirmed {b : Bool} (h : ∀ a ∈ k, say a ≠ some false)
    (hk : b = true ∨ ∃ a ∈ k, say a = some true) :
    k.foldl (fun b a => (say a).getD b) b = true := by
  induction k generalizing b with
  | nil => exact hk.resolve_right fun ⟨a, ha, _⟩ => absurd ha List.not_mem_nil
  | cons a k ih =>
      refine ih (fun c hc => h c (List.mem_cons_of_mem _ hc)) ?_
      have ha := h a List.mem_cons_self
      dsimp only
      cases hsay : say a with
      | some v =>
          left
          cases v with
          | true => rfl
          | false => exact absurd hsay ha
      | none =>
          rcases hk with hb | ⟨c, hc, htrue⟩
          · exact Or.inl hb
          · rcases List.mem_cons.1 hc with rfl | hc
            · rw [hsay] at htrue
              cases htrue
            · exact Or.inr ⟨c, hc, htrue⟩

/-- Entries that affirm once and never deny have the last word. -/
theorem lastWord_append_of_affirmed (h : ∀ a ∈ k, say a ≠ some false)
    (hk : ∃ a ∈ k, say a = some true) : lastWord say (l ++ k) = true := by
  rw [lastWord, List.foldl_append]
  exact foldl_getD_of_affirmed h (Or.inr hk)

end History
