import Mathlib.Data.List.Basic

/-!
# Logs that only grow

A handler appends to a log. `Extends P l l'` says that `l'` is `l` followed by entries that satisfy
`P`; it composes along the calls a handler makes.
-/

namespace ActionLog

variable {α : Type*} {P Q : α → Prop} {l l₁ l₂ l₃ : List α}

def Extends (P : α → Prop) (l l' : List α) : Prop := ∃ k, l' = l ++ k ∧ ∀ a ∈ k, P a

theorem Extends.refl (l : List α) : Extends P l l := ⟨[], by simp⟩

theorem Extends.trans (h₁ : Extends P l₁ l₂) (h₂ : Extends P l₂ l₃) : Extends P l₁ l₃ := by
  obtain ⟨k₁, rfl, hk₁⟩ := h₁
  obtain ⟨k₂, rfl, hk₂⟩ := h₂
  refine ⟨k₁ ++ k₂, by rw [List.append_assoc], ?_⟩
  intro a ha
  rcases List.mem_append.1 ha with ha | ha
  · exact hk₁ a ha
  · exact hk₂ a ha

theorem Extends.append {k : List α} (hk : ∀ a ∈ k, P a) : Extends P l (l ++ k) := ⟨k, rfl, hk⟩

theorem Extends.concat {a : α} (ha : P a) : Extends P l (l ++ [a]) :=
  Extends.append fun b hb => by rwa [List.mem_singleton.1 hb]

theorem Extends.imp (h : Extends P l₁ l₂) (hpq : ∀ a, P a → Q a) : Extends Q l₁ l₂ := by
  obtain ⟨k, rfl, hk⟩ := h
  exact ⟨k, rfl, fun a ha => hpq a (hk a ha)⟩

theorem Extends.mem (h : Extends P [] l) : ∀ a ∈ l, P a := by
  obtain ⟨k, rfl, hk⟩ := h
  simpa using hk

theorem Extends.mem_of_nil (h : Extends P l₁ l₂) (hnil : l₁ = []) : ∀ a ∈ l₂, P a := by
  rw [hnil] at h
  exact h.mem

end ActionLog
