import Mathlib.Data.List.AList

/-!
# Lookups in an updated table

What is found in a table after an insertion or an erasure was found there before, or was put there.
-/

namespace TableLookup

variable {κ β : Type*} [DecidableEq κ] {t : AList fun _ : κ => β} {k key : κ} {v value : β}

theorem of_insert (h : (t.insert k v).lookup key = some value) :
    (key = k ∧ value = v) ∨ (key ≠ k ∧ t.lookup key = some value) := by
  by_cases heq : key = k
  · rw [heq, AList.lookup_insert] at h
    exact Or.inl ⟨heq, (Option.some.inj h).symm⟩
  · rw [AList.lookup_insert_ne heq] at h
    exact Or.inr ⟨heq, h⟩

theorem of_erase (h : (t.erase k).lookup key = some value) : key ≠ k ∧ t.lookup key = some value := by
  by_cases heq : key = k
  · rw [heq, AList.lookup_erase] at h
    cases h
  · rw [AList.lookup_erase_ne heq] at h
    exact ⟨heq, h⟩

end TableLookup
