import Mathlib.Data.List.AList

/-!
# Maps from keys to non-empty lists

A `Multimap κ ν` is a finite map whose values are lists that are never empty: an entry disappears
with its last element. Reading an absent key gives the empty list, so a key is present exactly when
its list is non-empty.
-/

structure Multimap (κ ν : Type*) [DecidableEq κ] where
  entries : AList fun _ : κ => List ν
  nonempty : ∀ k, entries.lookup k ≠ some []

namespace Multimap

variable {κ ν : Type*} [DecidableEq κ] (m : Multimap κ ν) (k : κ)

def empty : Multimap κ ν := ⟨∅, fun k => by simp⟩

def get : List ν := (m.entries.lookup k).getD []

/-- Removes a key with all its elements. -/
def drop : Multimap κ ν where
  entries := m.entries.erase k
  nonempty j := by
    by_cases h : j = k
    · subst h
      simp
    · rw [AList.lookup_erase_ne h]
      exact m.nonempty j

/-- Replaces the list of a key; the empty list removes the key. -/
def set (vs : List ν) : Multimap κ ν :=
  if h : vs = [] then m.drop k
  else
    { entries := m.entries.insert k vs
      nonempty := by
        intro j
        by_cases hj : j = k
        · subst hj
          simpa using h
        · rw [AList.lookup_insert_ne hj]
          exact m.nonempty j }

def push (v : ν) : Multimap κ ν := m.set k (m.get k ++ [v])

def values : List ν := m.entries.entries.flatMap fun e => e.2

@[simp] theorem get_empty : (empty : Multimap κ ν).get k = [] := by
  simp [get, empty]

@[simp] theorem get_drop_self : (m.drop k).get k = [] := by
  simp [get, drop]

theorem get_drop_ne {j : κ} (h : j ≠ k) : (m.drop k).get j = m.get j := by
  simp only [get, drop, AList.lookup_erase_ne h]

theorem get_set (vs : List ν) (j : κ) : (m.set k vs).get j = if j = k then vs else m.get j := by
  unfold set
  split_ifs with hvs hj hj
  · subst hj
    rw [get_drop_self, hvs]
  · exact get_drop_ne m k hj
  · subst hj
    simp [get]
  · simp [get, AList.lookup_insert_ne hj]

theorem get_push (v : ν) (j : κ) :
    (m.push k v).get j = if j = k then m.get k ++ [v] else m.get j := get_set m k _ j

theorem mem_get_push {v w : ν} {j : κ} :
    w ∈ (m.push k v).get j ↔ w ∈ m.get j ∨ (j = k ∧ w = v) := by
  rw [get_push]
  split_ifs with h
  · subst h
    simp
  · simp [h]

end Multimap
