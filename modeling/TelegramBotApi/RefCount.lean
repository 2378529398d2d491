import Mathlib.Data.List.AList
import Mathlib.Data.Finset.Card

/-!
# Reference counts in a table

A table keeps, for every key that is in use, the number of its users; an entry disappears when its
count falls to zero. `Counts t n` says that the table `t` shows the true numbers `n`.
-/

namespace RefCount

variable {α : Type*} [DecidableEq α]

abbrev Table (α : Type*) := AList fun _ : α => Int

def count (t : Table α) (a : α) : Int := (t.lookup a).getD 0

def retain (t : Table α) (a : α) : Table α := t.insert a (count t a + 1)

def release (t : Table α) (a : α) : Table α :=
  match t.lookup a with
  | none => t
  | some n => if n - 1 ≤ 0 then t.erase a else t.insert a (n - 1)

def Counts (t : Table α) (n : α → Nat) : Prop :=
  ∀ a, t.lookup a = if n a = 0 then none else some (n a : Int)

variable {t : Table α} {n m : α → Nat} {a : α}

theorem counts_empty : Counts (∅ : Table α) fun _ => 0 := fun a => by
  rw [if_pos rfl]
  exact AList.lookup_empty a

theorem Counts.congr (h : Counts t n) (hm : ∀ a, m a = n a) : Counts t m := fun a => by
  rw [hm a]
  exact h a

theorem Counts.count (h : Counts t n) (a : α) : count t a = n a := by
  unfold RefCount.count
  rw [h a]
  by_cases hn : n a = 0
  · rw [if_pos hn, hn]
    rfl
  · rw [if_neg hn]
    rfl

theorem Counts.retain (h : Counts t n) (a : α) :
    Counts (retain t a) (Function.update n a (n a + 1)) := by
  intro b
  unfold RefCount.retain
  by_cases hb : b = a
  · subst hb
    rw [AList.lookup_insert, h.count, Function.update_self, if_neg (Nat.succ_ne_zero _)]
    rfl
  · rw [AList.lookup_insert_ne hb, Function.update_of_ne hb]
    exact h b

theorem Counts.release (h : Counts t n) (a : α) :
    Counts (release t a) (Function.update n a (n a - 1)) := by
  intro b
  unfold RefCount.release
  rw [h a]
  by_cases hn : n a = 0
  · have hsame : Function.update n a (n a - 1) = n := by
      rw [Nat.sub_eq_zero_of_le (by omega), ← hn, Function.update_eq_self]
    rw [if_pos hn, hsame]
    exact h b
  rw [if_neg hn]
  simp only
  by_cases hlast : (n a : Int) - 1 ≤ 0
  · have hone : n a - 1 = 0 := by omega
    rw [if_pos hlast]
    by_cases hb : b = a
    · subst hb
      rw [AList.lookup_erase, Function.update_self, if_pos hone]
    · rw [AList.lookup_erase_ne hb, Function.update_of_ne hb]
      exact h b
  · have hmore : n a - 1 ≠ 0 := by omega
    rw [if_neg hlast]
    by_cases hb : b = a
    · subst hb
      rw [AList.lookup_insert, Function.update_self, if_neg hmore]
      congr 1
      omega
    · rw [AList.lookup_insert_ne hb, Function.update_of_ne hb]
      exact h b

theorem Counts.mem_iff (h : Counts t n) : a ∈ t ↔ 0 < n a := by
  rw [← AList.lookup_isSome, h a]
  by_cases hn : n a = 0
  · simp [hn]
  · simp [hn, Nat.pos_of_ne_zero hn]

theorem Counts.eq_empty (h : Counts t n) (hn : ∀ a, n a = 0) : t = ∅ := by
  apply AList.ext
  rw [AList.empty_entries]
  by_contra hne
  obtain ⟨e, he⟩ := List.exists_mem_of_ne_nil _ hne
  have hmem : e.1 ∈ t := List.mem_map_of_mem he
  exact absurd (h.mem_iff.1 hmem) (by rw [hn]; exact Nat.lt_irrefl 0)

end RefCount
