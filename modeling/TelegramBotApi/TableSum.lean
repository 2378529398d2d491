import Mathlib.Algebra.Order.Ring.Int
import Mathlib.Algebra.BigOperators.Group.List.Basic
import TelegramBotApi.TableLookup

/-!
# Sums over a table

A table with keys gives a number to every entry, and `total` adds them. An insertion adds the number of
the new entry and takes away that of the entry it replaces, so that a counter which is kept beside a
table can be compared with the table after every single update.
-/

namespace TableSum

variable {κ β : Type*} [DecidableEq κ]

abbrev Table (κ β : Type*) := AList fun _ : κ => β

def total (f : κ → β → Nat) (t : Table κ β) : Nat := (t.entries.map fun e => f e.1 e.2).sum

variable {f g : κ → β → Nat} {t : Table κ β} {k : κ} {v : β}

omit [DecidableEq κ] in
@[simp] theorem total_empty : total f (∅ : Table κ β) = 0 := rfl

theorem entries_perm (h : t.lookup k = some v) : t.entries.Perm (⟨k, v⟩ :: (t.erase k).entries) := by
  have hmem : k ∈ t.keys := AList.mem_keys.1 (AList.lookup_isSome.1 (by rw [h]; rfl))
  obtain ⟨w, before, after, hbefore, hentries, herase⟩ := List.exists_of_kerase hmem
  have hw : (⟨k, w⟩ : Sigma fun _ : κ => β) ∈ t.entries := by
    rw [hentries]
    exact List.mem_append_right _ List.mem_cons_self
  have hvalue : t.lookup k = some w := AList.mem_lookup_iff.2 hw
  rw [h] at hvalue
  cases hvalue
  change t.entries.Perm (⟨k, v⟩ :: List.kerase k t.entries)
  rw [herase, hentries]
  exact List.perm_middle

/-- The entry of a key and all the others. -/
theorem total_eq_add_erase (f : κ → β → Nat) (h : t.lookup k = some v) : total f t = f k v + total f (t.erase k) := by
  unfold total
  rw [((entries_perm h).map _).sum_eq]
  rfl

theorem erase_of_lookup_eq_none (h : t.lookup k = none) : t.erase k = t := by
  apply AList.ext
  exact List.kerase_of_notMem_keys fun hmem => AList.lookup_eq_none.1 h (AList.mem_keys.2 hmem)

theorem total_insert (f : κ → β → Nat) (t : Table κ β) (k : κ) (v : β) :
    total f (t.insert k v) = f k v + total f (t.erase k) := rfl

theorem total_insert_new (f : κ → β → Nat) (v : β) (h : t.lookup k = none) :
    total f (t.insert k v) = f k v + total f t := by
  rw [total_insert, erase_of_lookup_eq_none h]

theorem le_total (f : κ → β → Nat) (h : t.lookup k = some v) : f k v ≤ total f t := by
  rw [total_eq_add_erase f h]
  exact Nat.le_add_right _ _

theorem exists_of_total_pos (h : 0 < total f t) : ∃ k v, t.lookup k = some v ∧ 0 < f k v := by
  by_contra hnone
  have hzero : total f t = 0 := by
    refine List.sum_eq_zero fun n hn => ?_
    obtain ⟨⟨k, v⟩, he, rfl⟩ := List.mem_map.1 hn
    by_contra hpos
    exact hnone ⟨k, v, AList.mem_lookup_iff.2 he, Nat.pos_of_ne_zero hpos⟩
  omega

theorem total_eq_zero (h : ∀ k v, t.lookup k = some v → f k v = 0) : total f t = 0 := by
  by_contra hpos
  obtain ⟨k, v, hv, hf⟩ := exists_of_total_pos (Nat.pos_of_ne_zero hpos)
  rw [h k v hv] at hf
  exact absurd hf (lt_irrefl 0)

theorem sum_map_eq {α : Type*} {l : List α} {f : α → Nat} {n : Nat} (hf : ∀ a ∈ l, f a = n) :
    (l.map f).sum = l.length * n := by
  induction l with
  | nil => exact (Nat.zero_mul n).symm
  | cons a l ih =>
      rw [List.map_cons, List.sum_cons, hf a List.mem_cons_self, ih fun b hb => hf b (List.mem_cons_of_mem _ hb),
        List.length_cons, Nat.succ_mul, Nat.add_comm]

/-- The same value under many new keys. -/
def insertAll (t : Table κ β) (keys : List κ) (v : β) : Table κ β := keys.foldl (fun t k => t.insert k v) t

@[simp] theorem insertAll_nil (t : Table κ β) (v : β) : insertAll t [] v = t := rfl

@[simp] theorem insertAll_cons (t : Table κ β) (k : κ) (keys : List κ) (v : β) :
    insertAll t (k :: keys) v = insertAll (t.insert k v) keys v := rfl

theorem lookup_insertAll (t : Table κ β) (keys : List κ) (v : β) (k : κ) :
    (insertAll t keys v).lookup k = if k ∈ keys then some v else t.lookup k := by
  induction keys generalizing t with
  | nil => rfl
  | cons first keys ih =>
      rw [insertAll_cons, ih]
      by_cases hmem : k ∈ keys
      · rw [if_pos hmem, if_pos (List.mem_cons_of_mem _ hmem)]
      · rw [if_neg hmem]
        by_cases hfirst : k = first
        · rw [hfirst, AList.lookup_insert, if_pos List.mem_cons_self]
        · rw [AList.lookup_insert_ne hfirst, if_neg]
          exact fun hcons => (List.mem_cons.1 hcons).elim hfirst hmem

theorem total_insertAll {keys : List κ} (hnodup : keys.Nodup) (hnew : ∀ k ∈ keys, t.lookup k = none) (v : β) :
    total f (insertAll t keys v) = (keys.map fun k => f k v).sum + total f t := by
  induction keys generalizing t with
  | nil => exact (Nat.zero_add _).symm
  | cons first keys ih =>
      obtain ⟨hfirst, hnodup⟩ := List.nodup_cons.1 hnodup
      have hrest : ∀ k ∈ keys, (t.insert first v).lookup k = none := fun k hk => by
        have hne : k ≠ first := fun heq => hfirst (heq ▸ hk)
        rw [AList.lookup_insert_ne hne]
        exact hnew k (List.mem_cons_of_mem _ hk)
      rw [insertAll_cons, ih hnodup hrest, total_insert_new f v (hnew first List.mem_cons_self), List.map_cons,
        List.sum_cons]
      omega

end TableSum
