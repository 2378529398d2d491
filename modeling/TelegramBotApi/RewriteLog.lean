import Mathlib.Data.List.Nodup

/-!
# Logs with rewritten records

A log adds entries under increasing identifiers, and later rewrites or erases some of them. What a log
says is the table of its entries that are alive, in the order of their identifiers.
-/

namespace RewriteLog

variable {α : Type*}

inductive Record (α : Type*) where
  | add (id : Nat) (x : α)
  | rewrite (id : Nat) (x : α)
  | erase (id : Nat)
  deriving DecidableEq

def Record.id : Record α → Nat
  | .add id _ => id
  | .rewrite id _ => id
  | .erase id => id

abbrev Table (α : Type*) := List (Nat × α)

def apply (t : Table α) : Record α → Table α
  | .add id x => t ++ [(id, x)]
  | .rewrite id x => t.map fun e => if e.1 = id then (id, x) else e
  | .erase id => t.filter (·.1 ≠ id)

def replay (t : Table α) (rs : List (Record α)) : Table α := rs.foldl apply t

@[simp] theorem replay_nil (t : Table α) : replay t [] = t := rfl

@[simp] theorem replay_cons (t : Table α) (r : Record α) (rs : List (Record α)) :
    replay t (r :: rs) = replay (apply t r) rs := rfl

theorem replay_append (t : Table α) (rs rs' : List (Record α)) :
    replay t (rs ++ rs') = replay (replay t rs) rs' := List.foldl_append

/-- The identifiers increase, and none is beyond `last`. -/
structure Ordered (t : Table α) (last : Nat) : Prop where
  sorted : (t.map Prod.fst).Pairwise (· < ·)
  le_last : ∀ e ∈ t, e.1 ≤ last

/-- The record may follow a log whose last identifier is `last`. -/
def Legal (t : Table α) (last : Nat) : Record α → Prop
  | .add id _ => last < id
  | .rewrite id _ => id ∈ t.map Prod.fst
  | .erase id => id ∈ t.map Prod.fst

def lastAfter (last : Nat) : Record α → Nat
  | .add id _ => id
  | .rewrite _ _ => last
  | .erase _ => last

section

variable {t : Table α} {last : Nat} {r : Record α} {rs : List (Record α)} {id : Nat} {x : α} {e : Nat × α}

theorem ordered_nil (last : Nat) : Ordered ([] : Table α) last :=
  ⟨List.Pairwise.nil, fun _ he => absurd he List.not_mem_nil⟩

theorem mem_add : e ∈ apply t (.add id x) ↔ e ∈ t ∨ e = (id, x) := by
  simp only [apply, List.mem_append, List.mem_singleton]

theorem mem_erase : e ∈ apply t (.erase id) ↔ e ∈ t ∧ e.1 ≠ id := by
  simp only [apply, List.mem_filter, decide_eq_true_eq]

theorem mem_rewrite :
    e ∈ apply t (.rewrite id x) ↔ (e ∈ t ∧ e.1 ≠ id) ∨ (e = (id, x) ∧ id ∈ t.map Prod.fst) := by
  simp only [apply, List.mem_map]
  constructor
  · rintro ⟨f, hf, rfl⟩
    split_ifs with hid
    · exact Or.inr ⟨rfl, f, hf, hid⟩
    · exact Or.inl ⟨hf, hid⟩
  · rintro (⟨he, hid⟩ | ⟨rfl, f, hf, hid⟩)
    · exact ⟨e, he, if_neg hid⟩
    · exact ⟨f, hf, if_pos hid⟩

theorem mem_replay_erases {ids : List Nat} : e ∈ replay t (ids.map .erase) ↔ e ∈ t ∧ e.1 ∉ ids := by
  induction ids generalizing t with
  | nil => exact (and_iff_left List.not_mem_nil).symm
  | cons id ids ih => rw [List.map_cons, replay_cons, ih, mem_erase, List.mem_cons, not_or, and_assoc]

/-- What a record leaves was there, or was put there. -/
theorem mem_apply (h : e ∈ apply t r) : e ∈ t ∨ r = .add e.1 e.2 ∨ r = .rewrite e.1 e.2 := by
  cases r with
  | add id x =>
      rcases mem_add.1 h with h | rfl
      · exact Or.inl h
      · exact Or.inr (Or.inl rfl)
  | rewrite id x =>
      rcases mem_rewrite.1 h with h | ⟨rfl, -⟩
      · exact Or.inl h.1
      · exact Or.inr (Or.inr rfl)
  | erase id => exact Or.inl (mem_erase.1 h).1

/-- One entry for each identifier. -/
theorem eq_of_sorted (h : (t.map Prod.fst).Pairwise (· < ·)) {y : α} (hx : (id, x) ∈ t) (hy : (id, y) ∈ t) : x = y := by
  have hnodup : (t.map Prod.fst).Nodup := h.imp fun hlt => Nat.ne_of_lt hlt
  exact (Prod.mk.inj (List.inj_on_of_nodup_map hnodup hx hy rfl)).2

theorem map_fst_rewrite : (apply t (.rewrite id x)).map Prod.fst = t.map Prod.fst := by
  simp only [apply, List.map_map]
  refine List.map_congr_left fun e he => ?_
  simp only [Function.comp_apply]
  split_ifs with hid
  · exact hid.symm
  · rfl

theorem Ordered.apply (h : Ordered t last) (hr : Legal t last r) :
    Ordered (apply t r) (lastAfter last r) := by
  cases r with
  | add id x =>
      refine ⟨?_, fun e he => ?_⟩
      · simp only [RewriteLog.apply, List.map_append, List.map_cons, List.map_nil]
        refine List.pairwise_append.2 ⟨h.sorted, List.pairwise_singleton _ _, ?_⟩
        intro a ha b hb
        obtain ⟨e, he, rfl⟩ := List.mem_map.1 ha
        rw [List.mem_singleton.1 hb]
        exact Nat.lt_of_le_of_lt (h.le_last e he) hr
      · rcases mem_add.1 he with he | rfl
        · exact Nat.le_of_lt (Nat.lt_of_le_of_lt (h.le_last e he) hr)
        · exact Nat.le_refl _
  | rewrite id x =>
      refine ⟨?_, fun e he => ?_⟩
      · rw [map_fst_rewrite]
        exact h.sorted
      rcases mem_rewrite.1 he with ⟨he, -⟩ | ⟨rfl, hid⟩
      · exact h.le_last e he
      · obtain ⟨f, hf, hid⟩ := List.mem_map.1 hid
        exact hid ▸ h.le_last f hf
  | erase id =>
      refine ⟨h.sorted.sublist (List.filter_sublist.map _), fun e he => ?_⟩
      exact h.le_last e (mem_erase.1 he).1

/-- The neighbours of an entry have other identifiers. -/
theorem ne_of_sorted {before after : Table α}
    (h : ((before ++ (id, x) :: after).map Prod.fst).Pairwise (· < ·)) :
    (∀ e ∈ before, e.1 ≠ id) ∧ ∀ e ∈ after, e.1 ≠ id := by
  rw [List.map_append, List.map_cons, List.pairwise_append] at h
  refine ⟨fun e he => ?_, fun e he => ?_⟩
  · exact Nat.ne_of_lt (h.2.2 e.1 (List.mem_map_of_mem he) id List.mem_cons_self)
  · exact Nat.ne_of_gt ((List.pairwise_cons.1 h.2.1).1 e.1 (List.mem_map_of_mem he))

theorem apply_erase_split {before after : Table α}
    (h : ((before ++ (id, x) :: after).map Prod.fst).Pairwise (· < ·)) :
    apply (before ++ (id, x) :: after) (.erase id) = before ++ after := by
  obtain ⟨hbefore, hafter⟩ := ne_of_sorted h
  simp only [apply]
  rw [List.filter_append, List.filter_cons_of_neg (by simp),
    List.filter_eq_self.2 fun e he => decide_eq_true (hbefore e he),
    List.filter_eq_self.2 fun e he => decide_eq_true (hafter e he)]

theorem apply_rewrite_split {before after : Table α} {y : α}
    (h : ((before ++ (id, x) :: after).map Prod.fst).Pairwise (· < ·)) :
    apply (before ++ (id, x) :: after) (.rewrite id y) = before ++ (id, y) :: after := by
  obtain ⟨hbefore, hafter⟩ := ne_of_sorted h
  have hsame : ∀ t : Table α, (∀ e ∈ t, e.1 ≠ id) → (t.map fun e => if e.1 = id then (id, y) else e) = t := by
    intro t ht
    exact (List.map_congr_left fun e he => if_neg (ht e he)).trans (List.map_id' t)
  simp only [apply]
  rw [List.map_append, List.map_cons, hsame before hbefore, hsame after hafter, if_pos rfl]

def adds (t : Table α) : List (Record α) := t.map fun e => .add e.1 e.2

/-- It says what the log said. -/
theorem replay_adds (t t' : Table α) : replay t (adds t') = t ++ t' := by
  induction t' generalizing t with
  | nil => simp [adds]
  | cons e t' ih =>
      change replay (t ++ [e]) (adds t') = _
      rw [ih, List.append_assoc]
      rfl

def LegalRun : Table α → Nat → List (Record α) → Prop
  | _, _, [] => True
  | t, last, r :: rs => Legal t last r ∧ LegalRun (apply t r) (lastAfter last r) rs

def lastOf (last : Nat) (rs : List (Record α)) : Nat := rs.foldl lastAfter last

theorem legalRun_append (t : Table α) (last : Nat) (rs rs' : List (Record α)) :
    LegalRun t last (rs ++ rs') ↔ LegalRun t last rs ∧ LegalRun (replay t rs) (lastOf last rs) rs' := by
  induction rs generalizing t last with
  | nil => exact (and_iff_right trivial).symm
  | cons r rs ih =>
      rw [List.cons_append, LegalRun, LegalRun, ih, and_assoc]
      rfl

theorem legalRun_adds {t' : Table α} (hsorted : (t'.map Prod.fst).Pairwise (· < ·)) (t : Table α) {last : Nat}
    (h : ∀ e ∈ t', last < e.1) : LegalRun t last (adds t') := by
  induction t' generalizing t last with
  | nil => trivial
  | cons e t' ih =>
      obtain ⟨hhead, hrest⟩ := List.pairwise_cons.1 hsorted
      refine ⟨h e List.mem_cons_self, ih hrest _ fun e' he' => ?_⟩
      exact hhead e'.1 (List.mem_map_of_mem he')

theorem lastOf_adds_le {t' : Table α} {m : Nat} (h : ∀ e ∈ t', e.1 ≤ m) (hlast : last ≤ m) :
    lastOf last (adds t') ≤ m := by
  induction t' generalizing last with
  | nil => exact hlast
  | cons e t' ih => exact ih (fun e' he' => h e' (List.mem_cons_of_mem _ he')) (h e List.mem_cons_self)

/-- The first identifier of a log is not reached again. -/
theorem lt_of_mem_replay {m : Nat} (ht : ∀ e ∈ t, m < e.1) (hm : m ≤ last) (hrs : LegalRun t last rs) :
    ∀ e ∈ replay t rs, m < e.1 := by
  induction rs generalizing t last with
  | nil => exact ht
  | cons r rs ih =>
      have hlegal := hrs.1
      refine ih (fun e he => ?_) ?_ hrs.2
      · cases r with
        | add id x =>
            rcases mem_add.1 he with he | rfl
            · exact ht e he
            · exact Nat.lt_of_le_of_lt hm hlegal
        | rewrite id x =>
            rcases mem_rewrite.1 he with he | ⟨rfl, hid⟩
            · exact ht e he.1
            · obtain ⟨e', he', rfl⟩ := List.mem_map.1 hid
              exact ht e' he'
        | erase id => exact ht e (mem_erase.1 he).1
      · cases r with
        | add id x => exact Nat.le_of_lt (Nat.lt_of_le_of_lt hm hlegal)
        | rewrite id x => exact hm
        | erase id => exact hm

theorem Ordered.replay (h : Ordered t last) (hrs : LegalRun t last rs) :
    Ordered (replay t rs) (lastOf last rs) := by
  induction rs generalizing t last with
  | nil => exact h
  | cons r rs ih => exact ih (h.apply hrs.1) hrs.2

section Map

variable {β : Type*} (f : α → β)

def Record.map : Record α → Record β
  | .add id x => .add id (f x)
  | .rewrite id x => .rewrite id (f x)
  | .erase id => .erase id

def mapTable (t : Table α) : Table β := t.map fun e => (e.1, f e.2)

theorem mapTable_fst (t : Table α) : (mapTable f t).map Prod.fst = t.map Prod.fst := by
  unfold mapTable
  rw [List.map_map]
  rfl

theorem mapTable_apply (t : Table α) (r : Record α) :
    mapTable f (apply t r) = apply (mapTable f t) (r.map f) := by
  unfold mapTable
  cases r with
  | add id x => simp [apply, Record.map]
  | rewrite id x =>
      simp only [apply, Record.map, List.map_map]
      refine List.map_congr_left fun e _ => ?_
      simp only [Function.comp_apply]
      split_ifs <;> rfl
  | erase id =>
      simp only [apply, Record.map, List.filter_map]
      rfl

theorem mapTable_replay (t : Table α) (rs : List (Record α)) :
    mapTable f (replay t rs) = replay (mapTable f t) (rs.map (Record.map f)) := by
  induction rs generalizing t with
  | nil => rfl
  | cons r rs ih => rw [replay_cons, ih, mapTable_apply, List.map_cons, replay_cons]

theorem legal_map {t : Table α} {last : Nat} {r : Record α} :
    Legal (mapTable f t) last (r.map f) ↔ Legal t last r := by
  cases r with
  | add id x => exact Iff.rfl
  | rewrite id x =>
      simp only [Record.map, Legal]
      rw [mapTable_fst]
  | erase id =>
      simp only [Record.map, Legal]
      rw [mapTable_fst]

theorem lastAfter_map (last : Nat) (r : Record α) : lastAfter last (r.map f) = lastAfter last r := by
  cases r <;> rfl

end Map

end

end RewriteLog
