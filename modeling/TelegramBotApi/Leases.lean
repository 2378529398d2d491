import TelegramBotApi.RefCount

/-!
# Leases that are counted from afar

A holder has at most one lease at a time. It takes and drops leases by messages to a counter, which
keeps a table of the leases it has been told of. The messages of one holder arrive in the order in which
they were sent, those of different holders in any order. `Orderly h ms k` says that the messages `ms`
lead from the lease `h` to the lease `k`; the counter is right about a holder whose messages have all
arrived.
-/

namespace Leases

variable {α : Type*}

inductive Move (α : Type*) where
  | take (a : α)
  | drop (a : α)
  deriving DecidableEq

def Move.result : Move α → Option α
  | take a => some a
  | drop _ => none

inductive Orderly : Option α → List (Move α) → Option α → Prop
  | nil (h : Option α) : Orderly h [] h
  | take {a : α} {ms : List (Move α)} {k : Option α} (h : Orderly (some a) ms k) :
      Orderly none (.take a :: ms) k
  | drop {a : α} {ms : List (Move α)} {k : Option α} (h : Orderly none ms k) :
      Orderly (some a) (.drop a :: ms) k

variable {h k l : Option α} {m : Move α} {ms ns : List (Move α)} {a : α}

theorem Orderly.append (h₁ : Orderly h ms k) (h₂ : Orderly k ns l) : Orderly h (ms ++ ns) l := by
  induction h₁ with
  | nil => exact h₂
  | take _ ih => exact .take (ih h₂)
  | drop _ ih => exact .drop (ih h₂)

theorem Orderly.eq_of_nil (h₁ : Orderly h [] k) : h = k := by
  cases h₁
  rfl

/-- Behind the first move the rest is orderly. -/
theorem Orderly.tail (h₁ : Orderly h (m :: ms) k) : Orderly m.result ms k := by
  cases h₁ with
  | take h₁ => exact h₁
  | drop h₁ => exact h₁

/-- The moves of a holder that gives its lease up. -/
def giveUp : Option α → List (Move α)
  | none => []
  | some a => [.drop a]

theorem orderly_giveUp (h : Option α) : Orderly h (giveUp h) none := by
  cases h with
  | none => exact .nil _
  | some a => exact .drop (.nil _)

theorem orderly_exchange (h : Option α) (a : α) : Orderly h (giveUp h ++ [.take a]) (some a) :=
  (orderly_giveUp h).append (.take (.nil _))

/-- A lease that is held at first and not at the end is dropped. -/
theorem Orderly.drop_mem (h₁ : Orderly (some a) ms k) : k = some a ∨ .drop a ∈ ms := by
  cases h₁ with
  | nil => exact Or.inl rfl
  | drop => exact Or.inr List.mem_cons_self

/-- What the counter knows of a holder, and what is on its way to it. -/
structure Channel (α : Type*) where
  counted : Option α := none
  mail : List (Move α) := []

/-- The next message arrives. -/
def Channel.deliver (c : Channel α) : Channel α :=
  match c.mail with
  | [] => c
  | m :: ms => ⟨m.result, ms⟩

/-- The counter's knowledge and the messages on their way add up to the lease of the holder. -/
def Channel.Settles (c : Channel α) (k : Option α) : Prop := Orderly c.counted c.mail k

theorem Channel.Settles.deliver {c : Channel α} (hc : c.Settles k) : c.deliver.Settles k := by
  obtain ⟨h, ms⟩ := c
  cases ms with
  | nil => exact hc
  | cons m ms => exact Orderly.tail hc

theorem Channel.Settles.post {c : Channel α} (hc : c.Settles k) (hms : Orderly k ms l) :
    Channel.Settles { c with mail := c.mail ++ ms } l :=
  Orderly.append hc hms

theorem Channel.Settles.counted {c : Channel α} (hc : c.Settles k) (hmail : c.mail = []) : c.counted = k := by
  unfold Channel.Settles at hc
  rw [hmail] at hc
  exact hc.eq_of_nil

variable [DecidableEq α] (keep : α → Bool)

/-- The counter keeps only leases that pass a filter; it drops whatever it has. -/
def arrive (t : RefCount.Table α) : Move α → RefCount.Table α
  | .take a => if keep a then RefCount.retain t a else t
  | .drop a => RefCount.release t a

def users (cs : List (Channel α)) (a : α) : Nat :=
  if keep a then cs.countP (fun c => c.counted = some a) else 0

theorem users_set {cs : List (Channel α)} {i : Nat} {c : Channel α} (hi : cs[i]? = some c) (c' : Channel α)
    (a : α) :
    users keep (cs.set i c') a + (if keep a ∧ c.counted = some a then 1 else 0) =
      users keep cs a + (if keep a ∧ c'.counted = some a then 1 else 0) := by
  obtain ⟨hlt, hget⟩ := List.getElem?_eq_some_iff.1 hi
  unfold users
  by_cases hkeep : keep a = true
  · rw [if_pos hkeep, if_pos hkeep, List.countP_set hlt, hget]
    have hpos : c.counted = some a → 0 < cs.countP (fun c => c.counted = some a) := by
      intro hc
      exact List.countP_pos_iff.2 ⟨c, List.mem_of_getElem? hi, by simpa using hc⟩
    simp only [hkeep, true_and, decide_eq_true_eq]
    by_cases hc : c.counted = some a
    · have := hpos hc
      rw [if_pos hc]
      omega
    · rw [if_neg hc]
      omega
  · simp [hkeep]

/-- The counter stays right when a message arrives that its holder has sent in order. -/
theorem arrive_counts {t : RefCount.Table α} {cs : List (Channel α)} (ht : RefCount.Counts t (users keep cs))
    {i : Nat} {c : Channel α} (hi : cs[i]? = some c) (hc : c.Settles k) (hmail : c.mail = m :: ms) :
    RefCount.Counts (arrive keep t m) (users keep (cs.set i c.deliver)) := by
  obtain ⟨counted, mail⟩ := c
  obtain rfl : mail = m :: ms := hmail
  unfold Channel.Settles at hc
  cases hc with
  | take hrest =>
      rename_i b
      change RefCount.Counts _ (users keep (cs.set i ⟨some b, ms⟩))
      have hset : ∀ a, users keep (cs.set i ⟨some b, ms⟩) a =
          users keep cs a + if keep a = true ∧ some b = some a then 1 else 0 := fun a => by
        simpa using users_set keep hi ⟨some b, ms⟩ a
      by_cases hkeep : keep b = true
      · rw [arrive, if_pos hkeep]
        refine (ht.retain b).congr fun a => ?_
        rw [hset]
        by_cases hab : a = b
        · subst hab
          rw [Function.update_self, if_pos ⟨hkeep, rfl⟩]
        · rw [Function.update_of_ne hab, if_neg fun h => hab (Option.some.inj h.2).symm]
          rfl
      · rw [arrive, if_neg hkeep]
        refine ht.congr fun a => ?_
        rw [hset, if_neg]
        · rfl
        · rintro ⟨ha, hab⟩
          rw [← Option.some.inj hab] at ha
          exact hkeep ha
  | drop hrest =>
      rename_i b
      change RefCount.Counts _ (users keep (cs.set i ⟨none, ms⟩))
      have hset : ∀ a, users keep (cs.set i ⟨none, ms⟩) a +
          (if keep a = true ∧ some b = some a then 1 else 0) = users keep cs a := fun a => by
        simpa using users_set keep hi ⟨none, ms⟩ a
      rw [arrive]
      refine (ht.release b).congr fun a => ?_
      by_cases hab : a = b
      · subst hab
        rw [Function.update_self, ← hset a]
        by_cases hkeep : keep a = true
        · rw [if_pos ⟨hkeep, rfl⟩]
          rfl
        · simp [users, hkeep]
      · rw [Function.update_of_ne hab, ← hset a, if_neg fun h => hab (Option.some.inj h.2).symm]
        rfl

/-- Messages on their way change nothing for the counter. -/
theorem users_congr {cs cs' : List (Channel α)}
    (h : cs'.map Channel.counted = cs.map Channel.counted) : users keep cs' = users keep cs := by
  funext a
  have hcount : ∀ cs : List (Channel α), cs.countP (fun c => c.counted = some a) =
      (cs.map Channel.counted).countP (fun h => h = some a) := by
    intro cs
    rw [List.countP_map]
    rfl
  unfold users
  rw [hcount, hcount, h]

theorem users_new (cs : List (Channel α)) : users keep (cs ++ [⟨none, []⟩]) = users keep cs := by
  funext a
  unfold users
  rw [List.countP_append]
  simp

end Leases
