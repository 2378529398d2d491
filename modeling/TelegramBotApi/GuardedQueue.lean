import Mathlib.Data.List.Basic

/-!
# Queues whose entries open a door

A queue is read from its head. Some entries open a door, and it stays open for the rest of the queue.
Some entries must be acceptable in any case, others only if they are read while the door is open.
`Guarded K ok isOpen l` says that all entries of `l` that must be acceptable are `ok`, if the door is
`isOpen` when the reading starts.
-/

namespace GuardedQueue

structure Kinds (α : Type*) where
  opens : α → Bool
  strict : α → Bool
  relayed : α → Bool

variable {α : Type*} {K K' : Kinds α} {ok ok' : α → Prop} {isOpen isOpen' : Bool} {a : α}
  {l l' : List α}

def Guarded (K : Kinds α) (ok : α → Prop) : Bool → List α → Prop
  | _, [] => True
  | isOpen, a :: l => (K.strict a = true → ok a) ∧ (isOpen = true → K.relayed a = true → ok a) ∧
      Guarded K ok (isOpen || K.opens a) l

instance Guarded.decidable [DecidablePred ok] : ∀ isOpen l, Decidable (Guarded K ok isOpen l)
  | _, [] => inferInstanceAs (Decidable True)
  | isOpen, a :: l =>
    have := Guarded.decidable (isOpen || K.opens a) l
    inferInstanceAs (Decidable ((_ → _) ∧ (_ → _ → _) ∧ Guarded K ok _ l))

/-- Fewer kinds, a weaker demand and a door that is open less often. -/
theorem Guarded.mono (h : Guarded K ok isOpen l)
    (hk : ∀ a ∈ l, (K'.opens a = true → K.opens a = true) ∧
      (K'.strict a = true → K.strict a = true) ∧ (K'.relayed a = true → K.relayed a = true))
    (hok : ∀ a ∈ l, ok a → ok' a) (hopen : isOpen' = true → isOpen = true) :
    Guarded K' ok' isOpen' l := by
  induction l generalizing isOpen isOpen' with
  | nil => trivial
  | cons a l ih =>
      obtain ⟨hopens, hstrict, hrelayed⟩ := hk a List.mem_cons_self
      refine ⟨fun hs => hok a List.mem_cons_self (h.1 (hstrict hs)), fun ho hr => ?_, ?_⟩
      · exact hok a List.mem_cons_self (h.2.1 (hopen ho) (hrelayed hr))
      · refine ih h.2.2 (fun b hb => hk b (List.mem_cons_of_mem _ hb))
          (fun b hb => hok b (List.mem_cons_of_mem _ hb)) fun ho => ?_
        rcases Bool.or_eq_true _ _ ▸ ho with ho | ho
        · exact Bool.or_eq_true _ _ ▸ Or.inl (hopen ho)
        · exact Bool.or_eq_true _ _ ▸ Or.inr (hopens ho)

theorem guarded_concat : Guarded K ok isOpen (l ++ [a]) ↔ Guarded K ok isOpen l ∧
    (K.strict a = true → ok a) ∧ ((isOpen || l.any K.opens) = true → K.relayed a = true → ok a) := by
  induction l generalizing isOpen with
  | nil => simp [Guarded]
  | cons b l ih =>
      rw [List.cons_append, Guarded, ih, Guarded, List.any_cons, Bool.or_assoc]
      tauto

end GuardedQueue
