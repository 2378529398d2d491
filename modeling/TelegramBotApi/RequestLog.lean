import Mathlib.Data.List.Basic

/-!
# Positions in a log of requests

A party that works through a log in order and has reached position `n` stamps what it says with `n`.
`Settled a l n` says that every `a` of the log lies before the position, so that what was said there
was said after the last `a`.
-/

namespace RequestLog

variable {α : Type*} {a : α} {l k : List α} {n m : Nat}

def Settled (a : α) (l : List α) (n : Nat) : Prop := a ∉ l.drop n

instance [DecidableEq α] : Decidable (Settled a l n) := inferInstanceAs (Decidable (a ∉ l.drop n))

theorem Settled.append (h : Settled a l n) (hk : a ∉ k) : Settled a (l ++ k) n := by
  intro hmem
  rw [List.drop_append] at hmem
  rcases List.mem_append.1 hmem with hmem | hmem
  · exact h hmem
  · exact hk (List.mem_of_mem_drop hmem)

end RequestLog
