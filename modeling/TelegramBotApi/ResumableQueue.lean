import Mathlib.Data.List.Sigma

/-!
# Queues whose first element may have to wait

The elements of a queue are treated one after the other. The treatment of an element starts in stage 0; it
may end with a result, or stop because something has been asked for. Then the queue waits with the element
still at its head, and is resumed in a later stage.
-/

namespace ResumableQueue

structure Queue (α : Type*) where
  items : List α := []
  hasActiveRequest : Bool := false

inductive Outcome (ω ρ : Type*) where
  | waits (w : ω)
  | leaves (w : ω) (result : ρ)

/-- What has become of a queue: the world, the elements that wait, and those that have left, each with the world
that it has seen. -/
structure Progress (ω α ρ : Type*) where
  world : ω
  waiting : List α
  gone : List (ω × α × ρ)

variable {ω α ρ : Type*}

def run (advance : ω → Nat → α → Outcome ω ρ) : ω → Nat → List α → Progress ω α ρ
  | w, _, [] => ⟨w, [], []⟩
  | w, stage, a :: items =>
    match advance w stage a with
    | .waits w' => ⟨w', a :: items, []⟩
    | .leaves w' result =>
      let rest := run advance w' 0 items
      { rest with gone := (w, a, result) :: rest.gone }

variable {advance : ω → Nat → α → Outcome ω ρ}

theorem run_waits {w w' : ω} {stage : Nat} {a : α} {items : List α} (h : advance w stage a = .waits w') :
    run advance w stage (a :: items) = ⟨w', a :: items, []⟩ := by
  rw [run, h]

theorem run_leaves {w w' : ω} {stage : Nat} {a : α} {items : List α} {result : ρ}
    (h : advance w stage a = .leaves w' result) :
    run advance w stage (a :: items) =
      { run advance w' 0 items with gone := (w, a, result) :: (run advance w' 0 items).gone } := by
  rw [run, h]

variable (advance) in
/-- The elements leave in their order, and those that have not left wait. -/
theorem gone_append_waiting (w : ω) (stage : Nat) (items : List α) :
    (run advance w stage items).gone.map (·.2.1) ++ (run advance w stage items).waiting = items := by
  induction items generalizing w stage with
  | nil => rfl
  | cons a items ih =>
      cases h : advance w stage a with
      | waits w' => rw [run_waits h, List.map_nil, List.nil_append]
      | leaves w' result =>
          rw [run_leaves h]
          exact congrArg (a :: ·) (ih w' 0)

/-- The rule for a run. `I` holds between the elements, with the results so far; `R` is what an element needs in
its stage; `J` holds when an element waits, and `G` of an element that leaves. -/
theorem run_rule {I : ω → List ρ → Prop} {J : ω → List ρ → α → Prop} {R : ω → Nat → α → Prop}
    {G : ω → α → ρ → Prop}
    (hwaits : ∀ w stage a w' results, I w results → R w stage a → advance w stage a = .waits w' → J w' results a)
    (hleaves : ∀ w stage a w' result results, I w results → R w stage a →
      advance w stage a = .leaves w' result →
        I w' (results ++ [result]) ∧ G w a result ∧ ∀ b, R w 0 b → R w' 0 b)
    {w : ω} {stage : Nat} {items : List α} {results : List ρ} (hI : I w results)
    (hhead : ∀ a ∈ items.head?, R w stage a) (htail : ∀ a ∈ items.tail, R w 0 a) :
    (match (run advance w stage items).waiting with
      | [] => I (run advance w stage items).world (results ++ (run advance w stage items).gone.map (·.2.2))
      | a :: _ => J (run advance w stage items).world (results ++ (run advance w stage items).gone.map (·.2.2)) a) ∧
    ∀ g ∈ (run advance w stage items).gone, G g.1 g.2.1 g.2.2 := by
  induction items generalizing w stage results with
  | nil =>
      refine ⟨?_, fun g hg => absurd hg List.not_mem_nil⟩
      change I w (results ++ [])
      rw [List.append_nil]
      exact hI
  | cons a items ih =>
      have hready := hhead a rfl
      cases h : advance w stage a with
      | waits w' =>
          rw [run_waits h]
          refine ⟨?_, fun g hg => absurd hg List.not_mem_nil⟩
          change J w' (results ++ []) a
          rw [List.append_nil]
          exact hwaits w stage a w' results hI hready h
      | leaves w' result =>
          obtain ⟨hnext, hgood, hkept⟩ := hleaves w stage a w' result results hI hready h
          rw [run_leaves h]
          have hitems : ∀ b ∈ items, R w' 0 b := fun b hb => hkept b (htail b hb)
          obtain ⟨hlast, hgone⟩ := ih hnext (fun b hb => hitems b (List.mem_of_mem_head? hb))
            fun b hb => hitems b (List.mem_of_mem_tail hb)
          rw [List.append_assoc] at hlast
          refine ⟨hlast, fun g hg => ?_⟩
          rcases List.mem_cons.1 hg with rfl | hg
          · exact hgood
          · exact hgone g hg

/-! ### Logs of many queues -/

section Log

variable {κ : Type*} {β : κ → Type*} [DecidableEq κ]

theorem lookupAll_append (k : κ) (log rest : List (Sigma β)) :
    (log ++ rest).lookupAll k = log.lookupAll k ++ rest.lookupAll k := by
  induction log with
  | nil => rfl
  | cons entry log ih =>
      obtain ⟨key, b⟩ := entry
      by_cases heq : k = key
      · subst heq
        rw [List.cons_append, List.lookupAll_cons_eq, List.lookupAll_cons_eq, ih, List.cons_append]
      · rw [List.cons_append, List.lookupAll_cons_ne _ _ heq, List.lookupAll_cons_ne _ _ heq, ih]

theorem lookupAll_map_mk (k : κ) (bs : List (β k)) : (bs.map (Sigma.mk k)).lookupAll k = bs := by
  induction bs with
  | nil => rfl
  | cons b bs ih => rw [List.map_cons, List.lookupAll_cons_eq, ih]

theorem lookupAll_map_mk_ne {k other : κ} (hne : other ≠ k) (bs : List (β k)) :
    (bs.map (Sigma.mk k)).lookupAll other = [] := by
  induction bs with
  | nil => rfl
  | cons b bs ih => rw [List.map_cons, List.lookupAll_cons_ne _ _ hne, ih]

end Log

end ResumableQueue
