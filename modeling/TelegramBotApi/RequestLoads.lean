import Mathlib.Algebra.BigOperators.Group.List.Basic
import Mathlib.Algebra.Order.BigOperators.Group.List
import Mathlib.Algebra.Order.Group.Int
import Mathlib.Algebra.Order.Pi
import TelegramBotApi.RequestStats

/-!
# What statistics actors count

The `total` of an actor is what it will count once its mailbox is empty; in a `Steady` one no message of the
mailbox fails a `CHECK`. The `load` of some clients is what their unanswered queries add to the counters.
-/

namespace TelegramBotApi

inductive StatCounter where
  | requests
  | fileUploads
  | fileUploadBytes

def BotStatActor.active (a : BotStatActor) : StatCounter → ℤ
  | .requests => a.activeRequestCount
  | .fileUploads => a.activeFileUploadCount
  | .fileUploadBytes => a.activeFileUploadBytes

def CountedQuery.weight (q : CountedQuery) : StatCounter → ℤ
  | .requests => 1
  | .fileUploads => q.fileCount
  | .fileUploadBytes => q.filesSize

def StatEvent.change : StatEvent → StatCounter → ℤ
  | .update, _ => 0
  | .request _ _ _ _, .requests => 1
  | .request _ fileCount _ _, .fileUploads => fileCount
  | .request _ _ filesSize _, .fileUploadBytes => filesSize
  | .response _ _ _ _, .requests => -1
  | .response _ _ fileCount _, .fileUploads => -fileCount
  | .response _ _ _ filesSize, .fileUploadBytes => -filesSize

def StatMessage.change : StatMessage → StatCounter → ℤ
  | .start => 0
  | .addEvent event => event.change

@[simp] theorem change_update : StatEvent.update.change = 0 := rfl

@[simp] theorem change_requestStat (q : CountedQuery) : q.requestStat.change = q.weight := by
  funext k
  cases k <;> rfl

@[simp] theorem change_responseStat (q : CountedQuery) (size : Nat) : (q.responseStat size).change = -q.weight := by
  funext k
  cases k <;> rfl

theorem CountedQuery.weight_nonneg (q : CountedQuery) : 0 ≤ q.weight := by
  intro k
  cases k with
  | requests => exact Int.one_nonneg
  | fileUploads => exact Int.natCast_nonneg _
  | fileUploadBytes => exact Int.natCast_nonneg _

/-- No `CHECK` fails on an event after which no counter is negative. -/
theorem BotStatActor.onEvent_of_nonneg {a : BotStatActor} {event : StatEvent} (h : 0 ≤ a.active + event.change) :
    ∃ b, a.onEvent event = some b ∧ b.active = a.active + event.change := by
  cases event with
  | update => exact ⟨a, rfl, (add_zero _).symm⟩
  | request size fileCount filesSize filesMaxSize =>
      refine ⟨_, rfl, ?_⟩
      funext k
      cases k <;> rfl
  | response ok size fileCount filesSize =>
      have hcount : 0 ≤ a.activeRequestCount - 1 := h .requests
      have hbytes : 0 ≤ a.activeFileUploadBytes - filesSize := h .fileUploadBytes
      refine ⟨_, if_pos ⟨hcount, hbytes⟩, ?_⟩
      funext k
      cases k <;> rfl

namespace StatMailbox

def pending (messages : List StatMessage) : StatCounter → ℤ := (messages.map StatMessage.change).sum

@[simp] theorem pending_nil : pending [] = 0 := rfl

@[simp] theorem pending_cons (m : StatMessage) (messages : List StatMessage) :
    pending (m :: messages) = m.change + pending messages := List.sum_cons

theorem pending_append (before after : List StatMessage) :
    pending (before ++ after) = pending before + pending after := by
  unfold pending
  rw [List.map_append, List.sum_append]

/-- What the actor will count. -/
def total (a : StatMailbox) : StatCounter → ℤ := a.actor.active + pending a.mailbox

/-- An actor that has not started counts nothing, and no message makes a counter negative. -/
structure Steady (a : StatMailbox) : Prop where
  waiting : a.mailbox ≠ [] → a.actor.active = 0
  nonneg : ∀ before, before <+: a.mailbox → 0 ≤ a.actor.active + pending before

variable {a : StatMailbox} {event : StatEvent}

theorem Steady.active_nonneg (h : a.Steady) : 0 ≤ a.actor.active := by
  have hnil := h.nonneg [] List.nil_prefix
  rwa [pending_nil, add_zero] at hnil

theorem steady_initial : Steady {} := by
  refine ⟨fun _ => funext fun k => by cases k <;> rfl, fun before hbefore => ?_⟩
  have hpending : pending before = 0 := by
    rcases List.prefix_cons_iff.1 hbefore with rfl | ⟨t, rfl, ht⟩
    · rfl
    · rw [List.prefix_nil.1 ht]
      rfl
  rw [hpending, add_zero]
  intro k
  cases k <;> exact le_rfl

@[simp] theorem total_initial : total {} = 0 := by
  funext k
  cases k <;> rfl

theorem Steady.addEvent (h : a.Steady) (hnonneg : 0 ≤ a.total + event.change) :
    ∃ b, a.addEvent event = some b ∧ b.Steady ∧ b.total = a.total + event.change ∧
      b.mailbox.isEmpty = a.mailbox.isEmpty := by
  unfold StatMailbox.addEvent
  cases hmailbox : a.mailbox with
  | nil =>
      have htotal : a.total = a.actor.active := by
        unfold total
        rw [hmailbox, pending_nil, add_zero]
      rw [htotal] at hnonneg ⊢
      obtain ⟨actor, hrun, hactive⟩ := BotStatActor.onEvent_of_nonneg hnonneg
      refine ⟨{ actor := actor, mailbox := [] }, ?_, ⟨fun hne => absurd rfl hne, fun before hbefore => ?_⟩, ?_, rfl⟩
      · dsimp only
        rw [hrun]
        rfl
      · rw [List.prefix_nil.1 hbefore, pending_nil, add_zero, hactive]
        exact hnonneg
      · unfold total
        rw [pending_nil, add_zero, hactive]
  | cons m messages =>
      have hpending : pending (m :: messages ++ [.addEvent event]) = pending (m :: messages) + event.change := by
        rw [pending_append, pending_cons _ [], pending_nil, add_zero]
        rfl
      unfold total at hnonneg ⊢
      rw [hmailbox, add_assoc] at hnonneg
      refine ⟨_, rfl, ⟨fun _ => h.waiting (by rw [hmailbox]; exact List.cons_ne_nil _ _), fun before hbefore => ?_⟩, ?_,
        rfl⟩
      · rcases List.prefix_concat_iff.1 hbefore with rfl | hbefore
        · rw [hpending]
          exact hnonneg
        · exact h.nonneg before (hmailbox ▸ hbefore)
      · rw [hpending, add_assoc, hmailbox]

theorem foldlM_run (messages : List StatMessage) (actor : BotStatActor)
    (h : ∀ before, before <+: messages → 0 ≤ actor.active + pending before) :
    ∃ b, messages.foldlM StatMessage.run actor = some b ∧ b.active = actor.active + pending messages := by
  induction messages generalizing actor with
  | nil => exact ⟨actor, rfl, (add_zero _).symm⟩
  | cons m messages ih =>
      obtain ⟨b, hrun, hactive⟩ : ∃ b, StatMessage.run actor m = some b ∧ b.active = actor.active + m.change := by
        cases m with
        | start => exact ⟨actor, rfl, (add_zero _).symm⟩
        | addEvent event =>
            have hfirst := h [.addEvent event] (List.prefix_append _ _)
            rw [pending_cons, pending_nil, add_zero] at hfirst
            exact BotStatActor.onEvent_of_nonneg hfirst
      obtain ⟨c, hrest, hlast⟩ := ih b fun before hbefore => by
        have hnext := h (m :: before) ((List.prefix_cons_inj m).2 hbefore)
        rwa [pending_cons, ← add_assoc, ← hactive] at hnext
      refine ⟨c, ?_, by rw [hlast, hactive, pending_cons, add_assoc]⟩
      rw [List.foldlM_cons, hrun]
      exact hrest

theorem Steady.flush (h : a.Steady) :
    ∃ b, a.flush = some b ∧ b.Steady ∧ b.total = a.total ∧ b.mailbox = [] ∧ b.actor.active = a.total := by
  obtain ⟨actor, hrun, hactive⟩ := foldlM_run a.mailbox a.actor h.nonneg
  refine ⟨{ actor := actor, mailbox := [] }, ?_, ⟨fun hne => absurd rfl hne, fun before hbefore => ?_⟩, ?_, rfl,
    hactive⟩
  · unfold StatMailbox.flush
    rw [hrun]
    rfl
  · rw [List.prefix_nil.1 hbefore, pending_nil, add_zero, hactive]
    exact h.nonneg a.mailbox (List.prefix_refl _)
  · unfold total
    rw [pending_nil, add_zero, hactive]

end StatMailbox

/-- The query is destroyed, but the counters still have it. -/
def SentQuery.isForgotten (held : SentQuery) : Bool :=
  !held.query.isReady && held.isDestroyed && held.query.statActor.isSome

/-- What a query adds to the counters of the clients in `P`. -/
def SentQuery.load (P : Nat → Bool) (held : SentQuery) : StatCounter → ℤ :=
  if held.query.isReady then 0
  else match held.query.statActor with
    | some c => if P c then held.query.weight else 0
    | none => 0

theorem SentQuery.isUnanswered_iff {held : SentQuery} :
    held.isUnanswered = true ↔ held.query.isReady = false ∧ held.isDestroyed = false := by
  unfold isUnanswered
  rw [Bool.and_eq_true, Bool.not_eq_true', Bool.not_eq_true']

theorem SentQuery.isReady_of_unanswered {held : SentQuery} (h : held.isUnanswered = true) :
    held.query.isReady = false := (isUnanswered_iff.1 h).1

theorem SentQuery.isForgotten_of_ready {held : SentQuery} (h : held.query.isReady = true) :
    held.isForgotten = false := by
  unfold isForgotten
  rw [h]
  rfl

theorem SentQuery.isForgotten_of_unanswered {held : SentQuery} (h : held.isUnanswered = true) :
    held.isForgotten = false := by
  unfold isForgotten
  rw [(isUnanswered_iff.1 h).2, Bool.and_false]
  rfl

theorem SentQuery.isForgotten_destroyed {held : SentQuery} (h : held.query.isReady = false) :
    held.destroyed.isForgotten = held.query.statActor.isSome := by
  unfold isForgotten destroyed
  rw [h]
  rfl

theorem SentQuery.load_nonneg (P : Nat → Bool) (held : SentQuery) : 0 ≤ held.load P := by
  unfold SentQuery.load
  split
  · exact le_rfl
  · split
    · split
      · exact held.query.weight_nonneg
      · exact le_rfl
    · exact le_rfl

theorem SentQuery.load_of_ready {held : SentQuery} (h : held.query.isReady = true) (P : Nat → Bool) :
    held.load P = 0 := if_pos h

theorem SentQuery.load_of_internal {held : SentQuery} (h : held.query.statActor = none) (P : Nat → Bool) :
    held.load P = 0 := by
  unfold SentQuery.load
  rw [h]
  exact ite_self _

theorem SentQuery.load_of_sent {held : SentQuery} {c : Nat} (hunready : held.query.isReady = false)
    (h : held.query.statActor = some c) (P : Nat → Bool) :
    held.load P = if P c then held.query.weight else 0 := by
  unfold SentQuery.load
  rw [hunready, h]
  rfl

namespace RequestStats

variable {s t : RequestStats} {P Q R : Nat → Bool} {c i : Nat} {client : StatClient} {held : SentQuery}

/-- What the unanswered queries of the clients in `P` add to the counters. -/
def load (s : RequestStats) (P : Nat → Bool) : StatCounter → ℤ := (s.queries.map (SentQuery.load P)).sum

theorem load_nonneg (s : RequestStats) (P : Nat → Bool) : 0 ≤ s.load P :=
  List.sum_nonneg fun x hx => by
    obtain ⟨held, -, rfl⟩ := List.mem_map.1 hx
    exact held.load_nonneg P

theorem le_load (h : held ∈ s.queries) (P : Nat → Bool) : held.load P ≤ s.load P :=
  List.single_le_sum (fun x hx => by
    obtain ⟨other, -, rfl⟩ := List.mem_map.1 hx
    exact other.load_nonneg P) _ (List.mem_map_of_mem h)

theorem load_eq_zero (h : ∀ held ∈ s.queries, held.query.isReady = false → ∀ c, held.query.statActor = some c →
    P c = false) : s.load P = 0 := by
  refine List.sum_eq_zero fun x hx => ?_
  obtain ⟨held, hheld, rfl⟩ := List.mem_map.1 hx
  cases hready : held.query.isReady with
  | true => exact SentQuery.load_of_ready hready _
  | false =>
      cases hsent : held.query.statActor with
      | none => exact SentQuery.load_of_internal hsent _
      | some c =>
          rw [SentQuery.load_of_sent hready hsent, h held hheld hready c hsent]
          exact if_neg Bool.false_ne_true

theorem load_mono (h : ∀ c, P c = true → Q c = true) : s.load P ≤ s.load Q := by
  refine List.sum_le_sum fun held _ => ?_
  unfold SentQuery.load
  split
  · exact le_rfl
  · split
    · rename_i c hc
      by_cases hP : P c = true
      · rw [if_pos hP, if_pos (h c hP)]
      · rw [if_neg hP]
        split
        · exact held.query.weight_nonneg
        · exact le_rfl
    · exact le_rfl

theorem load_congr (h : ∀ held ∈ s.queries, ∀ c, held.query.statActor = some c → P c = Q c) : s.load P = s.load Q := by
  refine congrArg List.sum (List.map_congr_left fun held hheld => ?_)
  unfold SentQuery.load
  split
  · rfl
  · split
    · rename_i c hc
      rw [h held hheld c hc]
    · rfl

theorem load_add (h : ∀ c, P c = (Q c || R c)) (hdisjoint : ∀ c, Q c = true → R c = false) :
    s.load P = s.load Q + s.load R := by
  unfold load
  rw [← List.sum_map_add]
  refine congrArg List.sum (List.map_congr_left fun held _ => ?_)
  unfold SentQuery.load
  split
  · exact (add_zero 0).symm
  · split
    · rename_i c hc
      rw [h c]
      cases hQ : Q c with
      | true => rw [hdisjoint c hQ, Bool.true_or, if_pos rfl, if_neg Bool.false_ne_true, add_zero]
      | false => rw [Bool.false_or, if_neg Bool.false_ne_true, zero_add]
    · exact (add_zero 0).symm

theorem load_set {held' : SentQuery} (h : s.queries[i]? = some held) (hqueries : t.queries = s.queries.set i held')
    (P : Nat → Bool) : t.load P = s.load P + (held'.load P - held.load P) := by
  obtain ⟨hlt, hget⟩ := List.getElem?_eq_some_iff.1 h
  have hlt' : i < (s.queries.map (SentQuery.load P)).length := by rwa [List.length_map]
  unfold load
  rw [hqueries, List.map_set, List.sum_set', dif_pos hlt', List.getElem_map, hget, sub_eq_neg_add]

theorem load_append (hqueries : t.queries = s.queries ++ [held]) (P : Nat → Bool) :
    t.load P = s.load P + held.load P := by
  unfold load
  rw [hqueries, List.map_append, List.sum_append, List.map_singleton, List.sum_singleton]

/-- One client more. -/
theorem load_insert (hc : Q c = true) (hothers : ∀ n, n ≠ c → Q n = P n) :
    s.load Q = s.load P + if P c then 0 else s.load (· == c) := by
  cases hP : P c with
  | true =>
      have hsame : Q = P := funext fun n => by
        by_cases hn : n = c
        · rw [hn, hc, hP]
        · exact hothers n hn
      rw [hsame, if_pos rfl, add_zero]
  | false =>
      rw [if_neg Bool.false_ne_true]
      refine load_add (fun n => ?_) fun n hn => ?_
      · by_cases hn : n = c
        · rw [hn, hc, beq_self_eq_true, Bool.or_true]
        · rw [hothers n hn, beq_false_of_ne hn, Bool.or_false]
      · exact beq_false_of_ne fun heq => Bool.false_ne_true ((hP.symm.trans (heq ▸ hn)))

end RequestStats

end TelegramBotApi
