import TelegramBotApi.UpdateSweep

/-!
# What the operations write

Every operation of the update storage writes one group of records: they take events away, and only the
last one may add an event. The storage is the table of its log after every operation, and no `CHECK` of it
fails.
-/

namespace TelegramBotApi

open RewriteLog (Record Table)

namespace UpdateStore

/-- The storage has its callback, whose binlog has what the storage has. -/
structure Runs (s : UpdateStore) (c : TQueueCallback) (t : Table LogEvent) : Prop where
  callback : s.callback = some c
  stores : s.Stores t
  keeps : c.Keeps t

/-- The records of an operation. -/
inductive Group (c : TQueueCallback) (t : Table LogEvent) : List (Record LogEvent) → Prop where
  | takes {rs : List (Record LogEvent)} (h : TakesAll t rs) : Group c t rs
  | adds {taken : List (Record LogEvent)} {x : LogEvent} (h : TakesAll t taken)
      (hrestorable : Restorable (RewriteLog.replay t (taken ++ [.add (c.nextEventId + taken.length) x]))) :
      Group c t (taken ++ [.add (c.nextEventId + taken.length) x])

def Writes (c : TQueueCallback) (t : Table LogEvent) (s' : UpdateStore) : Prop :=
  ∃ rs, Group c t rs ∧ s'.Runs (c.logs rs) (RewriteLog.replay t rs)

section

variable {s s' : UpdateStore} {c : TQueueCallback} {t : Table LogEvent} {queueId : Int64} {q : StoredQueue}
  {p' : Popping} {l l' : List RawEvent} {e : RawEvent} {rs : List (Record LogEvent)}

/-- Nothing is written. -/
theorem Runs.same (h : s.Runs c t) : Writes c t s :=
  ⟨[], .takes trivial, c.logs_nil.symm ▸ h⟩

/-- `queues_[queue_id]` alone changes nothing. -/
theorem Runs.created (h : s.Runs c t) (queueId : Int64) : (s.setQueue queueId (s.queue queueId)).Runs c t := by
  have hqueue : (s.setQueue queueId (s.queue queueId)).queue = Function.update s.queue queueId (s.queue queueId) :=
    queue_setQueue _ _ _
  refine ⟨h.callback, h.stores.change hqueue (h.stores.holds queueId) (fun _ _ => rfl) ?_ (h.stores.due queueId)
    h.stores.intact, h.keeps⟩
  have hsame : Function.update s.gcAts queueId (s.queue queueId).gcAt = s.gcAts := Function.update_eq_self _ _
  rw [hsame]
  exact h.stores.schedules

theorem lt_tailId (hone : OneQueue l) (hq : q.Holds l) : ∀ e ∈ l, e.eventId < q.tailId := by
  intro e he
  rw [hq.tailId]
  have hne : l ≠ [] := List.ne_nil_of_mem he
  obtain ⟨before, last, rfl⟩ : ∃ before last, l = before ++ [last] :=
    ⟨_, _, (List.dropLast_append_getLast hne).symm⟩
  rw [nextEventId_concat]
  rcases List.mem_append.1 he with he | he
  · exact Int.lt_trans (hone.before.1 e he).1 (Int.lt_succ _)
  · rw [List.mem_singleton.1 he]
    exact Int.lt_succ _

theorem Runs.at (h : s.Runs c t) (queueId : Int64) :
    Popping.At (s.popping (s.queue queueId)) queueId c t (s.queue queueId).events where
  callback := h.callback
  keeps := h.keeps
  events := (h.stores.holds queueId).events.symm
  total := by
    unfold popping
    rw [(h.stores.holds queueId).total, (h.stores.holds queueId).events]
  intact := h.stores.intact

/-- A popped event just before the tail stays. -/
theorem pop_last (queueId : Int64) {p : Popping} {tailId : Int} (hcallback : p.callback ≠ none) (hid : e.logEventId ≠ 0)
    (hlast : e.eventId + 1 = tailId) : ∃ e', (p.pop queueId tailId e).1 = [e'] ∧ e'.eventId = e.eventId := by
  obtain ⟨callback, total, crashed⟩ := p
  cases callback with
  | none => exact absurd rfl hcallback
  | some callback =>
      unfold Popping.pop
      dsimp only
      rw [if_neg hid, if_pos hlast]
      split_ifs
      · exact ⟨_, rfl, rfl⟩
      · exact ⟨_, rfl, rfl⟩

theorem pop_callback {p : Popping} {tailId : Int} (hcallback : p.callback ≠ none) :
    (p.pop queueId tailId e).2.callback ≠ none := by
  unfold Popping.pop
  split
  · exact hcallback
  · split_ifs
    · exact hcallback
    · exact Option.some_ne_none _
    · exact hcallback
    · exact Option.some_ne_none _

theorem getLast?_append_of_some {last : RawEvent} (h : l'.getLast? = some last) (l : List RawEvent) :
    (l ++ l').getLast? = some last := by
  rw [List.getLast?_append, h]
  rfl

/-- A sweep leaves the last event at its place. -/
theorem sweep_last {p : Popping} {tailId : Int} (h : Popping.Sweeps queueId tailId p l p' l')
    (hcallback : p.callback ≠ none) (hids : ∀ e ∈ l, e.logEventId ≠ 0) {last : RawEvent}
    (hlast : l.getLast? = some last) (htail : last.eventId + 1 = tailId) :
    ∃ last', l'.getLast? = some last' ∧ last'.eventId = last.eventId := by
  induction h with
  | stop p l => exact ⟨last, hlast, rfl⟩
  | @keep p p' l l' e hsweep ih =>
      cases l with
      | nil =>
          cases hsweep
          exact ⟨last, hlast, rfl⟩
      | cons e₂ l =>
          rw [List.getLast?_cons_cons] at hlast
          obtain ⟨last', hlast', hid⟩ := ih hcallback (fun e he => hids e (List.mem_cons_of_mem _ he)) hlast
          exact ⟨last', getLast?_append_of_some hlast' [e], hid⟩
  | @pop p p' l l' e hsweep ih =>
      cases l with
      | nil =>
          cases hsweep
          obtain rfl : e = last := Option.some.inj hlast
          obtain ⟨e', hpop, hid⟩ := pop_last queueId hcallback (hids e List.mem_cons_self) htail
          rw [hpop]
          exact ⟨e', rfl, hid⟩
      | cons e₂ l =>
          rw [List.getLast?_cons_cons] at hlast
          obtain ⟨last', hlast', hid⟩ := ih (pop_callback hcallback)
            (fun e he => hids e (List.mem_cons_of_mem _ he)) hlast
          exact ⟨last', getLast?_append_of_some hlast' _, hid⟩

theorem sweep_nil {p : Popping} {tailId : Int} (h : Popping.Sweeps queueId tailId p [] p' l') : l' = [] := by
  cases h
  rfl

theorem logEventId_ne (h : s.Runs c t) : ∀ e ∈ eventsOf t queueId, e.logEventId ≠ 0 := fun _ he =>
  Nat.ne_of_gt (h.keeps.bounds _ (mem_eventsOf.1 he)).1

theorem nextEventId_sweep {p : Popping} {tailId : Int} (h : Popping.Sweeps queueId tailId p l p' l')
    (hcallback : p.callback ≠ none) (hids : ∀ e ∈ l, e.logEventId ≠ 0) (htail : tailId = nextEventId l) :
    nextEventId l' = nextEventId l := by
  cases hlast : l.getLast? with
  | none =>
      rw [List.getLast?_eq_none_iff] at hlast
      subst hlast
      rw [sweep_nil h]
  | some last =>
      have hnext : nextEventId l = last.eventId + 1 := by
        unfold nextEventId
        rw [hlast]
        rfl
      obtain ⟨last', hlast', hid⟩ := sweep_last h hcallback hids hlast (htail.trans hnext).symm
      rw [hnext, ← hid]
      unfold nextEventId
      rw [hlast']
      rfl

/-- A sweep through a queue writes what it takes away. -/
theorem Runs.sweep (h : s.Runs c t)
    (hsweep : Popping.Sweeps queueId (s.queue queueId).tailId (s.popping (s.queue queueId)) (s.queue queueId).events
      p' l')
    (hqueue : s'.queue = Function.update s.queue queueId q) (hevents : q.events = l')
    (htail : q.tailId = (s.queue queueId).tailId) (htotal : q.totalEventLength = p'.totalEventLength)
    (hcallback : s'.callback = p'.callback)
    (hschedules : Schedules s'.queueGcAt (Function.update s.gcAts queueId q.gcAt))
    (hdue : (∃ e ∈ l', e.data ≠ []) → q.gcAt ≠ 0) (hcrashed : p'.crashed = false → s'.crashed = false) :
    ∃ rs, TakesAll t rs ∧ s'.Runs (c.logs rs) (RewriteLog.replay t rs) ∧
      eventsOf (RewriteLog.replay t rs) queueId = l' ∧
      ∀ other ≠ queueId, eventsOf (RewriteLog.replay t rs) other = eventsOf t other := by
  have hq := h.stores.holds queueId
  have hone := h.keeps.restorable.queue queueId
  have hbelow : ∀ e ∈ (s.queue queueId).events, (s.queue queueId).tailId = 0 ∨
      e.eventId < (s.queue queueId).tailId := by
    intro e he
    rw [hq.events] at he
    exact Or.inr (lt_tailId hone hq e he)
  obtain ⟨rs, htakes, hat, hothers⟩ := hsweep.leads
    (show Popping.At _ queueId c t ([] ++ (s.queue queueId).events) from h.at queueId) hbelow
  rw [List.nil_append] at hat
  have hids : ∀ e ∈ (s.queue queueId).events, e.logEventId ≠ 0 := by
    rw [hq.events]
    exact logEventId_ne h
  have hnext := nextEventId_sweep hsweep (by rw [(h.at queueId).callback]; exact Option.some_ne_none _) hids
    (hq.events ▸ hq.tailId)
  refine ⟨rs, htakes, ⟨hcallback.trans hat.callback, ?_, hat.keeps⟩, hat.events, hothers⟩
  refine h.stores.change hqueue ⟨hevents.trans hat.events.symm, ?_, ?_⟩ hothers hschedules (fun hupdates => ?_)
    (hcrashed hat.intact)
  · rw [htail, hat.events, hnext, hq.tailId, hq.events]
  · rw [htotal, hat.events]
    exact hat.total
  · obtain ⟨e, he⟩ := List.exists_mem_of_ne_nil _ hupdates
    obtain ⟨he, hdata⟩ := List.mem_filter.1 he
    exact hdue ⟨e, hat.events ▸ he, of_decide_eq_true hdata⟩

end

end UpdateStore

end TelegramBotApi
