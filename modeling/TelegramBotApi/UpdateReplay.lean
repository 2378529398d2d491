import TelegramBotApi.UpdateLog
import TelegramBotApi.UpdateSchedule

/-!
# The start of the update storage

`ClientManager::start_up` replays the events of the binlog into an empty storage, and installs the
callback afterwards. A storage is the table of its log when every queue has the events of the table; a
table that can be restored is replayed to such a storage, and no event of it is dropped.
-/

namespace TelegramBotApi

open RewriteLog (Table)

def nextEventId (events : List RawEvent) : Int := (events.getLast?.map (·.eventId + 1)).getD 0

/-- Between two operations a queue is determined by its events, up to its schedule. -/
structure StoredQueue.Holds (q : StoredQueue) (l : List RawEvent) : Prop where
  events : q.events = l
  tailId : q.tailId = nextEventId l
  total : q.totalEventLength = (l.map (·.data.length)).sum

namespace UpdateStore

def gcAts (s : UpdateStore) (queueId : Int64) : Int32 := (s.queue queueId).gcAt

/-- The storage has the events of the table, every queue with an update is scheduled, and no `CHECK` has
failed. -/
structure Stores (s : UpdateStore) (t : Table LogEvent) : Prop where
  holds : ∀ queueId, (s.queue queueId).Holds (eventsOf t queueId)
  schedules : Schedules s.queueGcAt s.gcAts
  due : ∀ queueId, updatesOf t queueId ≠ [] → s.gcAts queueId ≠ 0
  intact : s.crashed = false

/-- `TQueueBinlog::replay`, and whether it has succeeded. -/
def replay (s : UpdateStore) (logEventId : Nat) (content : Content) : UpdateStore × Bool :=
  match LogEvent.ofContent content with
  | none => (s, false)
  | some event => s.doPush event.queueId (event.rawEvent logEventId)

/-- The callback of `init` in `start_up`, for all events of the binlog: the storage, and the identifiers
of the events that were not replayed. -/
def replayAll (t : Table Content) : UpdateStore × List Nat :=
  t.foldl (fun r entry =>
    let r' := r.1.replay entry.1 entry.2
    (r'.1, if r'.2 then r.2 else r.2 ++ [entry.1])) ({}, [])

def setCallback (s : UpdateStore) (callback : TQueueCallback) : UpdateStore := { s with callback := some callback }

section

variable {s s' : UpdateStore} {t t' : Table LogEvent} {queueId : Int64} {q : StoredQueue} {id : Nat}
  {x : LogEvent} {events : List RawEvent} {e : RawEvent}

theorem queue_setQueue (s : UpdateStore) (queueId : Int64) (q : StoredQueue) :
    (s.setQueue queueId q).queue = Function.update s.queue queueId q := by
  funext other
  unfold queue setQueue
  by_cases hother : other = queueId
  · subst hother
    simp only [Function.update_self, Option.getD_some]
  · simp only [Function.update_of_ne hother]

theorem gcAts_eq (h : s'.queue = Function.update s.queue queueId q) :
    s'.gcAts = Function.update s.gcAts queueId q.gcAt := by
  funext other
  unfold gcAts
  rw [h]
  by_cases hother : other = queueId
  · subst hother
    simp only [Function.update_self]
  · simp only [Function.update_of_ne hother]

/-- One queue changes, and with it the table. -/
theorem Stores.change (h : s.Stores t) (hqueue : s'.queue = Function.update s.queue queueId q)
    (hholds : q.Holds (eventsOf t' queueId)) (hother : ∀ other ≠ queueId, eventsOf t' other = eventsOf t other)
    (hschedules : Schedules s'.queueGcAt (Function.update s.gcAts queueId q.gcAt))
    (hdue : updatesOf t' queueId ≠ [] → q.gcAt ≠ 0) (hintact : s'.crashed = false) : s'.Stores t' where
  holds other := by
    rw [hqueue]
    by_cases hsame : other = queueId
    · subst hsame
      rwa [Function.update_self]
    · rw [Function.update_of_ne hsame, hother other hsame]
      exact h.holds other
  schedules := gcAts_eq hqueue ▸ hschedules
  due other := by
    rw [gcAts_eq hqueue]
    by_cases hsame : other = queueId
    · subst hsame
      rwa [Function.update_self]
    · rw [Function.update_of_ne hsame]
      unfold updatesOf
      rw [hother other hsame]
      exact h.due other
  intact := hintact

/-- What `do_push` does after its checks: `q` is the queue without a placeholder, and `pushed` the event
with its identifier in the binlog. -/
structure Pushes (s : UpdateStore) (queueId : Int64) (rawEvent : RawEvent) : Prop where
  valid : isValidEventId rawEvent.eventId
  next : rawEvent.eventId + 1 < maxEventId
  queueId_ne : queueId ≠ 0
  data_le : rawEvent.data.length ≤ TQueue.maxEventLength
  length_lt : (s.queue queueId).events.length < TQueue.maxQueueEvents
  total_le : (s.queue queueId).totalEventLength + rawEvent.data.length ≤ TQueue.maxTotalEventLength
  expiresAt : 0 < rawEvent.expiresAt.toInt
  tail_le : (s.queue queueId).tailId ≤ rawEvent.eventId

theorem doPush_spec (h : s.Pushes queueId e) (hschedules : Schedules s.queueGcAt s.gcAts) :
    ∃ s' q', s.doPush queueId e = (s', true) ∧ s'.queue = Function.update s.queue queueId q' ∧
      q'.tailId = e.eventId + 1 ∧
      q'.events = (withoutPlaceholder s.callback (s.queue queueId)).1.events ++
        [(logged (withoutPlaceholder s.callback (s.queue queueId)).2 queueId e).2] ∧
      q'.totalEventLength = (s.queue queueId).totalEventLength + e.data.length ∧
      q'.gcAt = (if (withoutPlaceholder s.callback (s.queue queueId)).1.events = [] ∧ e.data ≠ [] then
        e.expiresAt else (s.queue queueId).gcAt) ∧
      s'.callback = (logged (withoutPlaceholder s.callback (s.queue queueId)).2 queueId e).1 ∧
      Schedules s'.queueGcAt (Function.update s.gcAts queueId q'.gcAt) ∧ s'.crashed = s.crashed := by
  have hplaceholder : (withoutPlaceholder s.callback (s.queue queueId)).1.totalEventLength =
      (s.queue queueId).totalEventLength ∧
      (withoutPlaceholder s.callback (s.queue queueId)).1.gcAt = (s.queue queueId).gcAt := by
    unfold withoutPlaceholder
    split
    · exact ⟨rfl, rfl⟩
    · split_ifs <;> exact ⟨rfl, rfl⟩
  unfold doPush
  simp only [check_of_pos (decide_eq_true h.valid)]
  rw [if_neg (not_or.2 ⟨Nat.not_lt.2 h.data_le, h.queueId_ne⟩), if_neg]
  · generalize withoutPlaceholder s.callback (s.queue queueId) = r at hplaceholder ⊢
    obtain ⟨q, callback⟩ := r
    obtain ⟨htotal, hgcAt⟩ := hplaceholder
    dsimp only at htotal hgcAt ⊢
    obtain ⟨entries, q₁, hscheduled, hentries, hq₁, hgcAt₁⟩ : ∃ entries q₁,
        (if q.events = [] ∧ e.data ≠ [] then
          scheduleQueueGc { s with callback := callback } queueId q e.expiresAt
        else ({ s with callback := callback }, q)) =
          ({ s with callback := callback, queueGcAt := entries }, q₁) ∧
        Schedules entries (Function.update s.gcAts queueId q₁.gcAt) ∧
        (q₁.events = q.events ∧ q₁.totalEventLength = q.totalEventLength) ∧
        q₁.gcAt = if q.events = [] ∧ e.data ≠ [] then e.expiresAt else q.gcAt := by
      split_ifs with hfirst
      · obtain ⟨entries, hschedule, hentries⟩ := scheduleQueueGc_spec (s := { s with callback := callback })
          hschedules (show s.gcAts queueId = q.gcAt from hgcAt.symm) e.expiresAt
        exact ⟨entries, _, hschedule, hentries, ⟨rfl, rfl⟩, rfl⟩
      · refine ⟨s.queueGcAt, q, rfl, ?_, ⟨rfl, rfl⟩, rfl⟩
        rw [hgcAt]
        exact (Function.update_eq_self queueId s.gcAts).symm ▸ hschedules
    rw [hscheduled]
    dsimp only
    rw [check_of_pos (decide_eq_true h.next)]
    refine ⟨_, _, rfl, queue_setQueue _ _ _, rfl, ?_, ?_, ?_, rfl, hentries, rfl⟩
    · rw [hq₁.1]
    · rw [hq₁.2, htotal]
    · rw [← hgcAt]
      exact hgcAt₁
  · have hpos := h.expiresAt
    have hlength := h.length_lt
    have htotal := h.total_le
    have htail := h.tail_le
    omega

theorem withoutPlaceholder_of_full (callback : Option TQueueCallback) (h : ∀ e ∈ q.events, e.data ≠ []) :
    withoutPlaceholder callback q = (q, callback) := by
  unfold withoutPlaceholder
  split
  · rfl
  · rename_i last hlast
    exact if_neg (h last (List.mem_of_getLast? hlast))

theorem nextEventId_concat (events : List RawEvent) (e : RawEvent) :
    nextEventId (events ++ [e]) = e.eventId + 1 := by
  unfold nextEventId
  rw [List.getLast?_concat]
  rfl

theorem nextEventId_le {m : Int} (hpos : 0 ≤ m) (h : ∀ e ∈ events, e.eventId < m) : nextEventId events ≤ m := by
  unfold nextEventId
  cases hlast : events.getLast? with
  | none => exact hpos
  | some last => exact h last (List.mem_of_getLast? hlast)

theorem ne_zero_of_toInt_pos {time : Int32} (h : 0 < time.toInt) : time ≠ 0 := by
  rintro rfl
  exact Int.lt_irrefl _ h

/-- The next entry of a table that can be restored is added. -/
theorem Stores.replay (h : s.Stores t) (hcallback : s.callback = none)
    (ht : Restorable (RewriteLog.apply t (.add id x))) :
    ∃ s', s.replay id x.content = (s', true) ∧ s'.Stores (RewriteLog.apply t (.add id x)) ∧
      s'.callback = none := by
  have hvalid := ht.valid (id, x) (RewriteLog.mem_add.2 (Or.inr rfl))
  have hqueue := ht.queue x.queueId
  obtain ⟨hself, hother⟩ := eventsOf_add rfl t id
  rw [hself] at hqueue
  obtain ⟨hbefore, hlength, htotal⟩ := hqueue.before
  have hq := h.holds x.queueId
  have hfull : ∀ e ∈ (s.queue x.queueId).events, e.data ≠ [] := fun e he => (hbefore e (hq.events ▸ he)).2
  have hpushes : s.Pushes x.queueId (x.rawEvent id) :=
    { valid := hvalid.eventId
      next := hvalid.next
      queueId_ne := hvalid.queueId
      data_le := hvalid.length_le
      length_lt := by rwa [hq.events]
      total_le := by rwa [hq.total]
      expiresAt := hvalid.expiresAt
      tail_le := by
        rw [hq.tailId]
        exact nextEventId_le (Int.le_of_lt hvalid.eventId.1) fun e he => (hbefore e he).1 }
  obtain ⟨s', q', hpush, hs', htail, hevents, htotal', hgcAt, hcallback', hschedules, hcrashed⟩ :=
    doPush_spec hpushes h.schedules
  rw [hcallback, withoutPlaceholder_of_full none hfull] at hevents hgcAt hcallback'
  refine ⟨s', ?_, ?_, hcallback'⟩
  · unfold UpdateStore.replay
    rw [LogEvent.ofContent_content hvalid]
    exact hpush
  · refine h.change hs' ⟨?_, ?_, ?_⟩ hother hschedules (fun hupdates => ?_) (hcrashed.trans h.intact)
    · rw [hevents, hself, hq.events]
      rfl
    · rw [htail, hself, nextEventId_concat]
    · rw [htotal', hself, List.map_append, List.sum_append, List.map_singleton, List.sum_singleton, hq.total]
    · rw [hgcAt]
      split_ifs with hfirst
      · exact ne_zero_of_toInt_pos hvalid.expiresAt
      · refine h.due x.queueId fun hnone => ?_
        have hevents : (s.queue x.queueId).events = [] := by
          rw [hq.events]
          refine List.eq_nil_iff_forall_not_mem.2 fun e he => ?_
          have hupdate : e ∈ updatesOf t x.queueId := List.mem_filter.2 ⟨he, decide_eq_true (hbefore e he).2⟩
          rw [hnone] at hupdate
          exact absurd hupdate List.not_mem_nil
        have hdata : x.data = [] := by
          by_contra hdata
          exact hfirst ⟨hevents, hdata⟩
        refine hupdates ?_
        unfold updatesOf at hnone ⊢
        rw [hself, List.filter_append, hnone, List.filter_singleton]
        simp [LogEvent.rawEvent, hdata]

theorem stores_nil : UpdateStore.Stores {} [] where
  holds _ := ⟨rfl, rfl, rfl⟩
  schedules := schedules_nil
  due _ hupdates := absurd rfl hupdates
  intact := rfl

end

/-- A table that can be restored is restored, and nothing of it is dropped. -/
theorem replayAll_restores {t : Table LogEvent} (ht : Restorable t) :
    ∃ s, replayAll (RewriteLog.mapTable LogEvent.content t) = (s, []) ∧ s.Stores t ∧ s.callback = none := by
  induction t using List.reverseRecOn with
  | nil => exact ⟨{}, rfl, stores_nil, rfl⟩
  | append_singleton t entry ih =>
      obtain ⟨s, hreplay, hstores, hcallback⟩ := ih (ht.sublist (List.sublist_append_left _ _))
      obtain ⟨s', hreplay', hstores', hcallback'⟩ := hstores.replay hcallback
        (show Restorable (RewriteLog.apply t (.add entry.1 entry.2)) from ht)
      refine ⟨s', ?_, hstores', hcallback'⟩
      unfold replayAll at hreplay ⊢
      unfold RewriteLog.mapTable at hreplay ⊢
      rw [List.map_append, List.foldl_append, hreplay, List.map_singleton, List.foldl_cons, List.foldl_nil, hreplay']
      rfl

end UpdateStore

end TelegramBotApi
