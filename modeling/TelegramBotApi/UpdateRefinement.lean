import TelegramBotApi.StepRun
import TelegramBotApi.UpdateCrash

/-!
# One queue of the storage

The clients and the webhooks were modelled over one queue that has its callback. The storage of all bots
is such a queue for each of them: every operation does to its queue, and answers, what it does there, it
leaves the other queues alone, and a garbage collection takes only expired events away.
-/

namespace TelegramBotApi

open RewriteLog (Record Table)

/-- The characters of a string are its bytes. -/
def sliceOf (bytes : Bytes) : Slice := bytes.map fun byte => Char.ofNat byte.toNat

def RawEvent.toEvent (event : RawEvent) : TQueueEvent where
  id := event.eventId
  expiresAt := event.expiresAt.toInt
  data := sliceOf event.data
  extra := event.extra.toInt

/-- The queue of the storage is the one that the clients see. -/
structure Abstracts (q : StoredQueue) (tq : TQueue) : Prop where
  tailId : tq.tailId = q.tailId
  events : tq.events = q.events.map RawEvent.toEvent

section

variable {q : StoredQueue} {tq : TQueue} {p : Popping} {queueId : Int64} {tailId : Int} {now : Int32}
  {limit : Nat} {l : List RawEvent} {e : RawEvent}

theorem toEvent_data : e.toEvent.data = [] ↔ e.data = [] := List.map_eq_nil_iff

theorem toEvent_length (e : RawEvent) : e.toEvent.data.length = e.data.length := List.length_map _

theorem Abstracts.ext {tq' : TQueue} (h : Abstracts q tq) (h' : Abstracts q tq') : tq = tq' := by
  obtain ⟨tail, events, _, _, _⟩ := tq
  obtain ⟨tail', events', _, _, _⟩ := tq'
  have htail : tail = tail' := h.tailId.trans h'.tailId.symm
  have hevents : events = events' := h.events.trans h'.events.symm
  subst htail hevents
  rfl

theorem pop_toEvent (hcallback : p.callback ≠ none) (hid : e.logEventId ≠ 0) :
    (p.pop queueId tailId e).1.map RawEvent.toEvent = (TQueue.popped tailId e.toEvent).toList := by
  obtain ⟨callback, total⟩ := p
  cases callback with
  | none => exact absurd rfl hcallback
  | some callback =>
      unfold Popping.pop TQueue.popped
      dsimp only
      rw [if_neg hid]
      by_cases hlast : e.eventId + 1 = tailId
      · rw [if_pos hlast, if_pos (show e.toEvent.id + 1 = tailId from hlast)]
        by_cases hdata : e.data = []
        · rw [if_neg (not_not_intro hdata)]
          unfold RawEvent.toEvent
          rw [List.map_singleton, hdata]
          rfl
        · rw [if_pos hdata]
          rfl
      · rw [if_neg hlast, if_neg (show ¬ e.toEvent.id + 1 = tailId from hlast)]
        rfl

theorem popAll_toEvent (queueId : Int64) (tailId : Int) (hcallback : p.callback ≠ none)
    (hids : ∀ e ∈ l, e.logEventId ≠ 0) :
    (Popping.popAll queueId tailId p l).1.map RawEvent.toEvent =
      (l.map RawEvent.toEvent).filterMap (TQueue.popped tailId) ∧
      (Popping.popAll queueId tailId p l).2.callback ≠ none := by
  induction l generalizing p with
  | nil => exact ⟨rfl, hcallback⟩
  | cons e l ih =>
      obtain ⟨hrest, hcallback'⟩ := ih (UpdateStore.pop_callback hcallback) fun e' he' =>
        hids e' (List.mem_cons_of_mem _ he')
      refine ⟨?_, hcallback'⟩
      unfold Popping.popAll
      dsimp only
      rw [List.map_append, pop_toEvent hcallback (hids e List.mem_cons_self), hrest, List.map_cons, List.filterMap_cons]
      cases TQueue.popped tailId e.toEvent <;> rfl

theorem collect_toEvent (queueId : Int64) (tailId : Int) (now : Int32) (limit : Nat)
    (hcallback : p.callback ≠ none) (hids : ∀ e ∈ l, e.logEventId ≠ 0) :
    (Popping.collect queueId tailId now limit p l).1.1.map RawEvent.toEvent =
        (TQueue.collect tailId now.toInt limit (l.map RawEvent.toEvent)).1 ∧
      (Popping.collect queueId tailId now limit p l).2.map RawEvent.toEvent =
        (TQueue.collect tailId now.toInt limit (l.map RawEvent.toEvent)).2 := by
  induction l generalizing p limit with
  | nil => cases limit <;> exact ⟨rfl, rfl⟩
  | cons e l ih =>
      have hids' : ∀ e' ∈ l, e'.logEventId ≠ 0 := fun e' he' => hids e' (List.mem_cons_of_mem _ he')
      rw [List.map_cons]
      unfold Popping.collect TQueue.collect
      by_cases hdead : e.expiresAt.toInt < now.toInt ∨ e.data = []
      · have hdead' : e.toEvent.expiresAt < now.toInt ∨ e.toEvent.data = [] := hdead.imp_right toEvent_data.2
        rw [if_pos hdead, if_pos hdead']
        obtain ⟨hleft, hreturned⟩ := ih limit (UpdateStore.pop_callback hcallback) hids'
        dsimp only
        rw [List.map_append, pop_toEvent hcallback (hids e List.mem_cons_self), hleft]
        exact ⟨rfl, hreturned⟩
      · have hdead' : ¬ (e.toEvent.expiresAt < now.toInt ∨ e.toEvent.data = []) :=
          fun h => hdead (h.imp_right toEvent_data.1)
        rw [if_neg hdead, if_neg hdead']
        cases limit with
        | zero => exact ⟨rfl, rfl⟩
        | succ limit =>
            obtain ⟨hleft, hreturned⟩ := ih limit hcallback hids'
            dsimp only
            rw [List.map_cons, List.map_cons, hleft, hreturned]
            exact ⟨rfl, rfl⟩

theorem Abstracts.size (h : Abstracts q tq) : tq.size = q.size := by
  unfold TQueue.size StoredQueue.size TQueue.isLastCleared StoredQueue.isLastCleared
  rw [h.events, List.length_map, List.getLast?_map]
  cases q.events.getLast? with
  | none => rfl
  | some last =>
      have hdata := toEvent_data (e := last)
      simp [hdata]

theorem Abstracts.head (h : Abstracts q tq) : tq.head = q.head := by
  unfold TQueue.head StoredQueue.head
  rw [h.events, h.tailId]
  cases q.events <;> rfl

theorem Abstracts.updates (h : Abstracts q tq) :
    tq.updates = (q.events.filter (·.data ≠ [])).map RawEvent.toEvent := by
  unfold TQueue.updates
  rw [h.events, List.filter_map]
  congr 1
  exact List.filter_congr fun e _ => decide_eq_decide.2 toEvent_data.not

theorem Abstracts.live (h : Abstracts q tq) (now : Int32) :
    tq.live now.toInt = (q.events.filter (·.isLive now)).map RawEvent.toEvent := by
  unfold TQueue.live
  rw [h.events, List.filter_map]
  congr 1
  exact List.filter_congr fun e _ => decide_eq_decide.2 (and_congr_left' toEvent_data.not)

theorem Abstracts.total (h : Abstracts q tq) (htotal : q.totalEventLength = (q.events.map (·.data.length)).sum) :
    tq.totalEventLength = q.totalEventLength := by
  unfold TQueue.totalEventLength
  rw [htotal, h.events, List.map_map]
  congr 1
  exact List.map_congr_left fun e _ => toEvent_length e

end

namespace TQueue

/-- `do_get` without `forget_previous`, as a webhook reads its queue. -/
def afterRead (q : TQueue) (fromId unixTimeNow : Int) (limit : Nat) : List TQueueEvent :=
  q.events.takeWhile (·.id < fromId) ++
    (collect q.tailId unixTimeNow limit (q.events.dropWhile (·.id < fromId))).1

theorem afterRead_map_id (q : TQueue) (fromId unixTimeNow : Int) (limit : Nat) :
    ((q.afterRead fromId unixTimeNow limit).map (·.id)).Sublist (q.events.map (·.id)) := by
  have hids := (List.Sublist.refl ((q.events.takeWhile (·.id < fromId)).map (·.id))).append
    (collect_map_id q.tailId unixTimeNow limit (q.events.dropWhile (·.id < fromId)))
  rw [← List.map_append, ← List.map_append, List.takeWhile_append_dropWhile] at hids
  exact hids

/-- `get`, with either `forget_previous`, of a queue that has had an event. -/
def getBy (q : TQueue) (forgetPrevious : Bool) (fromId unixTimeNow : Int) (limit : Nat) :
    Except Status (TQueue × List TQueueEvent × Nat) :=
  if forgetPrevious then q.getForget fromId unixTimeNow limit
  else if q.tailId + 10 < fromId then .error ⟨0, "Specified from_id is in the future"⟩
  else if fromId < q.head - maxQueueEvents then .error ⟨0, "Specified from_id is in the past"⟩
  else
    let q' := q.withEvents (q.afterRead fromId unixTimeNow limit) (q.afterRead_map_id fromId unixTimeNow limit)
    .ok (q', (collect q.tailId unixTimeNow limit (q.events.dropWhile (·.id < fromId))).2, q'.size)

theorem getBy_future {q : TQueue} {fromId : Int} (hnext : q.tailId ≠ 0) (h : q.tailId + 10 < fromId)
    (forgetPrevious : Bool) (unixTimeNow : Int) (limit : Nat) :
    q.getBy forgetPrevious fromId unixTimeNow limit = .error ⟨0, "Specified from_id is in the future"⟩ := by
  unfold getBy getForget
  rw [if_neg hnext, if_pos h, if_pos h, ite_self]

theorem getBy_past {q : TQueue} {fromId : Int} (hnext : q.tailId ≠ 0) (hfuture : ¬ q.tailId + 10 < fromId)
    (h : fromId < q.head - maxQueueEvents) (forgetPrevious : Bool) (unixTimeNow : Int) (limit : Nat) :
    q.getBy forgetPrevious fromId unixTimeNow limit = .error ⟨0, "Specified from_id is in the past"⟩ := by
  unfold getBy getForget
  rw [if_neg hnext, if_neg hfuture, if_neg hfuture, if_pos h, if_pos h, ite_self]

/-- A webhook is given the events that its own reading of the queue gives. -/
theorem getBy_eq_get (q : TQueue) (fromId unixTimeNow : Int) (limit : Nat) :
    (q.getBy false fromId unixTimeNow limit).map (·.2.1) = q.get fromId unixTimeNow limit := by
  have hmax : (maxQueueEvents : Int) = 100000 := rfl
  unfold getBy get
  rw [if_neg Bool.false_ne_true, hmax]
  split_ifs
  · rfl
  · rfl
  · exact congrArg Except.ok (q.doGetForget_eq_doGet fromId unixTimeNow limit)

end TQueue

/-- What an operation answers. -/
inductive UpdateAnswer where
  | pushed (eventId : Except Status Int)
  | got (events : Except Status (List TQueueEvent × Nat))
  | done

def UpdateStore.answer (s : UpdateStore) : UpdateOp → UpdateAnswer
  | .push queueId first data expiresAt extra => .pushed (s.push queueId first data expiresAt extra).2
  | .get queueId fromId forgetPrevious unixTimeNow limit =>
    .got ((s.get queueId fromId forgetPrevious unixTimeNow limit).2.map fun r => (r.1.map RawEvent.toEvent, r.2))
  | .forget _ _ => .done
  | .clear _ _ => .done
  | .runGc _ _ => .done

/-- The queue that an operation is about; a garbage collection is about all of them. -/
def UpdateOp.queueId : UpdateOp → Option Int64
  | .push queueId _ _ _ _ => some queueId
  | .get queueId _ _ _ _ => some queueId
  | .forget queueId _ => some queueId
  | .clear queueId _ => some queueId
  | .runGc _ _ => none

/-- What an operation of the storage does to one queue, as the clients and the webhooks see it. -/
inductive QueueStep (queueId : Int64) : TQueue → UpdateOp → UpdateAnswer → TQueue → Prop where
  | push {q q' : TQueue} {first : FirstEventId} {data : Bytes} {expiresAt : Int32} {extra : Int64}
      (h : q.push first (sliceOf data) expiresAt.toInt extra.toInt = .ok q') :
      QueueStep queueId q (.push queueId first data expiresAt extra) (.pushed (.ok (q'.tailId - 1))) q'
  | refuse {q : TQueue} {status : Status} {first : FirstEventId} {data : Bytes} {expiresAt : Int32} {extra : Int64}
      (h : q.push first (sliceOf data) expiresAt.toInt extra.toInt = .error status) :
      QueueStep queueId q (.push queueId first data expiresAt extra) (.pushed (.error status)) q
  | get {q q' : TQueue} {events : List TQueueEvent} {size : Nat} {fromId : Int} {forgetPrevious : Bool}
      {now : Int32} {limit : Nat} (h : q.getBy forgetPrevious fromId now.toInt limit = .ok (q', events, size)) :
      QueueStep queueId q (.get queueId fromId forgetPrevious now limit) (.got (.ok (events, size))) q'
  | getError {q : TQueue} {status : Status} {fromId : Int} {forgetPrevious : Bool} {now : Int32} {limit : Nat}
      (h : q.getBy forgetPrevious fromId now.toInt limit = .error status) :
      QueueStep queueId q (.get queueId fromId forgetPrevious now limit) (.got (.error status)) q
  /-- A queue that has had no event has nothing to give. -/
  | getEmpty {q : TQueue} {r : Except Status (List TQueueEvent × Nat)} {fromId : Int} {forgetPrevious : Bool}
      {now : Int32} {limit : Nat} (hq : q.tailId = 0) (hr : ∀ x, r = .ok x → x = ([], 0)) :
      QueueStep queueId q (.get queueId fromId forgetPrevious now limit) (.got r) q
  | forget {q : TQueue} {eventId : Int} : QueueStep queueId q (.forget queueId eventId) .done (q.forget eventId)
  | clear {q : TQueue} {keepCount : Nat} : QueueStep queueId q (.clear queueId keepCount) .done (q.clear keepCount)
  | gc {q q' : TQueue} {now : Int32} {deadline : Nat} (htail : q'.tailId = q.tailId)
      (hupdates : q'.updates.Sublist q.updates) (hlive : q'.live now.toInt = q.live now.toInt) :
      QueueStep queueId q (.runGc now deadline) .done q'
  | other {q : TQueue} {op : UpdateOp} {answer : UpdateAnswer} {queueId' : Int64} (hop : op.queueId = some queueId')
      (hne : queueId' ≠ queueId) : QueueStep queueId q op answer q

section

variable {s : UpdateStore} {c : TQueueCallback} {t : Table LogEvent} {queueId other : Int64} {q q' : StoredQueue}
  {tq : TQueue} {events : List RawEvent}

theorem logEventIds_ne (h : s.Runs c t) (queueId : Int64) : ∀ e ∈ (s.queue queueId).events, e.logEventId ≠ 0 := by
  rw [(h.stores.holds queueId).events]
  exact UpdateStore.logEventId_ne h

/-- `do_get` does to its queue what it does to the abstract one. -/
theorem doGet_refines (h : s.Runs c t) (ha : Abstracts (s.queue queueId) tq) (fromId : Int) (now : Int32) (limit : Nat)
    (forgetPrevious : Bool) (hnext : tq.tailId ≠ 0) (hfuture : ¬ (s.queue queueId).tailId + 10 < fromId)
    (hpast : ¬ fromId < (s.queue queueId).head - TQueue.maxQueueEvents) :
    ∃ tq' : TQueue, tq.getBy forgetPrevious fromId now.toInt limit =
        .ok (tq', (s.doGet queueId (s.queue queueId) fromId forgetPrevious now limit).2.2.map RawEvent.toEvent,
          (s.doGet queueId (s.queue queueId) fromId forgetPrevious now limit).2.1.size) ∧
      Abstracts (s.doGet queueId (s.queue queueId) fromId forgetPrevious now limit).2.1 tq' := by
  have hids := logEventIds_ne h queueId
  have hcallback : s.callback ≠ none := by
    rw [h.callback]
    exact Option.some_ne_none _
  have hfuture' : ¬ tq.tailId + 10 < fromId := by rwa [ha.tailId]
  have hpast' : ¬ fromId < tq.head - TQueue.maxQueueEvents := by rwa [ha.head]
  have hbefore : tq.events.takeWhile (·.id < fromId) =
      ((s.queue queueId).events.takeWhile (·.eventId < fromId)).map RawEvent.toEvent := by
    rw [ha.events, List.takeWhile_map]
    rfl
  have hafter : tq.events.dropWhile (·.id < fromId) =
      ((s.queue queueId).events.dropWhile (·.eventId < fromId)).map RawEvent.toEvent := by
    rw [ha.events, List.dropWhile_map]
    rfl
  have hidsBefore : ∀ e ∈ (s.queue queueId).events.takeWhile (·.eventId < fromId), e.logEventId ≠ 0 := fun e he =>
    hids e ((List.takeWhile_sublist _).subset he)
  have hidsAfter : ∀ e ∈ (s.queue queueId).events.dropWhile (·.eventId < fromId), e.logEventId ≠ 0 := fun e he =>
    hids e ((List.dropWhile_sublist _).subset he)
  cases forgetPrevious with
  | true =>
      obtain ⟨hpopped, hcallback'⟩ := popAll_toEvent queueId (s.queue queueId).tailId
        (p := s.popping (s.queue queueId)) hcallback hidsBefore
      obtain ⟨hleft, hreturned⟩ := collect_toEvent queueId (s.queue queueId).tailId now limit hcallback' hidsAfter
      have ha' : Abstracts (s.doGet queueId (s.queue queueId) fromId true now limit).2.1
          (tq.doGetForget fromId now.toInt limit).1 := by
        refine ⟨ha.tailId, ?_⟩
        change tq.afterGet fromId now.toInt limit = List.map _ (_ ++ _)
        unfold TQueue.afterGet
        rw [hbefore, hafter, ha.tailId, List.map_append]
        exact congrArg₂ (· ++ ·) hpopped.symm hleft.symm
      refine ⟨_, ?_, ha'⟩
      unfold TQueue.getBy TQueue.getForget
      rw [if_pos rfl, if_neg hnext, if_neg hfuture', if_neg hpast']
      dsimp only
      rw [ha'.size]
      have hevents : (tq.doGetForget fromId now.toInt limit).2 =
          (s.doGet queueId (s.queue queueId) fromId true now limit).2.2.map RawEvent.toEvent := by
        change (TQueue.collect _ _ _ _).2 = _
        rw [hafter, ha.tailId]
        exact hreturned.symm
      rw [hevents]
  | false =>
      obtain ⟨hleft, hreturned⟩ := collect_toEvent queueId (s.queue queueId).tailId now limit
        (p := s.popping (s.queue queueId)) hcallback hidsAfter
      have hevents : tq.afterRead fromId now.toInt limit =
          (s.doGet queueId (s.queue queueId) fromId false now limit).2.1.events.map RawEvent.toEvent := by
        change _ = List.map _ (_ ++ _)
        unfold TQueue.afterRead
        rw [hbefore, hafter, ha.tailId, List.map_append]
        exact congrArg₂ (· ++ ·) rfl hleft.symm
      have ha' : Abstracts (s.doGet queueId (s.queue queueId) fromId false now limit).2.1
          (tq.withEvents _ (tq.afterRead_map_id fromId now.toInt limit)) := ⟨ha.tailId, hevents⟩
      refine ⟨_, ?_, ha'⟩
      unfold TQueue.getBy
      rw [if_neg Bool.false_ne_true, if_neg hfuture', if_neg hpast']
      dsimp only
      rw [ha'.size, hafter, ha.tailId, ← hreturned]
      rfl

/-- Nothing is known of a queue that has had no event. -/
theorem events_of_tailId (h : s.Runs c t) (hzero : (s.queue queueId).tailId = 0) : (s.queue queueId).events = [] := by
  have hholds := h.stores.holds queueId
  refine List.eq_nil_iff_forall_not_mem.2 fun e he => ?_
  rw [hholds.events] at he
  have hlt := UpdateStore.lt_tailId (h.keeps.restorable.queue queueId) hholds e he
  have hpos : 0 < e.eventId := (h.keeps.restorable.valid _ (mem_eventsOf.1 he)).eventId.1
  omega

theorem queue_doGet (s : UpdateStore) (queueId : Int64) (q : StoredQueue) (fromId : Int) (forgetPrevious : Bool)
    (now : Int32) (limit : Nat) :
    (s.doGet queueId q fromId forgetPrevious now limit).1.queue =
      Function.update s.queue queueId (s.doGet queueId q fromId forgetPrevious now limit).2.1 := by
  unfold UpdateStore.doGet
  dsimp only
  rw [UpdateStore.queue_setQueue]
  rfl

theorem doGet_nil (s : UpdateStore) (queueId : Int64) (hq : q.events = []) (fromId : Int) (forgetPrevious : Bool)
    (now : Int32) (limit : Nat) : (s.doGet queueId q fromId forgetPrevious now limit).2 = (q, []) := by
  obtain ⟨tailId, events, total, gcAt⟩ := q
  obtain rfl : events = [] := hq
  cases forgetPrevious <;> cases limit <;> rfl

theorem get_refines (h : s.Runs c t) (ha : Abstracts (s.queue queueId) tq) (fromId : Int) (forgetPrevious : Bool)
    (now : Int32) (limit : Nat) :
    ∃ tq', QueueStep queueId tq (.get queueId fromId forgetPrevious now limit)
        (s.answer (.get queueId fromId forgetPrevious now limit)) tq' ∧
      Abstracts ((s.step (.get queueId fromId forgetPrevious now limit)).queue queueId) tq' := by
  unfold UpdateStore.answer UpdateStore.step UpdateStore.get
  dsimp only
  split
  · rename_i hnone
    have htail : tq.tailId = 0 := by
      rw [ha.tailId]
      unfold UpdateStore.queue
      rw [hnone]
      rfl
    exact ⟨tq, .getEmpty htail fun x hx => (Except.ok.inj hx).symm, ha⟩
  rename_i q hq
  obtain rfl := UpdateStore.queue_of_some hq
  by_cases hzero : tq.tailId = 0
  · -- such a queue may still be there, created by a push that was refused
    have hevents := events_of_tailId h (ha.tailId ▸ hzero)
    split_ifs
    · exact ⟨tq, QueueStep.getEmpty hzero (fun x hx => by cases hx), ha⟩
    · exact ⟨tq, QueueStep.getEmpty hzero (fun x hx => by cases hx), ha⟩
    · have hread := doGet_nil s queueId hevents fromId forgetPrevious now limit
      have hsize : (s.queue queueId).size = 0 := by
        unfold StoredQueue.size
        rw [hevents]
        exact Nat.zero_sub _
      refine ⟨tq, QueueStep.getEmpty hzero fun x hx => ?_, ?_⟩
      · rw [hread, hsize] at hx
        exact (Except.ok.inj hx).symm
      · rw [queue_doGet, Function.update_self, hread]
        exact ha
  · split_ifs with hfuture hpast
    · refine ⟨tq, .getError ?_, ha⟩
      rw [← ha.tailId] at hfuture
      exact TQueue.getBy_future hzero hfuture _ _ _
    · refine ⟨tq, .getError ?_, ha⟩
      rw [← ha.tailId] at hfuture
      rw [← ha.head] at hpast
      exact TQueue.getBy_past hzero hfuture hpast _ _ _
    · obtain ⟨tq', hget, ha'⟩ := doGet_refines h ha fromId now limit forgetPrevious hzero hfuture hpast
      refine ⟨tq', .get hget, ?_⟩
      rw [queue_doGet, Function.update_self]
      exact ha'

/-- The next event gets its identifier from the same queue. -/
theorem withTail_abstracts (h : s.Runs c t) (ha : Abstracts (s.queue queueId) tq) (first : FirstEventId) :
    Abstracts ((s.withTail queueId first).queue queueId) (tq.withNextId first).1 := by
  have hpos := h.eventId_pos queueId
  have hupper := first.upper
  have htail : 0 ≤ tq.tailId := by
    rw [ha.tailId]
    exact h.tailId_nonneg queueId
  rw [UpdateStore.queue_withTail]
  unfold UpdateStore.withNextId TQueue.withNextId
  dsimp only
  rw [← ha.tailId]
  by_cases hzero : tq.tailId = 0
  · have hnext : first.value + 1 < maxEventId := by
      unfold maxEventId
      omega
    have hevents := events_of_tailId h (ha.tailId ▸ hzero)
    rw [if_pos hzero, if_pos hnext, dif_neg (by omega)]
    exact ⟨rfl, by rw [hevents]; rfl⟩
  · rw [if_neg hzero]
    by_cases hnext : tq.tailId + 1 < maxEventId
    · rw [if_pos hnext, dif_pos ⟨by omega, hnext⟩]
      exact ⟨rfl, ha.events⟩
    · rw [if_neg hnext, dif_neg fun hboth => hnext hboth.2]
      refine ⟨rfl, ?_⟩
      have hnone := UpdateStore.popAll_zero queueId
        ((s.setQueue queueId (s.queue queueId)).popping (s.queue queueId)) _ hpos
      dsimp only
      rw [hnone]
      rfl

theorem withoutPlaceholder_events (ha : Abstracts q tq) (callback : Option TQueueCallback) :
    (UpdateStore.withoutPlaceholder callback q).1.events.map RawEvent.toEvent = tq.withoutCleared := by
  unfold UpdateStore.withoutPlaceholder TQueue.withoutCleared TQueue.isLastCleared
  rw [ha.events, List.getLast?_map]
  cases q.events.getLast? with
  | none => rfl
  | some last =>
      dsimp only [Option.map_some]
      by_cases hdata : last.data = []
      · have hcleared : decide (some last.toEvent.data = some []) = true :=
          decide_eq_true (congrArg some (toEvent_data.2 hdata))
        rw [if_pos hdata, if_pos hcleared]
        exact List.map_dropLast
      · have hcleared : decide (some last.toEvent.data = some []) ≠ true := by
          rw [ne_eq, decide_eq_true_eq, Option.some_inj, toEvent_data]
          exact hdata
        rw [if_neg hdata, if_neg hcleared]

theorem logged_toEvent (callback : Option TQueueCallback) (queueId : Int64) (e : RawEvent) :
    (UpdateStore.logged callback queueId e).2.toEvent = e.toEvent := by
  unfold UpdateStore.logged
  split
  · rfl
  · split_ifs <;> rfl

theorem push_refines (h : s.Runs c t) (ha : Abstracts (s.queue queueId) tq) (hqueueId : queueId ≠ 0)
    (first : FirstEventId) (data : Bytes) (expiresAt : Int32) (extra : Int64) :
    ∃ tq', QueueStep queueId tq (.push queueId first data expiresAt extra)
        (s.answer (.push queueId first data expiresAt extra)) tq' ∧
      Abstracts ((s.step (.push queueId first data expiresAt extra)).queue queueId) tq' := by
  have hdata : sliceOf data = [] ↔ data = [] := List.map_eq_nil_iff
  have hlength : (sliceOf data).length = data.length := List.length_map _
  have hevents : tq.events.length = (s.queue queueId).events.length := by rw [ha.events, List.length_map]
  have htotal := ha.total ((h.stores.holds queueId).total.trans (by rw [(h.stores.holds queueId).events]))
  by_cases haccepts : s.Accepts queueId data expiresAt
  · obtain ⟨rs, htakes, hready, hpushes, hpush⟩ := h.accepted haccepts first extra
    obtain ⟨s', q', hdoPush, hs', htail', hevents', -⟩ := UpdateStore.doPush_spec hpushes hready.schedules
    have ha' := withTail_abstracts h ha first
    have hpushed : tq.push first (sliceOf data) expiresAt.toInt extra.toInt =
        .ok ((tq.withNextId first).1.append (tq.withNextId first).2.1 (tq.withNextId first).2.2 (sliceOf data)
          expiresAt.toInt extra.toInt) := by
      unfold TQueue.push
      rw [if_neg (hdata.not.2 haccepts.data_ne), hlength, hevents, htotal, if_neg (Nat.not_lt.2 haccepts.data_le),
        if_neg (Nat.not_le.2 haccepts.length_lt), if_neg (Nat.not_lt.2 haccepts.total_le),
        if_neg (Int.not_le.2 haccepts.expiresAt)]
    generalize tq.withNextId first = r at ha' hpushed
    have hanswer : s.answer (.push queueId first data expiresAt extra) =
        .pushed (.ok (r.1.tailId + 1 - 1)) := by
      unfold UpdateStore.answer
      dsimp only
      rw [hpush, ha'.tailId]
      exact congrArg (UpdateAnswer.pushed ∘ Except.ok) (Int.add_sub_cancel _ 1).symm
    have hstep : (s.step (.push queueId first data expiresAt extra)).queue queueId = q' := by
      unfold UpdateStore.step
      dsimp only
      rw [hpush, hdoPush]
      exact (congrFun hs' queueId).trans (Function.update_self _ _ _)
    rw [hanswer, hstep]
    refine ⟨_, .push hpushed, htail'.trans (congrArg (· + 1) ha'.tailId.symm) |>.symm, ?_⟩
    rw [hevents', List.map_append, withoutPlaceholder_events ha', List.map_singleton, logged_toEvent]
    unfold RawEvent.toEvent
    dsimp only
    rw [← ha'.tailId]
    rfl
  · obtain ⟨-, hsame⟩ := h.refused haccepts first extra
    refine ⟨tq, ?_, (congrFun hsame queueId).symm ▸ ha⟩
    have hrefused : ∃ status, (s.push queueId first data expiresAt extra).2 = .error status ∧
        tq.push first (sliceOf data) expiresAt.toInt extra.toInt = .error status := by
      unfold UpdateStore.push TQueue.push
      rw [hlength, hevents, htotal, if_neg hqueueId]
      by_cases hempty : data = []
      · rw [if_pos hempty, if_pos (hdata.2 hempty)]
        exact ⟨_, rfl, rfl⟩
      rw [if_neg hempty, if_neg (hdata.not.2 hempty)]
      dsimp only
      split_ifs with hbig hfull hsize hexpired
      · exact ⟨_, rfl, rfl⟩
      · exact ⟨_, rfl, rfl⟩
      · exact ⟨_, rfl, rfl⟩
      · exact ⟨_, rfl, rfl⟩
      · exact absurd ⟨hempty, Nat.not_lt.1 hbig, hqueueId, Nat.not_le.1 hfull, Nat.not_lt.1 hsize,
          Int.not_le.1 hexpired⟩ haccepts
    obtain ⟨status, hstore, hqueue⟩ := hrefused
    unfold UpdateStore.answer
    dsimp only
    rw [hstore]
    exact .refuse hqueue

/-- A queue that is not there is one without events. -/
theorem queue_of_none (h : s.queues queueId = none) : s.queue queueId = {} := by
  unfold UpdateStore.queue
  rw [h]
  rfl

theorem forget_refines (h : s.Runs c t) (ha : Abstracts (s.queue queueId) tq) (eventId : Int) :
    Abstracts ((s.step (.forget queueId eventId)).queue queueId) (tq.forget eventId) := by
  have hcallback : s.callback ≠ none := by
    rw [h.callback]
    exact Option.some_ne_none _
  have hids := logEventIds_ne h queueId
  have hnone : (∀ e ∈ (s.queue queueId).events, e.eventId ≠ eventId) →
      Abstracts (s.queue queueId) (tq.forget eventId) := by
    intro hnone
    refine ⟨ha.tailId, ?_⟩
    change tq.afterForget eventId = _
    unfold TQueue.afterForget
    rw [ha.events]
    generalize (s.queue queueId).events = l at hnone
    induction l with
    | nil => rfl
    | cons e l ih =>
        have hid : ¬ e.toEvent.id = eventId := hnone e List.mem_cons_self
        rw [List.map_cons, List.flatMap_cons, if_neg hid, ih fun e' he' => hnone e' (List.mem_cons_of_mem _ he')]
        rfl
  unfold UpdateStore.step UpdateStore.forget
  dsimp only
  split
  · rename_i hqueue
    refine hnone fun e he => ?_
    rw [queue_of_none hqueue] at he
    exact absurd he List.not_mem_nil
  · rename_i q hq
    obtain rfl := UpdateStore.queue_of_some hq
    split
    · rename_i hfind
      exact hnone fun e he => by simpa using List.find?_eq_none.1 hfind e he
    · rename_i event hfind
      rw [UpdateStore.queue_setQueue, Function.update_self]
      refine ⟨ha.tailId, ?_⟩
      have hevent := List.mem_of_find?_eq_some hfind
      have hid : event.eventId = eventId := by simpa using List.find?_some hfind
      have hsorted := (h.keeps.restorable.queue queueId).sorted
      rw [← (h.stores.holds queueId).events] at hsorted
      have hunique : ∀ e ∈ (s.queue queueId).events, e.eventId = eventId → e = event := by
        intro e he heq
        exact List.inj_on_of_nodup_map (hsorted.imp fun hlt => Int.ne_of_lt hlt) he hevent (heq.trans hid.symm)
      have hpop : (((s.popping (s.queue queueId)).pop queueId (s.queue queueId).tailId
          event).1.map RawEvent.toEvent) = (TQueue.popped (s.queue queueId).tailId event.toEvent).toList :=
        pop_toEvent hcallback (hids event hevent)
      change tq.afterForget eventId = _
      unfold TQueue.afterForget
      rw [ha.events, List.flatMap_map, List.map_flatMap, ha.tailId]
      refine List.flatMap_congr fun e he => ?_
      by_cases heq : e.eventId = eventId
      · rw [if_pos heq, if_pos (show e.toEvent.id = eventId from heq), hunique e he heq]
        exact hpop.symm
      · rw [if_neg heq, if_neg (show ¬ e.toEvent.id = eventId from heq)]
        rfl

theorem clearLast_toEvent (c : TQueueCallback) (queueId : Int64) (hids : ∀ e ∈ q.events, e.logEventId ≠ 0) :
    (UpdateStore.clearLast (some c) queueId q).1.toList.map RawEvent.toEvent =
        ((q.events.map RawEvent.toEvent).getLast?.toList.map fun e => { e with data := [] }) ∧
      (UpdateStore.clearLast (some c) queueId q).2.1.tailId = q.tailId := by
  unfold UpdateStore.clearLast
  rw [List.getLast?_map]
  cases hlast : q.events.getLast? with
  | none => exact ⟨rfl, rfl⟩
  | some last =>
      dsimp only
      rw [if_neg (hids last (List.mem_of_getLast? hlast))]
      by_cases hdata : last.data = []
      · rw [if_neg (not_not_intro hdata)]
        refine ⟨?_, rfl⟩
        unfold RawEvent.toEvent
        dsimp only [Option.toList, Option.map, List.map]
        rw [hdata]
        rfl
      · rw [if_pos hdata]
        exact ⟨rfl, rfl⟩

theorem clear_refines (h : s.Runs c t) (ha : Abstracts (s.queue queueId) tq) (keepCount : Nat) :
    Abstracts ((s.step (.clear queueId keepCount)).queue queueId) (tq.clear keepCount) := by
  have hids := logEventIds_ne h queueId
  unfold UpdateStore.step UpdateStore.clear TQueue.clear
  dsimp only
  rw [ha.size]
  split
  · rename_i hqueue
    have hsize : (s.queue queueId).size = 0 := by
      rw [queue_of_none hqueue]
      rfl
    rw [hsize, if_pos (Nat.zero_le _)]
    exact ha
  rename_i q hq
  obtain rfl := UpdateStore.queue_of_some hq
  by_cases hsize : (s.queue queueId).size ≤ keepCount
  · rw [if_pos hsize, if_pos hsize]
    exact ha
  rw [if_neg hsize, if_neg hsize, UpdateStore.queue_setQueue, Function.update_self]
  by_cases hzero : keepCount = 0
  · obtain ⟨hkept, htail⟩ := clearLast_toEvent c queueId hids
    rw [h.callback]
    simp only [if_pos hzero]
    refine ⟨ha.tailId.trans htail.symm, ?_⟩
    rw [hkept, ← ha.events]
    rfl
  · simp only [if_neg hzero]
    refine ⟨ha.tailId, ?_⟩
    change tq.events.drop (tq.events.length - keepCount) = _
    rw [ha.events, List.length_map, List.map_drop]

/-- Every queue of the storage is one that the clients may see. -/
theorem abstracts_exists (h : s.Runs c t) (queueId : Int64) : ∃ tq, Abstracts (s.queue queueId) tq := by
  have hholds := h.stores.holds queueId
  have hone := h.keeps.restorable.queue queueId
  have hbelow := UpdateStore.lt_tailId hone hholds
  rw [← hholds.events] at hone hbelow
  refine ⟨⟨(s.queue queueId).tailId, (s.queue queueId).events.map RawEvent.toEvent, ?_, fun e he => ?_, ?_⟩, rfl, rfl⟩
  · rw [List.map_map]
    exact hone.sorted
  · obtain ⟨e', he', rfl⟩ := List.mem_map.1 he
    exact ⟨h.eventId_pos queueId e' he', hbelow e' he'⟩
  · rw [hholds.tailId]
    unfold nextEventId
    cases hlast : (eventsOf t queueId).getLast? with
    | none => decide
    | some last => exact (h.keeps.restorable.valid _ (mem_eventsOf.1 (List.mem_of_getLast? hlast))).next

theorem gc_refines (h : s.Runs c t) (ha : Abstracts (s.queue queueId) tq) (now : Int32) (deadline : Nat) :
    ∃ tq', QueueStep queueId tq (.runGc now deadline) (s.answer (.runGc now deadline)) tq' ∧
      Abstracts ((s.step (.runGc now deadline)).queue queueId) tq' := by
  obtain ⟨rs, hcollects, -⟩ := UpdateStore.runGc_spec h now deadline
  obtain ⟨tq', ha'⟩ := abstracts_exists hcollects.runs queueId
  have hevents := (h.stores.holds queueId).events
  have hevents' : ((s.step (.runGc now deadline)).queue queueId).events = eventsOf (RewriteLog.replay t rs) queueId :=
    (hcollects.runs.stores.holds queueId).events
  have ha' : Abstracts ((s.step (.runGc now deadline)).queue queueId) tq' := ha'
  refine ⟨tq', .gc ?_ ?_ ?_, ha'⟩
  · rw [ha'.tailId, ha.tailId]
    exact hcollects.tailId queueId
  · rw [ha'.updates, ha.updates, hevents', hevents]
    exact ((hcollects.takes.taken h.keeps.ordered h.keeps.restorable).updates queueId).map _
  · rw [ha'.live, ha.live, hevents', hevents, hcollects.live]

theorem queue_withTail_of_ne (s : UpdateStore) (first : FirstEventId) {other : Int64} (h : queueId ≠ other) :
    (s.withTail other first).queue queueId = s.queue queueId := by
  have hcreated : (s.setQueue other (s.queue other)).queue = s.queue := by
    rw [UpdateStore.queue_setQueue, Function.update_eq_self]
  unfold UpdateStore.withTail
  dsimp only
  rw [UpdateStore.queue_setQueue, Function.update_of_ne h]
  unfold UpdateStore.withNextId
  dsimp only
  split_ifs <;> exact congrFun hcreated queueId

/-- The operation of one queue leaves the others alone. -/
theorem queue_of_other (h : s.Runs c t) {op : UpdateOp} {other : Int64} (hop : op.queueId = some other)
    (hne : queueId ≠ other) : (s.step op).queue queueId = s.queue queueId := by
  have hset : ∀ (s' : UpdateStore) (q : StoredQueue), s'.queue = s.queue →
      (s'.setQueue other q).queue queueId = s.queue queueId := by
    intro s' q hs'
    rw [UpdateStore.queue_setQueue, Function.update_of_ne hne, hs']
  cases op with
  | push queueId' first data expiresAt extra =>
      obtain rfl := Option.some.inj hop
      by_cases haccepts : s.Accepts queueId' data expiresAt
      · obtain ⟨rs, htakes, hready, hpushes, hpush⟩ := h.accepted haccepts first extra
        obtain ⟨s', q', hdoPush, hs', -⟩ := UpdateStore.doPush_spec hpushes hready.schedules
        unfold UpdateStore.step
        dsimp only
        rw [hpush, hdoPush]
        refine (congrFun hs' queueId).trans ?_
        rw [Function.update_of_ne hne, queue_withTail_of_ne s first hne]
      · exact congrFun (h.refused haccepts first extra).2 queueId
  | get queueId' fromId forgetPrevious now limit =>
      obtain rfl := Option.some.inj hop
      unfold UpdateStore.step UpdateStore.get
      dsimp only
      split
      · rfl
      · split_ifs
        · rfl
        · rfl
        · rw [queue_doGet, Function.update_of_ne hne]
  | forget queueId' eventId =>
      obtain rfl := Option.some.inj hop
      unfold UpdateStore.step UpdateStore.forget
      dsimp only
      split
      · rfl
      · split
        · rfl
        · exact hset _ _ rfl
  | clear queueId' keepCount =>
      obtain rfl := Option.some.inj hop
      unfold UpdateStore.step UpdateStore.clear
      dsimp only
      split
      · rfl
      · rename_i q hq
        by_cases hsize : q.size ≤ keepCount
        · rw [if_pos hsize]
        · rw [if_neg hsize]
          exact hset _ _ rfl
  | runGc now deadline => cases hop

/-- One operation, as the bot of a queue sees it. -/
theorem step_refines (h : s.Runs c t) (hqueueId : queueId ≠ 0) (ha : Abstracts (s.queue queueId) tq) (op : UpdateOp) :
    ∃ tq', QueueStep queueId tq op (s.answer op) tq' ∧ Abstracts ((s.step op).queue queueId) tq' := by
  by_cases hother : ∃ other, op.queueId = some other ∧ queueId ≠ other
  · obtain ⟨other, hop, hne⟩ := hother
    exact ⟨tq, .other hop hne.symm, queue_of_other h hop hne ▸ ha⟩
  have hsame : ∀ other, op.queueId = some other → other = queueId := fun other hop => by
    by_contra hne
    exact hother ⟨other, hop, Ne.symm hne⟩
  cases op with
  | push other first data expiresAt extra =>
      obtain rfl := hsame other rfl
      exact push_refines h ha hqueueId first data expiresAt extra
  | get other fromId forgetPrevious now limit =>
      obtain rfl := hsame other rfl
      exact get_refines h ha fromId forgetPrevious now limit
  | forget other eventId =>
      obtain rfl := hsame other rfl
      exact ⟨_, .forget, forget_refines h ha eventId⟩
  | clear other keepCount =>
      obtain rfl := hsame other rfl
      exact ⟨_, .clear, clear_refines h ha keepCount⟩
  | runGc now deadline => exact gc_refines h ha now deadline

end

namespace UpdateStore

def trace (s : UpdateStore) : List UpdateOp → List (UpdateOp × UpdateAnswer)
  | [] => []
  | op :: ops => (op, s.answer op) :: trace (s.step op) ops

end UpdateStore

/-- Operations and answers that lead from one state of the queue to another. -/
inductive QueueRun (queueId : Int64) : TQueue → List (UpdateOp × UpdateAnswer) → TQueue → Prop where
  | nil (q : TQueue) : QueueRun queueId q [] q
  | cons {q q' q'' : TQueue} {op : UpdateOp} {answer : UpdateAnswer} {l : List (UpdateOp × UpdateAnswer)}
      (h : QueueStep queueId q op answer q') (hrest : QueueRun queueId q' l q'') :
      QueueRun queueId q ((op, answer) :: l) q''

theorem UpdateStore.Runs.refines {s : UpdateStore} {c : TQueueCallback} {t : Table LogEvent} {queueId : Int64}
    {tq : TQueue} (h : s.Runs c t) (hqueueId : queueId ≠ 0) (ha : Abstracts (s.queue queueId) tq) (ops : List UpdateOp) :
    ∃ tq', QueueRun queueId tq (s.trace ops) tq' ∧
      Abstracts ((StepRun.run UpdateStore.step s ops).queue queueId) tq' := by
  induction ops generalizing s c t tq with
  | nil => exact ⟨tq, .nil tq, ha⟩
  | cons op ops ih =>
      obtain ⟨tq', hstep, ha'⟩ := step_refines h hqueueId ha op
      obtain ⟨rs, -, hruns⟩ := h.step op
      obtain ⟨tq'', hrun, ha''⟩ := ih hruns ha'
      exact ⟨tq'', .cons hstep hrun, ha''⟩

/-- Whatever the operations of all bots are, each queue of the storage goes through states of its own, which
are those of the queue alone: no bot sees another one's updates, and no update is lost but by the operations
of its own queue and by its time. -/
theorem update_store_refines {crc32 : Bytes → UInt32} {db : UpdateDb} (h : UpdateDb.Started crc32 db)
    {queueId : Int64} (hqueueId : queueId ≠ 0) :
    ∃ tq, Abstracts (db.store.queue queueId) tq ∧ ∀ ops, ∃ tq', QueueRun queueId tq (db.store.trace ops) tq' ∧
      Abstracts ((StepRun.run UpdateStore.step db.store ops).queue queueId) tq' := by
  obtain ⟨⟨c, t, hsends, -⟩, -⟩ := h
  obtain ⟨tq, ha⟩ := abstracts_exists hsends.runs queueId
  exact ⟨tq, ha, hsends.runs.refines hqueueId ha⟩

theorem update_store_refines_fresh :
    ∃ tq, Abstracts (UpdateDb.fresh.store.queue 5) tq ∧ ∀ ops, ∃ tq', QueueRun 5 tq (UpdateDb.fresh.store.trace ops) tq' ∧
      Abstracts ((StepRun.run UpdateStore.step UpdateDb.fresh.store ops).queue 5) tq' :=
  update_store_refines (UpdateDb.started_fresh fun _ => 0) (by decide)

theorem UpdateStore.Runs.run {s : UpdateStore} {c : TQueueCallback} {t : Table LogEvent} (h : s.Runs c t)
    (ops : List UpdateOp) : ∃ c' t', (StepRun.run UpdateStore.step s ops).Runs c' t' := by
  induction ops generalizing s c t with
  | nil => exact ⟨c, t, h⟩
  | cons op ops ih =>
      obtain ⟨rs, -, hruns⟩ := h.step op
      exact ih hruns

/-- A garbage collection may come at any time. It loses no update that has not expired, of any bot; when it was
completed, a queue that still has updates is visited again, and not before its time. -/
theorem update_store_gc {crc32 : Bytes → UInt32} {db : UpdateDb} (h : UpdateDb.Started crc32 db)
    (ops : List UpdateOp) (now : Int32) (deadline : Nat) {s s' : UpdateStore} {deleted : Nat} {done : Bool}
    (hs : StepRun.run UpdateStore.step db.store ops = s) (hgc : s.runGc now deadline = (s', deleted, done)) :
    s'.crashed = false ∧
      (∀ queueId, (s'.queue queueId).events.filter (·.isLive now) = (s.queue queueId).events.filter (·.isLive now)) ∧
      (done = true → ∀ queueId, s'.updates queueId ≠ [] →
        ((s'.queue queueId).gcAt, queueId) ∈ s'.queueGcAt ∧ now.toInt ≤ (s'.queue queueId).gcAt.toInt) := by
  obtain ⟨⟨c₀, t₀, hsends, -⟩, -⟩ := h
  obtain ⟨c, t, hruns⟩ := hsends.runs.run ops
  rw [hs] at hruns
  obtain ⟨rs, hcollects, hdone⟩ := UpdateStore.runGc_spec hruns now deadline
  rw [hgc] at hcollects hdone
  have hruns' : s'.Runs (c.logs rs) (RewriteLog.replay t rs) := hcollects.runs
  refine ⟨hruns'.stores.intact, fun queueId => ?_, fun hcompleted queueId hupdates => ?_⟩
  · rw [(hruns'.stores.holds queueId).events, (hruns.stores.holds queueId).events]
    exact hcollects.live queueId
  · unfold UpdateStore.updates at hupdates
    rw [(hruns'.stores.holds queueId).events] at hupdates
    have hgcAt := hruns'.stores.due queueId hupdates
    have hmem : ((s'.queue queueId).gcAt, queueId) ∈ s'.queueGcAt :=
      (hruns'.stores.schedules.mem_iff _).2 ⟨hgcAt, rfl⟩
    exact ⟨hmem, hdone hcompleted _ hmem⟩

/-- Two updates of a bot, of which the first one expires at 30 and the second one at 100. -/
def twoExpiries : List UpdateOp :=
  [.push 5 ⟨2000003, by decide, by decide⟩ [1] 30 0, .push 5 ⟨2000003, by decide, by decide⟩ [2] 100 0]

theorem update_store_gc_fresh :
    let s := StepRun.run UpdateStore.step UpdateDb.fresh.store twoExpiries
    let s' := (s.runGc 60 10).1
    ((s.updates 5).map (·.data) = [[1], [2]] ∧ (s'.updates 5).map (·.data) = [[2]]) ∧ s'.crashed = false ∧
      (s'.queue 5).events.filter (·.isLive 60) = (s.queue 5).events.filter (·.isLive 60) ∧
      ((s'.queue 5).gcAt, 5) ∈ s'.queueGcAt ∧ (60 : Int32).toInt ≤ (s'.queue 5).gcAt.toInt := by
  intro s s'
  have hdata : (s.updates 5).map (·.data) = [[1], [2]] ∧ (s'.updates 5).map (·.data) = [[2]] := by decide
  have hdone : (s.runGc 60 10).2.2 = true := by decide
  obtain ⟨hcrashed, hlive, hdue⟩ := update_store_gc (UpdateDb.started_fresh fun _ => 0) twoExpiries 60 10
    (rfl : _ = s) (rfl : s.runGc 60 10 = (s', _, _))
  have hleft : s'.updates 5 ≠ [] := fun hnil => by
    have hmap := hdata.2
    rw [hnil] at hmap
    cases hmap
  exact ⟨hdata, hcrashed, hlive 5, hdue hdone 5 hleft⟩

end TelegramBotApi
