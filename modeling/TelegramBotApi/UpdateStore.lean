import TelegramBotApi.RewriteLog
import TelegramBotApi.TlStorage
import TelegramBotApi.UpdateQueue
import Mathlib.Data.List.Sort
import Mathlib.Logic.Function.Basic

/-!
# The update storage

`TQueueImpl` keeps the queues of all bots and writes every change of them to a binlog through its callback.
`log` is what the callback has sent to the binlog since the storage was created; without a callback, as while
a binlog is replayed, nothing is written. The clock of a garbage collection is the number of its readings
that lie before its deadline. A hint for the first identifier of a queue is never given by the server, and
the loads that are measured for warnings are left out.
-/

namespace TelegramBotApi

open RewriteLog (Record)

structure RawEvent where
  /-- Zero for an event that is in no binlog. -/
  logEventId : Nat := 0
  eventId : Int
  expiresAt : Int32
  data : Bytes
  extra : Int64
  deriving DecidableEq

def RawEvent.cleared (event : RawEvent) : RawEvent := { event with data := [] }

structure LogEvent where
  queueId : Int64
  eventId : Int
  expiresAt : Int32
  data : Bytes
  extra : Int64
  deriving DecidableEq

def RawEvent.toLogEvent (queueId : Int64) (event : RawEvent) : LogEvent where
  queueId := queueId
  eventId := event.eventId
  expiresAt := event.expiresAt
  data := event.data
  extra := event.extra

/-- `TQueueBinlog`, over a binlog that hands out the next identifier to every record. -/
structure TQueueCallback where
  nextEventId : Nat
  log : List (Record LogEvent) := []

namespace TQueueCallback

variable (c : TQueueCallback)

/-- `push`, with the identifier that it returns. -/
def push (queueId : Int64) (event : RawEvent) : TQueueCallback × Nat :=
  if event.logEventId = 0 then
    ({ nextEventId := c.nextEventId + 1, log := c.log ++ [.add c.nextEventId (event.toLogEvent queueId)] },
      c.nextEventId)
  else
    ({ nextEventId := c.nextEventId + 1, log := c.log ++ [.rewrite event.logEventId (event.toLogEvent queueId)] },
      event.logEventId)

def pop (logEventId : Nat) : TQueueCallback :=
  { nextEventId := c.nextEventId + 1, log := c.log ++ [.erase logEventId] }

def popBatch (logEventIds : List Nat) : TQueueCallback := logEventIds.foldl pop c

end TQueueCallback

structure StoredQueue where
  tailId : Int := 0
  /-- Ordered by `eventId`. -/
  events : List RawEvent := []
  totalEventLength : Nat := 0
  gcAt : Int32 := 0

namespace StoredQueue

variable (q : StoredQueue)

def head : Int :=
  match q.events with
  | [] => q.tailId
  | e :: _ => e.eventId

def isLastCleared : Bool := q.events.getLast?.any (·.data = [])

def size : Nat := q.events.length - if q.isLastCleared then 1 else 0

end StoredQueue

/-- The callback, and `total_event_length` of the queue that is changed. -/
structure Popping where
  callback : Option TQueueCallback
  totalEventLength : Nat
  /-- A `CHECK` has failed. -/
  crashed : Bool

namespace Popping

def check (s : Popping) (condition : Bool) : Popping := { s with crashed := s.crashed || !condition }

/-- `pop`: what is left of the event at the iterator. Its identifier must have a next one. -/
def pop (s : Popping) (queueId : Int64) (tailId : Int) (event : RawEvent) : List RawEvent × Popping :=
  match s.callback with
  | none => ([], { s with totalEventLength := s.totalEventLength - event.data.length })
  | some callback =>
    if event.logEventId = 0 then
      ([], { s with totalEventLength := s.totalEventLength - event.data.length })
    else
      let s := s.check (decide (event.eventId + 1 < maxEventId))
      if event.eventId + 1 = tailId then
        if event.data ≠ [] then
          ([event.cleared], { s with
            callback := some (callback.push queueId event.cleared).1
            totalEventLength := s.totalEventLength - event.data.length })
        else ([event], s)
      else
        ([], { s with
          callback := some (callback.pop event.logEventId)
          totalEventLength := s.totalEventLength - event.data.length })

def popAll (queueId : Int64) (tailId : Int) : Popping → List RawEvent → List RawEvent × Popping
  | s, [] => ([], s)
  | s, event :: events =>
    let r := s.pop queueId tailId event
    let r' := popAll queueId tailId r.2 events
    (r.1 ++ r'.1, r'.2)

/-- The second loop of `do_get`: what is left, and the events that are returned. -/
def collect (queueId : Int64) (tailId : Int) (unixTimeNow : Int32) :
    Nat → Popping → List RawEvent → (List RawEvent × Popping) × List RawEvent
  | _, s, [] => (([], s), [])
  | limit, s, event :: events =>
    if event.expiresAt.toInt < unixTimeNow.toInt ∨ event.data = [] then
      let r := s.pop queueId tailId event
      let r' := collect queueId tailId unixTimeNow limit r.2 events
      ((r.1 ++ r'.1.1, r'.1.2), r'.2)
    else match limit with
      | 0 => ((event :: events, s), [])
      | limit + 1 =>
        let r := collect queueId tailId unixTimeNow limit s events
        ((event :: r.1.1, r.1.2), event :: r.2)

end Popping

/-- The readings of the clock of a garbage collection. -/
structure GcClock where
  /-- The readings before `max_finish_time`. -/
  deadline : Nat
  readings : Nat := 0
  counter : Nat := 0

def GcClock.isUp (clock : GcClock) : Bool := clock.deadline ≤ clock.readings

def GcClock.read (clock : GcClock) : GcClock := { clock with readings := clock.readings + 1 }

def GcClock.count (clock : GcClock) : GcClock := { clock with counter := clock.counter + 1 }

/-- What the inner loop of `run_gc` leaves. -/
structure GcPass where
  events : List RawEvent
  popping : Popping
  clock : GcClock
  newGcAt : Int32

/-- The inner loop of `run_gc`: it stops at the second event that stays, or when the time is up. -/
def gcEvents (queueId : Int64) (tailId : Int) (unixTimeNow : Int32) :
    Popping → GcClock → Int32 → List RawEvent → GcPass
  | s, clock, newGcAt, [] => ⟨[], s, clock, newGcAt⟩
  | s, clock, newGcAt, event :: events =>
    let clock := clock.count
    if clock.counter &&& 128 = 0 ∧ clock.isUp then
      ⟨event :: events, s, clock.read, if newGcAt = 0 then event.expiresAt else newGcAt⟩
    else
      let clock := if clock.counter &&& 128 = 0 then clock.read else clock
      if event.expiresAt.toInt < unixTimeNow.toInt ∨ event.data = [] then
        let r := s.pop queueId tailId event
        let pass := gcEvents queueId tailId unixTimeNow r.2 clock newGcAt events
        { pass with events := r.1 ++ pass.events }
      else if newGcAt ≠ 0 then ⟨event :: events, s, clock, newGcAt⟩
      else
        let pass := gcEvents queueId tailId unixTimeNow s clock event.expiresAt events
        { pass with events := event :: pass.events }

def StoredQueue.afterGc (q : StoredQueue) (pass : GcPass) : StoredQueue :=
  { q with events := pass.events, totalEventLength := pass.popping.totalEventLength }

/-- `queue_gc_at_` is ordered by the time and the identifier. -/
def gcBefore (a b : Int32 × Int64) : Prop :=
  a.1.toInt < b.1.toInt ∨ (a.1 = b.1 ∧ a.2.toInt < b.2.toInt)

instance (a b : Int32 × Int64) : Decidable (gcBefore a b) := inferInstanceAs (Decidable (_ ∨ _))

structure UpdateStore where
  queues : Int64 → Option StoredQueue := fun _ => none
  queueGcAt : List (Int32 × Int64) := []
  callback : Option TQueueCallback := none
  /-- A `CHECK` has failed. -/
  crashed : Bool := false

namespace UpdateStore

variable (s : UpdateStore)

def check (condition : Bool) : UpdateStore := { s with crashed := s.crashed || !condition }

def queue (queueId : Int64) : StoredQueue := (s.queues queueId).getD {}

def setQueue (queueId : Int64) (q : StoredQueue) : UpdateStore :=
  { s with queues := Function.update s.queues queueId (some q) }

/-- The storage while events of the queue are popped, and after that. -/
def popping (q : StoredQueue) : Popping where
  callback := s.callback
  totalEventLength := q.totalEventLength
  crashed := s.crashed

def popped (p : Popping) : UpdateStore := { s with callback := p.callback, crashed := p.crashed }

def scheduleQueueGc (queueId : Int64) (q : StoredQueue) (gcAt : Int32) : UpdateStore × StoredQueue :=
  let s :=
    if q.gcAt ≠ 0 then
      { s.check (decide ((q.gcAt, queueId) ∈ s.queueGcAt)) with
        queueGcAt := s.queueGcAt.erase (q.gcAt, queueId) }
    else s
  let s :=
    if gcAt ≠ 0 then
      { s.check (decide ((gcAt, queueId) ∉ s.queueGcAt)) with
        queueGcAt := List.orderedInsert gcBefore (gcAt, queueId) s.queueGcAt }
    else s
  (s, { q with gcAt := gcAt })

/-- What `do_push` does to the placeholder at the end of the queue. -/
def withoutPlaceholder (callback : Option TQueueCallback) (q : StoredQueue) :
    StoredQueue × Option TQueueCallback :=
  match q.events.getLast? with
  | none => (q, callback)
  | some last =>
    if last.data = [] then
      ({ q with events := q.events.dropLast },
        if last.logEventId ≠ 0 then callback.map (·.pop last.logEventId) else callback)
    else (q, callback)

/-- The event that `do_push` adds, after the callback has given it its identifier in the binlog. -/
def logged (callback : Option TQueueCallback) (queueId : Int64) (rawEvent : RawEvent) :
    Option TQueueCallback × RawEvent :=
  match callback with
  | none => (none, rawEvent)
  | some callback =>
    if rawEvent.logEventId = 0 then
      let r := callback.push queueId rawEvent
      (some r.1, { rawEvent with logEventId := r.2 })
    else (some callback, rawEvent)

def doPush (queueId : Int64) (rawEvent : RawEvent) : UpdateStore × Bool :=
  let s := s.check (decide (isValidEventId rawEvent.eventId))
  if TQueue.maxEventLength < rawEvent.data.length ∨ queueId = 0 then (s, false)
  else
    let q := s.queue queueId
    if TQueue.maxQueueEvents ≤ q.events.length ∨
        TQueue.maxTotalEventLength < q.totalEventLength + rawEvent.data.length ∨
        rawEvent.expiresAt.toInt ≤ 0 ∨ rawEvent.eventId < q.tailId then
      (s.setQueue queueId q, false)
    else
      let r := withoutPlaceholder s.callback q
      let q := r.1
      let s := { s with callback := r.2 }
      let scheduled :=
        if q.events = [] ∧ rawEvent.data ≠ [] then s.scheduleQueueGc queueId q rawEvent.expiresAt else (s, q)
      let s := scheduled.1
      let q := scheduled.2
      let pushed := logged s.callback queueId rawEvent
      let s := s.check (decide (rawEvent.eventId + 1 < maxEventId))
      ({ s with callback := pushed.1 }.setQueue queueId { q with
          tailId := rawEvent.eventId + 1
          totalEventLength := q.totalEventLength + rawEvent.data.length
          events := q.events ++ [pushed.2] }, true)

/-- The first loop of `push`: the queue has an identifier that has a next one. -/
def withNextId (queueId : Int64) (q : StoredQueue) (first : FirstEventId) : UpdateStore × StoredQueue :=
  let tailId := if q.tailId = 0 then first.value else q.tailId
  if tailId + 1 < maxEventId then (s, { q with tailId := tailId })
  else
    -- the identifiers are used up, and no event is just before the empty one
    let r := Popping.popAll queueId 0 (s.popping q) q.events
    (s.popped r.2,
      { q with tailId := first.value, events := r.1, totalEventLength := r.2.totalEventLength })

def push (queueId : Int64) (first : FirstEventId) (data : Bytes) (expiresAt : Int32) (extra : Int64) :
    UpdateStore × Except Status Int :=
  if data = [] then (s, .error ⟨0, "Data is empty"⟩)
  else if TQueue.maxEventLength < data.length then (s, .error ⟨0, "Data is too big"⟩)
  else if queueId = 0 then (s, .error ⟨0, "Queue identifier is invalid"⟩)
  else
    let q := s.queue queueId
    let s := s.setQueue queueId q
    if TQueue.maxQueueEvents ≤ q.events.length then (s, .error ⟨0, "Queue is full"⟩)
    else if TQueue.maxTotalEventLength < q.totalEventLength + data.length then
      (s, .error ⟨0, "Queue size is too big"⟩)
    else if expiresAt.toInt ≤ 0 then (s, .error ⟨0, "Failed to add already expired event"⟩)
    else
      let r := s.withNextId queueId q first
      let eventId := r.2.tailId
      let pushed := (r.1.setQueue queueId r.2).doPush queueId { eventId, expiresAt, data, extra }
      (pushed.1.check pushed.2, .ok eventId)

def forget (queueId : Int64) (eventId : Int) : UpdateStore :=
  match s.queues queueId with
  | none => s
  | some q =>
    match q.events.find? (·.eventId = eventId) with
    | none => s
    | some event =>
      let r := (s.popping q).pop queueId q.tailId event
      (s.popped r.2).setQueue queueId { q with
        events := q.events.flatMap fun (e : RawEvent) => if e.eventId = eventId then r.1 else [e]
        totalEventLength := r.2.totalEventLength }

/-- The entry that `clear` keeps when nothing is to be kept: the last one, whose data it clears. -/
def clearLast (callback : Option TQueueCallback) (queueId : Int64) (q : StoredQueue) :
    Option RawEvent × StoredQueue × Option TQueueCallback :=
  match callback, q.events.getLast? with
  | some c, some last =>
    if last.logEventId = 0 then (none, q, callback)
    else if last.data ≠ [] then
      (some last.cleared, { q with totalEventLength := q.totalEventLength - last.data.length },
        some (c.push queueId last.cleared).1)
    else (some last, q, callback)
  | _, _ => (none, q, callback)

/-- `clear`, with the events that it deletes. -/
def clear (queueId : Int64) (keepCount : Nat) : UpdateStore × List RawEvent :=
  match s.queues queueId with
  | none => (s, [])
  | some q =>
    let size := q.size
    if size ≤ keepCount then (s, [])
    else
      let r := clearLast s.callback queueId q
      let cleared := if keepCount = 0 then r else (none, q, s.callback)
      let kept := if keepCount = 0 then cleared.1.toList else q.events.drop (q.events.length - keepCount)
      let deleted := q.events.take (q.events.length - kept.length)
      let q := cleared.2.1
      let callback := cleared.2.2.map
        (·.popBatch ((deleted.filter (·.logEventId ≠ 0)).map (·.logEventId)))
      let totalEventLength :=
        if size / 2 < keepCount then q.totalEventLength - (deleted.map (·.data.length)).sum
        else (kept.map (·.data.length)).sum
      ({ s with callback := callback }.setQueue queueId
        { q with events := kept, totalEventLength := totalEventLength }, deleted)

def getHead (queueId : Int64) : Int := ((s.queues queueId).map (·.head)).getD 0

def getTail (queueId : Int64) : Int := ((s.queues queueId).map (·.tailId)).getD 0

def getSize (queueId : Int64) : Nat := ((s.queues queueId).map (·.size)).getD 0

def doGet (queueId : Int64) (q : StoredQueue) (fromId : Int) (forgetPrevious : Bool) (unixTimeNow : Int32)
    (limit : Nat) : UpdateStore × StoredQueue × List RawEvent :=
  let before := q.events.takeWhile (·.eventId < fromId)
  let r :=
    if forgetPrevious then Popping.popAll queueId q.tailId (s.popping q) before
    else (before, s.popping q)
  let r' := Popping.collect queueId q.tailId unixTimeNow limit r.2 (q.events.dropWhile (·.eventId < fromId))
  let q := { q with events := r.1 ++ r'.1.1, totalEventLength := r'.1.2.totalEventLength }
  ((s.popped r'.1.2).setQueue queueId q, q, r'.2)

/-- `get`, with the events and the size that it returns. -/
def get (queueId : Int64) (fromId : Int) (forgetPrevious : Bool) (unixTimeNow : Int32) (limit : Nat) :
    UpdateStore × Except Status (List RawEvent × Nat) :=
  match s.queues queueId with
  | none => (s, .ok ([], 0))
  | some q =>
    if q.tailId + 10 < fromId then (s, .error ⟨0, "Specified from_id is in the future"⟩)
    else if fromId < q.head - TQueue.maxQueueEvents then (s, .error ⟨0, "Specified from_id is in the past"⟩)
    else
      let r := s.doGet queueId q fromId forgetPrevious unixTimeNow limit
      (r.1, .ok (r.2.2, r.2.1.size))

/-- The inner loop of `run_gc` for a queue. -/
def gcPass (queueId : Int64) (unixTimeNow : Int32) (clock : GcClock) : GcPass :=
  gcEvents queueId (s.queue queueId).tailId unixTimeNow (s.popping (s.queue queueId)) clock 0
    (s.queue queueId).events

/-- One round of `run_gc` for the first entry of `queue_gc_at_`. -/
def gcQueue (gcAt : Int32) (queueId : Int64) (unixTimeNow : Int32) (clock : GcClock) :
    UpdateStore × GcClock × Nat :=
  let q := s.queue queueId
  let pass := s.gcPass queueId unixTimeNow clock
  let q' := q.afterGc pass
  let s := ((s.popped pass.popping).check (decide (q.gcAt = gcAt))).check (decide (q'.size ≤ q.size))
  let r := s.scheduleQueueGc queueId q' pass.newGcAt
  (r.1.setQueue queueId r.2, pass.clock, q.size - q'.size)

/-- The loop of `run_gc`; every round of it takes an entry away, or puts it behind the current time. -/
def runGcLoop (unixTimeNow : Int32) : Nat → UpdateStore → GcClock → Nat → UpdateStore × Nat × Bool
  | 0, s, _, deletedEvents => (s, deletedEvents, true)
  | fuel + 1, s, clock, deletedEvents =>
    match s.queueGcAt with
    | [] => (s, deletedEvents, true)
    | entry :: _ =>
      if unixTimeNow.toInt ≤ entry.1.toInt then (s, deletedEvents, true)
      else
        let r := s.gcQueue entry.1 entry.2 unixTimeNow clock
        let clock := r.2.1
        if clock.isUp then (r.1, deletedEvents + r.2.2, false)
        else runGcLoop unixTimeNow fuel r.1 clock.read (deletedEvents + r.2.2)

/-- `run_gc`: the number of deleted events, and whether the garbage collection was completed. -/
def runGc (unixTimeNow : Int32) (deadline : Nat) : UpdateStore × Nat × Bool :=
  runGcLoop unixTimeNow (s.queueGcAt.length + 1) s { deadline := deadline } 0

end UpdateStore

end TelegramBotApi
