import TelegramBotApi.StepRun
import TelegramBotApi.UpdateQueue
import TelegramBotApi.WebhookSettings

/-!
# The method getUpdates

A call of `getUpdates` reads the queue of the bot and confirms what it has seen; without updates it may
wait as the long poll of the client. The offset of a call is negative, zero, or the identifier from which
on updates are asked for. The warnings about updates that nobody fetches, and the finish times they rest
on, are left out. Times are in nanoseconds, those of the queue in seconds. The lists at the end of the
record are history variables.
-/

namespace TelegramBotApi

inductive UpdatesAnswer where
  | updates (events : List TQueueEvent)
  /-- An error 409. -/
  | conflict (message : String)
  deriving DecidableEq

/-- A query that waits in `long_poll_query_`, with the members about it. -/
structure LongPoll where
  query : Nat
  offset : Int
  limit : Nat
  wasWakeup : Bool := false
  hardTimeout : Int
  /-- The time of `long_poll_slot_`. -/
  timeoutAt : Int
  deriving DecidableEq

/-- The members of `Client` that `getUpdates` reads and writes; queries are numbered. -/
structure ClientUpdates where
  tqueue : TQueue := .absent
  longPoll : Option LongPoll := none
  previousGetUpdatesOffset : Int := -1
  previousGetUpdatesStartTime : Int := 0
  nextGetUpdatesConflictTime : Int := 0
  /-- Conflicts that are reported after a delay. -/
  delayedConflicts : List (Nat × String) := []
  nextQuery : Nat := 0
  /-- A `CHECK` has failed. -/
  crashed : Bool := false
  answers : List (Nat × UpdatesAnswer) := []
  pushed : List TQueueEvent := []
  /-- The times at which the queue was read. -/
  readTimes : List Int := []

namespace ClientUpdates

variable (s : ClientUpdates)

def second : Int := 10 ^ 9

def longPollMaxDelay : Int := 2 * 10 ^ 6

def longPollWaitAfter : Int := 10 ^ 6

def getUpdatesOffset (query : BotQuery) : Int :=
  query.getIntegerArg "offset".toList 0 (-2 ^ 31) (2 ^ 31 - 1)

def answer (query : Nat) (answer : UpdatesAnswer) : ClientUpdates :=
  { s with answers := s.answers ++ [(query, answer)] }

def check (condition : Bool) : ClientUpdates := { s with crashed := s.crashed || !condition }

def failQueryConflict (message : String) (query : Nat) (now : Int) : ClientUpdates :=
  if s.nextGetUpdatesConflictTime ≤ now then
    { s.answer query (.conflict message) with nextGetUpdatesConflictTime := now + 3 * second }
  else { s with delayedConflicts := s.delayedConflicts ++ [(query, message)] }

def abortLongPoll (fromSetWebhook : Bool) (now : Int) : ClientUpdates :=
  match s.longPoll with
  | none => s
  | some longPoll =>
    { s with longPoll := none }.failQueryConflict
      (if fromSetWebhook then "Conflict: terminated by setWebhook request"
      else "Conflict: terminated by other getUpdates request; make sure that only one bot instance is running")
      longPoll.query now

/-- The events that `JsonUpdates` stores before its budget is used up. -/
def jsonUpdates : Int → List TQueueEvent → List TQueueEvent
  | _, [] => []
  | leftLen, update :: updates =>
    let leftLen := leftLen - (50 + update.data.length)
    if leftLen ≤ 0 then [] else update :: jsonUpdates leftLen updates

/-- The queue that `do_get_updates` reads: a negative offset forgets all but the last updates. The least
32-bit offset is not changed by its negation, and keeps everything as a size, too. -/
def clearedQueue (q : TQueue) (offset : Int) : TQueue := if offset < 0 then q.clear offset.natAbs else q

def readOffset (q : TQueue) (offset : Int) : Int := if offset ≤ 0 then q.head else offset

/-- How `do_get_updates` reads a queue; `none` if the `CHECK` of its second try fails. -/
def readQueue (q : TQueue) (offset : Int) (limit : Nat) (unixTime : Int) :
    Option (TQueue × List TQueueEvent × Nat) :=
  if offset ≤ 0 then some (q, [], 0)
  else
    match if offset < maxEventId then (q.getForget offset unixTime limit).toOption else none with
    | some r => some r
    | none => (q.getForget q.head unixTime limit).toOption

def doGetUpdates (offset : Int) (limit : Nat) (timeout : Int) (query : Nat) (now unixTime : Int) :
    ClientUpdates :=
  let q := clearedQueue s.tqueue offset
  let offset := readOffset q offset
  match readQueue q offset limit unixTime with
  | none => s.check false
  | some (q, updates, totalSize) =>
    let s := { s with tqueue := q, readTimes := s.readTimes ++ [unixTime] }
    let s := s.check (updates.length ≤ totalSize)
    if timeout ≠ 0 ∧ updates = [] then
      { s.abortLongPoll false now with
        longPoll := some {
          query := query, offset := offset, limit := limit
          hardTimeout := now + timeout * second, timeoutAt := now + timeout * second } }
    else s.answer query (.updates (jsonUpdates (2 ^ 22) updates))

def isRepeated (query : BotQuery) : Bool := getUpdatesOffset query = s.previousGetUpdatesOffset

def getUpdatesLimit (query : BotQuery) (now : Int) : Int :=
  if s.isRepeated query ∧ now < s.previousGetUpdatesStartTime + second / 2 then 1
  else query.getIntegerArg "limit".toList 100 1 100

def getUpdatesTimeout (query : BotQuery) (now : Int) : Int :=
  let timeout := query.getIntegerArg "timeout".toList 0 0 50
  if s.isRepeated query ∧ timeout < 3 ∧ now < s.previousGetUpdatesStartTime + 3 * second then 3 else timeout

/-- `process_get_updates_query` behind the check for a webhook. -/
def processGetUpdates (query : BotQuery) (id : Nat) (now unixTime : Int) : ClientUpdates :=
  { s with
    previousGetUpdatesOffset := getUpdatesOffset query
    previousGetUpdatesStartTime := now }.doGetUpdates (getUpdatesOffset query)
      (s.getUpdatesLimit query now).toNat (s.getUpdatesTimeout query now) id now unixTime

def longPollWakeup (force : Bool) (now unixTime : Int) : ClientUpdates :=
  match s.longPoll with
  | none => s
  | some longPoll =>
    if force then
      { s with longPoll := none }.doGetUpdates longPoll.offset longPoll.limit 0 longPoll.query now unixTime
    else
      let hardTimeout :=
        if longPoll.wasWakeup then longPoll.hardTimeout
        else min (now + longPollMaxDelay) longPoll.hardTimeout
      { s with longPoll := some { longPoll with
        wasWakeup := true
        hardTimeout := hardTimeout
        timeoutAt := min (now + longPollWaitAfter) hardTimeout } }

/-- `add_update_impl` with an update of an allowed type, without a webhook. -/
def addUpdate (first : FirstEventId) (data : Slice) (expiresAt extra : Int) (now unixTime : Int) :
    ClientUpdates :=
  match s.tqueue.push first data expiresAt extra with
  | .error _ => s
  | .ok q =>
    { s with
      tqueue := q
      pushed := s.pushed ++ q.events.getLast?.toList }.longPollWakeup false now unixTime

inductive Event where
  | addUpdate (first : FirstEventId) (data : Slice) (expiresAt extra : Int)
  | getUpdates (query : BotQuery)
  /-- The time of `long_poll_slot_` has come. -/
  | rawEvent

structure Input where
  event : Event
  now : Int
  unixTime : Int

def step (s : ClientUpdates) (x : Input) : ClientUpdates :=
  if s.crashed then s
  else match x.event with
    | .addUpdate first data expiresAt extra => s.addUpdate first data expiresAt extra x.now x.unixTime
    | .getUpdates query =>
      { s with nextQuery := s.nextQuery + 1 }.processGetUpdates query s.nextQuery x.now x.unixTime
    | .rawEvent => s.longPollWakeup true x.now x.unixTime

end ClientUpdates

end TelegramBotApi
