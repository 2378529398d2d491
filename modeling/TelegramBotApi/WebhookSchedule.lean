import TelegramBotApi.TQueue
import TelegramBotApi.WebhookHeader
import Mathlib.Data.List.AList
import Mathlib.Data.List.Sort

/-!
# The schedule of a webhook

`WebhookActor` keeps the loaded updates in a map, their order in one queue for each chat, the queues
that wait for their turn in a set ordered by wake-up time, and one slot for each connection. The
functions below are the parts of the actor that change these containers. An assertion that fails is an
error of the result. Times are in nanoseconds, delays in seconds.

The log at the end of the record is a history variable: the updates that were loaded, sent and
forgotten, in order.
-/

namespace TelegramBotApi

/-- The assertions of the actor, and the dereferences that rely on them. -/
inductive WebhookCheck where
  | tooManyQueues
  | refusedHead
  | invalidEvent
  | expiredEvent
  | noNextEvent
  | unknownEvent
  | unknownQueue
  | emptyQueue
  | notFront
  | zeroQueue
  | unaskedResponse
  deriving DecidableEq

structure WebhookUpdate where
  id : Int
  json : Slice
  expiresAt : Int
  lastSendTime : Int := 0
  wakeupAt : Int
  delay : Int := 1
  failCount : Nat := 0
  queueId : Int
  deriving DecidableEq

structure WebhookConnection where
  eventId : Option Int := none
  ipGeneration : Int
  deriving DecidableEq

inductive WebhookEntry where
  | loaded (event queue : Int)
  | sent (connection event : Int)
  | forgotten (event : Int)
  deriving DecidableEq

structure WebhookSchedule where
  updateMap : AList fun _ : Int => WebhookUpdate := ∅
  queueUpdates : AList fun _ : Int => List Int := ∅
  /-- Pairs of wake-up time and queue identifier, in increasing order. -/
  queues : List (Int × Int) := []
  uniqueQueueId : Int := 2 ^ 60
  connections : AList fun _ : Int => WebhookConnection := ∅
  readyConnections : List Int := []
  nextConnectionId : Int := 1
  log : List WebhookEntry := []

/-- `Queue::operator<`, or equal. -/
def queueLe (x y : Int × Int) : Prop := x.1 < y.1 ∨ (x.1 = y.1 ∧ x.2 ≤ y.2)

instance : DecidableRel queueLe := fun _ _ => inferInstanceAs (Decidable (_ ∨ _))

/-- `std::set::emplace`. -/
def emplaceQueue (queues : List (Int × Int)) (wakeupAt queueId : Int) : List (Int × Int) :=
  if (wakeupAt, queueId) ∈ queues then queues
  else queues.orderedInsert queueLe (wakeupAt, queueId)

namespace WebhookSchedule

variable (s : WebhookSchedule)

def record (entry : WebhookEntry) : WebhookSchedule := { s with log := s.log ++ [entry] }

def queueOf (e : TQueueEvent) : Int := if e.extra = 0 then s.uniqueQueueId else e.extra

/-- The body of the loop of `load_updates`; an event that is already loaded is skipped. -/
def loadUpdate (now unixTimeNow : Int) (e : TQueueEvent) : Except WebhookCheck WebhookSchedule :=
  if ¬ isValidEventId e.id then .error .invalidEvent
  else if (s.updateMap.lookup e.id).isSome then .ok s
  else if e.expiresAt < unixTimeNow then .error .expiredEvent
  else if ¬ isValidEventId (e.id + 1) then .error .noNextEvent
  else
    let queueId := s.queueOf e
    let eventIds := (s.queueUpdates.lookup queueId).getD []
    let update : WebhookUpdate := {
      id := e.id
      json := e.data
      expiresAt := e.expiresAt
      wakeupAt := now
      queueId := queueId }
    .ok ({ s with
      updateMap := s.updateMap.insert e.id update
      uniqueQueueId := if e.extra = 0 then s.uniqueQueueId + 1 else s.uniqueQueueId
      queues := if eventIds = [] then emplaceQueue s.queues now queueId else s.queues
      queueUpdates := s.queueUpdates.insert queueId (eventIds ++ [e.id]) }.record (.loaded e.id queueId))

def dropEvent (eventId : Int) : Except WebhookCheck WebhookSchedule :=
  match s.updateMap.lookup eventId with
  | none => .error .unknownEvent
  | some update =>
    let updateMap := s.updateMap.erase eventId
    match s.queueUpdates.lookup update.queueId with
    | none => .error .unknownQueue
    | some [] => .error .emptyQueue
    | some (front :: rest) =>
      if front ≠ eventId then .error .notFront
      else match rest with
        | [] =>
          .ok ({ s with
            updateMap := updateMap
            queueUpdates := s.queueUpdates.erase update.queueId }.record (.forgotten eventId))
        | next :: _ =>
          if ¬ isValidEventId next then .error .invalidEvent
          else match updateMap.lookup next with
            | none => .error .unknownEvent
            | some nextUpdate =>
              .ok ({ s with
                updateMap := updateMap
                queueUpdates := s.queueUpdates.insert update.queueId rest
                queues := emplaceQueue s.queues nextUpdate.wakeupAt nextUpdate.queueId }.record
                  (.forgotten eventId))

/-- `next_delay` and `next_effective_delay` of `on_update_error`; `maxTimeout` is the random bound. -/
def nextDelay (update : WebhookUpdate) (retryAfter maxTimeout : Int) : Int × Int :=
  let retryAfter := if retryAfter < 0 then 0 else if 3600 < retryAfter then 3600 else retryAfter
  if retryAfter = 0 ∧ 0 < update.failCount then
    let delay := min maxTimeout (update.delay * 2)
    (delay, delay)
  else (update.delay, retryAfter)

def onUpdateError (now unixTime : Int) (eventId retryAfter maxTimeout : Int) :
    Except WebhookCheck WebhookSchedule :=
  match s.updateMap.lookup eventId with
  | none => .error .unknownEvent
  | some update =>
    let delay := nextDelay update retryAfter maxTimeout
    if update.expiresAt < unixTime + delay.2 then s.dropEvent eventId
    else
      let wakeupAt := now + delay.2 * 10 ^ 9
      .ok { s with
        updateMap := s.updateMap.insert eventId { update with
          delay := delay.1
          wakeupAt := wakeupAt
          failCount := update.failCount + 1 }
        queues := emplaceQueue s.queues wakeupAt update.queueId }

def setEvent (connectionId : Int) (eventId : Option Int) :
    AList fun _ : Int => WebhookConnection :=
  match s.connections.lookup connectionId with
  | none => s.connections
  | some connection => s.connections.insert connectionId { connection with eventId := eventId }

/-- One call of `send_update`, and whether it returned no error. The queue leaves the schedule before
the header is known to fit. -/
def sendUpdate (cfg : WebhookConfig) (now : Int) : Except WebhookCheck (Bool × WebhookSchedule) :=
  match s.readyConnections, s.queues with
  | [], _ => .ok (false, s)
  | _ :: _, [] => .ok (false, s)
  | connectionId :: ready, (wakeupAt, queueId) :: queues =>
    if now < wakeupAt then .ok (false, s)
    else if queueId = 0 then .error .zeroQueue
    else match (s.queueUpdates.lookup queueId).getD [] with
      | [] => .error .emptyQueue
      | eventId :: _ =>
        if ¬ isValidEventId eventId then .error .invalidEvent
        else match s.updateMap.lookup eventId with
          | none => .error .unknownEvent
          | some update =>
            let t : WebhookSchedule := { s with
              queues := queues
              updateMap := s.updateMap.insert eventId { update with lastSendTime := now } }
            match cfg.updateHeader (updateBody update.id update.json).length with
            | .error _ => .ok (false, t)
            | .ok _ =>
              .ok (true, { t with
                readyConnections := ready
                connections := t.setEvent connectionId (some update.id) }.record
                  (.sent connectionId update.id))

/-- The loop of `send_updates`; every round that goes on uses up a ready connection. -/
def sendLoop (cfg : WebhookConfig) (now : Nat → Int) : Nat → WebhookSchedule →
    Except WebhookCheck WebhookSchedule
  | 0, s => .ok s
  | fuel + 1, s =>
    match s.sendUpdate cfg (now fuel) with
    | .error check => .error check
    | .ok (false, t) => .ok t
    | .ok (true, t) => sendLoop cfg now fuel t

def sendUpdates (cfg : WebhookConfig) (now : Nat → Int) : Except WebhookCheck WebhookSchedule :=
  s.sendLoop cfg now (s.readyConnections.length + 1)

def createConnection (ipGeneration : Int) : WebhookSchedule := { s with
  connections := s.connections.insert s.nextConnectionId { ipGeneration := ipGeneration }
  readyConnections := s.readyConnections ++ [s.nextConnectionId]
  nextConnectionId := s.nextConnectionId + 1 }

/-- The end of `handle`: the connection is closed or made ready again. A closed connection also leaves
the list of ready ones. -/
def releaseConnection (connectionId : Int) (close : Bool) : WebhookSchedule :=
  if close then { s with
    connections := s.connections.erase connectionId
    readyConnections := s.readyConnections.filter (· ≠ connectionId) }
  else { s with
    connections := s.setEvent connectionId none
    readyConnections := s.readyConnections ++ [connectionId] }

end WebhookSchedule

end TelegramBotApi
