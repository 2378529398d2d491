import TelegramBotApi.ClientWebhook
import TelegramBotApi.GetUpdates

/-!
# The two consumers of updates

The updates of a bot go to `getUpdates` or to a webhook. A request that sets a webhook aborts the long
poll, and `getUpdates` is refused from then on until the webhook is deleted. The record joins the webhook
part of the client with its `getUpdates` part; queries reach both through `on_cmd`, which makes queries
with many bytes of files wait their turn. A conflict that `fail_query_conflict` reports after a delay is
kept only for a query of `getUpdates`; a `setWebhook` query gets the same answer at once.
-/

namespace TelegramBotApi

def BotQuery.filesSize (query : BotQuery) : Int := (query.files.map (·.size)).sum

/-- What `on_cmd` does with a query that carries files. -/
inductive FileQueryTurn where
  | now
  | later
  /-- Answered after three seconds by an error 429. -/
  | flood
  deriving DecidableEq

/-- Answers of a `getUpdates` query that has not reached `process_get_updates_query`. -/
inductive UpdatesRefusal where
  | closing (answer : QueryAnswer)
  | flood
  /-- The client was destroyed before the turn of the query came. -/
  | lost
  deriving DecidableEq

structure UpdateConsumers where
  webhook : ClientWebhook := {}
  updates : ClientUpdates := {}
  /-- `last_send_message_time_`, by the size of the files. -/
  lastSendMessageTime : List (Int × Int) := []
  delayedGetUpdates : List (Nat × BotQuery) := []
  delayedSetWebhook : List BotQuery := []
  /-- Queries in a `FailQueryFloodLimitExceededActor`. -/
  flooded : List (Nat × BotQuery) := []
  refusals : List (Nat × BotQuery × UpdatesRefusal) := []

inductive UpdateConsumersEvent where
  | getUpdates (query : BotQuery)
  /-- A message of the webhook part. -/
  | webhook (event : ClientWebhookEvent)
  | addUpdate (first : FirstEventId) (data : Slice) (expiresAt extra : Int)
  /-- The time of `long_poll_slot_` has come. -/
  | rawEvent
  /-- The end of the sleep of one waiting query or conflict. -/
  | delayedGetUpdates (index : Nat)
  | delayedSetWebhook (index : Nat)
  | delayedConflict (index : Nat)
  | delayedFlood (index : Nat)
  | deleteLastSendMessageTime (fileSize maxDelay : Int)
  /-- The webhook actor, or the storage itself, has changed the queue. -/
  | tqueueChanged (tqueue : TQueue)

structure UpdateConsumersInput where
  event : UpdateConsumersEvent
  now : Int
  unixTime : Int

namespace UpdateConsumers

variable (inet : InetPton) (P : WebhookParameters) (s : UpdateConsumers)

/-- Queries with more bytes of files than this wait their turn. -/
def freeFilesSize : Int := 100000

/-- The query is subject to the turns of `on_cmd`. -/
def IsBig (query : BotQuery) : Prop := query.files ≠ [] ∧ P.localMode = false ∧ freeFilesSize < query.filesSize

instance (query : BotQuery) : Decidable (IsBig P query) := inferInstanceAs (Decidable (_ ∧ _ ∧ _))

def lastTime (fileSize : Int) : Int := ((s.lastSendMessageTime.find? (·.1 = fileSize)).map (·.2)).getD 0

/-- A ten-millionth of a second for a byte, but at least a fifth and at most nine tenths. -/
def minDelay (fileSize : Int) : Int := max (2 * 10 ^ 8) (min (9 * 10 ^ 8) (fileSize * 100))

/-- The turn of a query, and the table after it was asked for. -/
def takeTurn (query : BotQuery) (force : Bool) (now : Int) : FileQueryTurn × UpdateConsumers :=
  if ¬ IsBig P query ∨ force then (.now, s)
  else
    let fileSize := query.filesSize
    if now + 5 * ClientUpdates.second < s.lastTime fileSize then (.flood, s)
    else
      let time := max (s.lastTime fileSize + minDelay fileSize) (now - ClientUpdates.second)
      let s := { s with
        lastSendMessageTime := (fileSize, time) :: s.lastSendMessageTime.filter (·.1 ≠ fileSize) }
      (if now < time then .later else .now, s)

def deleteLastSendMessageTime (fileSize maxDelay now : Int) : UpdateConsumers :=
  if s.lastTime fileSize = 0 then s
  else if s.lastTime fileSize < now - maxDelay then
    { s with lastSendMessageTime := s.lastSendMessageTime.filter (·.1 ≠ fileSize) }
  else s

/-- The webhook part after a handler, which may have removed all updates. -/
def withWebhook (webhook : ClientWebhook) : UpdateConsumers :=
  if .clearTqueue ∈ webhook.out.drop s.webhook.out.length then
    { s with webhook := webhook, updates := { s.updates with tqueue := s.updates.tqueue.clear 0 } }
  else { s with webhook := webhook }

def refuse (id : Nat) (query : BotQuery) (refusal : UpdatesRefusal) : UpdateConsumers :=
  { s with refusals := s.refusals ++ [(id, query, refusal)] }

/-! ### Queries -/

def hasWebhook : Bool :=
  s.webhook.settings.url ≠ [] || s.webhook.webhookSetQuery.isSome || s.webhook.activeWebhookSetQuery.isSome

def processGetUpdatesQuery (id : Nat) (query : BotQuery) (now unixTime : Int) : UpdateConsumers :=
  if s.hasWebhook then
    let message := "Conflict: can't use getUpdates method while webhook is active; " ++
      "use deleteWebhook to delete the webhook first"
    { s with updates := s.updates.failQueryConflict message id now }
  else
    { s with
      webhook := { s.webhook with
        allowedUpdateTypes := updateAllowedUpdateTypes query s.webhook.allowedUpdateTypes }
      updates := s.updates.processGetUpdates query id now unixTime }

/-- `on_cmd` for a `getUpdates` query. -/
def onGetUpdates (id : Nat) (query : BotQuery) (force : Bool) (now unixTime : Int) : UpdateConsumers :=
  if s.webhook.isClosing then s.refuse id query (.closing (s.webhook.closingAnswer now))
  else match s.takeTurn P query force now with
    | (.flood, s) => { s with flooded := s.flooded ++ [(id, query)] }
    | (.later, s) => { s with delayedGetUpdates := s.delayedGetUpdates ++ [(id, query)] }
    | (.now, s) => s.processGetUpdatesQuery id query now unixTime

/-- The end of `process_set_webhook_query`: only a webhook aborts the long poll. -/
def replaceWebhook (query : BotQuery) (now : Int) : Except WebhookAssertion UpdateConsumers :=
  let s := if query.newWebhookUrl ≠ [] then { s with updates := s.updates.abortLongPoll true now } else s
  (s.webhook.replaceWebhook inet P query now).map s.withWebhook

/-- The time of the next conflict that is reported at once. -/
def noteConflict (now : Int) : UpdateConsumers :=
  if s.updates.nextGetUpdatesConflictTime ≤ now then
    { s with updates := { s.updates with nextGetUpdatesConflictTime := now + 3 * ClientUpdates.second } }
  else s

def changeWebhook (query : BotQuery) (now : Int) : Except WebhookAssertion UpdateConsumers :=
  match s.webhook.webhookSetQuery with
  | some pending =>
    match { s.webhook with webhookSetQuery := none }.respond pending
        (.error 409 "Conflict: terminated by other setWebhook") with
    | .error assertion => .error assertion
    | .ok webhook => ({ s with webhook := webhook }.noteConflict now).replaceWebhook inet P query now
  | none =>
    if s.webhook.activeWebhookSetQuery.isSome ∨ s.webhook.isNotModified P query then
      (s.webhook.changeWebhook inet P query now).map s.withWebhook
    else s.replaceWebhook inet P query now

def processSetWebhookQuery (query : BotQuery) (now : Int) : Except WebhookAssertion UpdateConsumers :=
  if query.newWebhookUrl ≠ [] ∧ ¬ query.isInternal then
    if now < s.webhook.nextAllowedSetWebhookTime then
      (s.webhook.respond { query := query } (.retryAfter 1)).map s.withWebhook
    else
      { s with webhook := { s.webhook with nextAllowedSetWebhookTime := now + 10 ^ 9 } }.changeWebhook
        inet P query now
  else s.changeWebhook inet P query now

/-- `on_cmd` for a query that sets or deletes the webhook. -/
def onSetWebhook (query : BotQuery) (force : Bool) (now : Int) : Except WebhookAssertion UpdateConsumers :=
  if s.webhook.isClosing then (s.webhook.failQueryClosing { query := query } now).map s.withWebhook
  else match s.takeTurn P query force now with
    | (.flood, s) => (s.webhook.respond { query := query } (.retryAfter 60)).map s.withWebhook
    | (.later, s) => .ok { s with delayedSetWebhook := s.delayedSetWebhook ++ [query] }
    | (.now, s) => s.processSetWebhookQuery inet P query now

/-! ### Other messages -/

def onWebhookEvent (event : ClientWebhookEvent) (now unixTime : Int) : Except WebhookAssertion UpdateConsumers :=
  match event with
  | .query query time => s.onSetWebhook inet P query false time
  | .authorizationStateClosed time =>
    -- `on_closed` answers the long poll.
    (s.webhook.step inet P (.authorizationStateClosed time)).map fun webhook =>
      let s := s.withWebhook webhook
      { s with updates := s.updates.longPollWakeup true now unixTime }
  | event => (s.webhook.step inet P event).map s.withWebhook

/-- An update goes to the long poll only if there is no webhook. -/
def addUpdate (first : FirstEventId) (data : Slice) (expiresAt extra now unixTime : Int) : UpdateConsumers :=
  if s.webhook.settings.url = [] then
    { s with updates := s.updates.addUpdate first data expiresAt extra now unixTime }
  else match s.updates.tqueue.push first data expiresAt extra with
    | .error _ => s
    | .ok tqueue => { s with updates := { s.updates with tqueue := tqueue } }

def reportConflict (index : Nat) : UpdateConsumers :=
  match s.updates.delayedConflicts[index]? with
  | none => s
  | some (id, message) =>
    { s with updates := { s.updates with
      delayedConflicts := s.updates.delayedConflicts.eraseIdx index
      answers := s.updates.answers ++ [(id, .conflict message)] } }

def reportFlood (index : Nat) : UpdateConsumers :=
  match s.flooded[index]? with
  | none => s
  | some (id, query) => { s with flooded := s.flooded.eraseIdx index }.refuse id query .flood

/-- A waiting query whose client is gone is answered when it is destroyed. -/
def resumeGetUpdates (index : Nat) (now unixTime : Int) : UpdateConsumers :=
  match s.delayedGetUpdates[index]? with
  | none => s
  | some (id, query) =>
    let s := { s with delayedGetUpdates := s.delayedGetUpdates.eraseIdx index }
    if s.webhook.stopped then s.refuse id query .lost else s.onGetUpdates P id query true now unixTime

def resumeSetWebhook (index : Nat) (now : Int) : Except WebhookAssertion UpdateConsumers :=
  match s.delayedSetWebhook[index]? with
  | none => .ok s
  | some query =>
    let s := { s with delayedSetWebhook := s.delayedSetWebhook.eraseIdx index }
    if s.webhook.stopped then .ok s else s.onSetWebhook inet P query true now

/-- A message; a client that was stopped gets nothing any more. -/
def step (x : UpdateConsumersInput) : Except WebhookAssertion UpdateConsumers :=
  match x.event with
  | .delayedGetUpdates index => .ok (s.resumeGetUpdates P index x.now x.unixTime)
  | .delayedSetWebhook index => s.resumeSetWebhook inet P index x.now
  | .delayedConflict index => .ok (s.reportConflict index)
  | .delayedFlood index => .ok (s.reportFlood index)
  | .tqueueChanged tqueue => .ok { s with updates := { s.updates with tqueue := tqueue } }
  | event =>
    if s.webhook.stopped then .ok s
    else match event with
      | .getUpdates query =>
        .ok ({ s with updates := { s.updates with nextQuery := s.updates.nextQuery + 1 } }.onGetUpdates P
          s.updates.nextQuery query false x.now x.unixTime)
      | .webhook event => s.onWebhookEvent inet P event x.now x.unixTime
      | .addUpdate first data expiresAt extra => .ok (s.addUpdate first data expiresAt extra x.now x.unixTime)
      | .rawEvent => .ok { s with updates := s.updates.longPollWakeup true x.now x.unixTime }
      | .deleteLastSendMessageTime fileSize maxDelay => .ok (s.deleteLastSendMessageTime fileSize maxDelay x.now)
      | _ => .ok s

def stepRun (r : Except WebhookAssertion UpdateConsumers) (x : UpdateConsumersInput) :
    Except WebhookAssertion UpdateConsumers :=
  match r with
  | .error assertion => .error assertion
  | .ok s => s.step inet P x

end UpdateConsumers

end TelegramBotApi
