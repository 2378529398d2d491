import TelegramBotApi.ClientWebhook

/-!
# Queries parked in a client

A query that cannot be answered at once is stored in one of eight tables of the client, or it is held by
a request to TDLib or by an actor that sleeps. What the handlers do with a query is an input here, its
`Turn`; the functions that answer the queries of a closing client are modelled as they are. A query that
is destroyed without an answer is given back with one by its `PromiseDeleter`, at the end of the scope of
its owner; the two webhook members have no such scope. Only a query with a promise is given back: one of a
webhook response has nobody to go to.
-/

namespace TelegramBotApi

/-- A query in a webhook member; it keeps the answer that was put into it until it is given back. -/
structure HeldQuery where
  query : BotQuery
  answer : Option QueryAnswer := none
  deriving DecidableEq

/-- Where the handler of a query, or the code that resumes it, leaves the query. -/
inductive ParkingTurn where
  | answer
  | request
  | sleep
  | setWebhook
  | setActiveWebhook
  | longPoll
  | sendMessages (id : Int)
  | resolveBots (id : Int)
  | downloadFile (fileId : Int)
  | sendStory (chatId storyId : Int)
  deriving DecidableEq

inductive ParkingAnswer where
  | closing (answer : QueryAnswer)
  /-- By its handler. -/
  | handled
  | flood
  /-- The query was destroyed without an answer. -/
  | lost
  deriving DecidableEq

/-- The members of `Client` that hold queries, and those that decide how a closing client answers. -/
structure ClientParking where
  webhookSetQuery : Option HeldQuery := none
  activeWebhookSetQuery : Option HeldQuery := none
  longPollQuery : Option BotQuery := none
  cmdQueue : List BotQuery := []
  pendingSendMessageQueries : List (Int × BotQuery) := []
  pendingBotResolveQueries : List (Int × BotQuery) := []
  fileDownloadListeners : List (Int × List BotQuery) := []
  yetUnsentStories : List ((Int × Int) × BotQuery) := []
  /-- Held by requests that TDLib has not answered yet. -/
  requests : List BotQuery := []
  /-- Held by actors that sleep; a flooded query is answered when its sleep ends. -/
  sleeping : List (BotQuery × Bool) := []
  wasAuthorized : Bool := false
  loggingOut : Bool := false
  closing : Bool := false
  isApiIdInvalid : Bool := false
  nextAuthorizationTime : Int := 0
  clearTqueue : Bool := false
  needClose : Bool := false
  /-- `td_client_` is empty. -/
  tdClosed : Bool := false
  removingDirectory : Bool := false
  stopped : Bool := false
  /-- A `CHECK` has failed. -/
  crashed : Bool := false
  answers : List (BotQuery × ParkingAnswer) := []

inductive ClientParkingEvent where
  | send (query : BotQuery) (flooded : Bool) (turn : ParkingTurn)
  | authorized (turns : List ParkingTurn)
  /-- TDLib answers a request, and its handler goes on with the query. -/
  | answered (index : Nat) (turn : ParkingTurn)
  | wakeUp (index : Nat) (turn : ParkingTurn)
  /-- The query of a webhook member goes on. -/
  | webhookSet (turn : ParkingTurn)
  | activeWebhookSet (turn : ParkingTurn)
  | messagesSent (id : Int)
  | botsResolved (id : Int) (turn : ParkingTurn)
  | fileDownloaded (fileId : Int)
  | storySent (chatId storyId : Int)
  | longPollWakeup
  | authorizationFailed (apiIdInvalid : Bool) (nextAuthorizationTime : Int)
  | close
  | authorizationStateLoggingOut
  | authorizationStateClosing
  | authorizationStateClosed
  | directoryRemoved
  | timeoutExpired

structure ClientParkingInput where
  event : ClientParkingEvent
  now : Int

namespace ClientParking

variable (s : ClientParking)

def isClosing : Bool := s.loggingOut || s.closing

def flags : ClientWebhook where
  loggingOut := s.loggingOut
  closing := s.closing
  isApiIdInvalid := s.isApiIdInvalid
  nextAuthorizationTime := s.nextAuthorizationTime
  clearTqueueFlag := s.clearTqueue

/-- `get_closing_error` asks for another try later. -/
def retries (now : Int) : Bool := 0 < (s.flags.getClosingError now).retryAfter

def answer (query : BotQuery) (answer : ParkingAnswer) : ClientParking :=
  { s with answers := s.answers ++ [(query, answer)] }

/-- `fail_query_closing` for a query that ends with its scope. -/
def failQueryClosing (now : Int) (query : BotQuery) : ClientParking :=
  s.answer query (.closing (s.flags.closingAnswer now))

/-- `fail_query_closing` for a member: an error that asks for another try does not take the query. -/
def failMemberClosing (held : Option HeldQuery) (now : Int) : Option HeldQuery × ClientParking :=
  match held with
  | none => (none, s)
  | some held =>
    if held.answer.isSome then (some held, { s with crashed := true })
    else if s.retries now then (some { held with answer := some (s.flags.closingAnswer now) }, s)
    else (none, s.failQueryClosing now held.query)

/-- The handler of the query, or what resumes it, has had its turn. A query that it displaces is answered at once
here; `fail_query_conflict` gives the answer of a second conflict within three seconds to a `SleepActor`. -/
def put (query : BotQuery) : ParkingTurn → ClientParking
  | .answer => s.answer query .handled
  | .request => { s with requests := s.requests ++ [query] }
  | .sleep => { s with sleeping := s.sleeping ++ [(query, false)] }
  | .setWebhook =>
    -- The previous request is terminated.
    let s := match s.webhookSetQuery with
      | none => s
      | some held => s.answer held.query .handled
    { s with webhookSetQuery := some { query := query } }
  | .setActiveWebhook =>
    { s with
      activeWebhookSetQuery := some { query := query }
      crashed := s.crashed || s.activeWebhookSetQuery.isSome }
  | .longPoll =>
    let s := match s.longPollQuery with
      | none => s
      | some query => s.answer query .handled
    { s with longPollQuery := some query }
  | .sendMessages id => { s with pendingSendMessageQueries := s.pendingSendMessageQueries ++ [(id, query)] }
  | .resolveBots id => { s with pendingBotResolveQueries := s.pendingBotResolveQueries ++ [(id, query)] }
  | .downloadFile fileId =>
    if s.fileDownloadListeners.any (·.1 = fileId) then
      { s with fileDownloadListeners := s.fileDownloadListeners.map fun l =>
          if l.1 = fileId then (l.1, l.2 ++ [query]) else l }
    else { s with fileDownloadListeners := s.fileDownloadListeners ++ [(fileId, [query])] }
  | .sendStory chatId storyId =>
    { s with
      yetUnsentStories := s.yetUnsentStories ++ [((chatId, storyId), query)]
      crashed := s.crashed || s.yetUnsentStories.any (·.1 = (chatId, storyId)) }

def onCmd (query : BotQuery) (turn : ParkingTurn) (now : Int) : ClientParking :=
  if ¬ s.tdClosed ∧ s.wasAuthorized ∧ query.method = "close".toList then
    if turn = .answer then s.answer query .handled
    else { s with needClose := true, requests := s.requests ++ [query] }
  else if ¬ s.tdClosed ∧ s.wasAuthorized ∧ query.method = "logout".toList then
    { s with clearTqueue := true, requests := s.requests ++ [query] }
  else if s.isClosing then s.failQueryClosing now query
  else s.put query turn

def runQueue (now : Int) : List BotQuery → List ParkingTurn → ClientParking → ClientParking
  | [], _, s => s
  | query :: queue, turns, s => runQueue now queue turns.tail (s.onCmd query (turns.headD .answer) now)

def loop (turns : List ParkingTurn) (now : Int) : ClientParking :=
  if s.wasAuthorized || s.isClosing then runQueue now s.cmdQueue turns { s with cmdQueue := [] } else s

/-- A query comes; whether it is refused by the flood limit depends on the statistics of the bot. -/
def send (query : BotQuery) (flooded : Bool) (turn : ParkingTurn) (now : Int) : ClientParking :=
  if flooded then { s with sleeping := s.sleeping ++ [(query, true)] }
  else { s with cmdQueue := s.cmdQueue ++ [query] }.loop [turn] now

def heldQueries (held : Option HeldQuery) : List BotQuery := (held.map (·.query)).toList

/-- The queries in the tables, in the order of `on_closed`; the stories come last. -/
def parked : List BotQuery :=
  heldQueries s.webhookSetQuery ++ heldQueries s.activeWebhookSetQuery ++ s.longPollQuery.toList ++ s.cmdQueue ++
    s.pendingSendMessageQueries.map (·.2) ++ s.pendingBotResolveQueries.map (·.2) ++
    s.fileDownloadListeners.flatMap (·.2) ++ s.yetUnsentStories.map (·.2)

def stop : ClientParking :=
  { s with
    stopped := true
    answers := s.answers ++ s.parked.map fun query => (query, .lost)
    webhookSetQuery := none
    activeWebhookSetQuery := none
    longPollQuery := none
    cmdQueue := []
    pendingSendMessageQueries := []
    pendingBotResolveQueries := []
    fileDownloadListeners := []
    yetUnsentStories := [] }

def finishClosing : ClientParking := if s.needClose then s.stop else s

/-- `long_poll_wakeup(true)` answers the long poll, if there is one, with the updates that are there. -/
def wakeLongPoll : ClientParking :=
  { s with
    longPollQuery := none
    answers := s.answers ++ s.longPollQuery.toList.map fun query => (query, .handled) }

/-- The tables of `on_closed` behind the webhook members, one after the other. -/
def failTables (now : Int) : ClientParking :=
  let s := s.wakeLongPoll
  let s := s.cmdQueue.foldl (failQueryClosing · now ·) { s with cmdQueue := [] }
  let s := (s.pendingSendMessageQueries.map (·.2)).foldl (failQueryClosing · now ·)
    { s with pendingSendMessageQueries := [] }
  let s := (s.pendingBotResolveQueries.map (·.2)).foldl (failQueryClosing · now ·)
    { s with pendingBotResolveQueries := [] }
  (s.fileDownloadListeners.flatMap (·.2)).foldl (failQueryClosing · now ·) { s with fileDownloadListeners := [] }

/-- `on_closed`, with its check that the client is closing. -/
def onClosed (now : Int) : ClientParking :=
  let s := { s with tdClosed := true, crashed := s.crashed || !s.isClosing }
  let (webhookSetQuery, s) := s.failMemberClosing s.webhookSetQuery now
  let s := { s with webhookSetQuery := webhookSetQuery }
  let (activeWebhookSetQuery, s) := s.failMemberClosing s.activeWebhookSetQuery now
  let s := { s with activeWebhookSetQuery := activeWebhookSetQuery }.failTables now
  if s.loggingOut then { s with removingDirectory := true } else s.finishClosing

/-- A query leaves its member, unless it already has its answer. -/
def resume (held : Option HeldQuery) (turn : ParkingTurn) (t : ClientParking) : ClientParking :=
  match held with
  | none => s
  | some held => if held.answer.isSome then { s with crashed := true } else t.put held.query turn

/-- A message that TDLib, or the answer of a request to it, has caused. -/
def onTdlib (event : ClientParkingEvent) (now : Int) : ClientParking :=
  match event with
  | .authorized turns => { s with wasAuthorized := true }.loop turns now
  | .answered index turn =>
    match s.requests[index]? with
    | none => s
    | some query => { s with requests := s.requests.eraseIdx index }.put query turn
  | .messagesSent id =>
    let done := s.pendingSendMessageQueries.filter (·.1 = id)
    { s with
      pendingSendMessageQueries := s.pendingSendMessageQueries.filter (·.1 ≠ id)
      answers := s.answers ++ done.map fun q => (q.2, .handled) }
  | .botsResolved id turn =>
    match s.pendingBotResolveQueries.find? (·.1 = id) with
    | none => s
    | some q =>
      { s with pendingBotResolveQueries := s.pendingBotResolveQueries.filter (·.1 ≠ id) }.put q.2 turn
  | .fileDownloaded fileId =>
    let done := s.fileDownloadListeners.filter (·.1 = fileId)
    { s with
      fileDownloadListeners := s.fileDownloadListeners.filter (·.1 ≠ fileId)
      answers := s.answers ++ (done.flatMap (·.2)).map fun query => (query, .handled) }
  | .storySent chatId storyId =>
    match s.yetUnsentStories.find? (·.1 = (chatId, storyId)) with
    | none => { s with crashed := true }
    | some q =>
      { s with yetUnsentStories := s.yetUnsentStories.filter (·.1 ≠ (chatId, storyId)) }.answer q.2 .handled
  | .authorizationFailed apiIdInvalid nextAuthorizationTime =>
    { s with
      isApiIdInvalid := s.isApiIdInvalid || apiIdInvalid
      nextAuthorizationTime := max s.nextAuthorizationTime nextAuthorizationTime }
  | .authorizationStateLoggingOut => { s with loggingOut := true }.loop [] now
  | .authorizationStateClosing => { s with closing := true }.loop [] now
  | _ => s

/-- TDLib has answered all requests and is about to close. -/
def Closes (x : ClientParkingInput) : Prop :=
  x.event = .authorizationStateClosed ∧ s.stopped = false ∧ s.crashed = false ∧ s.tdClosed = false ∧
    s.isClosing = true ∧ s.requests = []

/-- A message; TDLib is silent after it was closed, and closes only as `Closes` says. -/
def step (s : ClientParking) (x : ClientParkingInput) : ClientParking :=
  if s.stopped ∨ s.crashed then s
  else match x.event with
    | .send query flooded turn => s.send query flooded turn x.now
    | .wakeUp index turn =>
      match s.sleeping[index]? with
      | none => s
      | some (query, flooded) =>
        let s := { s with sleeping := s.sleeping.eraseIdx index }
        if flooded then s.answer query .flood else s.onCmd query turn x.now
    | .webhookSet turn => s.resume s.webhookSetQuery turn { s with webhookSetQuery := none }
    | .activeWebhookSet turn => s.resume s.activeWebhookSetQuery turn { s with activeWebhookSetQuery := none }
    | .longPollWakeup => s.wakeLongPoll
    | .close => { s with needClose := true }
    | .directoryRemoved =>
      if s.removingDirectory then { s with removingDirectory := false }.finishClosing else s
    | .timeoutExpired => if s.tdClosed then s.stop else s
    | .authorizationStateClosed =>
      if s.tdClosed = false ∧ s.isClosing ∧ s.requests = [] then s.onClosed x.now else s
    | event => if s.tdClosed then s else s.onTdlib event x.now

end ClientParking

end TelegramBotApi
