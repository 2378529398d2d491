import Mathlib.Algebra.Order.Ring.Rat
import Mathlib.Data.List.AList
import TelegramBotApi.StepRun

/-!
# Request statistics

Every client has a statistics actor, which passes its events on to the one of the manager. A query
reports itself to the actor of the client that admits it and once more when it is answered. An actor
runs a message at once if its mailbox is empty, and a message to an actor that is gone is dropped.
-/

namespace TelegramBotApi

inductive StatEvent where
  | update
  | request (size fileCount filesSize filesMaxSize : Int)
  | response (ok : Bool) (size fileCount filesSize : Int)

structure BotStatActor where
  activeRequestCount : Int := 0
  activeFileUploadBytes : Int := 0
  activeFileUploadCount : Int := 0

/-- `on_event`, with nothing if a `CHECK` fails. -/
def BotStatActor.onEvent (a : BotStatActor) : StatEvent → Option BotStatActor
  | .update => some a
  | .request _ fileCount filesSize _ => some {
      activeRequestCount := a.activeRequestCount + 1
      activeFileUploadCount := a.activeFileUploadCount + fileCount
      activeFileUploadBytes := a.activeFileUploadBytes + filesSize }
  | .response _ _ fileCount filesSize =>
    if 0 ≤ a.activeRequestCount - 1 ∧ 0 ≤ a.activeFileUploadBytes - filesSize then some {
      activeRequestCount := a.activeRequestCount - 1
      activeFileUploadCount := a.activeFileUploadCount - fileCount
      activeFileUploadBytes := a.activeFileUploadBytes - filesSize }
    else none

inductive StatMessage where
  | start
  | addEvent (event : StatEvent)

def StatMessage.run (a : BotStatActor) : StatMessage → Option BotStatActor
  | .start => some a
  | .addEvent event => a.onEvent event

def StatMessage.event? : StatMessage → Option StatEvent
  | .start => none
  | .addEvent event => some event

structure StatMailbox where
  actor : BotStatActor := {}
  mailbox : List StatMessage := [.start]

/-- `send_closure` of `add_event`. -/
def StatMailbox.addEvent (a : StatMailbox) (event : StatEvent) : Option StatMailbox :=
  match a.mailbox with
  | [] => (a.actor.onEvent event).map fun actor => { a with actor := actor }
  | messages => some { a with mailbox := messages ++ [.addEvent event] }

def StatMailbox.flush (a : StatMailbox) : Option StatMailbox :=
  (a.mailbox.foldlM StatMessage.run a.actor).map fun actor => { actor := actor, mailbox := [] }

inductive QueryState where
  | query
  | ok
  | error
deriving DecidableEq

structure CountedQuery where
  /-- The sizes of `container_`. -/
  container : List Nat := []
  /-- The sizes of `files_`. -/
  files : List Nat := []
  isInternal : Bool := false
  statActor : Option Nat := none
  state : QueryState := .query

namespace CountedQuery

variable (q : CountedQuery)

def isReady : Bool := q.state != .query

def querySize : Nat := q.container.sum

def fileCount : Nat := q.files.length

def filesSize : Nat := q.files.sum

def filesMaxSize : Nat := q.files.foldl max 0

def requestStat : StatEvent := .request q.querySize q.fileCount q.filesSize q.filesMaxSize

def responseStat (size : Nat) : StatEvent := .response (q.state == .ok) size q.fileCount q.filesSize

end CountedQuery

/-- A query and the client it was sent to. A query that waits in the promise of a `SleepActor` or in a
message is not held by the client. Queries of webhook responses and internal ones have no promise in their
`PromiseDeleter`. -/
structure SentQuery where
  query : CountedQuery
  client : Nat
  isHeld : Bool
  hasPromise : Bool
  isDestroyed : Bool := false

def SentQuery.isUnanswered (held : SentQuery) : Bool := !held.query.isReady && !held.isDestroyed

def SentQuery.answered (held : SentQuery) (state : QueryState) : SentQuery :=
  { held with query := { held.query with state := state }, isHeld := false }

def SentQuery.destroyed (held : SentQuery) : SentQuery := { held with isHeld := false, isDestroyed := true }

structure StatClient where
  stat : StatMailbox := {}
  /-- The actor of the client was not destroyed yet. -/
  isRunning : Bool := true
  nextGetUpdatesConflictTime : ℚ := 0
  floodLimitedQueryCount : Nat := 0

structure RequestStats where
  /-- `clients_`; identifiers are not used again. -/
  clients : AList fun _ : Nat => StatClient := ∅
  clientCount : Nat := 0
  root : StatMailbox := {}
  queries : List SentQuery := []
  crashed : Bool := false

/-- What `Client::send` looks at beside the counters. -/
structure FloodCheck where
  localMode : Bool
  isLocalMethod : Bool
  /-- More than a minute has passed since the start of the server. -/
  isWarm : Bool
  updatePerMinute : Int

def BotStatActor.isFlooded (a : BotStatActor) (check : FloodCheck) (q : CountedQuery) : Bool :=
  a.activeRequestCount > 1000 + check.updatePerMinute ||
    (a.activeFileUploadBytes > 2 ^ 32 && !q.files.isEmpty) ||
    (a.activeFileUploadCount > 100 + check.updatePerMinute.tdiv 5 && !q.files.isEmpty)

inductive StatAction where
  | create
  | send (client : Nat) (container files : List Nat) (isInternal hasPromise : Bool) (check : FloodCheck)
  | update (client : Nat)
  | answer (i : Nat) (ok : Bool) (size : Nat)
  | conflict (i : Nat) (now : ℚ) (size : Nat)
  | closing (i : Nat) (retryAfter : Int) (size : Nat)
  /-- The client gives the query to a `SleepActor` or into a message. -/
  | detach (i : Nat)
  /-- A message with the query reaches its client. -/
  | resume (i size : Nat)
  /-- The time of a `SleepActor` that answers the query. -/
  | wake (i size : Nat)
  | destroy (i size : Nat)
  /-- The actor of the client is destroyed, and its queries with it. -/
  | stop (client size : Nat)
  | hangupShared (client : Nat)
  | flush (client : Nat)
  | flushRoot

namespace RequestStats

variable (s : RequestStats)

def addRootEvent (event : StatEvent) : RequestStats :=
  match s.root.addEvent event with
  | none => { s with crashed := true }
  | some root => { s with root := root }

/-- `add_event`, which passes the event on when it has run. -/
def addEvent (c : Nat) (event : StatEvent) : RequestStats :=
  match s.clients.lookup c with
  | none => s
  | some client =>
    match client.stat.addEvent event with
    | none => { s with crashed := true }
    | some stat =>
      let t := { s with clients := s.clients.insert c { client with stat := stat } }
      if client.stat.mailbox.isEmpty then t.addRootEvent event else t

def flush (c : Nat) : RequestStats :=
  match s.clients.lookup c with
  | none => s
  | some client =>
    match client.stat.flush with
    | none => { s with crashed := true }
    | some stat =>
      let t := { s with clients := s.clients.insert c { client with stat := stat } }
      (client.stat.mailbox.filterMap StatMessage.event?).foldl addRootEvent t

def flushRoot : RequestStats :=
  match s.root.flush with
  | none => { s with crashed := true }
  | some root => { s with root := root }

/-- `set_ok` and `set_error`, which end with `send_response_stat`. -/
def setAnswer (i : Nat) (state : QueryState) (size : Nat) : RequestStats :=
  match s.queries[i]? with
  | none => s
  | some held =>
    if held.query.isReady then { s with crashed := true }
    else
      let t := { s with queries := s.queries.set i (held.answered state) }
      match held.query.statActor with
      | none => t
      | some c => t.addEvent c ((held.answered state).query.responseStat size)

def setOk (i size : Nat) : RequestStats := s.setAnswer i .ok size

def setError (i size : Nat) : RequestStats := s.setAnswer i .error size

def setRetryAfterError (i size : Nat) : RequestStats := s.setError i size

/-- The query `i` if it was not answered yet and is held by its client, or not held. -/
def find (i : Nat) (isHeld : Bool) : Option SentQuery :=
  (s.queries[i]?).filter fun held => held.isUnanswered && held.isHeld == isHeld

def setHeld (i : Nat) (isHeld : Bool) : RequestStats :=
  match s.queries[i]? with
  | none => s
  | some held => { s with queries := s.queries.set i { held with isHeld := isHeld } }

/-- `PromiseDeleter`, which answers only if it has a promise. -/
def destroyQuery (i size : Nat) : RequestStats :=
  match s.queries[i]? with
  | none => s
  | some held =>
    if held.isUnanswered then
      if held.hasPromise then s.setRetryAfterError i size
      else { s with queries := s.queries.set i held.destroyed }
    else s

def failQueryConflict (c : Nat) (client : StatClient) (i : Nat) (now : ℚ) (size : Nat) : RequestStats :=
  if client.nextGetUpdatesConflictTime ≤ now then
    { s with clients := s.clients.insert c { client with nextGetUpdatesConflictTime := now + 3 } }.setError i size
  else s.setHeld i false

def failQueryClosing (i : Nat) (retryAfter : Int) (size : Nat) : RequestStats :=
  if retryAfter > 0 then s.setRetryAfterError i size else s.setError i size

def addQuery (q : CountedQuery) (c : Nat) (isHeld hasPromise : Bool) : RequestStats :=
  { s with queries := s.queries ++ [{ query := q, client := c, isHeld := isHeld, hasPromise := hasPromise }] }

def send (c : Nat) (query : CountedQuery) (hasPromise : Bool) (check : FloodCheck) : RequestStats :=
  if query.isInternal then s.addQuery query c true hasPromise
  else
    let q := { query with statActor := some c }
    let t := s.addEvent c q.requestStat
    match t.clients.lookup c with
    | none => t
    | some client =>
      if !check.localMode && !check.isLocalMethod && check.isWarm && client.stat.actor.isFlooded check q then
        let limited := { client with floodLimitedQueryCount := client.floodLimitedQueryCount + 1 }
        { t with clients := t.clients.insert c limited }.addQuery q c false hasPromise
      else t.addQuery q c true hasPromise

def destroyHeld (c size : Nat) (t : RequestStats) (i : Nat) : RequestStats :=
  match t.find i true with
  | some held => if held.client = c then t.destroyQuery i size else t
  | none => t

def destroyQueries (c size : Nat) : RequestStats := (List.range s.queries.length).foldl (destroyHeld c size) s

def stop (c size : Nat) : RequestStats :=
  let t := s.destroyQueries c size
  match t.clients.lookup c with
  | some client => { t with clients := t.clients.insert c { client with isRunning := false } }
  | none => t

def createClient : RequestStats :=
  { s with clients := s.clients.insert s.clientCount {}, clientCount := s.clientCount + 1 }

/-- The statistics actor goes with the entry of its client. -/
def hangupShared (c : Nat) : RequestStats :=
  match s.clients.lookup c with
  | some client => if client.isRunning then s else { s with clients := s.clients.erase c }
  | none => s

def act : StatAction → RequestStats
  | .create => s.createClient
  | .send c container files isInternal hasPromise check =>
    match s.clients.lookup c with
    | some client =>
      if client.isRunning then
        s.send c { container := container, files := files, isInternal := isInternal } hasPromise check
      else s
    | none => s
  | .update c => s.addEvent c .update
  | .answer i ok size =>
    match s.find i true with
    | some _ => if ok then s.setOk i size else s.setError i size
    | none => s
  | .conflict i now size =>
    match s.find i true with
    | some held =>
      match s.clients.lookup held.client with
      | some client => s.failQueryConflict held.client client i now size
      | none => s
    | none => s
  | .closing i retryAfter size =>
    match s.find i true with
    | some _ => s.failQueryClosing i retryAfter size
    | none => s
  | .detach i =>
    match s.find i true with
    | some _ => s.setHeld i false
    | none => s
  | .resume i size =>
    match s.find i false with
    | some held =>
      match s.clients.lookup held.client with
      | some client => if client.isRunning then s.setHeld i true else s.destroyQuery i size
      | none => s.destroyQuery i size
    | none => s
  | .wake i size =>
    match s.find i false with
    | some _ => s.setError i size
    | none => s
  | .destroy i size => s.destroyQuery i size
  | .stop c size => s.stop c size
  | .hangupShared c => s.hangupShared c
  | .flush c => s.flush c
  | .flushRoot => s.flushRoot

/-- Nothing happens after a failed `CHECK`. -/
def step (s : RequestStats) (a : StatAction) : RequestStats := if s.crashed then s else s.act a

end RequestStats

end TelegramBotApi
