import TelegramBotApi.WebhookSchedule
import TelegramBotApi.StepRun

/-!
# The actor of a webhook

`WebhookActor` delivers the updates of one bot. Each of its handlers ends with `loop`, which loads
updates, resolves the address, opens connections and sends what is due. The storage queue, the clock,
the sockets and the random delays are inputs. The messages to the client are collected in `out`; the
statistics of `load_updates` and the timer of the actor are left out.
-/

namespace TelegramBotApi

inductive WebhookMessage where
  | webhookVerified (address : IPAddress)
  | webhookError (error : String)
  | webhookClosed (status : Option Status)
  | send (method : Slice)
  deriving DecidableEq

/-- What happens when a connection is about to be opened: the flood control refuses it, the socket or
the SSL stream cannot be created, or it is there. -/
inductive ConnectOutcome where
  | flood
  | openFailed (error : Status)
  | sslFailed (error : Status)
  | opened
  deriving DecidableEq

structure LoopInput where
  now : Int
  unixTime : Int
  queue : Option TQueue
  connects : List ConnectOutcome := []
  /-- Whether the SSL stream of a socket from the proxy can be created. -/
  proxySsl : Nat → Bool := fun _ => true
  /-- The time of each call of `send_update`. -/
  sendTime : Nat → Int
  /-- The random part of the next time to resolve the address. -/
  resolveDelay : Int := 0

structure WebhookResponse where
  /-- `type_ == HttpQuery::Type::Response`. -/
  isResponse : Bool := true
  keepAlive : Bool := true
  code : Int
  retryAfter : Int := 0
  method : Slice := []
  deriving DecidableEq

def WebhookResponse.isSuccess (r : WebhookResponse) : Bool :=
  r.isResponse && 200 ≤ r.code && r.code ≤ 299

/-- The time of an answer and the random bound for the next delay. -/
structure AnswerInput where
  now : Int
  unixTime : Int
  maxTimeout : Int

structure WebhookActor where
  sched : WebhookSchedule := {}
  tqueueEmpty : Bool := false
  /-- 0 is the empty identifier. -/
  tqueueOffset : Int := 0
  hasSslContext : Bool := false
  ipAddress : IPAddress := .invalid
  ipGeneration : Int := 0
  nextIpAddressResolveTime : Int := 0
  isIpAddressBeingResolved : Bool := false
  pendingSockets : List Int := []
  nextSocketId : Int := 1
  readySockets : Nat := 0
  firstError410Time : Int := 0
  lastSuccessTime : Int := 0
  lastUpdateWasSuccessful : Bool := true
  wasChecked : Bool := false
  stopFlag : Bool := false
  stopped : Bool := false
  out : List WebhookMessage := []

inductive WebhookEvent where
  | loop (io : LoopInput)
  | update (io : LoopInput)
  | onResolvedIpAddress (result : Except Status IPAddress) (io : LoopInput)
  | onSslContextCreated (result : Except Status Unit) (io : LoopInput)
  | onSocketReadyAsync (result : Except Status Unit) (id : Int) (io : LoopInput)
  | handle (connectionId : Int) (response : WebhookResponse) (answer : AnswerInput) (io : LoopInput)
  | hangupShared (connectionId : Int) (answer : AnswerInput) (io io' : LoopInput)
  | onConnectionError (error : String)
  | close
  | hangup

namespace IPAddress

/-- The reserved blocks of `is_reserved`, with the lengths of their prefixes. -/
def reservedBlocks : List (BitVec 32 × Nat) :=
  [(0x00000000, 8), (0x0a000000, 8), (0x64400000, 10), (0x7f000000, 8), (0xa9fe0000, 16),
    (0xac100000, 12), (0xc0000000, 24), (0xc0000200, 24), (0xc0586300, 24), (0xc0a80000, 16),
    (0xc6120000, 15), (0xc6336400, 24), (0xcb007100, 24), (0xe0000000, 3)]

def isReserved : IPAddress → Bool
  | .ipv4 ip _ => reservedBlocks.any fun block =>
      let mask := (BitVec.allOnes 32 >>> (32 - block.2)) <<< (32 - block.2)
      ip &&& mask == block.1 &&& mask
  | _ => true

end IPAddress

namespace WebhookActor

variable (cfg : WebhookConfig) (s : WebhookActor)

def emit (message : WebhookMessage) : WebhookActor := { s with out := s.out ++ [message] }

def onError (status : Status) : WebhookActor :=
  if ¬ s.wasChecked ∧ ¬ s.stopFlag then
    { s.emit (.webhookClosed (some status)) with stopFlag := true }
  else s

def onStatus : Except Status Unit → WebhookActor
  | .error status => s.onError status
  | .ok _ => s

def onWebhookError (error : String) : WebhookActor :=
  if s.wasChecked then s.emit (.webhookError error) else s

def createWebhookError (errorMessage : String) (result : Status) (isPublic : Bool) : WebhookActor :=
  (s.onWebhookError (if isPublic then errorMessage ++ ": " ++ result.message else errorMessage)).onError
    result

def onWebhookVerified : WebhookActor := s.emit (.webhookVerified s.ipAddress)

/-- The first connection verifies the webhook. -/
def checked : WebhookActor :=
  if s.wasChecked then s else { s with wasChecked := true }.onWebhookVerified

def checkIpAddress (address : IPAddress) : Except Status Unit :=
  if ¬ address.isValid then .error ⟨0, "Invalid IP address specified"⟩
  else if cfg.localMode then .ok ()
  else match address with
    | .ipv4 .. =>
      if address.isReserved then .error ⟨0, "IP address is reserved"⟩ else .ok ()
    | _ => .error ⟨0, "IPv6-only addresses are not allowed"⟩

/-- The updates that `load_updates` gets, and the offset it then has; `none` if the queue refuses its
own head. -/
def fetchUpdates (io : LoopInput) (limit : Nat) : Option (List TQueueEvent × Int) :=
  match io.queue with
  | none => some ([], s.tqueueOffset)
  | some queue =>
    let offset := if s.tqueueOffset = 0 then queue.head else s.tqueueOffset
    if offset = 0 then some ([], offset)
    else match queue.get offset io.unixTime limit with
      | .ok events => some (events, offset)
      | .error _ =>
        match queue.get queue.head io.unixTime limit with
        | .ok events => some (events, queue.head)
        | .error _ => none

/-- The offset behind the last event that is not loaded yet. -/
def advanceOffset (offset : Int) (sched : WebhookSchedule) (e : TQueueEvent) : Int :=
  if (sched.updateMap.lookup e.id).isSome then offset else e.id + 1

def loadLoop (now unixTime : Int) : List TQueueEvent → WebhookSchedule × Int →
    Except WebhookCheck (WebhookSchedule × Int)
  | [], r => .ok r
  | e :: events, (sched, offset) =>
    match sched.loadUpdate now unixTime e with
    | .error check => .error check
    | .ok sched' => loadLoop now unixTime events (sched', advanceOffset offset sched e)

def loadUpdates (io : LoopInput) : Except WebhookCheck WebhookActor :=
  let loaded := s.sched.queueUpdates.keys.length
  if s.tqueueEmpty then .ok s
  else if cfg.maxLoadedUpdates ≤ loaded then
    if loaded = cfg.maxLoadedUpdates then .ok s else .error .tooManyQueues
  else match s.fetchUpdates io (min 1000 (cfg.maxLoadedUpdates - loaded)) with
    | none => .error .refusedHead
    | some (events, offset) =>
      match loadLoop io.now io.unixTime events (s.sched, offset) with
      | .error check => .error check
      | .ok (sched, offset) => .ok { s with
          sched := sched
          tqueueOffset := offset
          tqueueEmpty := if events = [] then true else s.tqueueEmpty }

def ipAddressCacheTime : Int := 30 * 60 * 10 ^ 9

def resolveIpAddress (now : Int) : WebhookActor :=
  if cfg.fixIpAddress ∨ s.isIpAddressBeingResolved ∨ now < s.nextIpAddressResolveTime then s
  else { s with isIpAddressBeingResolved := true }

/-- `create_connection` with a connected socket. -/
def addConnection : WebhookActor :=
  { s with sched := s.sched.createConnection s.ipGeneration }.checked

/-- The webhook counts as verified even if the connection behind the proxy fails later. -/
def addPendingSocket : WebhookActor :=
  { s.checked with
    pendingSockets := s.pendingSockets ++ [s.nextSocketId]
    nextSocketId := s.nextSocketId + 1 }

/-- `create_connection` without a socket, and whether it returned no error. A connection through the
proxy is not ready at once, which is reported as an error. -/
def openConnection : ConnectOutcome → Bool × WebhookActor
  | .flood => (false, s)
  | .openFailed error =>
    (false, s.createWebhookError (if cfg.hasProxy then "Can't connect to the webhook proxy"
      else "Can't connect to the webhook") error false)
  | .sslFailed error =>
    if cfg.hasProxy then (false, s.addPendingSocket)
    else (false, s.createWebhookError "Can't create an SSL connection" error true)
  | .opened => if cfg.hasProxy then (false, s.addPendingSocket) else (true, s.addConnection)

/-- The number of connections that `create_new_connections` wants to have. -/
def needConnections (now : Int) : Nat :=
  let need := min s.sched.queueUpdates.keys.length cfg.maxConnections
  let need := if s.wasChecked then need else 1
  if s.lastSuccessTime + 10 * 10 ^ 9 < now then min need 1 else max need 1

/-- The first loop of `create_new_connections`, and whether the function goes on after it. -/
def openLoop (need : Nat) : List ConnectOutcome → WebhookActor → Bool × WebhookActor
  | [], s => (true, s)
  | outcome :: outcomes, s =>
    if s.sched.connections.keys.length + s.pendingSockets.length + s.readySockets < need then
      if outcome = .flood then (true, s)
      else match s.openConnection cfg outcome with
        | (true, t) => openLoop need outcomes t
        | (false, t) => (false, t)
    else (true, s)

/-- The second loop: sockets from the proxy become connections. -/
def readyLoop (need : Nat) (ssl : Nat → Bool) : Nat → WebhookActor → WebhookActor
  | 0, s => s
  | k + 1, s =>
    if s.sched.connections.keys.length + s.pendingSockets.length < need then
      if ssl k then readyLoop need ssl k s.addConnection
      else s.createWebhookError "Can't create an SSL connection" ⟨0, "SSL error"⟩ true
    else s

def createNewConnections (io : LoopInput) : WebhookActor :=
  if ¬ s.ipAddress.isValid then s
  else if cfg.url.protocol ≠ .http ∧ ¬ s.hasSslContext then s
  else
    let need := s.needConnections cfg io.now
    match openLoop cfg need io.connects s with
    | (false, t) => t
    | (true, t) => { readyLoop need io.proxySsl t.readySockets t with readySockets := 0 }

def sendUpdates (io : LoopInput) : Except WebhookCheck WebhookActor :=
  match s.sched.sendUpdates cfg io.sendTime with
  | .error check => .error check
  | .ok sched => .ok { s with sched := sched }

def settle : WebhookActor := if s.stopFlag then { s with stopped := true } else s

def loop (io : LoopInput) : Except WebhookCheck WebhookActor :=
  if s.stopFlag then .ok s.settle
  else match s.loadUpdates cfg io with
    | .error check => .error check
    | .ok s =>
      let s := (s.resolveIpAddress cfg io.now).createNewConnections cfg io
      if s.stopFlag then .ok s.settle
      else match s.sendUpdates cfg io with
        | .error check => .error check
        | .ok s => .ok s.settle

/-- What `handle` makes of a response, before it touches the schedule. -/
structure Verdict where
  failed : Bool
  close : Bool
  needClose : Bool := false
  retryAfter : Int := 0
  firstError410Time : Int
  out : List WebhookMessage := []

/-- Whether the method of an answer is passed on to the client. -/
def isForwarded (method : Slice) : Bool :=
  let method := Slice.toLower method
  method ≠ [] && method ≠ "deletewebhook".toList && method ≠ "setwebhook".toList &&
    method ≠ "close".toList && method ≠ "logout".toList && !"get".toList.isPrefixOf method

def dropTimeout : Int := 60 * 60 * 23 * 10 ^ 9

def judge (connection : WebhookConnection) (now : Int) : Option WebhookResponse → Verdict
  | none => { failed := true, close := true, firstError410Time := s.firstError410Time }
  | some r =>
    let close := ¬ r.isResponse ∨ ¬ r.keepAlive ∨ s.ipGeneration ≠ connection.ipGeneration
    if r.isSuccess then
      { failed := false
        close := close
        firstError410Time := 0
        out := if isForwarded r.method then [.send r.method] else [] }
    else if r.isResponse then
      let error := "Wrong response from the webhook: " ++ toString r.code
      { failed := true
        close := close
        needClose := r.code = 410 ∧ s.firstError410Time ≠ 0 ∧ s.firstError410Time + dropTimeout < now
        retryAfter := r.retryAfter
        firstError410Time := if r.code = 410 then
          if s.firstError410Time = 0 then now else s.firstError410Time else 0
        out := if s.wasChecked then [.webhookError error] else [] }
    else
      { failed := true
        close := close
        firstError410Time := s.firstError410Time
        out := if s.wasChecked then [.webhookError "Wrong response from the webhook"] else [] }

/-- `on_update_ok` and `on_update_error` on the schedule. -/
def answerEvent (connection : WebhookConnection) (verdict : Verdict) (answer : AnswerInput) :
    Except WebhookCheck WebhookSchedule :=
  match connection.eventId with
  | none => if verdict.failed then .ok s.sched else .error .unaskedResponse
  | some eventId =>
    if verdict.failed then
      s.sched.onUpdateError answer.now answer.unixTime eventId verdict.retryAfter answer.maxTimeout
    else s.sched.dropEvent eventId

/-- `handle` without its call of `loop`; `none` if the connection is not there any more. -/
def answer (connectionId : Int) (response : Option WebhookResponse) (answer : AnswerInput) :
    Except WebhookCheck (Option (WebhookActor × Bool)) :=
  match s.sched.connections.lookup connectionId with
  | none => .ok none
  | some connection =>
    let verdict := s.judge connection answer.now response
    match s.answerEvent connection verdict answer with
    | .error check => .error check
    | .ok sched => .ok (some ({ s with
        sched := sched.releaseConnection connectionId (verdict.needClose || verdict.close)
        firstError410Time := verdict.firstError410Time
        lastUpdateWasSuccessful := if connection.eventId = none then s.lastUpdateWasSuccessful
          else ¬ verdict.failed
        lastSuccessTime := if connection.eventId ≠ none ∧ ¬ verdict.failed then answer.now
          else s.lastSuccessTime
        out := s.out ++ verdict.out }, verdict.needClose))

/-- `handle`: a webhook that answers 410 for too long is closed by a later message. -/
def handle (connectionId : Int) (response : Option WebhookResponse) (input : AnswerInput)
    (io : LoopInput) : Except WebhookCheck WebhookActor :=
  match s.answer connectionId response input with
  | .error check => .error check
  | .ok none => .ok s
  | .ok (some (t, needClose)) => if needClose then .ok t else t.loop cfg io

def onResolvedIpAddress (result : Except Status IPAddress) (io : LoopInput) : WebhookActor :=
  let s := { s with
    isIpAddressBeingResolved := false
    nextIpAddressResolveTime := io.now + ipAddressCacheTime + io.resolveDelay }
  match result with
  | .error error => s.onError error
  | .ok address =>
    match checkIpAddress cfg address with
    | .error error => s.onError error
    | .ok _ =>
      if s.ipAddress = address then s
      else
        let s := { s with ipAddress := address, ipGeneration := s.ipGeneration + 1 }
        if s.wasChecked then s.onWebhookVerified else s

def onSslContextCreated : Except Status Unit → WebhookActor
  | .error error => s.createWebhookError "Can't create an SSL context" error true
  | .ok _ => { s with hasSslContext := true }

def onSocketReadyAsync (result : Except Status Unit) (id : Int) : WebhookActor :=
  let s := { s with pendingSockets := s.pendingSockets.filter (· ≠ id) }
  match result with
  | .ok _ => { s with readySockets := s.readySockets + 1 }
  | .error error => (s.onWebhookError error.message).onError error

/-- An outgoing connection reads one response after `write_ok`, which comes with an event, and then
waits for the next request. -/
def awaitsResponse (connectionId : Int) : Bool :=
  match s.sched.connections.lookup connectionId with
  | none => false
  | some connection => connection.eventId.isSome

def step (e : WebhookEvent) : Except WebhookCheck WebhookActor :=
  if s.stopped then .ok s
  else match e with
    | .loop io => s.loop cfg io
    | .update io => { s with tqueueEmpty := false }.loop cfg io
    | .onResolvedIpAddress result io => (s.onResolvedIpAddress cfg result io).loop cfg io
    | .onSslContextCreated result io => (s.onSslContextCreated result).loop cfg io
    | .onSocketReadyAsync result id io => (s.onSocketReadyAsync result id).loop cfg io
    | .handle connectionId response input io =>
      if s.awaitsResponse connectionId then s.handle cfg connectionId (some response) input io else .ok s
    | .hangupShared connectionId input io io' =>
      match s.handle cfg connectionId none input io with
      | .error check => .error check
      | .ok t => if t.stopped then .ok t else t.loop cfg io'
    | .onConnectionError error => .ok (s.onWebhookError error)
    | .close => .ok { s.emit (.webhookClosed none) with stopped := true }
    | .hangup => .ok { s with stopped := true }

/-- The port and the protocol that a webhook may use outside the local mode. -/
def checkPort : Except Status Unit :=
  if cfg.localMode then .ok ()
  else if cfg.url.protocol = .http then .error ⟨0, "An HTTPS URL must be provided for webhook"⟩
  else if cfg.url.port ∈ [443, 88, 80, 8443] then .ok ()
  else .error ⟨0, "Webhook can be set up only on ports 80, 88, 443 or 8443"⟩

/-- The actor after `start_up`; `resolveDelay` is random. -/
def startUp (now resolveDelay : Int) : WebhookActor :=
  let lastSuccessTime := now - 2 * ipAddressCacheTime
  let s : WebhookActor := {
    ipAddress := cfg.cachedIpAddress
    lastSuccessTime := lastSuccessTime
    nextIpAddressResolveTime := if cfg.fromDb then now + resolveDelay else lastSuccessTime }
  let s := s.onStatus (checkPort cfg)
  let s := if cfg.fixIpAddress ∧ ¬ s.stopFlag then s.onStatus (checkIpAddress cfg s.ipAddress) else s
  if cfg.fromDb ∧ ¬ s.stopFlag then s.checked else s

/-- A run of the actor; after a failed assertion nothing happens any more. -/
def stepRun (r : Except WebhookCheck WebhookActor) (e : WebhookEvent) :
    Except WebhookCheck WebhookActor :=
  match r with
  | .error check => .error check
  | .ok s => s.step cfg e

def run (now resolveDelay : Int) (events : List WebhookEvent) : Except WebhookCheck WebhookActor :=
  StepRun.run (stepRun cfg) (.ok (startUp cfg now resolveDelay)) events

end WebhookActor

end TelegramBotApi
