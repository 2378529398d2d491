import TelegramBotApi.BotQuery
import TelegramBotApi.RefCount
import TelegramBotApi.TdApi
import Mathlib.Data.Rat.Floor

/-!
# The client manager

`ClientManager` routes requests and streams to the clients of their bots, creates a client for a bot
that has none, and keeps the stream quotas. The record has the members that do this; the webhook
database and the disk emergency flag are shared data that other actors write, so they change by
events of their own. Times are rational numbers of seconds. What the resolver makes of a peer
address is a parameter.
-/

namespace TelegramBotApi

/-- One limit of a `td::FloodControlFast`. -/
structure FloodControlBucket where
  maxCapacity : ℚ
  speed : ℚ
  volume : ℚ
  volumeAt : ℚ := 0
  wakeupAt : ℚ := 0
  deriving DecidableEq

namespace FloodControlBucket

def ofLimit (duration count : ℚ) : FloodControlBucket :=
  { maxCapacity := count - 1, speed := count / duration, volume := count - 1 }

def addEvent (b : FloodControlBucket) (now : ℚ) : FloodControlBucket :=
  let volume := min (b.volume + (now - b.volumeAt) * b.speed) b.maxCapacity
  if 1 ≤ volume then { b with volume := volume - 1, volumeAt := now }
  else
    let wakeupAt := now + (1 - volume) / b.speed
    { b with volume := 0, volumeAt := wakeupAt, wakeupAt := wakeupAt }

end FloodControlBucket

structure FloodControlFast where
  wakeupAt : ℚ := 0
  buckets : List FloodControlBucket := []
  deriving DecidableEq

namespace FloodControlFast

def ofLimits (limits : List (ℚ × ℚ)) : FloodControlFast :=
  { buckets := limits.map fun limit => .ofLimit limit.1 limit.2 }

def addEvent (f : FloodControlFast) (now : ℚ) : FloodControlFast :=
  let buckets := f.buckets.map (·.addEvent now)
  { wakeupAt := buckets.foldl (fun wakeupAt b => max wakeupAt b.wakeupAt) f.wakeupAt
    buckets := buckets }

end FloodControlFast

structure ManagerSetup where
  fileStreamingEnabled : Bool
  fileStreamMaxConnections : Int
  localMode : Bool := false
  /-- `token_range_`. -/
  rem : Nat := 0
  mod : Nat := 1
  /-- `init_host_port`, `clear_ipv6_interface` and `get_ip_str`, for a non-empty address. -/
  normalizeIpAddress : Slice → Slice := id
  normalize_ne : ∀ ipAddress, ipAddress ≠ [] → normalizeIpAddress ipAddress ≠ [] := by intro _ h; exact h
  /-- The options are checked when the server starts. -/
  positive : 0 < fileStreamMaxConnections

inductive ManagerAction where
  | createClient (id : Nat) (token : Slice) (isTestDc : Bool) (tqueueId : Int)
  | sendQuery (id : Nat) (query : BotQuery)
  | startFileStream (id : Nat) (p : PendingFileStream)
  | closeClient (id : Nat)
  | setClient (streamId : Int) (id : Nat)
  | onFileError (streamId : Int) (error : Status)
  | failQuery (query : BotQuery) (error : Status)
  | setRetryAfterError (query : BotQuery) (retryAfter : Int)
  deriving DecidableEq

structure ClientInfo where
  token : Slice
  tqueueId : Int
  deriving DecidableEq

structure ClientManager where
  clients : AList fun _ : Nat => ClientInfo := ∅
  nextClientId : Nat := 1
  tokenToId : AList fun _ : Slice => Nat := ∅
  floodControls : AList fun _ : Slice => FloodControlFast := ∅
  globalFloodControl : FloodControlFast := {}
  isGlobalFloodControlEnabled : Bool := false
  activeClientCount : RefCount.Table Int := ∅
  closeFlag : Bool := false
  closeDbStarted : Bool := false
  activeFileStreamIds : Finset Int := ∅
  activeFileStreamsByToken : RefCount.Table Slice := ∅
  activeFileStreamToken : AList fun _ : Int => Slice := ∅
  webhookDb : AList fun _ : Slice => Slice := ∅
  workdirDiskEmergency : Bool := false
  stopped : Bool := false
  crashed : Bool := false
  out : List ManagerAction := []

structure StreamRequest where
  streamId : Int
  token : Slice
  isTestDc : Bool := false
  fileId : Slice
  expectedSize : Int := -1
  peerIpAddress : Slice := []
  deriving DecidableEq

/-- The key of a bot in the tables of the manager. -/
def tokenKey (token : Slice) (isTestDc : Bool) : Slice :=
  token ++ if isTestDc then "/test".toList else []

/-- The key of a bot in the webhook database. -/
def tokenWithDc (token : Slice) (isTestDc : Bool) : Slice :=
  token ++ if isTestDc then ":T".toList else []

def getTqueueId (userId : Int) (isTestDc : Bool) : Int := userId + if isTestDc then 2 ^ 54 else 0

namespace ManagerSetup

variable (S : ManagerSetup)

/-- `token_range_` takes an unsigned 64-bit number. -/
def tokenRange (userId : Int) : Bool := (userId % 2 ^ 64).toNat % S.mod = S.rem

def perBotLimit : Int := max 1 (S.fileStreamMaxConnections.tdiv 4)

/-- The address under which the flood control knows a peer. -/
def floodIpAddress (peerIpAddress : Slice) : Slice :=
  if peerIpAddress = [] then [] else S.normalizeIpAddress peerIpAddress

end ManagerSetup

/-- The number before the first colon. -/
def tokenUserId (token : Slice) : Option Int := toIntegerSafe (token.takeWhile (· ≠ ':'))

def isTokenMalformed (token : Slice) : Bool :=
  token.head? = some '0' || 80 < token.length || '/' ∈ token || ':' ∉ token

namespace ClientManager

variable (S : ManagerSetup) (now : ℚ) (s : ClientManager)

def emit (action : ManagerAction) : ClientManager := { s with out := s.out ++ [action] }

def check (condition : Bool) : ClientManager := { s with crashed := s.crashed || !condition }

def storedWebhook (token : Slice) (isTestDc : Bool) : Slice :=
  (s.webhookDb.lookup (tokenWithDc token isTestDc)).getD []

/-- The answer of `send_file_stream` to a request that fails its checks. -/
def streamError (r : StreamRequest) : Option Status :=
  if s.workdirDiskEmergency then
    some ⟨507, "Telegram workdir disk space exhausted; service is shutting down"⟩
  else if s.closeFlag then some ⟨503, "Bot API server is closing"⟩
  else if ¬ S.fileStreamingEnabled then some ⟨404, "File streaming endpoint is disabled"⟩
  else if (S.fileStreamMaxConnections % 2 ^ 64).toNat ≤ s.activeFileStreamIds.card then
    some ⟨429, "Too many active file streams"⟩
  else if r.token = [] ∨ isTokenMalformed r.token then some ⟨401, "Invalid token specified"⟩
  else match tokenUserId r.token with
    | none => some ⟨401, "Invalid token specified"⟩
    | some userId =>
      if userId ≤ 0 ∨ 2 ^ 54 ≤ userId then some ⟨401, "Invalid token specified"⟩
      else if ¬ S.tokenRange userId then some ⟨421, "Unallowed token specified"⟩
      else if r.fileId = [] ∨ 4096 < r.fileId.length then some ⟨400, "Invalid file_id specified"⟩
      else if S.perBotLimit ≤
          RefCount.count s.activeFileStreamsByToken (tokenKey r.token r.isTestDc) then
        some ⟨429, "Too many active file streams for this token"⟩
      else none

/-- The flood control of an address; `some` is the time until which it has to wait. -/
def checkIpFlood (ipAddress : Slice) : Option ℚ × ClientManager :=
  let control := (s.floodControls.lookup ipAddress).getD (.ofLimits [(60, 20), (60 * 60, 600)])
  if now < control.wakeupAt then
    (some control.wakeupAt, { s with floodControls := s.floodControls.insert ipAddress control })
  else (none, { s with floodControls := s.floodControls.insert ipAddress (control.addEvent now) })

def checkGlobalFlood : Option ℚ × ClientManager :=
  if s.isGlobalFloodControlEnabled then
    if now < s.globalFloodControl.wakeupAt then (some s.globalFloodControl.wakeupAt, s)
    else (none, { s with globalFloodControl := s.globalFloodControl.addEvent now })
  else (none, s)

/-- Both flood controls, in the order of the source; an empty address is not controlled. -/
def checkFlood (ipAddress : Slice) : Option ℚ × ClientManager :=
  if ipAddress = [] then s.checkGlobalFlood now
  else match s.checkIpFlood now ipAddress with
    | (some wakeupAt, s) => (some wakeupAt, s)
    | (none, s) => s.checkGlobalFlood now

def createClient (token : Slice) (isTestDc : Bool) : ClientManager :=
  let tqueueId := getTqueueId ((tokenUserId token).getD 0) isTestDc
  { s with
    clients := s.clients.insert s.nextClientId ⟨tokenKey token isTestDc, tqueueId⟩
    nextClientId := s.nextClientId + 1
    tokenToId := s.tokenToId.insert (tokenKey token isTestDc) s.nextClientId
    out := s.out ++ [.createClient s.nextClientId token isTestDc tqueueId] }

/-- The end of `send_file_stream`, for a bot whose client has the given id. -/
def admitStream (r : StreamRequest) (id : Nat) : ClientManager :=
  let key := tokenKey r.token r.isTestDc
  { s with
    activeFileStreamIds := insert r.streamId s.activeFileStreamIds
    activeFileStreamToken := s.activeFileStreamToken.insert r.streamId key
    activeFileStreamsByToken := RefCount.retain s.activeFileStreamsByToken key
    out := s.out ++ [.setClient r.streamId id,
      .startFileStream id ⟨r.streamId, r.fileId, r.expectedSize⟩] }

def tooManyAttempts : Status := ⟨429, "Too many authentication attempts"⟩

def sendFileStream (r : StreamRequest) : ClientManager :=
  match s.streamError S r with
  | some error => s.emit (.onFileError r.streamId error)
  | none =>
    match s.tokenToId.lookup (tokenKey r.token r.isTestDc) with
    | some id => s.admitStream r id
    | none =>
      match s.checkFlood now (S.floodIpAddress r.peerIpAddress) with
      | (some _, s) => s.emit (.onFileError r.streamId tooManyAttempts)
      | (none, s) => (s.createClient r.token r.isTestDc).admitStream r s.nextClientId

def releaseFileStream (streamId : Int) : ClientManager :=
  let t := { s with activeFileStreamIds := s.activeFileStreamIds.erase streamId }
  match s.activeFileStreamToken.lookup streamId with
  | none => t
  | some key =>
    { t with
      activeFileStreamsByToken := RefCount.release s.activeFileStreamsByToken key
      activeFileStreamToken := s.activeFileStreamToken.erase streamId }

def queryError (query : BotQuery) : Option Status :=
  if isTokenMalformed query.token then some ⟨401, "Unauthorized: invalid token specified"⟩
  else match tokenUserId query.token with
    | none => some ⟨421, "Misdirected Request: unallowed token specified"⟩
    | some userId =>
      if ¬ S.tokenRange userId then some ⟨421, "Misdirected Request: unallowed token specified"⟩
      else if userId ≤ 0 ∨ 2 ^ 54 ≤ userId then some ⟨401, "Unauthorized: invalid token specified"⟩
      else none

def changesWebhook (query : BotQuery) : Bool :=
  query.method = "deletewebhook".toList || query.method = "setwebhook".toList

/-- The messages of `send` to a client it has just created. -/
def restoreWebhook (query : BotQuery) (id : Nat) : ClientManager :=
  let webhookInfo := s.storedWebhook query.token query.isTestDc
  if ¬ changesWebhook query ∧ webhookInfo ≠ [] then
    s.emit (.sendQuery id
      (getWebhookRestoreQuery (tokenWithDc query.token query.isTestDc) webhookInfo))
  else s

def alreadyClosed : Status := ⟨400, "Bad Request: the bot has already been closed"⟩

def send (query : BotQuery) : ClientManager :=
  if s.closeFlag then s
  else match queryError S query with
    | some error => s.emit (.failQuery query error)
    | none =>
      match s.tokenToId.lookup (tokenKey query.token query.isTestDc) with
      | some id => s.emit (.sendQuery id query)
      | none =>
        if query.method = "close".toList then s.emit (.failQuery query alreadyClosed)
        else
          match s.checkFlood now (S.floodIpAddress query.peerIpAddress) with
          | (some wakeupAt, s) => s.emit (.setRetryAfterError query (⌊wakeupAt - now⌋ + 1))
          | (none, s) =>
            ((s.createClient query.token query.isTestDc).restoreWebhook query s.nextClientId).emit
              (.sendQuery s.nextClientId query)

/-- `raw_event`: an authorized client becomes active or stops being it. -/
def rawEvent (id : Nat) (isActive : Bool) : ClientManager :=
  match s.clients.lookup id with
  | none => s.check false
  | some info =>
    if isActive then
      { s with activeClientCount := RefCount.retain s.activeClientCount info.tqueueId }
    else
      { s.check (0 < RefCount.count s.activeClientCount info.tqueueId) with
        activeClientCount := RefCount.release s.activeClientCount info.tqueueId }

def closeDb : ClientManager := { s with closeDbStarted := true }

def hangupShared (id : Nat) : ClientManager :=
  match s.clients.lookup id with
  | none => s.check false
  | some info =>
    let t := { s with
      tokenToId := s.tokenToId.erase info.token
      clients := s.clients.erase id }
    if s.closeFlag ∧ t.clients.keys = [] then
      (t.check (s.activeClientCount.keys = [])).closeDb
    else t

def close : ClientManager :=
  if s.closeFlag then s
  else
    let t := { s with
      closeFlag := true
      out := s.out ++ s.clients.keys.map .closeClient }
    if s.clients.keys = [] then t.closeDb else t

def timeoutExpired : ClientManager :=
  if s.closeFlag then { s with stopped := true }
  else if ¬ s.isGlobalFloodControlEnabled ∧ ¬ S.localMode then
    { s with
      isGlobalFloodControlEnabled := true
      globalFloodControl := .ofLimits [(60, 1000), (60 * 60, 10000)] }
  else s

inductive Event where
  | send (query : BotQuery)
  | sendFileStream (r : StreamRequest)
  | releaseFileStream (streamId : Int)
  | hangupShared (id : Nat)
  | rawEvent (id : Nat) (isActive : Bool)
  | close
  | timeoutExpired
  | finishClose
  | setWebhookDb (key value : Slice)
  | setDiskEmergency (value : Bool)
  deriving DecidableEq

def handle : Event → ClientManager
  | .send query => s.send S now query
  | .sendFileStream r => s.sendFileStream S now r
  | .releaseFileStream streamId => s.releaseFileStream streamId
  | .hangupShared id => s.hangupShared id
  | .rawEvent id isActive => s.rawEvent id isActive
  | .close => s.close
  | .timeoutExpired => s.timeoutExpired S
  | .finishClose => { s with stopped := true }
  | .setWebhookDb key value => { s with webhookDb := s.webhookDb.insert key value }
  | .setDiskEmergency value => { s with workdirDiskEmergency := value }

structure Input where
  event : Event
  now : ℚ := 0
  deriving DecidableEq

/-- One message delivered to the actor; a stopped or crashed actor handles none. -/
def step (x : Input) : ClientManager :=
  let t := { s with out := [] }
  if s.stopped ∨ s.crashed then t else t.handle S x.now x.event

end ClientManager

end TelegramBotApi
