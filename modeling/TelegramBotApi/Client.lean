import TelegramBotApi.TdApi
import TelegramBotApi.Multimap

/-!
# The client actor

One `Client` serves one bot. The record below has the members that authorization, closing, `getFile`
and file streaming read or write; other Bot API methods appear only as the action `processQuery`.
`out` collects what the current handler sends to TDLib, to streams, to waiting queries and to the
client manager. A failed `CHECK` sets `crashed`. Times are integers in nanoseconds.
-/

namespace TelegramBotApi

inductive ClientAction where
  | request (id : Nat) (request : TdRequest)
  | stream (streamId : Int) (event : StreamEvent)
  | failQuery (query : Query) (error : Status)
  | failQueryWithError (query : Query) (error : Status) (defaultMessage : String)
  | setRetryAfterError (query : Query) (retryAfter : Int)
  | answerFile (query : Query) (file : TdFile) (withPath : Bool)
  | answerTrue (query : Query)
  | processQuery (query : Query)
  | parentEvent (isActive : Bool)
  deriving DecidableEq

structure Client where
  startTime : Int := 0
  wasAuthorized : Bool := false
  closing : Bool := false
  loggingOut : Bool := false
  needClose : Bool := false
  clearTqueue : Bool := false
  isApiIdInvalid : Bool := false
  nextAuthorizationTime : Int := 0
  tdClient : Bool := false
  authorizationState : AuthorizationState := .waitTdlibParameters
  myId : Int := -1
  users : List Int := []
  nextHandlerId : Nat := 1
  handlers : AList fun _ : Nat => TdQueryCallback := ∅
  fileDownloadListeners : Multimap Int Query := .empty
  downloadStartedFileIds : List Int := []
  fileStreamListeners : Multimap Int Int := .empty
  activeFileStreams : List Int := []
  pendingFileStreams : List PendingFileStream := []
  pendingUpdates : List TdUpdate := []
  cmdQueue : List Query := []
  stopped : Bool := false
  crashed : Bool := false
  out : List ClientAction := []

structure ClosingError where
  code : Int
  retryAfter : Int := 0
  message : String

namespace Client

variable (S : ClientSetup) (now : Int) (s : Client)

def second : Int := 10 ^ 9

def maxDownloadFileSize : Int := 20 * 2 ^ 20

def emit (action : ClientAction) : Client := { s with out := s.out ++ [action] }

/-- `send_closure` to the streams of `ids`, in order. -/
def toStreams (ids : List Int) (event : StreamEvent) : Client :=
  { s with out := s.out ++ ids.map (.stream · event) }

def check (condition : Bool) : Client := { s with crashed := s.crashed || !condition }

def isClosing : Bool := s.closing || s.loggingOut

def getRetryAfterTime (errorMessage : String) : Int :=
  let start := "Too Many Requests: retry after ".toList
  if Slice.beginsWith errorMessage.toList start then
    match toIntegerSafe (errorMessage.toList.drop start.length) with
    | some retryAfter => if 0 < retryAfter ∧ retryAfter < 2 ^ 31 then retryAfter else 0
    | none => 0
  else 0

def getClosingError : ClosingError :=
  if s.loggingOut then
    if s.isApiIdInvalid then { code := 401, message := "Unauthorized: invalid api-id/api-hash" }
    else if 0 < s.nextAuthorizationTime then
      let retryAfter := max ((s.nextAuthorizationTime - now).tdiv second) 0 + 1
      { code := 429, retryAfter := retryAfter,
        message := "Too Many Requests: retry after " ++ toString retryAfter }
    else if s.clearTqueue then { code := 400, message := "Logged out" }
    else { code := 401, message := "Unauthorized" }
  else { code := 500, message := "Internal Server Error: restart" }

def closingStatus : Status := ⟨(s.getClosingError now).code, (s.getClosingError now).message⟩

def failQueryClosing (query : Query) : Client :=
  let error := s.getClosingError now
  if 0 < error.retryAfter then s.emit (.setRetryAfterError query error.retryAfter)
  else s.emit (.failQuery query ⟨error.code, error.message⟩)

def doSendRequest (request : TdRequest) (handler : TdQueryCallback) : Client :=
  let t := s.check s.tdClient
  { t with
    nextHandlerId := s.nextHandlerId + 1
    handlers := s.handlers.insert s.nextHandlerId handler
    out := s.out ++ [.request s.nextHandlerId request] }

/-- What `log_out` remembers of the error, for the answers to later requests. -/
def noteLogOut (errorCode : Int) (errorMessage : String) : Client :=
  if errorMessage = "API_ID_INVALID" then { s with isApiIdInvalid := true }
  else if errorCode = 429 then
    let retryAfterTime := getRetryAfterTime errorMessage
    if 0 < retryAfterTime then
      { s with nextAuthorizationTime := max s.nextAuthorizationTime (now + retryAfterTime * second) }
    else s
  else if 500 ≤ errorCode then
    { s with nextAuthorizationTime := max s.nextAuthorizationTime (now + second) }
  else s

def logOut (errorCode : Int) (errorMessage : String) : Client :=
  let t := s.noteLogOut now errorCode errorMessage
  if s.tdClient ∧ ¬ s.loggingOut ∧ ¬ s.closing then t.doSendRequest .logOut .onOk else t

/-- `Client::close`; with no TDLib client left the actor is stopped by its timeout. -/
def close : Client :=
  let t := { s with needClose := true }
  if s.tdClient ∧ ¬ s.closing then t.doSendRequest .close .onOk else t

def onFileDownload (fileId : Int) (file : Except Status TdFile) : Client :=
  let queries := s.fileDownloadListeners.get fileId
  if queries = [] then s
  else
    { s with
      fileDownloadListeners := s.fileDownloadListeners.drop fileId
      downloadStartedFileIds := s.downloadStartedFileIds.filter (· ≠ fileId)
      out := s.out ++ queries.map fun query => match file with
        | .error error => .failQueryWithError query error ""
        | .ok file => .answerFile query file true }

/-- An error given to a callback while the request is being sent. -/
def onInlineError (error : Status) : TdQueryCallback → Client
  | .onFileStreamRemoteFile streamId _ =>
    if streamId ∈ s.activeFileStreams then s.emit (.stream streamId (.onFileError error)) else s
  | .onFileStreamDownload fileId =>
    s.toStreams (s.fileStreamListeners.get fileId) (.onFileError error)
  | .onDownloadFile fileId => s.onFileDownload fileId (.error error)
  | .onCheckRemoteFileId query _ => s.emit (.failQueryWithError query error "invalid file_id")
  | .onOkQuery query => s.emit (.failQueryWithError query error "")
  | .onInit => s.close
  | .onAuthorization =>
    -- with the state still ready, the callback and `on_update_authorization_state` call each other
    if error.code ≠ 401 ∧ s.authorizationState ≠ .waitPhoneNumber then { s with crashed := true }
    else s.logOut now error.code error.message
  | .onCancelDownloadFile | .onDeleteFile _ | .onOk => s

def sendRequest (request : TdRequest) (handler : TdQueryCallback) : Client :=
  if s.isClosing then s.onInlineError now (s.closingStatus now) handler
  else s.doSendRequest request handler

def fileTooBig : Status := ⟨400, "Bad Request: file is too big"⟩

def fileUnavailable : Status :=
  ⟨400, "Bad Request: wrong file_id or the file is temporarily unavailable"⟩

/-- `on_update_file` after the streams were told. -/
def updateFileDownload (file : TdFile) : Client :=
  if s.fileDownloadListeners.get file.id = [] then s
  else if ¬ S.localMode ∧ maxDownloadFileSize < file.downloadedSize then
    (if file.progress.isDownloadingActive then
      s.sendRequest now (.cancelDownloadFile file.id) .onCancelDownloadFile else s).onFileDownload
        file.id (.error fileTooBig)
  else if file.progress.isCompleted then s.onFileDownload file.id (.ok file)
  else if ¬ file.progress.isDownloadingActive ∧ file.id ∈ s.downloadStartedFileIds then
    s.onFileDownload file.id (.error (if s.isClosing then s.closingStatus now else fileUnavailable))
  else s

def onUpdateFile (file : TdFile) : Client :=
  (s.toStreams (s.fileStreamListeners.get file.id)
    (.onFileProgress file.size file.progress)).updateFileDownload S now file

def doGetFile (file : TdFile) (query : Query) : Client :=
  if ¬ S.localMode ∧ maxDownloadFileSize < max file.expectedSize file.downloadedSize then
    s.emit (.failQuery query fileTooBig)
  else
    { s with fileDownloadListeners := s.fileDownloadListeners.push file.id query }.sendRequest now
      (.downloadFile file.id) (.onDownloadFile file.id)

def processGetFileQuery (query : Query) (fileId : Slice) (metadataOnly : Bool) : Client :=
  if fileId = [] then s.emit (.failQuery query ⟨400, "Bad Request: file_id not specified"⟩)
  else s.sendRequest now (.getRemoteFile fileId) (.onCheckRemoteFileId query metadataOnly)

/-- `on_cmd` once `close` and `logout` have been dealt with. -/
def processQuery (query : Query) : Client :=
  if s.isClosing then s.failQueryClosing now query
  else match query.method with
    | .getFile fileId metadataOnly => s.processGetFileQuery now query fileId metadataOnly
    | _ => s.emit (.processQuery query)

def onCmd (query : Query) : Client :=
  if s.tdClient ∧ s.wasAuthorized then match query.method with
    | .close =>
      let retryAfter := (600 * second - (now - s.startTime)).tdiv second
      if 0 < retryAfter ∧ S.serverStartTime + 600 * second < s.startTime then
        s.emit (.setRetryAfterError query retryAfter)
      else { s with needClose := true }.doSendRequest .close (.onOkQuery query)
    | .logout => { s with clearTqueue := true }.doSendRequest .logOut (.onOkQuery query)
    | _ => s.processQuery now query
  else s.processQuery now query

def loop : Client :=
  if s.wasAuthorized ∨ s.isClosing then
    s.cmdQueue.foldl (fun t query => t.onCmd S now query) { s with cmdQueue := [] }
  else s

def send (query : Query) : Client := { s with cmdQueue := s.cmdQueue ++ [query] }.loop S now

def invalidFileId : Status := ⟨400, "Invalid file_id specified"⟩

/-- `start_file_stream` of an authorized client. -/
def requestFileStream (p : PendingFileStream) : Client :=
  if s.isClosing then s.emit (.stream p.streamId (.onFileError (s.closingStatus now)))
  else if p.fileId = [] ∨ 4096 < p.fileId.length then
    s.emit (.stream p.streamId (.onFileError invalidFileId))
  else s.sendRequest now (.getRemoteFile p.fileId)
    (.onFileStreamRemoteFile p.streamId p.expectedSize)

def startFileStream (p : PendingFileStream) : Client :=
  let t := { s with activeFileStreams := s.activeFileStreams.insert p.streamId }
  if ¬ s.wasAuthorized then { t with pendingFileStreams := s.pendingFileStreams ++ [p] }
  else t.requestFileStream now p

/-- The end of `remove_file_stream`, for a stream that leaves the listeners of `fileId`. -/
def removeListener (streamId fileId : Int) (removeLocalFile : Bool) : Client :=
  let rest := (s.fileStreamListeners.get fileId).filter (· ≠ streamId)
  let t := { s with fileStreamListeners := s.fileStreamListeners.set fileId rest }
  if rest ≠ [] ∨ s.fileDownloadListeners.get fileId ≠ [] then t
  else if removeLocalFile then t.sendRequest now (.deleteFile fileId) (.onDeleteFile fileId)
  else t.sendRequest now (.cancelDownloadFile fileId) .onCancelDownloadFile

def removeFileStream (streamId fileId : Int) (removeLocalFile : Bool) : Client :=
  let t := { s with
    activeFileStreams := s.activeFileStreams.filter (· ≠ streamId)
    pendingFileStreams := s.pendingFileStreams.filter (·.streamId ≠ streamId) }
  if fileId = 0 ∨ s.fileStreamListeners.get fileId = [] then t
  else t.removeListener now streamId fileId removeLocalFile

def sizeUnavailable : Status := ⟨502, "Exact file size is unavailable from Telegram"⟩

/-- `resolve_file_stream_size`; the expected size is not used. -/
def resolveFileStreamSize (tdlibSize _expectedSize : Int) : Except Status Int :=
  if 0 < tdlibSize then .ok tdlibSize else .error sizeUnavailable

/-- `TdOnFileStreamRemoteFileCallback::on_result` for an active stream and a file of known size. -/
def joinFileStream (streamId totalSize : Int) (file : TdFile) : Client :=
  let t := { s with
    fileStreamListeners := s.fileStreamListeners.push file.id streamId
    out := s.out ++ [.stream streamId (.onFileReady file.id totalSize file.progress)] }
  if s.fileStreamListeners.get file.id = [] then
    t.sendRequest now (.downloadFile file.id) (.onFileStreamDownload file.id)
  else t

def onRemoteFile (streamId expectedSize : Int) (file : TdFile) : Client :=
  if streamId ∈ s.activeFileStreams then
    match resolveFileStreamSize file.size expectedSize with
    | .error error => s.emit (.stream streamId (.onFileError error))
    | .ok totalSize => s.joinFileStream now streamId totalSize file
  else s

/-- A token of the form `id:secret` with a base64url secret of at least 24 characters. -/
def isTokenAccepted (token : Slice) : Bool :=
  match Slice.find token ':' with
  | none => false
  | some colonPos =>
    isBase64Url (token.drop (colonPos + 1)) && 24 ≤ (token.drop (colonPos + 1)).length

def finishClosing : Client := if s.needClose then { s with stopped := true } else s

def closingStream : Status := ⟨503, "Bot API client is closing"⟩

/-- What `on_closed` answers: queued commands, `getFile` queries and streams. -/
def failAll : Client :=
  let t := (s.cmdQueue ++ s.fileDownloadListeners.values).foldl
    (fun t query => t.failQueryClosing now query)
    { s with
      tdClient := false
      cmdQueue := []
      fileDownloadListeners := .empty }
  { t.toStreams s.activeFileStreams (.onFileError closingStream) with
    activeFileStreams := []
    pendingFileStreams := []
    fileStreamListeners := .empty
    downloadStartedFileIds := [] }

/-- While logging out, `finish_closing` runs after the working directory was removed. -/
def onClosed : Client :=
  let t := (s.check (s.isClosing && s.tdClient)).failAll now
  if s.loggingOut then t else t.finishClosing

def onPlainUpdate : TdUpdate → Client
  | .file file => s.onUpdateFile S now file
  | .myId none => { s.check s.loggingOut with myId := -1 }
  | .myId (some value) => { s with myId := value }
  | .user userId => { s with users := s.users.insert userId }
  | .other => s

/-- The first arrival in `authorizationStateReady` with the bot's own user known. -/
def becomeAuthorized : Client :=
  let t := { s with
    wasAuthorized := true
    pendingFileStreams := []
    out := s.out ++ [ClientAction.parentEvent true] }
  let t := s.pendingFileStreams.foldl (fun t p => t.startFileStream now p) t
  { s.pendingUpdates.foldl (fun t update => t.onPlainUpdate S now update) t with
    pendingUpdates := [] }

def options : List String :=
  ["disable_network_statistics", "disable_time_adjustment_protection", "ignore_file_names",
    "ignore_inline_thumbnails", "reuse_uploaded_photos_by_hash", "use_storage_optimizer"]

/-- The client manager is told once that an authorized client stops being active. -/
def farewell (wasTold : Bool) : List ClientAction :=
  if s.wasAuthorized ∧ ¬ wasTold then [.parentEvent false] else []

def onUpdateAuthorizationState : Client :=
  match s.authorizationState with
  | .waitTdlibParameters =>
    (options.foldl (fun t name => t.sendRequest now (.setOption name) .onOk) s).sendRequest now
      .setTdlibParameters .onInit
  | .waitPhoneNumber =>
    (s.sendRequest now (.setOption "online") .onOk).sendRequest now
      (.checkAuthenticationBotToken S.token) .onAuthorization
  | .ready =>
    if s.myId ≤ 0 ∨ s.myId ∉ s.users then s.sendRequest now .getMe .onAuthorization
    else if ¬ s.wasAuthorized then (s.becomeAuthorized S now).loop S now
    else s.loop S now
  | .loggingOut =>
    if ¬ s.loggingOut then
      { s with
        loggingOut := true
        out := s.out ++ s.farewell s.closing }.loop S now
    else s.loop S now
  | .closing =>
    if ¬ s.closing then
      { s with
        closing := true
        out := s.out ++ s.farewell s.loggingOut }.loop S now
    else s.loop S now
  | .closed => s.onClosed now
  | .unknown => s.logOut now 500 "Unknown authorization state"

def allowUpdateBeforeAuthorization : TdUpdate → Bool
  | .myId _ | .user _ => true
  | .file _ | .other => false

def onUpdate (update : TdUpdate) : Client :=
  if ¬ s.wasAuthorized ∧ ¬ allowUpdateBeforeAuthorization update then
    { s with pendingUpdates := s.pendingUpdates ++ [update] }
  else s.onPlainUpdate S now update

/-- `TdOnAuthorizationCallback::on_result`. -/
def onAuthorizationResult (result : TdObject) : Client :=
  let wasReady := s.authorizationState ≠ .waitPhoneNumber
  match result with
  | .error error =>
    if error.code ≠ 401 ∧ wasReady then s.onUpdateAuthorizationState S now
    else s.logOut now error.code error.message
  | _ => if wasReady then s.onUpdateAuthorizationState S now else s

/-- The answer of TDLib to a request; an answer of the wrong type fails a `CHECK`. -/
def onCallback : TdQueryCallback → TdObject → Client
  | .onAuthorization, result => s.onAuthorizationResult S now result
  | handler, .error error => s.onInlineError now error handler
  | .onFileStreamRemoteFile streamId expectedSize, .file file =>
    s.onRemoteFile now streamId expectedSize file
  | .onFileStreamDownload _, .file file => s.onUpdateFile S now file
  | .onDownloadFile fileId, .file file =>
    (if s.fileDownloadListeners.get fileId = [] then s
      else { s with downloadStartedFileIds := s.downloadStartedFileIds.insert fileId }).onUpdateFile
        S now file
  | .onCheckRemoteFileId query metadataOnly, .file file =>
    if metadataOnly then s.emit (.answerFile query file false) else s.doGetFile S now file query
  | .onOkQuery query, .ok => s.emit (.answerTrue query)
  | .onFileStreamRemoteFile streamId _, _ => s.check (streamId ∉ s.activeFileStreams)
  | .onCancelDownloadFile, .ok | .onDeleteFile _, .ok | .onOk, _ | .onInit, _ => s
  | _, _ => s.check false

def onResult (id : Nat) (result : TdObject) : Client :=
  match s.handlers.lookup id with
  | none => s.check false
  | some handler =>
    let t := s.onCallback S now handler result
    { t with handlers := t.handlers.erase id }

/-- A rejected token leaves a client that is logging out and has no TDLib client. -/
def startUp : Client :=
  if isTokenAccepted S.token then { startTime := now, tdClient := true }
  else ({ startTime := now, loggingOut := true } : Client).finishClosing

inductive Event where
  | startFileStream (p : PendingFileStream)
  | removeFileStream (streamId fileId : Int) (removeLocalFile : Bool)
  | send (query : Query)
  | onResult (id : Nat) (result : TdObject)
  | onUpdate (update : TdUpdate)
  | onAuthorizationState (state : AuthorizationState)
  | close
  | finishClosing
  | timeoutExpired
  deriving DecidableEq

def handle : Event → Client
  | .startFileStream p => s.startFileStream now p
  | .removeFileStream streamId fileId removeLocalFile =>
    s.removeFileStream now streamId fileId removeLocalFile
  | .send query => s.send S now query
  | .onResult id result => s.onResult S now id result
  | .onUpdate update => s.onUpdate S now update
  | .onAuthorizationState state => { s with authorizationState := state }.onUpdateAuthorizationState S now
  | .close => s.close
  | .finishClosing => s.finishClosing
  | .timeoutExpired => { s with stopped := true }

structure Input where
  event : Event
  now : Int := 0
  deriving DecidableEq

/-- One message delivered to the actor; a stopped or crashed actor handles none. -/
def step (x : Input) : Client :=
  let t := { s with out := [] }
  if s.stopped ∨ s.crashed then t else t.handle S x.now x.event

end Client

end TelegramBotApi
