import TelegramBotApi.HttpHeader
import TelegramBotApi.FileStreamCursor
import TelegramBotApi.FileStreamRange

/-!
# The streaming actor

`FileStreamConnection` answers one HTTP request from a local file that TDLib is still downloading.
The record below has the members of the class that its handlers read or write; `out` collects, in
order, what the current handler sends to other actors and the reads it issues. Disk operations are
inputs: each event comes with the answers that `open` and `pread` give while it is processed.
-/

namespace TelegramBotApi

structure FileStreamConfig where
  chunkSize : Int := 262144
  writeHighWatermark : Int := 1048576
  maxSize : Int := 0
  /-- `std::numeric_limits<std::size_t>::max()` of the build. -/
  sizeMax : Int := 2 ^ 64 - 1
  deriving DecidableEq

structure FileStreamRoute where
  token : Slice
  fileId : Slice
  isTestDc : Bool := false
  expectedSize : Int := -1
  noCache : Bool := false
  range : Slice := []
  headOnly : Bool := false
  deriving DecidableEq

/-- The constructor arguments of a stream; no handler assigns them. -/
structure FileStreamSetup where
  streamId : Int
  route : FileStreamRoute
  config : FileStreamConfig := {}
  hasCleanupManager : Bool := false
  peerIpAddress : Slice := []
  deriving DecidableEq

/-- The part of a `td_api::localFile` that is forwarded to a stream. -/
structure FileProgress where
  localPath : Slice := []
  downloadOffset : Int := 0
  downloadedPrefixSize : Int := 0
  isCompleted : Bool := false
  isDownloadingActive : Bool := false
  deriving DecidableEq, Repr

/-- Answers of the file system; `pread` gets the path under which the descriptor was opened. -/
structure FileAccess where
  openFile : Slice → Except String Unit
  pread : Slice → Int → Int → Except String (List UInt8)

inductive Payload where
  | header (hc : HttpHeaderCreator)
  | content (text : Slice)
  | data (offset : Int) (bytes : List UInt8)
  deriving DecidableEq

inductive WritePromise where
  | onHeadersFlushed
  | onChunkFlushed
  deriving DecidableEq

/-- Messages of a stream to its HTTP connection, the cleanup manager, the client manager and the
client. -/
inductive StreamMessage where
  | writeNextWithPromise (buffer : Payload) (promise : WritePromise)
  | writeNextNoflush (buffer : Payload)
  | writeOk
  | writeError (error : Status)
  | touchActivity
  | retainFile (path : Slice)
  | releaseFile (path : Slice)
  | sendFileStream (streamId : Int) (token : Slice) (isTestDc : Bool) (fileId : Slice)
      (expectedSize : Int) (peerIpAddress : Slice)
  | releaseFileStream (streamId : Int)
  | removeFileStream (streamId fileId : Int) (removeLocalFile : Bool)
  deriving DecidableEq

inductive StreamAction where
  | send (message : StreamMessage)
  | pread (path : Slice) (offset count : Int)
  deriving DecidableEq

inductive StreamEvent where
  | setClient
  | onFileReady (fileId totalSize : Int) (progress : FileProgress)
  | onFileProgress (reportedTotalSize : Int) (progress : FileProgress)
  | onHeadersFlushed (result : Except Status Unit)
  | onChunkFlushed (result : Except Status Unit)
  | onFileError (error : Status)
  | timeoutExpired
  deriving DecidableEq

structure StreamInput where
  event : StreamEvent
  io : FileAccess

structure FileStreamConnection where
  connection : Bool := true
  client : Bool := false
  fileId : Int := 0
  localPath : Slice := []
  localFile : Option Slice := none
  cursor : FileStreamCursor := {}
  headersSent : Bool := false
  readInFlight : Bool := false
  writeInFlight : Bool := false
  downloadCompleted : Bool := false
  firstByteSent : Bool := false
  completedOk : Bool := false
  partialResponse : Bool := false
  pendingWriteOffset : Int := -1
  pendingWriteSize : Int := 0
  finished : Bool := false
  stopped : Bool := false
  out : List StreamAction := []
  deriving DecidableEq

namespace FileStreamSetup

def effectiveChunkSize (S : FileStreamSetup) : Int :=
  min S.config.chunkSize S.config.writeHighWatermark

def toSizeT (S : FileStreamSetup) (x : Int) : Nat := (x % (S.config.sizeMax + 1)).toNat

end FileStreamSetup

namespace FileStreamConnection

variable (S : FileStreamSetup) (io : FileAccess) (s : FileStreamConnection)

def emit (action : StreamAction) : FileStreamConnection := { s with out := s.out ++ [action] }

def send (message : StreamMessage) : FileStreamConnection := s.emit (.send message)

/-- `send_closure(std::move(connection_), ...)`. -/
def sendLast (message : StreamMessage) : FileStreamConnection :=
  { s.send message with connection := false }

def stop : FileStreamConnection := { s with stopped := true }

def startUp : FileStreamConnection :=
  ({} : FileStreamConnection).send (.sendFileStream S.streamId S.route.token S.route.isTestDc
    S.route.fileId S.route.expectedSize S.peerIpAddress)

def abort (error : Status) : FileStreamConnection :=
  if s.finished then s
  else
    let t := { s with finished := true }
    if s.connection then (t.sendLast (.writeError error)).stop else t.stop

def errorHeader (httpStatusCode : Int) (content : Slice) : HttpHeaderCreator :=
  let hc := (HttpHeaderCreator.initStatusLine httpStatusCode).setContentType "application/json"
  let hc := if httpStatusCode = 416 ∧ 0 ≤ s.cursor.totalSize then
    hc.addHeader "Content-Range" ("bytes */" ++ toString s.cursor.totalSize) else hc
  hc.setContentSize content.length

def fail (httpStatusCode : Int) (message : String) : FileStreamConnection :=
  if s.finished then s
  else if s.headersSent then s.abort ⟨httpStatusCode, message⟩
  else
    let content := jsonQueryError httpStatusCode message
    let hc := s.errorHeader httpStatusCode content
    let t := { s with finished := true }
    match hc.finish with
    | .error error => (t.sendLast (.writeError error)).stop
    | .ok _ =>
      let t := t.send (.writeNextNoflush (.header hc))
      let t := if S.route.headOnly then t else t.send (.writeNextNoflush (.content content))
      (t.sendLast .writeOk).stop

def finish : FileStreamConnection :=
  if s.finished then s
  else if ¬ s.cursor.isComplete ∨ s.readInFlight ∨ s.writeInFlight then
    s.abort ⟨500, "Attempted to finish an incomplete stream"⟩
  else
    let t := { s with finished := true, completedOk := true }
    if s.connection then (t.sendLast .writeOk).stop else t.stop

def onFileError (error : Status) : FileStreamConnection :=
  if s.finished then s
  else
    let code := if error.code < 400 ∨ 599 < error.code then 502 else error.code
    if ¬ s.headersSent then s.fail S code error.message else s.abort error

def timeoutExpired : FileStreamConnection :=
  s.onFileError S ⟨504, if s.firstByteSent then "File stream stalled"
    else "File stream first byte timeout"⟩

def contentSize : Int :=
  if s.cursor.totalSize = 0 then 0 else s.cursor.endOffset - s.cursor.startOffset + 1

def responseHeader : HttpHeaderCreator :=
  let hc := ((HttpHeaderCreator.initStatusLine (if s.partialResponse then 206 else 200)).setKeepAlive
    |>.setContentType "application/octet-stream" |>.setContentSize (S.toSizeT s.contentSize)
    |>.addHeader "Accept-Ranges" "bytes")
  let hc := if s.partialResponse then
    hc.addHeader "Content-Range" ("bytes " ++ toString s.cursor.startOffset ++ "-" ++
      toString s.cursor.endOffset ++ "/" ++ toString s.cursor.totalSize) else hc
  (hc.addHeader "Content-Disposition" "attachment").addHeader "Cache-Control" "private"

def sendHeaders : FileStreamConnection :=
  if s.headersSent then s
  else match (s.responseHeader S).finish with
    | .error _ => s.fail S 500 "Failed to create streaming response headers"
    | .ok _ => { s with headersSent := true }.send
        (.writeNextWithPromise (.header (s.responseHeader S)) .onHeadersFlushed)

def incompletePart : Status := ⟨500, "TDLib local file returned an incomplete part"⟩

def onFileData (offset : Int) (result : Except String (List UInt8)) : FileStreamConnection :=
  let t := { s with readInFlight := false }
  if s.finished then t
  else match result with
    | .error message => t.abort ⟨502, message⟩
    | .ok data =>
      if (data.length : Int) ≠ s.cursor.nextReadSize S.effectiveChunkSize ∨ data = [] then
        t.abort incompletePart
      else
        { t with
          writeInFlight := true
          pendingWriteOffset := offset
          pendingWriteSize := data.length }.send
            (.writeNextWithPromise (.data offset data) .onChunkFlushed)

def readChunk (path : Slice) (count : Int) : FileStreamConnection :=
  let t := { s with readInFlight := true }.emit (.pread path s.cursor.nextOffset count)
  match io.pread path s.cursor.nextOffset count with
  | .error message =>
    { t with readInFlight := false }.abort ⟨500, "Failed to read TDLib local file: " ++ message⟩
  | .ok data =>
    if (data.length : Int) ≠ count then
      if ¬ s.downloadCompleted then { t with readInFlight := false, localFile := none }
      else { t with readInFlight := false }.abort incompletePart
    else t.onFileData S s.cursor.nextOffset (.ok data)

def tryRead : FileStreamConnection :=
  if s.finished ∨ s.readInFlight ∨ s.writeInFlight ∨ s.cursor.totalSize < 0 then s
  else if s.cursor.isComplete then s.finish
  else
    let count := s.cursor.nextReadSize S.effectiveChunkSize
    if count = 0 then s
    else if count < 0 then s.abort ⟨500, "Invalid stream read size"⟩
    else if s.localPath = [] then s
    else match s.localFile with
      | some path => s.readChunk S io path count
      | none => match io.openFile s.localPath with
        | .error message =>
          if ¬ s.downloadCompleted then s
          else s.abort ⟨500, "Failed to open TDLib local file: " ++ message⟩
        | .ok _ => { s with localFile := some s.localPath }.readChunk S io s.localPath count

/-- Replaces `local_path_` and tells the cleanup manager. -/
def setLocalPath (path : Slice) : FileStreamConnection :=
  let t := if s.localPath ≠ [] ∧ S.hasCleanupManager then s.send (.releaseFile s.localPath) else s
  let t := { t with localPath := path }
  if S.hasCleanupManager then t.send (.retainFile path) else t

def incompleteFile : Status := ⟨502, "Telegram download completed with an incomplete file"⟩

/-- The end of `on_file_ready`, with the cursor and `download_completed_` in place. -/
def respond : FileStreamConnection :=
  if s.downloadCompleted ∧ s.cursor.contiguousEnd < s.cursor.totalSize then
    s.fail S 502 incompleteFile.message
  else if S.route.headOnly then s.sendHeaders S
  else (s.sendHeaders S).tryRead S io

def beginDownload (progress : FileProgress) : FileStreamConnection :=
  match s.cursor.updateProgress progress.downloadOffset progress.downloadedPrefixSize
      progress.isCompleted with
  | .error status => s.fail S 502 status.message
  | .ok cursor =>
    { s with cursor := cursor, downloadCompleted := progress.isCompleted }.respond S io

def selectRange (totalSize : Int) (progress : FileProgress) : FileStreamConnection :=
  match parseFileStreamRange S.route.range totalSize with
  | .error _ => s.fail S 416 "Range Not Satisfiable"
  | .ok range =>
    { s with
      partialResponse := range.isPartial
      cursor := s.cursor.setRange range.start range.stop }.beginDownload S io progress

def acceptSize (totalSize : Int) (progress : FileProgress) : FileStreamConnection :=
  if S.config.sizeMax < totalSize then s.fail S 413 "File is too large for this build"
  else if 0 < S.config.maxSize ∧ S.config.maxSize < totalSize then
    s.fail S 413 "File is too large for the streaming endpoint"
  else
    { s with cursor := { s.cursor with totalSize := totalSize } }.selectRange S io totalSize progress

def onFileReady (fileId totalSize : Int) (progress : FileProgress) : FileStreamConnection :=
  if s.finished then s
  else if fileId ≤ 0 ∨ totalSize < 0 then
    s.fail S 500 "Invalid file metadata received from TDLib"
  else
    let t := { s with fileId := fileId }
    let t := if progress.localPath ≠ [] ∧ s.localPath ≠ progress.localPath then
      t.setLocalPath S progress.localPath else t
    t.acceptSize S io totalSize progress

def sizeChanged : Status := ⟨502, "File size metadata changed during download"⟩

def downloadStopped : Status := ⟨502, "Telegram file download stopped before completion"⟩

/-- The end of `on_file_progress`, with the cursor and `download_completed_` in place. -/
def continueDownload (isDownloadingActive : Bool) : FileStreamConnection :=
  if ¬ s.downloadCompleted ∧ ¬ isDownloadingActive then s.abort downloadStopped
  else if s.downloadCompleted ∧ s.cursor.contiguousEnd < s.cursor.totalSize then
    s.abort incompleteFile
  else s.tryRead S io

def applyProgress (progress : FileProgress) : FileStreamConnection :=
  match s.cursor.updateProgress progress.downloadOffset progress.downloadedPrefixSize
      progress.isCompleted with
  | .error status => s.abort status
  | .ok cursor =>
    { s with
      cursor := cursor
      downloadCompleted := s.downloadCompleted || progress.isCompleted }.continueDownload S io
        progress.isDownloadingActive

/-- A new path closes the open descriptor before the cleanup manager is told. -/
def followPath (path : Slice) : FileStreamConnection :=
  if path ≠ [] ∧ s.localPath ≠ path then { s with localFile := none }.setLocalPath S path else s

def onFileProgress (reportedTotalSize : Int) (progress : FileProgress) : FileStreamConnection :=
  if s.finished ∨ s.cursor.totalSize < 0 then s
  else if 0 < reportedTotalSize ∧ reportedTotalSize ≠ s.cursor.totalSize then s.abort sizeChanged
  else (s.followPath S progress.localPath).applyProgress S io progress

def onChunkFlushed (result : Except Status Unit) : FileStreamConnection :=
  let t := { s with writeInFlight := false }
  if s.finished then t
  else match result with
    | .error error => t.abort error
    | .ok _ =>
      let t := { t with pendingWriteOffset := -1, pendingWriteSize := 0 }
      match s.cursor.commit s.pendingWriteOffset s.pendingWriteSize with
      | .error error => t.abort error
      | .ok cursor =>
        let t := { t with cursor := cursor, firstByteSent := true }
        (if s.connection then t.send .touchActivity else t).tryRead S io

def onHeadersFlushed (result : Except Status Unit) : FileStreamConnection :=
  if s.finished then s
  else match result with
    | .error error => s.abort error
    | .ok _ =>
      if S.route.headOnly then
        let t := { s with finished := true }
        if s.connection then (t.sendLast .writeOk).stop else t.stop
      else s

def tearDown : FileStreamConnection :=
  let t := { s with localFile := none }
  let t := if s.localPath ≠ [] ∧ S.hasCleanupManager then t.send (.releaseFile s.localPath) else t
  let t := t.send (.releaseFileStream S.streamId)
  let t := if s.client then
    t.send (.removeFileStream S.streamId s.fileId (S.route.noCache && s.completedOk)) else t
  { t with connection := false }

def handle : StreamEvent → FileStreamConnection
  | .setClient => { s with client := true }
  | .onFileReady fileId totalSize progress => s.onFileReady S io fileId totalSize progress
  | .onFileProgress size progress => s.onFileProgress S io size progress
  | .onHeadersFlushed result => s.onHeadersFlushed S result
  | .onChunkFlushed result => s.onChunkFlushed S io result
  | .onFileError error => s.onFileError S error
  | .timeoutExpired => s.timeoutExpired S

/-- A handler that stopped the actor is followed by `tear_down`. -/
def settle : FileStreamConnection := if s.stopped then s.tearDown S else s

/-- One message delivered to the actor; a stopped actor gets no further messages. -/
def step (x : StreamInput) : FileStreamConnection :=
  let t := { s with out := [] }
  if s.stopped then t else (t.handle S x.io x.event).settle S

end FileStreamConnection

end TelegramBotApi
