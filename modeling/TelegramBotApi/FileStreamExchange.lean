import TelegramBotApi.FileStreamHistory
import TelegramBotApi.HttpHeaderSize

/-!
# The exchange of a stream with its HTTP connection

A stream owns the HTTP connection from its start to the one message that ends the exchange. The
connection asserts that it is in the state `Write` whenever the stream writes, so the stream must not
send anything after that message. `Exchanged` describes what a handler of an open stream sends to the
connection: it stays open and has ended nothing, or it stops after one last message.
-/

namespace TelegramBotApi

open StreamHistory (announced)

namespace StreamMessage

def isForConnection : StreamMessage → Bool
  | .writeNextWithPromise .. | .writeNextNoflush _ | .writeOk | .writeError _ | .touchActivity => true
  | _ => false

def isEnding : StreamMessage → Bool
  | .writeOk | .writeError _ => true
  | _ => false

def isStatusLine (m : StreamMessage) : Bool :=
  match m.buffer with
  | some (.header _) => true
  | _ => false

end StreamMessage

open StreamMessage (isForConnection isEnding isStatusLine)

def StreamAction.toConnection : StreamAction → Option StreamMessage
  | .send m => if m.isForConnection then some m else none
  | _ => none

def StreamEntry.toConnection : StreamEntry → Option StreamMessage
  | .action a => a.toConnection
  | _ => none

def connectionMessages (h : List StreamEntry) : List StreamMessage :=
  h.filterMap StreamEntry.toConnection

def connectionActions (k : List StreamAction) : List StreamMessage :=
  k.filterMap StreamAction.toConnection

theorem connectionMessages_append (h k : List StreamEntry) :
    connectionMessages (h ++ k) = connectionMessages h ++ connectionMessages k :=
  List.filterMap_append

theorem connectionMessages_actions (k : List StreamAction) :
    connectionMessages (k.map .action) = connectionActions k := by
  unfold connectionMessages connectionActions
  rw [List.filterMap_map]
  rfl

theorem connectionActions_append (k l : List StreamAction) :
    connectionActions (k ++ l) = connectionActions k ++ connectionActions l := List.filterMap_append

/-- An exchange that is over: one last message ends it, and no message before. -/
def Over (l : List StreamMessage) : Prop :=
  ∃ body last, l = body ++ [last] ∧ last.isEnding = true ∧ ∀ m ∈ body, m.isEnding = false

theorem Over.append {k l : List StreamMessage} (hk : ∀ m ∈ k, m.isEnding = false) (hl : Over l) :
    Over (k ++ l) := by
  obtain ⟨body, last, rfl, hlast, hbody⟩ := hl
  refine ⟨k ++ body, last, by rw [List.append_assoc], hlast, fun m hm => ?_⟩
  rcases List.mem_append.1 hm with hm | hm
  · exact hk m hm
  · exact hbody m hm

/-- A complete JSON error response. -/
def ErrorResponse (S : FileStreamSetup) (l : List StreamMessage) : Prop :=
  ∃ code message hc, hc.status = code ∧
    hc.contentLength = some (toString (jsonQueryError code message).length) ∧
    (∃ text, hc.finish = .ok text) ∧
    l = [.writeNextNoflush (.header hc)] ++
      (if S.route.headOnly then [] else
        [.writeNextNoflush (.content (jsonQueryError code message))]) ++ [.writeOk]

namespace FileStreamConnection

variable {S : FileStreamSetup} {io : FileAccess} {s t u : FileStreamConnection}

def headerCount (s : FileStreamConnection) : Nat := if s.headersSent then 1 else 0

/-- What a handler of an open stream has done so far. -/
def Exchanged (s t : FileStreamConnection) : Prop :=
  ∃ k, t.out = s.out ++ k ∧
    ((t.Open ∧ (∀ m ∈ connectionActions k, m.isEnding = false) ∧
        s.headerCount + (connectionActions k).countP isStatusLine = t.headerCount) ∨
      (t.stopped = true ∧ t.finished = true ∧ Over (connectionActions k) ∧
        s.headerCount + (connectionActions k).countP isStatusLine ≤ 1))

theorem Exchanged.refl (hs : s.Open) : Exchanged s s :=
  ⟨[], (List.append_nil _).symm, Or.inl ⟨hs, by simp [connectionActions], by simp [connectionActions]⟩⟩

/-- The next part of a handler runs only if the stream is still open. -/
theorem Exchanged.trans (h₁ : Exchanged s t) (hopen : t.Open → Exchanged t u)
    (hdone : t.finished = true → u = t) : Exchanged s u := by
  obtain ⟨k, hk, ⟨ht, hno, hcount⟩ | h⟩ := h₁
  · obtain ⟨l, hl, h₂⟩ := hopen ht
    refine ⟨k ++ l, by rw [hl, hk, List.append_assoc], ?_⟩
    rw [connectionActions_append, List.countP_append]
    rcases h₂ with ⟨hu, hno', hcount'⟩ | ⟨hstop, hfin, hover, hcount'⟩
    · refine Or.inl ⟨hu, fun m hm => ?_, by omega⟩
      rcases List.mem_append.1 hm with hm | hm
      · exact hno m hm
      · exact hno' m hm
    · exact Or.inr ⟨hstop, hfin, hover.append hno, by omega⟩
  · rw [hdone h.2.1]
    exact ⟨k, hk, Or.inr h⟩

/-- A stream that ends with the given actions. -/
theorem exchanged_ended {k : List StreamAction} (hover : Over (connectionActions k))
    (hcount : s.headerCount + (connectionActions k).countP isStatusLine ≤ 1) :
    Exchanged s (s.ended k) := ⟨k, rfl, Or.inr ⟨rfl, rfl, hover, hcount⟩⟩

theorem headerCount_le (s : FileStreamConnection) : s.headerCount ≤ 1 := by
  unfold headerCount
  split_ifs <;> omega

theorem over_singleton {m : StreamMessage} (hm : m.isEnding = true) : Over [m] :=
  ⟨[], m, rfl, hm, by simp⟩

theorem exchanged_abort (hs : s.Open) (error : Status) : Exchanged s (s.abort error) := by
  rw [abort_eq hs]
  refine exchanged_ended (over_singleton rfl) ?_
  have h := s.headerCount_le
  simpa [connectionActions, StreamAction.toConnection, isForConnection, isStatusLine,
    StreamMessage.buffer] using h

theorem exchanged_failActions {code : Int} {k : List StreamAction} (hh : s.headersSent = false)
    (hk : FailActions S code k) : Exchanged s (s.ended k) := by
  have hzero : s.headerCount = 0 := by simp [headerCount, hh]
  cases hk with
  | refused error =>
      refine exchanged_ended (over_singleton rfl) ?_
      simp [hzero, connectionActions, StreamAction.toConnection, isForConnection, isStatusLine,
        StreamMessage.buffer]
  | headOnly hc hcode hhead =>
      refine exchanged_ended ⟨[.writeNextNoflush (.header hc)], .writeOk, rfl, rfl, ?_⟩ ?_
      · simp [isEnding]
      · rw [hzero]
        exact Nat.le_refl 1
  | full hc text hcode hhead =>
      refine exchanged_ended
        ⟨[.writeNextNoflush (.header hc), .writeNextNoflush (.content text)], .writeOk, rfl, rfl, ?_⟩ ?_
      · simp [isEnding]
      · rw [hzero]
        exact Nat.le_refl 1

theorem exchanged_fail (hs : s.Open) (code : Int) (message : String) :
    Exchanged s (s.fail S code message) := by
  cases hh : s.headersSent with
  | true =>
      unfold fail
      rw [if_neg (by simp [hs.finished]), if_pos hh]
      exact exchanged_abort hs _
  | false =>
      obtain ⟨k, he, hk⟩ := fail_cases (S := S) hs hh code message
      rw [he]
      exact exchanged_failActions hh hk

theorem exchanged_onFileError (hs : s.Open) (error : Status) :
    Exchanged s (s.onFileError S error) := by
  unfold onFileError
  simp only [hs.finished, Bool.false_eq_true, if_false]
  split_ifs
  · exact exchanged_abort hs error
  · exact exchanged_fail hs _ _
  · exact exchanged_fail hs _ _

/-- Actions that do not concern the connection. -/
theorem exchanged_silent (ht : t.Open) (hsent : t.headersSent = s.headersSent)
    {k : List StreamAction} (hk : t.out = s.out ++ k) (hnone : connectionActions k = []) :
    Exchanged s t := by
  refine ⟨k, hk, Or.inl ⟨ht, by simp [hnone], ?_⟩⟩
  simp [hnone, headerCount, hsent]

theorem connectionActions_pathActions (s : FileStreamConnection) (path : Slice) :
    connectionActions (pathActions S s path) = [] := by
  unfold pathActions connectionActions
  rw [List.filterMap_eq_nil_iff]
  intro a ha
  rcases List.mem_append.1 ha with h | h <;> split_ifs at h
  · rw [List.mem_singleton.1 h]
    rfl
  · cases h
  · rw [List.mem_singleton.1 h]
    rfl
  · cases h

theorem exchanged_setLocalPath (hs : s.Open) (path : Slice) : Exchanged s (s.setLocalPath S path) := by
  rw [setLocalPath_eq]
  exact exchanged_silent ⟨hs.connection, hs.readInFlight, hs.finished, hs.stopped⟩ rfl rfl
    (connectionActions_pathActions s path)

theorem exchanged_tryRead (io : FileAccess) (hs : s.Open) : Exchanged s (s.tryRead S io) := by
  have hle := s.headerCount_le
  have h := tryRead_outcome (S := S) io hs
  revert h
  generalize s.tryRead S io = t
  intro h
  cases h with
  | waiting => exact Exchanged.refl hs
  | complete hc hw =>
      exact ⟨[.send .writeOk], rfl, Or.inr ⟨rfl, rfl, over_singleton rfl, hle⟩⟩
  | notOpened error => exact exchanged_ended (over_singleton rfl) hle
  | notRead path error hpos =>
      exact ⟨[preadNext S s path, .send (.writeError error)], rfl,
        Or.inr ⟨rfl, rfl, over_singleton rfl, hle⟩⟩
  | short path hpos =>
      exact exchanged_silent ⟨hs.connection, hs.readInFlight, hs.finished, hs.stopped⟩ rfl rfl rfl
  | block path data hb =>
      refine ⟨_, rfl, Or.inl ⟨⟨hs.connection, hs.readInFlight, hs.finished, hs.stopped⟩, ?_, rfl⟩⟩
      intro m hm
      rw [List.mem_singleton.1 (show m ∈ [StreamMessage.writeNextWithPromise
        (.data s.cursor.nextOffset data) .onChunkFlushed] from hm)]
      rfl

theorem exchanged_sendHeaders (hs : s.Open) : Exchanged s (s.sendHeaders S) := by
  unfold sendHeaders
  by_cases hh : s.headersSent = true
  · rw [if_pos hh]
    exact Exchanged.refl hs
  rw [if_neg hh]
  split
  · exact exchanged_fail hs _ _
  · refine ⟨_, rfl, Or.inl ⟨⟨hs.connection, hs.readInFlight, hs.finished, hs.stopped⟩, ?_, ?_⟩⟩
    · intro m hm
      rw [List.mem_singleton.1 (show m ∈ [StreamMessage.writeNextWithPromise
        (.header (s.responseHeader S)) .onHeadersFlushed] from hm)]
      rfl
    · have hzero : s.headerCount = 0 := by simp [headerCount, hh]
      rw [hzero]
      rfl

theorem exchanged_respond (io : FileAccess) (hs : s.Open) : Exchanged s (s.respond S io) := by
  unfold respond
  split_ifs
  · exact exchanged_fail hs _ _
  · exact exchanged_sendHeaders hs
  · refine (exchanged_sendHeaders hs).trans (fun h => exchanged_tryRead io h) fun h => ?_
    unfold tryRead
    rw [if_pos (Or.inl h)]

/-- A handler that only assigns fields first. -/
theorem Exchanged.of_same (ht : t.out = s.out) (hsent : t.headersSent = s.headersSent)
    (h : Exchanged t u) : Exchanged s u := by
  obtain ⟨k, hk, h⟩ := h
  have hcount : t.headerCount = s.headerCount := by
    unfold headerCount
    rw [hsent]
  rw [hcount] at h
  exact ⟨k, by rw [hk, ht], h⟩

theorem exchanged_beginDownload (io : FileAccess) (hs : s.Open) (progress : FileProgress) :
    Exchanged s (s.beginDownload S io progress) := by
  unfold beginDownload
  split
  · exact exchanged_fail hs _ _
  · rename_i cursor hcursor
    have ht : Open { s with cursor := cursor, downloadCompleted := progress.isCompleted } :=
      ⟨hs.connection, hs.readInFlight, hs.finished, hs.stopped⟩
    exact Exchanged.of_same rfl rfl (exchanged_respond (S := S) io ht)

theorem exchanged_selectRange (io : FileAccess) (hs : s.Open) (totalSize : Int)
    (progress : FileProgress) : Exchanged s (s.selectRange S io totalSize progress) := by
  unfold selectRange
  split
  · exact exchanged_fail hs _ _
  · rename_i range hrange
    have ht : Open { s with
        partialResponse := range.isPartial
        cursor := s.cursor.setRange range.start range.stop } :=
      ⟨hs.connection, hs.readInFlight, hs.finished, hs.stopped⟩
    exact Exchanged.of_same rfl rfl (exchanged_beginDownload (S := S) io ht progress)

theorem exchanged_acceptSize (io : FileAccess) (hs : s.Open) (totalSize : Int)
    (progress : FileProgress) : Exchanged s (s.acceptSize S io totalSize progress) := by
  have ht : Open { s with cursor := { s.cursor with totalSize := totalSize } } :=
    ⟨hs.connection, hs.readInFlight, hs.finished, hs.stopped⟩
  unfold acceptSize
  split_ifs
  · exact exchanged_fail hs _ _
  · exact exchanged_fail hs _ _
  · exact Exchanged.of_same rfl rfl (exchanged_selectRange (S := S) io ht totalSize progress)

theorem exchanged_onFileReady (io : FileAccess) (hs : s.Open) (fileId totalSize : Int)
    (progress : FileProgress) : Exchanged s (s.onFileReady S io fileId totalSize progress) := by
  unfold onFileReady
  rw [if_neg (by simp [hs.finished])]
  by_cases hbad : fileId ≤ 0 ∨ totalSize < 0
  · rw [if_pos hbad]
    exact exchanged_fail hs _ _
  rw [if_neg hbad]
  have ht : Open { s with fileId := fileId } :=
    ⟨hs.connection, hs.readInFlight, hs.finished, hs.stopped⟩
  simp only
  refine Exchanged.of_same (t := { s with fileId := fileId }) rfl rfl ?_
  by_cases hpath : progress.localPath ≠ [] ∧ s.localPath ≠ progress.localPath
  · rw [if_pos hpath]
    refine (exchanged_setLocalPath ht _).trans (fun h => exchanged_acceptSize io h _ _) fun h => ?_
    rw [setLocalPath_eq] at h
    cases h.symm.trans hs.finished
  · rw [if_neg hpath]
    exact exchanged_acceptSize io ht _ _

theorem exchanged_followPath (hs : s.Open) (path : Slice) : Exchanged s (s.followPath S path) := by
  rcases followPath_cases (S := S) s path with he | he
  · rw [he]
    exact Exchanged.refl hs
  · rw [he]
    exact exchanged_silent ⟨hs.connection, hs.readInFlight, hs.finished, hs.stopped⟩ rfl rfl
      (connectionActions_pathActions s path)

theorem exchanged_continueDownload (io : FileAccess) (hs : s.Open) (isDownloadingActive : Bool) :
    Exchanged s (s.continueDownload S io isDownloadingActive) := by
  unfold continueDownload
  split_ifs
  · exact exchanged_abort hs _
  · exact exchanged_abort hs _
  · exact exchanged_tryRead io hs

theorem exchanged_applyProgress (io : FileAccess) (hs : s.Open) (progress : FileProgress) :
    Exchanged s (s.applyProgress S io progress) := by
  unfold applyProgress
  split
  · exact exchanged_abort hs _
  · rename_i cursor hcursor
    have ht : Open { s with
        cursor := cursor
        downloadCompleted := s.downloadCompleted || progress.isCompleted } :=
      ⟨hs.connection, hs.readInFlight, hs.finished, hs.stopped⟩
    exact Exchanged.of_same rfl rfl (exchanged_continueDownload (S := S) io ht _)

theorem exchanged_onFileProgress (io : FileAccess) (hs : s.Open) (size : Int)
    (progress : FileProgress) : Exchanged s (s.onFileProgress S io size progress) := by
  have hopen := hs.followPath (S := S) progress.localPath
  unfold onFileProgress
  split_ifs
  · exact Exchanged.refl hs
  · exact exchanged_abort hs _
  · refine (exchanged_followPath (S := S) hs progress.localPath).trans
      (fun h => exchanged_applyProgress io h progress) fun h => ?_
    cases h.symm.trans hopen.finished

theorem exchanged_onChunkFlushed (io : FileAccess) (hs : s.Open) (result : Except Status Unit) :
    Exchanged s (s.onChunkFlushed S io result) := by
  have ht : Open { s with writeInFlight := false } :=
    ⟨hs.connection, hs.readInFlight, hs.finished, hs.stopped⟩
  unfold onChunkFlushed
  simp only
  rw [if_neg (by simp [hs.finished])]
  split
  · exact Exchanged.of_same rfl rfl (exchanged_abort ht _)
  split
  · rename_i error herror
    have ht : Open { s with writeInFlight := false, pendingWriteOffset := -1, pendingWriteSize := 0 } :=
      ⟨hs.connection, hs.readInFlight, hs.finished, hs.stopped⟩
    exact Exchanged.of_same rfl rfl (exchanged_abort ht _)
  · rename_i cursor hcursor
    rw [if_pos hs.connection]
    let u : FileStreamConnection := { s with
      writeInFlight := false
      pendingWriteOffset := -1
      pendingWriteSize := 0
      cursor := cursor
      firstByteSent := true }
    have hu : Open (u.send .touchActivity) :=
      ⟨hs.connection, hs.readInFlight, hs.finished, hs.stopped⟩
    have hsend : Exchanged s (u.send .touchActivity) := by
      refine ⟨[.send .touchActivity], rfl, Or.inl ⟨hu, ?_, rfl⟩⟩
      intro m hm
      rw [List.mem_singleton.1 (show m ∈ [StreamMessage.touchActivity] from hm)]
      rfl
    refine hsend.trans (fun h => exchanged_tryRead io h) fun h => ?_
    cases h.symm.trans hu.finished

theorem exchanged_onHeadersFlushed (hs : s.Open) (result : Except Status Unit) :
    Exchanged s (s.onHeadersFlushed S result) := by
  have hle := s.headerCount_le
  unfold onHeadersFlushed
  rw [if_neg (by simp [hs.finished])]
  split
  · exact exchanged_abort hs _
  · by_cases hhead : S.route.headOnly = true
    · rw [if_pos hhead]
      simp only
      rw [if_pos hs.connection]
      exact ⟨[.send .writeOk], rfl, Or.inr ⟨rfl, rfl, over_singleton rfl, hle⟩⟩
    · rw [if_neg hhead]
      exact Exchanged.refl hs

theorem exchanged_handle (io : FileAccess) (hs : s.Open) (e : StreamEvent) :
    Exchanged s (s.handle S io e) := by
  cases e with
  | setClient =>
      exact exchanged_silent (k := []) ⟨hs.connection, hs.readInFlight, hs.finished, hs.stopped⟩ rfl
        (List.append_nil _).symm rfl
  | onFileReady fileId totalSize progress => exact exchanged_onFileReady io hs _ _ _
  | onFileProgress size progress => exact exchanged_onFileProgress io hs _ _
  | onHeadersFlushed result => exact exchanged_onHeadersFlushed hs result
  | onChunkFlushed result => exact exchanged_onChunkFlushed io hs result
  | onFileError error => exact exchanged_onFileError hs error
  | timeoutExpired => exact exchanged_onFileError hs _

theorem connectionActions_tearDownActions (s : FileStreamConnection) :
    connectionActions (tearDownActions S s) = [] := by
  unfold tearDownActions connectionActions
  rw [List.filterMap_append, List.filterMap_append]
  split_ifs <;> rfl

theorem exchanged_settle (h : Exchanged s t) : Exchanged s (t.settle S) := by
  obtain ⟨k, hk, ⟨ht, hno, hcount⟩ | ⟨hstop, hfin, hover, hcount⟩⟩ := h
  · unfold settle
    rw [if_neg (by simp [ht.stopped])]
    exact ⟨k, hk, Or.inl ⟨ht, hno, hcount⟩⟩
  · unfold settle
    rw [if_pos hstop, tearDown_eq]
    refine ⟨k ++ tearDownActions S t, by rw [← List.append_assoc, ← hk],
      Or.inr ⟨hstop, hfin, ?_, ?_⟩⟩
    · rwa [connectionActions_append, connectionActions_tearDownActions, List.append_nil]
    · rwa [connectionActions_append, connectionActions_tearDownActions, List.append_nil]

/-- A handler starts with an empty list of actions. -/
theorem exchanged_step (hs : s.Open) (x : StreamInput) :
    Exchanged { s with out := [] } (s.step S x) := by
  have ht : Open { s with out := [] } := ⟨hs.connection, hs.readInFlight, hs.finished, hs.stopped⟩
  rw [step_of_open hs]
  exact exchanged_settle (exchanged_handle x.io ht x.event)

end FileStreamConnection

open FileStreamConnection

namespace StreamRecord

variable {S : FileStreamSetup} {r : StreamRecord}

theorem connectionMessages_step (r : StreamRecord) (x : StreamInput) :
    connectionMessages (r.step S x).history =
      connectionMessages r.history ++ connectionActions (r.state.step S x).out := by
  unfold step
  simp only
  rw [connectionMessages_append]
  congr 1
  exact connectionMessages_actions _

/-- The exchange of a recorded stream so far: nothing has ended it, or one last message has. -/
def ExchangeKept (r : StreamRecord) : Prop :=
  (r.state.Open ∧ (∀ m ∈ connectionMessages r.history, m.isEnding = false) ∧
      (connectionMessages r.history).countP isStatusLine = r.state.headerCount) ∨
    (r.state.stopped = true ∧ Over (connectionMessages r.history) ∧
      (connectionMessages r.history).countP isStatusLine ≤ 1)

theorem exchangeKept_start : ExchangeKept (start S) :=
  Or.inl ⟨⟨rfl, rfl, rfl, rfl⟩, by simp [start, startUp, FileStreamConnection.send,
    FileStreamConnection.emit, connectionMessages, StreamEntry.toConnection,
    StreamAction.toConnection, isForConnection], rfl⟩

theorem exchangeKept_step (x : StreamInput) (hr : ExchangeKept r) : ExchangeKept (r.step S x) := by
  unfold ExchangeKept
  rw [connectionMessages_step]
  change (r.state.step S x).Open ∧ _ ∧ _ = (r.state.step S x).headerCount ∨
    (r.state.step S x).stopped = true ∧ _
  rcases hr with ⟨hopen, hno, hcount⟩ | ⟨hstop, hover, hcount⟩
  · obtain ⟨k, hk, h⟩ := exchanged_step (S := S) hopen x
    rw [hk, List.nil_append, List.countP_append]
    have hsame : headerCount { r.state with out := [] } = r.state.headerCount := rfl
    rw [hsame] at h
    rcases h with ⟨ht, hno', hcount'⟩ | ⟨hstop, -, hover, hcount'⟩
    · refine Or.inl ⟨ht, fun m hm => ?_, by omega⟩
      rcases List.mem_append.1 hm with hm | hm
      · exact hno m hm
      · exact hno' m hm
    · exact Or.inr ⟨hstop, hover.append hno, by omega⟩
  · rw [step_of_stopped hstop]
    refine Or.inr ⟨hstop, ?_, ?_⟩
    · simpa [connectionActions] using hover
    · simpa [connectionActions] using hcount

theorem exchangeKept_run (S : FileStreamSetup) (inputs : List StreamInput) :
    ExchangeKept (run S inputs) :=
  StepRun.run_invariant_always (fun _ x => exchangeKept_step x) exchangeKept_start inputs

end StreamRecord

end TelegramBotApi
