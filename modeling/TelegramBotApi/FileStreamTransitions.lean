import TelegramBotApi.FileStreamConnection

/-!
# What one handler of the streaming actor can do

`ended` is the state in which every terminating path leaves an open stream. `ReadOutcome` lists the
results of `tryRead`, and `ReadsBlock` says exactly when a block of the file is handed to the HTTP
connection.
-/

namespace TelegramBotApi

namespace FileStreamConnection

variable {S : FileStreamSetup} {io : FileAccess} {s : FileStreamConnection}

/-- A stream between two handlers that has not terminated. -/
structure Open (s : FileStreamConnection) : Prop where
  connection : s.connection = true
  readInFlight : s.readInFlight = false
  finished : s.finished = false
  stopped : s.stopped = false

def ended (s : FileStreamConnection) (actions : List StreamAction) : FileStreamConnection :=
  { s with connection := false, finished := true, stopped := true, out := s.out ++ actions }

theorem abort_eq (hs : s.Open) (error : Status) :
    s.abort error = s.ended [.send (.writeError error)] := by
  simp [abort, hs.finished, hs.connection, sendLast, send, emit, stop, ended]

theorem finish_eq (hs : s.Open) (hc : s.cursor.isComplete) (hw : s.writeInFlight = false) :
    s.finish = { s.ended [.send .writeOk] with completedOk := true } := by
  simp [finish, hs.finished, hs.connection, hs.readInFlight, hc, hw, sendLast, send, emit, stop,
    ended]

/-- The three ways in which `fail` answers before the response header was sent. -/
inductive FailActions (S : FileStreamSetup) (code : Int) : List StreamAction → Prop
  | refused (error : Status) : FailActions S code [.send (.writeError error)]
  | headOnly (hc : HttpHeaderCreator) (hcode : hc.status = code) (hh : S.route.headOnly = true) :
      FailActions S code [.send (.writeNextNoflush (.header hc)), .send .writeOk]
  | full (hc : HttpHeaderCreator) (text : Slice) (hcode : hc.status = code)
      (hh : S.route.headOnly = false) :
      FailActions S code [.send (.writeNextNoflush (.header hc)),
        .send (.writeNextNoflush (.content text)), .send .writeOk]

theorem errorHeader_status (s : FileStreamConnection) (code : Int) (content : Slice) :
    (s.errorHeader code content).status = code := by
  unfold errorHeader
  simp only
  split_ifs <;> rfl

theorem fail_cases (hs : s.Open) (hh : s.headersSent = false) (code : Int) (message : String) :
    ∃ actions, s.fail S code message = s.ended actions ∧ FailActions S code actions := by
  unfold fail
  rw [if_neg (by simp [hs.finished]), if_neg (by simp [hh])]
  simp only
  split
  · exact ⟨_, rfl, .refused _⟩
  · cases hr : S.route.headOnly with
    | false =>
        refine ⟨_, ?_, .full (s.errorHeader code (jsonQueryError code message))
          (jsonQueryError code message) (errorHeader_status s _ _) hr⟩
        simp [send, emit, sendLast, stop, ended]
    | true =>
        refine ⟨_, ?_, .headOnly (s.errorHeader code (jsonQueryError code message))
          (errorHeader_status s _ _) hr⟩
        simp [send, emit, sendLast, stop, ended]

/-- Whether or not the header was sent, `fail` ends the stream and only sends messages. -/
theorem fail_ended (hs : s.Open) (code : Int) (message : String) :
    ∃ k, s.fail S code message = s.ended k ∧ ∀ a ∈ k, ∃ m, a = .send m := by
  cases hh : s.headersSent with
  | true =>
      refine ⟨[.send (.writeError ⟨code, message⟩)], ?_, fun a ha => ⟨_, List.mem_singleton.1 ha⟩⟩
      unfold fail
      rw [if_neg (by simp [hs.finished]), if_pos hh, abort_eq hs]
  | false =>
      obtain ⟨k, he, hk⟩ := fail_cases (S := S) hs hh code message
      refine ⟨k, he, ?_⟩
      cases hk <;> simp

theorem onFileError_cases (hs : s.Open) (error : Status) :
    (s.headersSent = true ∧ s.onFileError S error = s.ended [.send (.writeError error)]) ∨
      ∃ code actions, 400 ≤ code ∧ s.headersSent = false ∧
        s.onFileError S error = s.ended actions ∧ FailActions S code actions := by
  unfold onFileError
  simp only [hs.finished, Bool.false_eq_true, if_false]
  cases hh : s.headersSent with
  | true => exact Or.inl ⟨rfl, by simpa using abort_eq hs error⟩
  | false =>
      right
      obtain ⟨actions, heq, hacts⟩ := fail_cases (S := S) hs hh
        (if error.code < 400 ∨ 599 < error.code then 502 else error.code) error.message
      refine ⟨_, actions, ?_, rfl, by simpa using heq, hacts⟩
      split_ifs <;> omega

/-- The messages with which a path change is reported to the cleanup manager. -/
def pathActions (S : FileStreamSetup) (s : FileStreamConnection) (path : Slice) :
    List StreamAction :=
  (if s.localPath ≠ [] ∧ S.hasCleanupManager then [.send (.releaseFile s.localPath)] else []) ++
    (if S.hasCleanupManager then [.send (.retainFile path)] else [])

theorem setLocalPath_eq (s : FileStreamConnection) (path : Slice) :
    s.setLocalPath S path =
      { s with localPath := path, out := s.out ++ pathActions S s path } := by
  unfold setLocalPath pathActions
  by_cases hc : S.hasCleanupManager = true <;> by_cases hp : s.localPath = [] <;>
    simp [hc, hp, send, emit]

theorem pathActions_send (s : FileStreamConnection) (path : Slice) :
    ∀ a ∈ pathActions S s path, ∃ m, a = .send m := by
  intro a ha
  unfold pathActions at ha
  rcases List.mem_append.1 ha with h | h <;> split_ifs at h
  · exact ⟨_, List.mem_singleton.1 h⟩
  · cases h
  · exact ⟨_, List.mem_singleton.1 h⟩
  · cases h

theorem followPath_cases (s : FileStreamConnection) (path : Slice) :
    s.followPath S path = s ∨
      s.followPath S path = { s with
        localFile := none
        localPath := path
        out := s.out ++ pathActions S s path } := by
  unfold followPath
  split_ifs with h
  · right
    rw [setLocalPath_eq]
    rfl
  · exact Or.inl rfl

/-- A read of the next block of the range succeeds in full. -/
structure ReadsBlock (S : FileStreamSetup) (io : FileAccess) (s : FileStreamConnection)
    (path : Slice) (data : List UInt8) : Prop where
  idle : s.writeInFlight = false
  sized : 0 ≤ s.cursor.totalSize
  incomplete : s.cursor.isComplete = false
  available : 0 < s.cursor.nextReadSize S.effectiveChunkSize
  located : s.localPath ≠ []
  opened : s.localFile = some path ∨
    (s.localFile = none ∧ path = s.localPath ∧ io.openFile s.localPath = .ok ())
  read : io.pread path s.cursor.nextOffset (s.cursor.nextReadSize S.effectiveChunkSize) = .ok data
  length : (data.length : Int) = s.cursor.nextReadSize S.effectiveChunkSize

def preadNext (S : FileStreamSetup) (s : FileStreamConnection) (path : Slice) : StreamAction :=
  .pread path s.cursor.nextOffset (s.cursor.nextReadSize S.effectiveChunkSize)

def blockSent (S : FileStreamSetup) (s : FileStreamConnection) (path : Slice)
    (data : List UInt8) : FileStreamConnection :=
  { s with
    localFile := some path
    writeInFlight := true
    pendingWriteOffset := s.cursor.nextOffset
    pendingWriteSize := data.length
    out := s.out ++ [preadNext S s path,
      .send (.writeNextWithPromise (.data s.cursor.nextOffset data) .onChunkFlushed)] }

/-- Every result of `tryRead` on an open stream. -/
inductive ReadOutcome (S : FileStreamSetup) (io : FileAccess) (s : FileStreamConnection) :
    FileStreamConnection → Prop
  | waiting : ReadOutcome S io s s
  | complete (hc : s.cursor.isComplete = true) (hw : s.writeInFlight = false) :
      ReadOutcome S io s { s.ended [.send .writeOk] with completedOk := true }
  | notOpened (error : Status) : ReadOutcome S io s (s.ended [.send (.writeError error)])
  | notRead (path : Slice) (error : Status)
      (hpos : 0 < s.cursor.nextReadSize S.effectiveChunkSize) :
      ReadOutcome S io s ({ s with localFile := some path }.ended
        [preadNext S s path, .send (.writeError error)])
  | short (path : Slice) (hpos : 0 < s.cursor.nextReadSize S.effectiveChunkSize) :
      ReadOutcome S io s { s with localFile := none, out := s.out ++ [preadNext S s path] }
  | block (path : Slice) (data : List UInt8) (hb : ReadsBlock S io s path data) :
      ReadOutcome S io s (blockSent S s path data)

theorem onFileData_eq (hs : s.Open) (path : Slice) {data : List UInt8}
    (hlen : (data.length : Int) = s.cursor.nextReadSize S.effectiveChunkSize)
    (hpos : 0 < s.cursor.nextReadSize S.effectiveChunkSize) :
    ({ s with localFile := some path, readInFlight := true }.emit (preadNext S s path)).onFileData
      S s.cursor.nextOffset (.ok data) = blockSent S s path data := by
  have hne : data ≠ [] := by
    rintro rfl
    rw [List.length_nil] at hlen
    omega
  simp [onFileData, emit, send, blockSent, hs.finished, hlen, hne, hs.readInFlight]

/-- Reading the next block from a descriptor opened under `path`. -/
theorem readChunk_outcome (io : FileAccess) (hs : s.Open) (path : Slice) (hw : s.writeInFlight = false)
    (hsize : 0 ≤ s.cursor.totalSize) (hc : s.cursor.isComplete = false)
    (hpos : 0 < s.cursor.nextReadSize S.effectiveChunkSize) (hpath : s.localPath ≠ [])
    (hopened : s.localFile = some path ∨
      (s.localFile = none ∧ path = s.localPath ∧ io.openFile s.localPath = .ok ())) :
    ReadOutcome S io s ({ s with localFile := some path }.readChunk S io path
      (s.cursor.nextReadSize S.effectiveChunkSize)) := by
  have hopen : Open { s with localFile := some path, out := s.out ++ [preadNext S s path] } :=
    ⟨hs.connection, hs.readInFlight, hs.finished, hs.stopped⟩
  have hclosed : ∀ error, ReadOutcome S io s ({ s with
      localFile := some path
      readInFlight := false
      out := s.out ++ [preadNext S s path] }.abort error) := by
    intro error
    have he := abort_eq hopen error
    rw [hs.readInFlight] at he
    rw [he]
    have ho : ReadOutcome S io s _ := .notRead path error hpos
    simpa [ended, hs.readInFlight] using ho
  unfold readChunk
  simp only [emit]
  cases hp : io.pread path s.cursor.nextOffset (s.cursor.nextReadSize S.effectiveChunkSize) with
  | error message => exact hclosed _
  | ok data =>
      simp only
      by_cases hlen : (data.length : Int) = s.cursor.nextReadSize S.effectiveChunkSize
      · rw [if_neg (not_not_intro hlen)]
        have he := onFileData_eq hs path hlen hpos
        simp only [emit, preadNext] at he
        rw [he]
        exact .block path data ⟨hw, hsize, hc, hpos, hpath, hopened, hp, hlen⟩
      · rw [if_pos hlen]
        split_ifs with hd
        · exact hclosed _
        · rw [← hs.readInFlight]
          exact .short path hpos

/-- The inversion of `tryRead`. -/
theorem tryRead_outcome (io : FileAccess) (hs : s.Open) : ReadOutcome S io s (s.tryRead S io) := by
  unfold tryRead
  by_cases hbusy : s.finished ∨ s.readInFlight ∨ s.writeInFlight ∨ s.cursor.totalSize < 0
  · rw [if_pos hbusy]
    exact .waiting
  rw [if_neg hbusy]
  simp only [not_or, Bool.not_eq_true, Int.not_lt] at hbusy
  obtain ⟨-, -, hw, hsize⟩ := hbusy
  by_cases hc : s.cursor.isComplete = true
  · rw [if_pos hc, finish_eq hs hc hw]
    exact .complete hc hw
  rw [if_neg hc]
  simp only
  have hnonneg := s.cursor.nextReadSize_nonneg S.effectiveChunkSize
  by_cases hcount : s.cursor.nextReadSize S.effectiveChunkSize = 0
  · rw [if_pos hcount]
    exact .waiting
  have hpos : 0 < s.cursor.nextReadSize S.effectiveChunkSize := by omega
  rw [if_neg hcount, if_neg (by omega)]
  by_cases hpath : s.localPath = []
  · rw [if_pos hpath]
    exact .waiting
  rw [if_neg hpath]
  have hinc : s.cursor.isComplete = false := by simpa using hc
  cases hlf : s.localFile with
  | some path =>
      have he := readChunk_outcome io hs path hw hsize hinc hpos hpath (Or.inl hlf)
      rwa [← hlf] at he
  | none =>
      cases ho : io.openFile s.localPath with
      | ok _ =>
          exact readChunk_outcome io hs s.localPath hw hsize hinc hpos hpath (Or.inr ⟨hlf, rfl, ho⟩)
      | error message =>
          simp only
          split_ifs with hd
          · rw [abort_eq hs]
            exact .notOpened _
          · exact .waiting

theorem tryRead_eq_blockSent (hs : s.Open) {path : Slice} {data : List UInt8}
    (hb : ReadsBlock S io s path data) : s.tryRead S io = blockSent S s path data := by
  have hpos := hb.available
  have hchunk : ∀ t : FileStreamConnection, t = { s with localFile := some path } →
      t.readChunk S io path (s.cursor.nextReadSize S.effectiveChunkSize) =
        blockSent S s path data := by
    rintro t rfl
    have he := onFileData_eq hs path hb.length hpos
    simp only [emit, preadNext] at he
    unfold readChunk
    simp only [emit, hb.read]
    rw [if_neg (not_not_intro hb.length)]
    exact he
  unfold tryRead
  have hsize := hb.sized
  rw [if_neg (by simp [hs.finished, hs.readInFlight, hb.idle, hsize]),
    if_neg (by simp [hb.incomplete])]
  simp only
  rw [if_neg (by omega), if_neg (by omega), if_neg hb.located]
  rcases hb.opened with hf | ⟨hf, rfl, ho⟩
  · rw [hf]
    exact hchunk s (by rw [← hf])
  · rw [hf, ho]
    exact hchunk _ rfl

/-- The state in which `on_file_progress` calls `try_read`, if it gets that far. -/
def afterProgress (S : FileStreamSetup) (s : FileStreamConnection) (reportedTotalSize : Int)
    (progress : FileProgress) : Option FileStreamConnection :=
  if s.finished ∨ s.cursor.totalSize < 0 then none
  else if 0 < reportedTotalSize ∧ reportedTotalSize ≠ s.cursor.totalSize then none
  else match s.cursor.updateProgress progress.downloadOffset progress.downloadedPrefixSize
      progress.isCompleted with
    | .error _ => none
    | .ok cursor =>
      let completed := s.downloadCompleted || progress.isCompleted
      if (¬ completed ∧ ¬ progress.isDownloadingActive) ∨
          (completed ∧ cursor.contiguousEnd < cursor.totalSize) then none
      else some { s.followPath S progress.localPath with
        cursor := cursor
        downloadCompleted := completed }

theorem afterProgress_some {t : FileStreamConnection} {size : Int} {progress : FileProgress}
    (h : afterProgress S s size progress = some t) :
    ∃ c d, s.cursor.updateProgress progress.downloadOffset progress.downloadedPrefixSize
        progress.isCompleted = .ok c ∧ 0 ≤ s.cursor.totalSize ∧
      t = { s.followPath S progress.localPath with cursor := c, downloadCompleted := d } := by
  unfold afterProgress at h
  split_ifs at h with hlive hchanged
  split at h
  · cases h
  · rename_i c hc
    simp only at h
    split_ifs at h
    exact ⟨c, _, hc, by omega, (Option.some.inj h).symm⟩

theorem followPath_cursor (s : FileStreamConnection) (path : Slice) :
    (s.followPath S path).cursor = s.cursor := by
  rcases followPath_cases (S := S) s path with he | he <;> rw [he]

theorem followPath_downloadCompleted (s : FileStreamConnection) (path : Slice) :
    (s.followPath S path).downloadCompleted = s.downloadCompleted := by
  rcases followPath_cases (S := S) s path with he | he <;> rw [he]

theorem Open.followPath (hs : s.Open) (path : Slice) : (s.followPath S path).Open := by
  rcases followPath_cases (S := S) s path with he | he
  · rwa [he]
  · rw [he]
    exact ⟨hs.connection, hs.readInFlight, hs.finished, hs.stopped⟩

/-- The inversion of `onFileProgress`: the report is ignored, ends the stream, or leads to
`try_read`. -/
inductive ProgressOutcome (S : FileStreamSetup) (io : FileAccess) (s : FileStreamConnection) :
    Option FileStreamConnection → FileStreamConnection → Prop
  | ignored (h : s.cursor.totalSize < 0) : ProgressOutcome S io s none s
  | sizeChanged (error : Status) :
      ProgressOutcome S io s none (s.ended [.send (.writeError error)])
  | rejected (path : Slice) (t : FileStreamConnection) (error : Status)
      (ht : ∃ cursor completed, t = { s.followPath S path with
        cursor := cursor
        downloadCompleted := completed }) :
      ProgressOutcome S io s none (t.ended [.send (.writeError error)])
  | accepted (t : FileStreamConnection) : ProgressOutcome S io s (some t) (t.tryRead S io)

theorem onFileProgress_outcome (io : FileAccess) (hs : s.Open) (size : Int) (progress : FileProgress) :
    ProgressOutcome S io s (afterProgress S s size progress)
      (s.onFileProgress S io size progress) := by
  unfold afterProgress onFileProgress
  by_cases hsized : s.cursor.totalSize < 0
  · rw [if_pos (Or.inr hsized), if_pos (Or.inr hsized)]
    exact .ignored hsized
  have hlive : ¬ (s.finished ∨ s.cursor.totalSize < 0) := by simp [hs.finished, hsized]
  rw [if_neg hlive, if_neg hlive]
  by_cases hchanged : 0 < size ∧ size ≠ s.cursor.totalSize
  · rw [if_pos hchanged, if_pos hchanged, abort_eq hs]
    exact .sizeChanged _
  rw [if_neg hchanged, if_neg hchanged]
  have hopen := hs.followPath (S := S) progress.localPath
  unfold applyProgress
  rw [followPath_cursor, followPath_downloadCompleted]
  cases hc : s.cursor.updateProgress progress.downloadOffset progress.downloadedPrefixSize
      progress.isCompleted with
  | error status =>
      simp only
      rw [abort_eq hopen]
      exact .rejected progress.localPath _ _ ⟨_, _, rfl⟩
  | ok c =>
      simp only
      have hopen₁ : Open { s.followPath S progress.localPath with
          cursor := c
          downloadCompleted := s.downloadCompleted || progress.isCompleted } :=
        ⟨hopen.connection, hopen.readInFlight, hopen.finished, hopen.stopped⟩
      unfold continueDownload
      simp only
      generalize hdone : (s.downloadCompleted || progress.isCompleted) = completed at hopen₁ ⊢
      by_cases hstopped : ¬ completed ∧ ¬ progress.isDownloadingActive
      · rw [if_pos hstopped, if_pos (Or.inl hstopped), abort_eq hopen₁]
        exact .rejected progress.localPath _ _ ⟨_, _, rfl⟩
      by_cases hpart : completed ∧ c.contiguousEnd < c.totalSize
      · rw [if_neg hstopped, if_pos hpart, if_pos (Or.inr hpart), abort_eq hopen₁]
        exact .rejected progress.localPath _ _ ⟨_, _, rfl⟩
      rw [if_neg hstopped, if_neg hpart, if_neg (not_or.2 ⟨hstopped, hpart⟩)]
      exact .accepted _

def tearDownActions (S : FileStreamSetup) (s : FileStreamConnection) : List StreamAction :=
  (if s.localPath ≠ [] ∧ S.hasCleanupManager then [.send (.releaseFile s.localPath)] else []) ++
    [.send (.releaseFileStream S.streamId)] ++
    (if s.client then [.send (.removeFileStream S.streamId s.fileId
      (S.route.noCache && s.completedOk))] else [])

theorem tearDown_eq (s : FileStreamConnection) : s.tearDown S = { s with
    localFile := none
    connection := false
    out := s.out ++ tearDownActions S s } := by
  unfold tearDown tearDownActions
  by_cases hc : S.hasCleanupManager = true <;> by_cases hp : s.localPath = [] <;>
    by_cases hcl : s.client = true <;> simp [hc, hp, hcl, send, emit]

theorem tearDownActions_send (s : FileStreamConnection) :
    ∀ a ∈ tearDownActions S s, ∃ m, a = .send m := by
  intro a ha
  unfold tearDownActions at ha
  simp only [List.mem_append, List.mem_singleton] at ha
  rcases ha with (ha | rfl) | ha
  · split_ifs at ha
    · exact ⟨_, List.mem_singleton.1 ha⟩
    · cases ha
  · exact ⟨_, rfl⟩
  · split_ifs at ha
    · exact ⟨_, List.mem_singleton.1 ha⟩
    · cases ha

theorem step_of_open {x : StreamInput} (hs : s.Open) :
    s.step S x = ({ s with out := [] }.handle S x.io x.event).settle S := by
  unfold step
  simp only
  rw [if_neg (by simp [hs.stopped])]

theorem step_of_stopped {x : StreamInput} (hs : s.stopped = true) :
    s.step S x = { s with out := [] } := by
  unfold step
  simp only
  rw [if_pos hs]

end FileStreamConnection

end TelegramBotApi
