import TelegramBotApi.FileStreamHistory

/-!
# HEAD streams

A HEAD stream should write one response header and nothing else. `on_file_ready` respects this, but
`on_file_progress` calls `try_read` for every stream, so a progress report that makes a block of the
range readable before the header is flushed puts the block on the connection. `Quiet` excludes
exactly these reports.
-/

namespace TelegramBotApi

open StreamEntry StreamHistory

def StreamHistory.payloads (h : List StreamEntry) : List Payload := h.filterMap buffer

theorem StreamHistory.payloads_append (h k : List StreamEntry) :
    payloads (h ++ k) = payloads h ++ payloads k := List.filterMap_append

theorem StreamHistory.payloads_eq_nil {h : List StreamEntry} (hh : ∀ x ∈ h, x.buffer = none) :
    payloads h = [] := List.filterMap_eq_nil_iff.2 hh

def HeaderOnly (h : List StreamEntry) : Prop :=
  (payloads h).length ≤ 1 ∧ ∀ p ∈ payloads h, ∃ hc, p = .header hc

theorem HeaderOnly.of_append {h k : List StreamEntry} (hh : HeaderOnly (h ++ k)) : HeaderOnly h := by
  unfold HeaderOnly at hh
  rw [payloads_append, List.length_append] at hh
  exact ⟨by omega, fun p hp => hh.2 p (List.mem_append_left _ hp)⟩

namespace FileStreamConnection

variable {S : FileStreamSetup} {h : List StreamEntry} {s t : FileStreamConnection}
  {io : FileAccess}

structure HeadIdle (h : List StreamEntry) (s : FileStreamConnection) : Prop where
  isOpen : s.Open
  idle : s.writeInFlight = false
  pending : s.pendingWriteSize = 0
  payloads : if s.headersSent then ∃ hc, payloads h = [.header hc] else payloads h = []

def HeadGood (h : List StreamEntry) (s : FileStreamConnection) : Prop :=
  HeadIdle h s ∨ (s.finished = true ∧ s.stopped = true ∧ HeaderOnly h)

theorem HeadIdle.headerOnly (hs : HeadIdle h s) : HeaderOnly h := by
  have hp := hs.payloads
  unfold HeaderOnly
  split_ifs at hp
  · obtain ⟨hc, he⟩ := hp
    rw [he]
    exact ⟨Nat.le_refl 1, fun p hp => ⟨hc, List.mem_singleton.1 hp⟩⟩
  · rw [hp]
    exact ⟨Nat.zero_le 1, fun p hp => by cases hp⟩

theorem HeadGood.headerOnly (hs : HeadGood h s) : HeaderOnly h := by
  rcases hs with hs | hs
  · exact hs.headerOnly
  · exact hs.2.2

theorem HeadIdle.congr (hs : HeadIdle h s) (hopen : t.Open)
    (hheaders : t.headersSent = s.headersSent) (hw : t.writeInFlight = s.writeInFlight)
    (hpend : t.pendingWriteSize = s.pendingWriteSize) : HeadIdle h t where
  isOpen := hopen
  idle := hw.trans hs.idle
  pending := hpend.trans hs.pending
  payloads := by
    rw [hheaders]
    exact hs.payloads

theorem HeadIdle.append {k : List StreamEntry} (hs : HeadIdle h s) (hk : ∀ x ∈ k, x.buffer = none) :
    HeadIdle (h ++ k) s where
  isOpen := hs.isOpen
  idle := hs.idle
  pending := hs.pending
  payloads := by
    rw [payloads_append, payloads_eq_nil hk, List.append_nil]
    exact hs.payloads

theorem HeaderOnly.append {k : List StreamEntry} (hh : HeaderOnly h)
    (hk : ∀ x ∈ k, x.buffer = none) : HeaderOnly (h ++ k) := by
  unfold HeaderOnly
  rw [payloads_append, payloads_eq_nil hk, List.append_nil]
  exact hh

/-- Ending a stream with messages that carry no payload. -/
theorem head_ended (hh : HeaderOnly (hist h s)) {k : List StreamAction}
    (hk : ∀ a ∈ k, (StreamEntry.action a).buffer = none) :
    HeadGood (hist h (s.ended k)) (s.ended k) := by
  rw [hist_append (s := s) (t := s.ended k) rfl]
  refine Or.inr ⟨rfl, rfl, HeaderOnly.append hh ?_⟩
  intro x hx
  obtain ⟨a, ha, rfl⟩ := List.mem_map.1 hx
  exact hk a ha

theorem head_abort (hs : s.Open) (hh : HeaderOnly (hist h s)) (error : Status) :
    HeadGood (hist h (s.abort error)) (s.abort error) := by
  rw [abort_eq hs]
  exact head_ended hh (by simp [buffer, StreamMessage.buffer])

theorem head_failActions (hhead : S.route.headOnly = true) {code : Int}
    {actions : List StreamAction} (hf : FailActions S code actions)
    (hp : payloads (hist h s) = []) :
    HeadGood (hist h (s.ended actions)) (s.ended actions) := by
  rw [hist_append (s := s) (t := s.ended actions) rfl]
  refine Or.inr ⟨rfl, rfl, ?_⟩
  unfold HeaderOnly
  rw [payloads_append, hp, List.nil_append]
  cases hf with
  | refused error => exact ⟨Nat.zero_le 1, fun p hp => by cases hp⟩
  | headOnly hc _ _ => exact ⟨Nat.le_refl 1, fun p hp => ⟨hc, List.mem_singleton.1 hp⟩⟩
  | full hc text _ hget =>
      rw [hhead] at hget
      cases hget

theorem head_fail (hhead : S.route.headOnly = true) (hs : HeadIdle (hist h s) s) (code : Int)
    (message : String) :
    HeadGood (hist h (s.fail S code message)) (s.fail S code message) := by
  cases hh : s.headersSent with
  | true =>
      have he : s.fail S code message = s.abort ⟨code, message⟩ := by
        unfold fail
        rw [if_neg (by simp [hs.isOpen.finished]), if_pos hh]
      rw [he]
      exact head_abort hs.isOpen hs.headerOnly _
  | false =>
      obtain ⟨actions, he, hf⟩ := fail_cases (S := S) hs.isOpen hh code message
      have hp := hs.payloads
      rw [if_neg (by simp [hh])] at hp
      rw [he]
      exact head_failActions hhead hf hp

theorem head_sendHeaders (hhead : S.route.headOnly = true) (hs : HeadIdle (hist h s) s) :
    HeadGood (hist h (s.sendHeaders S)) (s.sendHeaders S) := by
  unfold sendHeaders
  cases hh : s.headersSent with
  | true => exact Or.inl hs
  | false =>
      simp only [Bool.false_eq_true, if_false]
      cases hf : (s.responseHeader S).finish with
      | error _ => exact head_fail hhead hs _ _
      | ok _ =>
          have hp := hs.payloads
          rw [if_neg (by simp [hh])] at hp
          have hhist : hist h ({ s with headersSent := true }.send
              (.writeNextWithPromise (.header (s.responseHeader S)) .onHeadersFlushed)) =
              hist h s ++ [.action (.send (.writeNextWithPromise
                (.header (s.responseHeader S)) .onHeadersFlushed))] := by
            simp [hist, send, emit]
          refine Or.inl ⟨⟨hs.isOpen.connection, hs.isOpen.readInFlight, hs.isOpen.finished,
            hs.isOpen.stopped⟩, hs.idle, hs.pending, ?_⟩
          change ∃ hc, payloads _ = [Payload.header hc]
          refine ⟨s.responseHeader S, ?_⟩
          simp only
          rw [hhist, payloads_append, hp]
          rfl

theorem head_respond (hhead : S.route.headOnly = true) (hs : HeadIdle (hist h s) s) :
    HeadGood (hist h (s.respond S io)) (s.respond S io) := by
  unfold respond
  split_ifs
  · exact head_fail hhead hs _ _
  · exact head_sendHeaders hhead hs

/-- The cursor and the flags of the answer do not matter for what was written. -/
theorem HeadIdle.update (hs : HeadIdle h s) (cursor : FileStreamCursor)
    (partialResponse downloadCompleted : Bool) : HeadIdle h { s with
      cursor := cursor
      partialResponse := partialResponse
      downloadCompleted := downloadCompleted } :=
  hs.congr ⟨hs.isOpen.connection, hs.isOpen.readInFlight, hs.isOpen.finished, hs.isOpen.stopped⟩
    rfl rfl rfl

theorem head_beginDownload (hhead : S.route.headOnly = true) (hs : HeadIdle (hist h s) s)
    (progress : FileProgress) :
    HeadGood (hist h (s.beginDownload S io progress)) (s.beginDownload S io progress) := by
  unfold beginDownload
  cases s.cursor.updateProgress progress.downloadOffset progress.downloadedPrefixSize
      progress.isCompleted with
  | error status => exact head_fail hhead hs _ _
  | ok c =>
      exact head_respond (s := { s with cursor := c, downloadCompleted := progress.isCompleted })
        hhead (hs.update c s.partialResponse progress.isCompleted)

theorem head_selectRange (hhead : S.route.headOnly = true) (hs : HeadIdle (hist h s) s)
    (totalSize : Int) (progress : FileProgress) :
    HeadGood (hist h (s.selectRange S io totalSize progress))
      (s.selectRange S io totalSize progress) := by
  unfold selectRange
  cases parseFileStreamRange S.route.range totalSize with
  | error _ => exact head_fail hhead hs _ _
  | ok r =>
      exact head_beginDownload (s := { s with
          partialResponse := r.isPartial
          cursor := s.cursor.setRange r.start r.stop }) hhead
        (hs.update (s.cursor.setRange r.start r.stop) r.isPartial s.downloadCompleted) progress

theorem head_acceptSize (hhead : S.route.headOnly = true) (hs : HeadIdle (hist h s) s)
    (totalSize : Int) (progress : FileProgress) :
    HeadGood (hist h (s.acceptSize S io totalSize progress))
      (s.acceptSize S io totalSize progress) := by
  unfold acceptSize
  split_ifs
  · exact head_fail hhead hs _ _
  · exact head_fail hhead hs _ _
  · exact head_selectRange (s := { s with cursor := { s.cursor with totalSize := totalSize } })
      hhead (hs.update _ s.partialResponse s.downloadCompleted) totalSize progress

theorem head_onFileReady (hhead : S.route.headOnly = true) (hs : HeadIdle h s) (hout : s.out = [])
    (fileId totalSize : Int) (progress : FileProgress) :
    HeadGood (hist h (s.onFileReady S io fileId totalSize progress))
      (s.onFileReady S io fileId totalSize progress) := by
  have hg : hist h s = h := by simp [hist, hout]
  have hopen := hs.isOpen
  unfold onFileReady
  rw [if_neg (by simp [hopen.finished])]
  split_ifs with hbad hpath
  · exact head_fail hhead (hg.symm ▸ hs) _ _
  · have hneutral := pathActions_neutral (S := S) { s with fileId := fileId } progress.localPath
    have hs₁ := hs.append fun x hx => (hneutral x hx).1
    simp only [setLocalPath_eq, hout, List.nil_append]
    exact head_acceptSize (h := h) (s := { s with
        fileId := fileId
        localPath := progress.localPath
        out := pathActions S { s with fileId := fileId } progress.localPath }) hhead
      (hs₁.congr ⟨hopen.connection, hopen.readInFlight, hopen.finished, hopen.stopped⟩ rfl rfl rfl)
      totalSize progress
  · exact head_acceptSize (h := h) (s := { s with fileId := fileId }) hhead
      ((hg.symm ▸ hs : HeadIdle (hist h s) s).congr
        ⟨hopen.connection, hopen.readInFlight, hopen.finished, hopen.stopped⟩ rfl rfl rfl)
      totalSize progress

/-- No progress report of this step lets `try_read` hand out a block. -/
def Quiet (S : FileStreamSetup) (s : FileStreamConnection) (x : StreamInput) : Prop :=
  ∀ size progress, x.event = .onFileProgress size progress →
    ∀ t, afterProgress S { s with out := [] } size progress = some t →
      ∀ path data, ¬ ReadsBlock S x.io t path data

theorem afterProgress_headIdle (hs : HeadIdle (hist h s) s) {size : Int} {progress : FileProgress}
    (ht : afterProgress S s size progress = some t) : HeadIdle (hist h t) t := by
  obtain ⟨c, d, -, -, rfl⟩ := afterProgress_some ht
  have hopen := hs.isOpen.followPath (S := S) progress.localPath
  have hopen₁ : ∀ c d, Open { s.followPath S progress.localPath with
      cursor := c
      downloadCompleted := d } := fun _ _ =>
    ⟨hopen.connection, hopen.readInFlight, hopen.finished, hopen.stopped⟩
  rcases followPath_cases (S := S) s progress.localPath with he | he
  · rw [he] at hopen₁ ⊢
    exact hs.congr (hopen₁ c d) rfl rfl rfl
  · rw [he] at hopen₁ ⊢
    rw [hist_append (s := s) (k := pathActions S s progress.localPath) rfl]
    exact (hs.append fun x hx => (pathActions_neutral s progress.localPath x hx).1).congr
      (hopen₁ c d) rfl rfl rfl

theorem head_rejected (hs : HeadIdle (hist h s) s) {path : Slice}
    (ht : ∃ cursor completed, t = { s.followPath S path with
      cursor := cursor
      downloadCompleted := completed }) : HeaderOnly (hist h t) := by
  obtain ⟨c, d, rfl⟩ := ht
  rcases followPath_cases (S := S) s path with he | he
  · rw [he]
    exact hs.headerOnly
  · rw [he, hist_append (s := s) (k := pathActions S s path) rfl]
    exact HeaderOnly.append hs.headerOnly fun x hx => (pathActions_neutral s path x hx).1

/-- Without a readable block `try_read` writes nothing. -/
theorem head_tryRead (hs : HeadIdle (hist h s) s)
    (hq : ∀ path data, ¬ ReadsBlock S io s path data) :
    HeadGood (hist h (s.tryRead S io)) (s.tryRead S io) := by
  have hout := tryRead_outcome (S := S) io hs.isOpen
  generalize s.tryRead S io = t at hout ⊢
  cases hout with
  | waiting => exact Or.inl hs
  | complete _ _ =>
      have he := head_ended (h := h) hs.headerOnly (k := [.send .writeOk])
        (by simp [buffer, StreamMessage.buffer])
      rcases he with he | he
      · exact absurd he.isOpen.finished (by simp [ended])
      · exact Or.inr he
  | notOpened error => exact head_ended hs.headerOnly (by simp [buffer, StreamMessage.buffer])
  | notRead path error _ =>
      exact head_ended (s := { s with localFile := some path }) hs.headerOnly
        (by simp [buffer, StreamMessage.buffer, preadNext])
  | short path _ =>
      rw [hist_append (s := s) (k := [preadNext S s path]) rfl]
      exact Or.inl ((hs.append (by simp [buffer, preadNext])).congr
        ⟨hs.isOpen.connection, hs.isOpen.readInFlight, hs.isOpen.finished, hs.isOpen.stopped⟩
        rfl rfl rfl)
  | block path data hb => exact absurd hb (hq path data)

theorem head_onFileProgress (hs : HeadIdle (hist h s) s) {size : Int} {progress : FileProgress}
    (hq : ∀ t, afterProgress S s size progress = some t →
      ∀ path data, ¬ ReadsBlock S io t path data) :
    HeadGood (hist h (s.onFileProgress S io size progress))
      (s.onFileProgress S io size progress) := by
  have hout := onFileProgress_outcome (S := S) io hs.isOpen size progress
  generalize ho : afterProgress S s size progress = o at hout hq
  generalize s.onFileProgress S io size progress = u at hout ⊢
  cases hout with
  | ignored _ => exact Or.inl hs
  | sizeChanged error => exact head_ended hs.headerOnly (by simp [buffer, StreamMessage.buffer])
  | rejected path t error ht =>
      exact head_ended (head_rejected hs ht) (by simp [buffer, StreamMessage.buffer])
  | accepted t => exact head_tryRead (afterProgress_headIdle hs ho) (hq t rfl)

theorem head_onHeadersFlushed (hs : HeadIdle (hist h s) s) (result : Except Status Unit) :
    HeadGood (hist h (s.onHeadersFlushed S result)) (s.onHeadersFlushed S result) := by
  unfold onHeadersFlushed
  rw [if_neg (by simp [hs.isOpen.finished])]
  cases result with
  | error error => exact head_abort hs.isOpen hs.headerOnly error
  | ok _ =>
      simp only
      split_ifs with hhead hconn
      · exact head_ended hs.headerOnly (k := [.send .writeOk])
          (by simp [buffer, StreamMessage.buffer])
      · exact absurd hs.isOpen.connection hconn
      · exact Or.inl hs

theorem head_onChunkFlushed (hs : HeadIdle (hist h s) s) (result : Except Status Unit) :
    HeadGood (hist h (s.onChunkFlushed S io result)) (s.onChunkFlushed S io result) := by
  have hopen := hs.isOpen
  have hcommit : s.cursor.commit s.pendingWriteOffset s.pendingWriteSize =
      .error FileStreamCursor.commitError := by
    unfold FileStreamCursor.commit
    rw [hs.pending, if_pos (by omega)]
  unfold onChunkFlushed
  simp only
  rw [if_neg (by simp [hopen.finished])]
  cases result with
  | error error =>
      exact head_abort (s := { s with writeInFlight := false })
        ⟨hopen.connection, hopen.readInFlight, hopen.finished, hopen.stopped⟩ hs.headerOnly error
  | ok _ =>
      simp only
      rw [hcommit]
      exact head_abort (s := { s with
          writeInFlight := false
          pendingWriteOffset := -1
          pendingWriteSize := 0 })
        ⟨hopen.connection, hopen.readInFlight, hopen.finished, hopen.stopped⟩ hs.headerOnly _

theorem head_onFileError (hhead : S.route.headOnly = true) (hs : HeadIdle (hist h s) s)
    (error : Status) : HeadGood (hist h (s.onFileError S error)) (s.onFileError S error) := by
  rcases onFileError_cases (S := S) hs.isOpen error with ⟨-, he⟩ | ⟨code, actions, -, hh, he, hf⟩
  · rw [he]
    exact head_ended hs.headerOnly (by simp [buffer, StreamMessage.buffer])
  · have hp := hs.payloads
    rw [if_neg (by simp [hh])] at hp
    rw [he]
    exact head_failActions hhead hf hp

theorem head_handle (hhead : S.route.headOnly = true) (hs : HeadIdle h s) (hout : s.out = [])
    {x : StreamInput} (hq : Quiet S s x) :
    HeadGood (hist (h ++ [.event x.event]) (s.handle S x.io x.event))
      (s.handle S x.io x.event) := by
  have hs₁ : HeadIdle (h ++ [.event x.event]) s := hs.append (by simp [buffer])
  have hs₂ : HeadIdle (hist (h ++ [.event x.event]) s) s := by simpa [hist, hout] using hs₁
  cases he : x.event with
  | setClient =>
      rw [he] at hs₂
      exact Or.inl (hs₂.congr ⟨hs.isOpen.connection, hs.isOpen.readInFlight, hs.isOpen.finished,
        hs.isOpen.stopped⟩ rfl rfl rfl)
  | onFileReady fileId totalSize progress =>
      rw [he] at hs₁
      exact head_onFileReady hhead hs₁ hout fileId totalSize progress
  | onFileProgress size progress =>
      rw [he] at hs₂
      have hsame : { s with out := [] } = s := by rw [← hout]
      have hq₁ := hq size progress he
      rw [hsame] at hq₁
      exact head_onFileProgress hs₂ hq₁
  | onHeadersFlushed result =>
      rw [he] at hs₂
      exact head_onHeadersFlushed hs₂ result
  | onChunkFlushed result =>
      rw [he] at hs₂
      exact head_onChunkFlushed hs₂ result
  | onFileError error =>
      rw [he] at hs₂
      exact head_onFileError hhead hs₂ error
  | timeoutExpired =>
      rw [he] at hs₂
      exact head_onFileError hhead hs₂ _

theorem head_settle (hg : HeadGood (hist h s) s) : HeadGood (hist h (s.settle S)) (s.settle S) := by
  unfold settle
  rcases hg with hs | ⟨hf, hst, hh⟩
  · rw [if_neg (by simp [hs.isOpen.stopped])]
    exact Or.inl hs
  · rw [if_pos hst, tearDown_eq, hist_append (s := s) (k := tearDownActions S s) rfl]
    exact Or.inr ⟨hf, hst, HeaderOnly.append hh fun x hx => (tearDownActions_neutral s x hx).1⟩

end FileStreamConnection

open FileStreamConnection

namespace StreamRecord

variable {S : FileStreamSetup} {r : StreamRecord} {x : StreamInput}

theorem head_step (hhead : S.route.headOnly = true) (hg : HeadGood r.history r.state)
    (hq : Quiet S r.state x) : HeadGood (r.step S x).history (r.step S x).state := by
  rw [step_history]
  change HeadGood (hist (r.history ++ [.event x.event]) (r.state.step S x)) (r.state.step S x)
  rcases hg with hs | ⟨hf, hst, hh⟩
  · rw [FileStreamConnection.step_of_open hs.isOpen]
    have hs₁ : HeadIdle r.history { r.state with out := [] } :=
      hs.congr ⟨hs.isOpen.connection, hs.isOpen.readInFlight, hs.isOpen.finished,
        hs.isOpen.stopped⟩ rfl rfl rfl
    exact head_settle (head_handle hhead hs₁ rfl hq)
  · rw [step_of_stopped hst]
    refine Or.inr ⟨hf, hst, ?_⟩
    have hhist : hist (r.history ++ [.event x.event]) { r.state with out := [] } =
        r.history ++ [.event x.event] := by simp [hist]
    rw [hhist]
    exact HeaderOnly.append hh (by simp [buffer])

/-- A report that is not quiet puts a block of the file on the connection. -/
theorem head_step_lost (hg : HeadGood r.history r.state) (hq : ¬ Quiet S r.state x) :
    ¬ HeaderOnly (r.step S x).history := by
  unfold Quiet at hq
  push Not at hq
  obtain ⟨size, progress, he, t, ht, path, data, hb⟩ := hq
  rcases hg with hs | ⟨hf, -, -⟩
  · have hs₁ : HeadIdle (hist r.history { r.state with out := [] }) { r.state with out := [] } := by
      have := hs.congr (t := { r.state with out := [] }) ⟨hs.isOpen.connection,
        hs.isOpen.readInFlight, hs.isOpen.finished, hs.isOpen.stopped⟩ rfl rfl rfl
      simpa [hist] using this
    have hidle := afterProgress_headIdle hs₁ ht
    have hout := onFileProgress_outcome (S := S) x.io hs₁.isOpen size progress
    rw [ht] at hout
    have hprogress : { r.state with out := [] }.onFileProgress S x.io size progress =
        blockSent S t path data := by
      generalize { r.state with out := [] }.onFileProgress S x.io size progress = u at hout ⊢
      cases hout with
      | accepted t => exact tryRead_eq_blockSent hidle.isOpen hb
    have hstep : r.state.step S x = blockSent S t path data := by
      rw [FileStreamConnection.step_of_open hs.isOpen, he]
      change ({ r.state with out := [] }.onFileProgress S x.io size progress).settle S = _
      rw [hprogress]
      unfold settle
      exact if_neg (by simp [blockSent, hidle.isOpen.stopped])
    intro hh
    have hmem : Payload.data t.cursor.nextOffset data ∈ payloads (r.step S x).history := by
      rw [step_history]
      change _ ∈ payloads (hist (r.history ++ [.event x.event]) (r.state.step S x))
      rw [hstep, payloads, List.mem_filterMap]
      exact ⟨.action (.send (.writeNextWithPromise (.data t.cursor.nextOffset data)
        .onChunkFlushed)), by simp [hist, blockSent], rfl⟩
    obtain ⟨hc, hheader⟩ := hh.2 _ hmem
    cases hheader
  · unfold afterProgress at ht
    rw [if_pos (Or.inl hf)] at ht
    cases ht

theorem head_start : HeadGood (start S).history (start S).state :=
  Or.inl ⟨⟨rfl, rfl, rfl, rfl⟩, rfl, rfl, rfl⟩

end StreamRecord

/-- A HEAD stream writes nothing but its response header exactly along the runs in which no
progress report makes a block of the range readable. -/
theorem headStream_headerOnly_iff (S : FileStreamSetup) (hhead : S.route.headOnly = true)
    (inputs : List StreamInput) :
    HeaderOnly (StreamRecord.run S inputs).history ↔
      StepRun.AllSteps (StreamRecord.step S) (fun r x => Quiet S r.state x)
        (StreamRecord.start S) inputs := by
  apply StepRun.run_iff_allSteps (fun r : StreamRecord => HeadGood r.history r.state)
    (fun r => HeaderOnly r.history)
  · exact fun r hg => hg.headerOnly
  · exact fun r x hg hq => StreamRecord.head_step hhead hg hq
  · exact fun r x hg hq => StreamRecord.head_step_lost hg hq
  · exact fun r x hbad hh => hbad (HeaderOnly.of_append hh)
  · exact StreamRecord.head_start

/-- A HEAD stream whose header is flushed before any progress report. -/
theorem headStream_headerOnly_flushed :
    let S : FileStreamSetup :=
      { streamId := 1, route := { token := [], fileId := [], headOnly := true } }
    let io := FileAccess.ofBytes [10, 20]
    HeaderOnly (StreamRecord.run S [⟨.setClient, io⟩,
      ⟨.onFileReady 7 2 { localPath := ['f'], isDownloadingActive := true }, io⟩,
      ⟨.onHeadersFlushed (.ok ()), io⟩]).history := by
  intro S io
  rw [headStream_headerOnly_iff S rfl]
  refine ⟨?_, ?_, ?_, trivial⟩ <;> intro size progress he <;> cases he

/-- A progress report that overtakes the header flush puts body bytes on a HEAD response. -/
theorem headStream_writes_body :
    let S : FileStreamSetup :=
      { streamId := 1, route := { token := [], fileId := [], headOnly := true } }
    let io := FileAccess.ofBytes [10, 20]
    let inputs : List StreamInput := [⟨.setClient, io⟩,
      ⟨.onFileReady 7 2 { localPath := ['f'], isDownloadingActive := true }, io⟩,
      ⟨.onFileProgress 2
        { localPath := ['f'], downloadedPrefixSize := 2, isDownloadingActive := true }, io⟩]
    S.route.headOnly = true ∧ Payload.data 0 [10, 20] ∈ payloads (StreamRecord.run S inputs).history ∧
      ¬ HeaderOnly (StreamRecord.run S inputs).history := by
  intro S io inputs
  have hmem : Payload.data 0 [10, 20] ∈ payloads (StreamRecord.run S inputs).history := by
    decide +kernel
  refine ⟨rfl, hmem, fun hh => ?_⟩
  obtain ⟨hc, hheader⟩ := hh.2 _ hmem
  cases hheader

end TelegramBotApi
