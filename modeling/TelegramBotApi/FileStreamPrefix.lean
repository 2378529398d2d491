import TelegramBotApi.FileStreamHistory
import TelegramBotApi.ActionLog

/-!
# Reads and the reported prefix

TDLib reports with every update how much of the file it has on disk. The cursor only ever raises
`contiguousEnd`, also when a report carries a smaller prefix or another path, so a read can go past
what the latest report covers. As long as no report falls behind the part of the range that the
cursor already regards as downloaded, every read stays inside the latest report.
-/

namespace TelegramBotApi

open StreamEntry

def StreamEvent.reportedPrefix : StreamEvent → Option Int
  | .onFileReady _ _ progress => some progress.downloadedPrefixSize
  | .onFileProgress _ progress => some progress.downloadedPrefixSize
  | _ => none

def StreamEntry.reportedPrefix : StreamEntry → Option Int
  | .event e => e.reportedPrefix
  | .action _ => none

def StreamHistory.lastPrefix (h : List StreamEntry) : Option Int :=
  (h.filterMap StreamEntry.reportedPrefix).getLast?

def Below (limit : Option Int) (x : Int) : Prop := ∃ p ∈ limit, x ≤ p

instance (limit : Option Int) (x : Int) : Decidable (Below limit x) :=
  match limit with
  | none => isFalse (by rintro ⟨p, hp, -⟩; cases hp)
  | some p => decidable_of_iff (x ≤ p) (by simp [Below])

def StreamAction.Within (limit : Option Int) : StreamAction → Prop
  | .pread _ offset count => Below limit (offset + count)
  | .send _ => True

instance (limit : Option Int) : ∀ a : StreamAction, Decidable (a.Within limit)
  | .pread _ offset count => inferInstanceAs (Decidable (Below limit (offset + count)))
  | .send _ => inferInstanceAs (Decidable True)

/-- A read covers only what the most recent report says is downloaded. -/
def ReadsDownloaded (past : List StreamEntry) : StreamEntry → Prop
  | .action a => a.Within (StreamHistory.lastPrefix past)
  | .event _ => True

instance (past : List StreamEntry) : ∀ x, Decidable (ReadsDownloaded past x)
  | .action a => inferInstanceAs (Decidable (a.Within _))
  | .event _ => inferInstanceAs (Decidable True)

namespace StreamHistory

theorem lastPrefix_append_actions (h : List StreamEntry) (k : List StreamAction) :
    lastPrefix (h ++ k.map .action) = lastPrefix h := by
  have hk : (k.map StreamEntry.action).filterMap StreamEntry.reportedPrefix = [] := by
    rw [List.filterMap_eq_nil_iff]
    intro x hx
    obtain ⟨a, -, rfl⟩ := List.mem_map.1 hx
    rfl
  rw [lastPrefix, List.filterMap_append, hk, List.append_nil, lastPrefix]

theorem lastPrefix_append_event (h : List StreamEntry) (e : StreamEvent) :
    lastPrefix (h ++ [.event e]) = e.reportedPrefix.or (lastPrefix h) := by
  rw [lastPrefix, List.filterMap_append, List.getLast?_append]
  cases he : e.reportedPrefix with
  | none => simp [StreamEntry.reportedPrefix, he, lastPrefix]
  | some p => simp [StreamEntry.reportedPrefix, he]

theorem readsDownloaded_actions (h : List StreamEntry) {k : List StreamAction}
    (hk : ∀ a ∈ k, a.Within (lastPrefix h)) :
    History.Each ReadsDownloaded h (k.map .action) := by
  induction k generalizing h with
  | nil => trivial
  | cons a k ih =>
      refine ⟨hk a (by simp), ih (h ++ [.action a]) ?_⟩
      have hlast := lastPrefix_append_actions h [a]
      rw [List.map_singleton] at hlast
      rw [hlast]
      exact fun b hb => hk b (by simp [hb])

end StreamHistory

namespace FileStreamConnection

variable {S : FileStreamSetup} {io : FileAccess} {s t : FileStreamConnection}
  {limit : Option Int}

/-- Everything that the cursor may still read is covered by the latest report. -/
def Covered (limit : Option Int) (c : FileStreamCursor) : Prop :=
  c.totalSize < 0 ∨ (Below limit (min c.contiguousEnd (c.endOffset + 1)) ∧
    (c.startOffset ≤ c.endOffset ∨ c.totalSize = 0))

def Held (limit : Option Int) (s : FileStreamConnection) : Prop :=
  (s.finished = true ∧ s.stopped = true) ∨ (s.Open ∧ Covered limit s.cursor)

/-- A handler has added to `l` only messages and covered reads. -/
def Adds (limit : Option Int) (l l' : List StreamAction) : Prop :=
  ActionLog.Extends (StreamAction.Within limit) l l'

theorem Adds.sends {l k : List StreamAction} (hk : ∀ a ∈ k, ∃ m, a = .send m) :
    Adds limit l (l ++ k) := by
  refine ActionLog.Extends.append fun a ha => ?_
  obtain ⟨m, rfl⟩ := hk a ha
  trivial

/-- The result of a handler keeps the reads of the stream inside the latest report. -/
def Serves (limit : Option Int) (s t : FileStreamConnection) : Prop :=
  Adds limit s.out t.out ∧ Held limit t

theorem serves_ended {k : List StreamAction} (hk : ∀ a ∈ k, ∃ m, a = .send m) :
    Serves limit s (s.ended k) := ⟨Adds.sends hk, Or.inl ⟨rfl, rfl⟩⟩

theorem serves_abort (hs : s.Open) (error : Status) : Serves limit s (s.abort error) := by
  rw [abort_eq hs]
  exact serves_ended fun a ha => ⟨_, List.mem_singleton.1 ha⟩

theorem serves_fail (hs : s.Open) (code : Int) (message : String) :
    Serves limit s (s.fail S code message) := by
  obtain ⟨k, he, hk⟩ := fail_ended (S := S) hs code message
  rw [he]
  exact serves_ended hk

theorem serves_onFileError (hs : s.Open) (error : Status) :
    Serves limit s (s.onFileError S error) := by
  unfold onFileError
  rw [if_neg (by simp [hs.finished])]
  simp only
  split_ifs
  · exact serves_abort hs error
  · exact serves_fail hs _ _
  · exact serves_fail hs _ _

/-- A covered cursor only reads below the reported prefix. -/
theorem within_preadNext (hc : Covered limit s.cursor) (hsize : 0 ≤ s.cursor.totalSize)
    (hpos : 0 < s.cursor.nextReadSize S.effectiveChunkSize) (path : Slice) :
    (preadNext S s path).Within limit := by
  have hbounds := FileStreamCursor.nextReadSize_pos hpos
  rcases hc with hneg | ⟨⟨p, hp, hle⟩, -⟩
  · omega
  · exact ⟨p, hp, by omega⟩

theorem serves_tryRead (hs : s.Open) (hc : Covered limit s.cursor) :
    Serves limit s (s.tryRead S io) := by
  have hout := tryRead_outcome (S := S) io hs
  have hsized : 0 < s.cursor.nextReadSize S.effectiveChunkSize → 0 ≤ s.cursor.totalSize := by
    intro hpos
    by_contra hneg
    unfold FileStreamCursor.nextReadSize at hpos
    rw [if_pos (by omega)] at hpos
    omega
  generalize s.tryRead S io = t at hout ⊢
  cases hout with
  | waiting => exact ⟨ActionLog.Extends.refl _, Or.inr ⟨hs, hc⟩⟩
  | complete _ _ =>
      exact ⟨Adds.sends fun a ha => ⟨_, List.mem_singleton.1 ha⟩, Or.inl ⟨rfl, rfl⟩⟩
  | notOpened error => exact serves_ended fun a ha => ⟨_, List.mem_singleton.1 ha⟩
  | notRead path error hpos =>
      refine ⟨⟨_, rfl, fun a ha => ?_⟩, Or.inl ⟨rfl, rfl⟩⟩
      rcases List.mem_cons.1 ha with rfl | ha
      · exact within_preadNext hc (hsized hpos) hpos path
      · rw [List.mem_singleton.1 ha]
        trivial
  | short path hpos =>
      refine ⟨⟨_, rfl, fun a ha => ?_⟩,
        Or.inr ⟨⟨hs.connection, hs.readInFlight, hs.finished, hs.stopped⟩, hc⟩⟩
      rw [List.mem_singleton.1 ha]
      exact within_preadNext hc (hsized hpos) hpos path
  | block path data hb =>
      refine ⟨⟨_, rfl, fun a ha => ?_⟩,
        Or.inr ⟨⟨hs.connection, hs.readInFlight, hs.finished, hs.stopped⟩, hc⟩⟩
      rcases List.mem_cons.1 ha with rfl | ha
      · exact within_preadNext hc hb.sized hb.available path
      · rw [List.mem_singleton.1 ha]
        trivial

theorem serves_tryRead_of_held (hh : Held limit s) : Serves limit s (s.tryRead S io) := by
  rcases hh with ⟨hf, hst⟩ | ⟨hs, hc⟩
  · have hsame : s.tryRead S io = s := by
      unfold tryRead
      rw [if_pos (Or.inl hf)]
    rw [hsame]
    exact ⟨ActionLog.Extends.refl _, Or.inl ⟨hf, hst⟩⟩
  · exact serves_tryRead hs hc

theorem serves_sendHeaders (hs : s.Open) (hc : Covered limit s.cursor) :
    Serves limit s (s.sendHeaders S) := by
  unfold sendHeaders
  split_ifs
  · exact ⟨ActionLog.Extends.refl _, Or.inr ⟨hs, hc⟩⟩
  · split
    · exact serves_fail hs _ _
    · exact ⟨Adds.sends fun a ha => ⟨_, List.mem_singleton.1 ha⟩,
        Or.inr ⟨⟨hs.connection, hs.readInFlight, hs.finished, hs.stopped⟩, hc⟩⟩

theorem serves_respond (hs : s.Open) (hc : Covered limit s.cursor) :
    Serves limit s (s.respond S io) := by
  unfold respond
  split_ifs
  · exact serves_fail hs _ _
  · exact serves_sendHeaders hs hc
  · obtain ⟨hadds, hheld⟩ := serves_sendHeaders (S := S) hs hc
    obtain ⟨hadds', hheld'⟩ := serves_tryRead_of_held (S := S) hheld
    exact ⟨hadds.trans hadds', hheld'⟩

/-- A report that does not fall behind the cursor covers everything the cursor may read. -/
theorem covered_updateProgress {c c' : FileStreamCursor} {off size : Int} {done : Bool}
    (hc : c.updateProgress off size done = .ok c')
    (hord : c.startOffset ≤ c.endOffset ∨ c.totalSize = 0)
    (hsize : 0 ≤ size → min c.contiguousEnd (c.endOffset + 1) ≤ size) :
    Covered (some size) c' := by
  obtain ⟨hcons, rfl⟩ := FileStreamCursor.updateProgress_ok hc
  have hend := FileStreamCursor.openEndOffset_eq hord
  have hgrow := c.grownContiguousEnd_le_max off size done
  have hle := hsize hcons.2.2.1
  refine Or.inr ⟨⟨size, rfl, ?_⟩, ?_⟩
  · simp only [hend]
    omega
  · simpa only [hend] using hord

theorem serves_beginDownload (hs : s.Open) (progress : FileProgress)
    (hord : s.cursor.startOffset ≤ s.cursor.endOffset ∨ s.cursor.totalSize = 0)
    (hsize : 0 ≤ progress.downloadedPrefixSize →
      s.cursor.contiguousEnd ≤ progress.downloadedPrefixSize) :
    Serves (some progress.downloadedPrefixSize) s (s.beginDownload S io progress) := by
  unfold beginDownload
  cases hc : s.cursor.updateProgress progress.downloadOffset progress.downloadedPrefixSize
      progress.isCompleted with
  | error status => exact serves_fail hs _ _
  | ok c =>
      exact serves_respond (s := { s with cursor := c, downloadCompleted := progress.isCompleted })
        ⟨hs.connection, hs.readInFlight, hs.finished, hs.stopped⟩
        (covered_updateProgress hc hord fun h => by have := hsize h; omega)

theorem serves_acceptSize (hs : s.Open) (totalSize : Int) (progress : FileProgress)
    (hsize : 0 ≤ progress.downloadedPrefixSize →
      s.cursor.contiguousEnd ≤ progress.downloadedPrefixSize) :
    Serves (some progress.downloadedPrefixSize) s (s.acceptSize S io totalSize progress) := by
  unfold acceptSize
  split_ifs
  · exact serves_fail hs _ _
  · exact serves_fail hs _ _
  · unfold selectRange
    cases hparse : parseFileStreamRange S.route.range totalSize with
    | error _ =>
        exact serves_fail (s := { s with cursor := { s.cursor with totalSize := totalSize } })
          ⟨hs.connection, hs.readInFlight, hs.finished, hs.stopped⟩ _ _
    | ok r =>
        exact serves_beginDownload (s := { s with
            partialResponse := r.isPartial
            cursor := { s.cursor with totalSize := totalSize }.setRange r.start r.stop })
          ⟨hs.connection, hs.readInFlight, hs.finished, hs.stopped⟩ progress
          (parseFileStreamRange_wellFormed hparse).le_or_empty hsize

theorem serves_onFileReady (hs : s.Open) (fileId totalSize : Int) (progress : FileProgress)
    (hsize : 0 ≤ progress.downloadedPrefixSize →
      s.cursor.contiguousEnd ≤ progress.downloadedPrefixSize) :
    Serves (some progress.downloadedPrefixSize) s
      (s.onFileReady S io fileId totalSize progress) := by
  unfold onFileReady
  rw [if_neg (by simp [hs.finished])]
  split_ifs
  · exact serves_fail hs _ _
  · simp only [setLocalPath_eq]
    obtain ⟨hadds, hheld⟩ := serves_acceptSize (S := S) (s := { s with
        fileId := fileId
        localPath := progress.localPath
        out := s.out ++ pathActions S { s with fileId := fileId } progress.localPath })
      ⟨hs.connection, hs.readInFlight, hs.finished, hs.stopped⟩ totalSize progress hsize
    exact ⟨(Adds.sends (pathActions_send _ _)).trans hadds, hheld⟩
  · exact serves_acceptSize (s := { s with fileId := fileId })
      ⟨hs.connection, hs.readInFlight, hs.finished, hs.stopped⟩ totalSize progress hsize

theorem adds_followPath (s : FileStreamConnection) (path : Slice) :
    Adds limit s.out (s.followPath S path).out := by
  rcases followPath_cases (S := S) s path with he | he
  · rw [he]
    exact ActionLog.Extends.refl _
  · rw [he]
    exact Adds.sends (pathActions_send s path)

theorem serves_onFileProgress (hs : s.Open) (hc : Covered limit s.cursor) (size : Int)
    (progress : FileProgress) (hsize : 0 ≤ progress.downloadedPrefixSize →
      min s.cursor.contiguousEnd (s.cursor.endOffset + 1) ≤ progress.downloadedPrefixSize) :
    Serves (some progress.downloadedPrefixSize) s (s.onFileProgress S io size progress) := by
  have hout := onFileProgress_outcome (S := S) io hs size progress
  generalize ho : afterProgress S s size progress = o at hout
  generalize s.onFileProgress S io size progress = u at hout ⊢
  cases hout with
  | ignored hneg => exact ⟨ActionLog.Extends.refl _, Or.inr ⟨hs, Or.inl hneg⟩⟩
  | sizeChanged error => exact serves_ended fun a ha => ⟨_, List.mem_singleton.1 ha⟩
  | rejected path t error ht =>
      obtain ⟨c, d, rfl⟩ := ht
      exact ⟨(adds_followPath s path).trans (Adds.sends fun a ha => ⟨_, List.mem_singleton.1 ha⟩),
        Or.inl ⟨rfl, rfl⟩⟩
  | accepted t =>
      obtain ⟨c, d, hupdate, hsized, rfl⟩ := afterProgress_some ho
      have hopen := hs.followPath (S := S) progress.localPath
      have hord : s.cursor.startOffset ≤ s.cursor.endOffset ∨ s.cursor.totalSize = 0 := by
        rcases hc with hneg | hc
        · omega
        · exact hc.2
      obtain ⟨hadds, hheld⟩ := serves_tryRead (S := S)
        (s := { s.followPath S progress.localPath with cursor := c, downloadCompleted := d })
        ⟨hopen.connection, hopen.readInFlight, hopen.finished, hopen.stopped⟩
        (covered_updateProgress hupdate hord hsize)
      exact ⟨(adds_followPath s _).trans hadds, hheld⟩

theorem serves_onChunkFlushed (hs : s.Open) (hc : Covered limit s.cursor)
    (result : Except Status Unit) : Serves limit s (s.onChunkFlushed S io result) := by
  unfold onChunkFlushed
  simp only
  rw [if_neg (by simp [hs.finished])]
  cases result with
  | error error =>
      exact serves_abort (s := { s with writeInFlight := false })
        ⟨hs.connection, hs.readInFlight, hs.finished, hs.stopped⟩ error
  | ok _ =>
      simp only
      cases hcommit : s.cursor.commit s.pendingWriteOffset s.pendingWriteSize with
      | error error =>
          exact serves_abort (s := { s with
              writeInFlight := false
              pendingWriteOffset := -1
              pendingWriteSize := 0 })
            ⟨hs.connection, hs.readInFlight, hs.finished, hs.stopped⟩ error
      | ok c =>
          simp only
          obtain ⟨-, -, -, -, rfl⟩ := FileStreamCursor.commit_ok_iff.1 hcommit
          rw [if_pos hs.connection]
          obtain ⟨hadds, hheld⟩ := serves_tryRead (S := S)
            (s := { s with
              writeInFlight := false
              pendingWriteOffset := -1
              pendingWriteSize := 0
              cursor := { s.cursor with nextOffset := s.cursor.nextOffset + s.pendingWriteSize }
              firstByteSent := true }.send .touchActivity)
            ⟨hs.connection, hs.readInFlight, hs.finished, hs.stopped⟩ hc
          exact ⟨(Adds.sends fun a ha => ⟨_, List.mem_singleton.1 ha⟩).trans hadds, hheld⟩

/-- The report does not fall behind the part of the range that counts as downloaded. -/
def KeepsPrefix (s : FileStreamConnection) : StreamEvent → Prop
  | .onFileReady _ _ progress => 0 ≤ progress.downloadedPrefixSize →
      s.cursor.contiguousEnd ≤ progress.downloadedPrefixSize
  | .onFileProgress _ progress => 0 ≤ progress.downloadedPrefixSize →
      min s.cursor.contiguousEnd (s.cursor.endOffset + 1) ≤ progress.downloadedPrefixSize
  | _ => True

theorem serves_handle (hs : s.Open) (hc : Covered limit s.cursor) (e : StreamEvent)
    (hk : KeepsPrefix s e) : Serves (e.reportedPrefix.or limit) s (s.handle S io e) := by
  have hheld : Held limit s := Or.inr ⟨hs, hc⟩
  cases e with
  | setClient =>
      exact ⟨ActionLog.Extends.refl _, Or.inr ⟨⟨hs.connection, hs.readInFlight, hs.finished, hs.stopped⟩, hc⟩⟩
  | onFileReady fileId totalSize progress => exact serves_onFileReady hs fileId totalSize progress hk
  | onFileProgress size progress => exact serves_onFileProgress hs hc size progress hk
  | onHeadersFlushed result =>
      dsimp only [handle]
      unfold onHeadersFlushed
      rw [if_neg (by simp [hs.finished])]
      cases result with
      | error error => exact serves_abort hs error
      | ok _ =>
          simp only
          split_ifs
          · exact ⟨Adds.sends fun a ha => ⟨_, List.mem_singleton.1 ha⟩, Or.inl ⟨rfl, rfl⟩⟩
          · exact ⟨ActionLog.Extends.refl _, Or.inl ⟨rfl, rfl⟩⟩
          · exact ⟨ActionLog.Extends.refl _, hheld⟩
  | onChunkFlushed result => exact serves_onChunkFlushed hs hc result
  | onFileError error => exact serves_onFileError hs error
  | timeoutExpired => exact serves_onFileError hs _

theorem serves_settle (h : Serves limit s t) : Serves limit s (t.settle S) := by
  unfold settle
  split_ifs with hst
  · rw [tearDown_eq]
    refine ⟨h.1.trans (Adds.sends (tearDownActions_send t)), Or.inl ⟨?_, hst⟩⟩
    rcases h.2 with hf | ⟨hs, -⟩
    · exact hf.1
    · rw [hs.stopped] at hst
      cases hst
  · exact h

end FileStreamConnection

open FileStreamConnection

namespace StreamRecord

variable {S : FileStreamSetup} {r : StreamRecord} {x : StreamInput}

def ReadsCovered (r : StreamRecord) : Prop :=
  History.Each ReadsDownloaded [] r.history ∧ Held (StreamHistory.lastPrefix r.history) r.state

theorem readsCovered_step (hr : ReadsCovered r)
    (hk : r.state.finished = true ∨ KeepsPrefix r.state x.event) : ReadsCovered (r.step S x) := by
  obtain ⟨heach, hheld⟩ := hr
  have hlast : StreamHistory.lastPrefix (r.step S x).history =
      x.event.reportedPrefix.or (StreamHistory.lastPrefix r.history) := by
    rw [step_history, hist, StreamHistory.lastPrefix_append_actions,
      StreamHistory.lastPrefix_append_event]
  have hserves : Serves (x.event.reportedPrefix.or (StreamHistory.lastPrefix r.history))
      { r.state with out := [] } (r.state.step S x) := by
    rcases hheld with ⟨hf, hst⟩ | ⟨hs, hc⟩
    · rw [step_of_stopped hst]
      exact ⟨ActionLog.Extends.refl _, Or.inl ⟨hf, hst⟩⟩
    · rcases hk with hf | hk
      · rw [hs.finished] at hf
        cases hf
      rw [step_of_open hs]
      exact serves_settle (serves_handle (s := { r.state with out := [] })
        ⟨hs.connection, hs.readInFlight, hs.finished, hs.stopped⟩ hc x.event hk)
  refine ⟨?_, hlast ▸ hserves.2⟩
  obtain ⟨k, hout, hwithin⟩ := hserves.1
  rw [List.nil_append] at hout
  rw [step_history, hist, List.append_assoc, History.each_append]
  refine ⟨heach, trivial, ?_⟩
  change History.Each ReadsDownloaded ([] ++ r.history ++ [.event x.event])
    ((r.state.step S x).out.map .action)
  rw [List.nil_append, hout]
  apply StreamHistory.readsDownloaded_actions
  rwa [StreamHistory.lastPrefix_append_event]

theorem readsCovered_start : ReadsCovered (start S) :=
  ⟨⟨trivial, trivial⟩, Or.inr ⟨⟨rfl, rfl, rfl, rfl⟩, Or.inl (by decide : (-1 : Int) < 0)⟩⟩

end StreamRecord

/-- Every read of a stream stays below the prefix of the most recent report, in every run in which
no report to an unfinished stream falls behind what the cursor counts as downloaded. -/
theorem fileStream_reads_downloaded (S : FileStreamSetup) (inputs : List StreamInput)
    (hok : StepRun.AllSteps (StreamRecord.step S)
      (fun r x => r.state.finished = true ∨ KeepsPrefix r.state x.event)
      (StreamRecord.start S) inputs) :
    History.Each ReadsDownloaded [] (StreamRecord.run S inputs).history :=
  (StepRun.run_invariant (fun _ _ hr hk => StreamRecord.readsCovered_step hr hk)
    StreamRecord.readsCovered_start hok).1

/-- A download that grows in place and is read in two blocks. -/
theorem fileStream_reads_downloaded_growing :
    let S : FileStreamSetup :=
      { streamId := 1, route := { token := [], fileId := [] }, config := { chunkSize := 2 } }
    let io := FileAccess.ofBytes [10, 20, 30, 40]
    History.Each ReadsDownloaded [] (StreamRecord.run S [⟨.setClient, io⟩,
      ⟨.onFileReady 7 4
        { localPath := ['f'], downloadedPrefixSize := 2, isDownloadingActive := true }, io⟩,
      ⟨.onFileProgress 4
        { localPath := ['f'], downloadedPrefixSize := 4, isCompleted := true }, io⟩,
      ⟨.onChunkFlushed (.ok ()), io⟩]).history := by
  intro S io
  apply fileStream_reads_downloaded
  refine ⟨Or.inr trivial, Or.inr ?_, Or.inr ?_, Or.inr trivial, trivial⟩
  · intro _
    decide
  · intro _
    decide +kernel

/-- After a restart in a new file the cursor still reads up to the old prefix. -/
theorem fileStream_reads_stale_prefix :
    let S : FileStreamSetup :=
      { streamId := 1, route := { token := [], fileId := [] }, config := { chunkSize := 2 } }
    let io := FileAccess.ofBytes [10, 20, 30, 40]
    let inputs : List StreamInput := [⟨.setClient, io⟩,
      ⟨.onFileReady 7 4
        { localPath := ['f'], downloadedPrefixSize := 4, isDownloadingActive := true }, io⟩,
      ⟨.onFileProgress 4
        { localPath := ['g'], downloadedPrefixSize := 0, isDownloadingActive := true }, io⟩,
      ⟨.onChunkFlushed (.ok ()), io⟩]
    (StreamRecord.run S inputs).state.localPath = ['g'] ∧
      StreamAction.pread ['g'] 2 2 ∈ (StreamRecord.run S inputs).state.out ∧
      StreamHistory.lastPrefix (StreamRecord.run S inputs).history = some 0 ∧
      ¬ History.Each ReadsDownloaded [] (StreamRecord.run S inputs).history := by
  decide +kernel

end TelegramBotApi
