import TelegramBotApi.FileStreamTransitions
import TelegramBotApi.ActionLog

/-!
# What a stream knows of its registration

A stream learns its client from `set_client` and its file from `on_file_ready`; no other handler
touches the two. `Keeps P s t` says that they are those of `s` and that the handler only added actions
that satisfy `P`. At the end of its life the stream tells the client, in `remove_file_stream`, what
it knows.
-/

namespace TelegramBotApi

open ActionLog

/-- Neither a removal nor the end of a stream whose download was reported stopped. -/
def StreamAction.Ordinary : StreamAction → Prop
  | .send (.removeFileStream ..) => False
  | .send (.writeError error) => error ≠ FileStreamConnection.downloadStopped
  | _ => True

def StreamAction.NoRemoval : StreamAction → Prop
  | .send (.removeFileStream ..) => False
  | _ => True

theorem StreamAction.Ordinary.noRemoval {a : StreamAction} (h : a.Ordinary) : a.NoRemoval := by
  cases a with
  | send message => cases message <;> trivial
  | pread path offset count => trivial

namespace FileStreamConnection

open StreamAction (Ordinary NoRemoval)

variable {S : FileStreamSetup} {io : FileAccess} {s t u : FileStreamConnection}
  {P Q : StreamAction → Prop}

structure Keeps (P : StreamAction → Prop) (s t : FileStreamConnection) : Prop where
  fileId : t.fileId = s.fileId
  client : t.client = s.client
  out : Extends P s.out t.out

namespace Keeps

theorem refl (s : FileStreamConnection) : Keeps P s s := ⟨rfl, rfl, Extends.refl _⟩

theorem trans (h₁ : Keeps P s t) (h₂ : Keeps P t u) : Keeps P s u :=
  ⟨h₂.fileId.trans h₁.fileId, h₂.client.trans h₁.client, h₁.out.trans h₂.out⟩

theorem imp (h : Keeps P s t) (hpq : ∀ a, P a → Q a) : Keeps Q s t := { h with out := h.out.imp hpq }

end Keeps

theorem keeps_send {message : StreamMessage} (h : P (.send message)) : Keeps P s (s.send message) :=
  ⟨rfl, rfl, Extends.concat h⟩

theorem keeps_abort {error : Status} (h : P (.send (.writeError error))) :
    Keeps P s (s.abort error) := by
  unfold abort
  simp only
  split_ifs
  · exact Keeps.refl s
  · exact ⟨rfl, rfl, Extends.concat h⟩
  · exact ⟨rfl, rfl, Extends.refl _⟩

theorem keeps_fail (code : Int) (message : String) : Keeps NoRemoval s (s.fail S code message) := by
  unfold fail
  simp only
  by_cases hf : s.finished = true
  · rw [if_pos hf]
    exact Keeps.refl s
  rw [if_neg hf]
  by_cases hh : s.headersSent = true
  · rw [if_pos hh]
    exact keeps_abort (P := NoRemoval) trivial
  rw [if_neg hh]
  split
  · exact ⟨rfl, rfl, Extends.concat (P := NoRemoval) trivial⟩
  · have hheader : Keeps NoRemoval s (({ s with finished := true } : FileStreamConnection).send
        (.writeNextNoflush (.header (s.errorHeader code (jsonQueryError code message))))) :=
      ⟨rfl, rfl, Extends.concat (P := NoRemoval) trivial⟩
    split_ifs
    · exact hheader.trans ⟨rfl, rfl, Extends.concat (P := NoRemoval) trivial⟩
    · refine (hheader.trans (keeps_send (P := NoRemoval) ?_)).trans
        ⟨rfl, rfl, Extends.concat (P := NoRemoval) trivial⟩
      trivial

theorem keeps_finish (s : FileStreamConnection) : Keeps Ordinary s s.finish := by
  unfold finish
  simp only
  split_ifs
  · exact Keeps.refl s
  · exact keeps_abort (by simp [Ordinary, downloadStopped])
  · exact ⟨rfl, rfl, Extends.concat trivial⟩
  · exact ⟨rfl, rfl, Extends.refl _⟩

theorem keeps_onFileError (error : Status) : Keeps NoRemoval s (s.onFileError S error) := by
  unfold onFileError
  simp only
  by_cases hf : s.finished = true
  · rw [if_pos hf]
    exact Keeps.refl s
  rw [if_neg hf]
  by_cases hh : s.headersSent = true
  · rw [if_neg (not_not_intro hh)]
    exact keeps_abort (P := NoRemoval) trivial
  · rw [if_pos hh]
    exact keeps_fail _ _

theorem keeps_sendHeaders (s : FileStreamConnection) : Keeps NoRemoval s (s.sendHeaders S) := by
  unfold sendHeaders
  split_ifs
  · exact Keeps.refl s
  · split
    · exact keeps_fail _ _
    · exact ⟨rfl, rfl, Extends.concat trivial⟩

theorem keeps_onFileData (offset : Int) (data : List UInt8) :
    Keeps Ordinary s (s.onFileData S offset (.ok data)) := by
  have ht : Keeps Ordinary s { s with readInFlight := false } := ⟨rfl, rfl, Extends.refl _⟩
  unfold onFileData
  simp only
  split_ifs
  · exact ht
  · exact ht.trans (keeps_abort (by simp [Ordinary, incompletePart, downloadStopped]))
  · exact ⟨rfl, rfl, Extends.concat trivial⟩

theorem keeps_readChunk (path : Slice) (count : Int) :
    Keeps Ordinary s (s.readChunk S io path count) := by
  have ht : ∀ b : Bool, Keeps Ordinary s
      ({ { s with readInFlight := true }.emit (.pread path s.cursor.nextOffset count) with
        readInFlight := b }) := fun _ => ⟨rfl, rfl, Extends.concat trivial⟩
  unfold readChunk
  simp only
  split
  · exact (ht false).trans (keeps_abort (by simp [Ordinary, downloadStopped]))
  · split_ifs
    · exact (ht false).trans (keeps_abort (by simp [Ordinary, incompletePart, downloadStopped]))
    · exact ⟨rfl, rfl, Extends.concat trivial⟩
    · exact (ht true).trans (keeps_onFileData _ _)

theorem keeps_tryRead (io : FileAccess) (s : FileStreamConnection) :
    Keeps Ordinary s (s.tryRead S io) := by
  unfold tryRead
  simp only
  split
  · exact Keeps.refl s
  split
  · exact keeps_finish s
  split
  · exact Keeps.refl s
  split
  · exact keeps_abort (by simp [Ordinary, downloadStopped])
  split
  · exact Keeps.refl s
  split
  · exact keeps_readChunk _ _
  split
  · split_ifs
    · exact keeps_abort (by simp [Ordinary, downloadStopped])
    · exact Keeps.refl s
  · have ht : Keeps Ordinary s { s with localFile := some s.localPath } :=
      ⟨rfl, rfl, Extends.refl _⟩
    exact ht.trans (keeps_readChunk _ _)

theorem keeps_setLocalPath (path : Slice) : Keeps Ordinary s (s.setLocalPath S path) := by
  unfold setLocalPath
  simp only
  split_ifs
  · have hrelease : Keeps Ordinary s (s.send (.releaseFile s.localPath)) :=
      keeps_send (P := Ordinary) trivial
    exact hrelease.trans ⟨rfl, rfl, Extends.concat (P := Ordinary) trivial⟩
  · exact ⟨rfl, rfl, Extends.concat trivial⟩
  · exact ⟨rfl, rfl, Extends.concat trivial⟩
  · exact ⟨rfl, rfl, Extends.refl _⟩

theorem keeps_respond (s : FileStreamConnection) : Keeps NoRemoval s (s.respond S io) := by
  unfold respond
  split_ifs
  · exact keeps_fail _ _
  · exact keeps_sendHeaders s
  · exact (keeps_sendHeaders s).trans ((keeps_tryRead io _).imp fun _ h => h.noRemoval)

theorem keeps_beginDownload (progress : FileProgress) :
    Keeps NoRemoval s (s.beginDownload S io progress) := by
  unfold beginDownload
  split
  · exact keeps_fail _ _
  · exact Keeps.trans (t := { s with
      cursor := _
      downloadCompleted := progress.isCompleted }) ⟨rfl, rfl, Extends.refl _⟩ (keeps_respond _)

theorem keeps_selectRange (totalSize : Int) (progress : FileProgress) :
    Keeps NoRemoval s (s.selectRange S io totalSize progress) := by
  unfold selectRange
  split
  · exact keeps_fail _ _
  · rename_i range _
    exact Keeps.trans (t := { s with
      partialResponse := range.isPartial
      cursor := s.cursor.setRange range.start range.stop }) ⟨rfl, rfl, Extends.refl _⟩
      (keeps_beginDownload _)

theorem keeps_acceptSize (totalSize : Int) (progress : FileProgress) :
    Keeps NoRemoval s (s.acceptSize S io totalSize progress) := by
  unfold acceptSize
  split_ifs
  · exact keeps_fail _ _
  · exact keeps_fail _ _
  · exact Keeps.trans (t := { s with cursor := { s.cursor with totalSize := totalSize } })
      ⟨rfl, rfl, Extends.refl _⟩ (keeps_selectRange _ _)

/-- `on_file_ready` either leaves the file unknown or records the file it was given. -/
theorem onFileReady_keeps (io : FileAccess) (s : FileStreamConnection) (fileId totalSize : Int)
    (progress : FileProgress) :
    Keeps NoRemoval s (s.onFileReady S io fileId totalSize progress) ∨
      Keeps NoRemoval { s with fileId := fileId }
        (s.onFileReady S io fileId totalSize progress) := by
  unfold onFileReady
  simp only
  split_ifs
  · exact Or.inl (Keeps.refl s)
  · exact Or.inl (keeps_fail _ _)
  · exact Or.inr (((keeps_setLocalPath _).imp fun _ h => h.noRemoval).trans (keeps_acceptSize _ _))
  · exact Or.inr (keeps_acceptSize _ _)

theorem keeps_followPath (path : Slice) : Keeps Ordinary s (s.followPath S path) := by
  unfold followPath
  split_ifs
  · exact Keeps.trans (t := { s with localFile := none }) ⟨rfl, rfl, Extends.refl _⟩
      (keeps_setLocalPath path)
  · exact Keeps.refl s

/-- Only a report of a download that is neither active nor complete stops a stream as stopped. -/
theorem keeps_continueDownload (hp : ∀ a, Ordinary a → P a) {isDownloadingActive : Bool}
    (h : s.downloadCompleted = false → isDownloadingActive = false →
      P (.send (.writeError downloadStopped))) :
    Keeps P s (s.continueDownload S io isDownloadingActive) := by
  unfold continueDownload
  split_ifs with hstop
  · exact keeps_abort (h (by simpa using hstop.1) (by simpa using hstop.2))
  · exact keeps_abort (hp _ (by simp [Ordinary, incompleteFile, downloadStopped]))
  · exact (keeps_tryRead io s).imp hp

theorem keeps_applyProgress (hp : ∀ a, Ordinary a → P a) {progress : FileProgress}
    (h : progress.isCompleted = false → progress.isDownloadingActive = false →
      P (.send (.writeError downloadStopped))) : Keeps P s (s.applyProgress S io progress) := by
  unfold applyProgress
  cases he : s.cursor.updateProgress progress.downloadOffset progress.downloadedPrefixSize
      progress.isCompleted with
  | error status =>
      refine keeps_abort (hp _ ?_)
      unfold FileStreamCursor.updateProgress at he
      split_ifs at he
      cases he
      simp [Ordinary, FileStreamCursor.progressError, downloadStopped]
  | ok cursor =>
      refine Keeps.trans (t := { s with
        cursor := cursor
        downloadCompleted := s.downloadCompleted || progress.isCompleted })
        ⟨rfl, rfl, Extends.refl _⟩ (keeps_continueDownload hp fun hc ha => h ?_ ha)
      exact (Bool.or_eq_false_iff.1 hc).2

theorem keeps_onFileProgress (io : FileAccess) (s : FileStreamConnection) (size : Int)
    (progress : FileProgress) (hp : ∀ a, Ordinary a → P a)
    (h : progress.isCompleted = false → progress.isDownloadingActive = false →
      P (.send (.writeError downloadStopped))) :
    Keeps P s (s.onFileProgress S io size progress) := by
  unfold onFileProgress
  split_ifs
  · exact Keeps.refl s
  · exact keeps_abort (hp _ (by simp [Ordinary, sizeChanged, downloadStopped]))
  · exact ((keeps_followPath progress.localPath).imp hp).trans (keeps_applyProgress hp h)

theorem keeps_onChunkFlushed (result : Except Status Unit) :
    Keeps NoRemoval s (s.onChunkFlushed S io result) := by
  have ht : Keeps NoRemoval s { s with writeInFlight := false } := ⟨rfl, rfl, Extends.refl _⟩
  unfold onChunkFlushed
  by_cases hf : s.finished = true
  · rw [if_pos hf]
    exact ht
  rw [if_neg hf]
  cases result with
  | error error => exact ht.trans (keeps_abort (P := NoRemoval) trivial)
  | ok _ =>
      dsimp only
      split
      · exact Keeps.trans (t := { s with
          writeInFlight := false
          pendingWriteOffset := -1
          pendingWriteSize := 0 }) ⟨rfl, rfl, Extends.refl _⟩
          (keeps_abort (P := NoRemoval) trivial)
      · refine Keeps.trans ?_ ((keeps_tryRead io _).imp fun _ h => h.noRemoval)
        split_ifs
        · exact ⟨rfl, rfl, Extends.concat (P := NoRemoval) trivial⟩
        · exact ⟨rfl, rfl, Extends.refl _⟩

theorem keeps_onHeadersFlushed (result : Except Status Unit) :
    Keeps NoRemoval s (s.onHeadersFlushed S result) := by
  unfold onHeadersFlushed
  by_cases hf : s.finished = true
  · rw [if_pos hf]
    exact Keeps.refl s
  rw [if_neg hf]
  cases result with
  | error error => exact keeps_abort (P := NoRemoval) trivial
  | ok _ =>
      dsimp only
      split_ifs
      · exact ⟨rfl, rfl, Extends.concat (P := NoRemoval) trivial⟩
      · exact ⟨rfl, rfl, Extends.refl _⟩
      · exact Keeps.refl s

/-- What a handler can do to the registration of its stream. -/
inductive Learns (s : FileStreamConnection) : StreamEvent → FileStreamConnection → Prop
  | nothing {e : StreamEvent} {t : FileStreamConnection} (h : Keeps NoRemoval s t) : Learns s e t
  | client : Learns s .setClient { s with client := true }
  | file (fileId totalSize : Int) (progress : FileProgress) {t : FileStreamConnection}
      (h : Keeps NoRemoval { s with fileId := fileId } t) :
      Learns s (.onFileReady fileId totalSize progress) t

theorem handle_learns (s : FileStreamConnection) (io : FileAccess) (e : StreamEvent) :
    Learns s e (s.handle S io e) := by
  cases e with
  | setClient => exact .client
  | onFileReady fileId totalSize progress =>
      rcases onFileReady_keeps (S := S) io s fileId totalSize progress with h | h
      · exact .nothing h
      · exact .file fileId totalSize progress h
  | onFileProgress size progress =>
      exact .nothing (keeps_onFileProgress io s size progress (fun _ h => h.noRemoval)
        fun _ _ => trivial)
  | onHeadersFlushed result => exact .nothing (keeps_onHeadersFlushed result)
  | onChunkFlushed result => exact .nothing (keeps_onChunkFlushed result)
  | onFileError error => exact .nothing (keeps_onFileError error)
  | timeoutExpired => exact .nothing (keeps_onFileError _)

/-- What a step of a stream says about its registration: only a stream that has a client removes
itself, under the file it knows, and it has both from the messages it got. -/
structure Registration (S : FileStreamSetup) (s : FileStreamConnection) (e : StreamEvent)
    (t : FileStreamConnection) : Prop where
  fileId : t.fileId = s.fileId ∨ ∃ totalSize progress, e = .onFileReady t.fileId totalSize progress
  client : t.client = true → s.client = true ∨ e = .setClient
  removal : ∀ streamId fileId removeLocalFile,
    StreamAction.send (.removeFileStream streamId fileId removeLocalFile) ∈ t.out →
      streamId = S.streamId ∧ fileId = t.fileId ∧ t.client = true

theorem Learns.registration {e : StreamEvent} (h : Learns s e t) (hout : s.out = []) :
    Registration S s e t := by
  have hno : ∀ {u}, Keeps NoRemoval s u → ∀ streamId fileId flag,
      StreamAction.send (.removeFileStream streamId fileId flag) ∉ u.out := by
    intro u hu streamId fileId flag hmem
    have := hu.out
    rw [hout] at this
    exact this.mem _ hmem
  cases h with
  | nothing h =>
      refine ⟨Or.inl h.fileId, fun hc => Or.inl (h.client ▸ hc), fun i f r hmem => ?_⟩
      exact absurd hmem (hno h i f r)
  | client =>
      refine ⟨Or.inl rfl, fun _ => Or.inr rfl, fun i f r hmem => ?_⟩
      exact absurd hmem (hno (Keeps.refl s) i f r)
  | file fileId totalSize progress h =>
      refine ⟨Or.inr ⟨totalSize, progress, ?_⟩, fun hc => Or.inl (h.client ▸ hc),
        fun i f r hmem => ?_⟩
      · rw [h.fileId]
      · have hu : Keeps NoRemoval s { t with fileId := s.fileId } := ⟨rfl, h.client, h.out⟩
        exact absurd hmem (hno hu i f r)

theorem Registration.settle {e : StreamEvent} (h : Registration S s e t) :
    Registration S s e (t.settle S) := by
  unfold FileStreamConnection.settle
  split_ifs
  · rw [tearDown_eq]
    refine ⟨h.fileId, h.client, fun i f r hmem => ?_⟩
    rcases List.mem_append.1 hmem with hmem | hmem
    · exact h.removal i f r hmem
    · simp only [tearDownActions, List.mem_append] at hmem
      rcases hmem with (hmem | hmem) | hmem
      · split_ifs at hmem
        · cases List.mem_singleton.1 hmem
        · cases hmem
      · cases List.mem_singleton.1 hmem
      · split_ifs at hmem with hc
        · cases List.mem_singleton.1 hmem
          exact ⟨rfl, rfl, hc⟩
        · cases hmem
  · exact h

theorem step_registration (s : FileStreamConnection) (x : StreamInput) :
    Registration S s x.event (s.step S x) := by
  unfold step
  simp only
  split_ifs
  · exact ⟨Or.inl rfl, Or.inl, fun _ _ _ h => by cases h⟩
  · have h := (handle_learns (S := S) { s with out := [] } x.io x.event).registration (S := S) rfl
    exact Registration.settle ⟨h.fileId, h.client, h.removal⟩

/-- A report that does not say that the download stopped does not end a stream as stopped. -/
theorem step_onFileProgress {x : StreamInput} {size : Int} {progress : FileProgress}
    (hx : x.event = .onFileProgress size progress)
    (h : StreamAction.send (.writeError downloadStopped) ∈ (s.step S x).out) :
    progress.isCompleted = false ∧ progress.isDownloadingActive = false := by
  by_contra hc
  have hkeeps : Keeps Ordinary { s with out := [] }
      ({ s with out := [] }.onFileProgress S x.io size progress) :=
    keeps_onFileProgress x.io _ size progress (fun _ h => h) fun h₁ h₂ => absurd ⟨h₁, h₂⟩ hc
  have hmem := hkeeps.out.mem
  unfold step at h
  simp only [hx, handle] at h
  split_ifs at h
  · cases h
  · unfold settle at h
    split_ifs at h
    · rw [tearDown_eq] at h
      rcases List.mem_append.1 h with h | h
      · exact hmem _ h rfl
      · simp only [tearDownActions, List.mem_append] at h
        rcases h with (h | h) | h
        · split_ifs at h
          · cases List.mem_singleton.1 h
          · cases h
        · cases List.mem_singleton.1 h
        · split_ifs at h
          · cases List.mem_singleton.1 h
          · cases h
    · exact hmem _ h rfl

theorem step_stopped {x : StreamInput} (hs : s.stopped = true) : (s.step S x).stopped = true := by
  rw [step_of_stopped hs]
  exact hs

end FileStreamConnection

end TelegramBotApi
