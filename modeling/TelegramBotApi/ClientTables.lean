import TelegramBotApi.ClientStep

/-!
# The operations on the listener tables

One specification for each operation that changes who listens to a file: a stream that joins or
leaves, a `getFile` query that starts to wait, and the clearing of everything in `on_closed`. From
them and the frames every step keeps a client `WellKept`.
-/

namespace TelegramBotApi

open ActionLog

namespace Client

open ClientAction (Plain)

variable {S : ClientSetup} {now : Int} {s t : Client}

/-- The client after a stream was dropped from `active_file_streams_` and `pending_file_streams_`. -/
def detached (streamId : Int) (s : Client) : Client :=
  { s with
    activeFileStreams := s.activeFileStreams.filter (· ≠ streamId)
    pendingFileStreams := s.pendingFileStreams.filter (·.streamId ≠ streamId) }

def remaining (streamId fileId : Int) (s : Client) : List Int :=
  (s.fileStreamListeners.get fileId).filter (· ≠ streamId)

/-- The client after a stream was dropped from the listeners of `fileId`. -/
def unlisted (streamId fileId : Int) (s : Client) : Client :=
  { s with fileStreamListeners := s.fileStreamListeners.set fileId (s.remaining streamId fileId) }

def LastToLeave (streamId fileId : Int) (s : Client) : Prop :=
  s.remaining streamId fileId = [] ∧ s.fileDownloadListeners.get fileId = [] ∧ s.isClosing = false

def leaveRequest (fileId : Int) (removeLocalFile : Bool) : TdRequest :=
  if removeLocalFile then .deleteFile fileId else .cancelDownloadFile fileId

theorem removeListener_eq (s : Client) (streamId fileId : Int) (removeLocalFile : Bool) :
    s.removeListener now streamId fileId removeLocalFile =
      if s.remaining streamId fileId ≠ [] ∨ s.fileDownloadListeners.get fileId ≠ [] then
        s.unlisted streamId fileId
      else if removeLocalFile then
        (s.unlisted streamId fileId).sendRequest now (.deleteFile fileId) (.onDeleteFile fileId)
      else
        (s.unlisted streamId fileId).sendRequest now (.cancelDownloadFile fileId)
          .onCancelDownloadFile := rfl

theorem removeListener_frame (now : Int) (s : Client) (streamId fileId : Int) (removeLocalFile : Bool) :
    Frame (fun a => LastToLeave streamId fileId s ∧
        ∃ n, a = .request n (leaveRequest fileId removeLocalFile))
      (s.unlisted streamId fileId) (s.removeListener now streamId fileId removeLocalFile) := by
  have hclosing : (s.unlisted streamId fileId).isClosing = s.isClosing := rfl
  rw [removeListener_eq]
  by_cases hrest : s.remaining streamId fileId ≠ [] ∨ s.fileDownloadListeners.get fileId ≠ []
  · rw [if_pos hrest]
    exact Frame.refl _
  rw [if_neg hrest]
  rw [not_or, not_not, not_not] at hrest
  unfold sendRequest
  rw [hclosing]
  by_cases hc : s.isClosing = true
  · simp only [if_pos hc, onInlineError, ite_self]
    exact Frame.refl _
  · simp only [if_neg hc]
    have hlast : LastToLeave streamId fileId s := ⟨hrest.1, hrest.2, by simpa using hc⟩
    cases removeLocalFile with
    | true => exact frame_doSendRequest (mayWait_of_not id id) ⟨hlast, _, rfl⟩
    | false => exact frame_doSendRequest (mayWait_of_not id id) ⟨hlast, _, rfl⟩

theorem removeFileStream_eq (s : Client) (streamId fileId : Int) (removeLocalFile : Bool) :
    s.removeFileStream now streamId fileId removeLocalFile =
      if fileId = 0 ∨ s.fileStreamListeners.get fileId = [] then s.detached streamId
      else (s.detached streamId).removeListener now streamId fileId removeLocalFile := rfl

/-- The client after a stream was added to the listeners of a file and told about it. -/
def listed (streamId : Int) (file : TdFile) (s : Client) : Client :=
  { s with
    fileStreamListeners := s.fileStreamListeners.push file.id streamId
    out := s.out ++ [.stream streamId (.onFileReady file.id file.size file.progress)] }

theorem joinFileStream_eq (s : Client) (streamId : Int) (file : TdFile) :
    s.joinFileStream now streamId file.size file =
      if s.fileStreamListeners.get file.id = [] then
        (s.listed streamId file).sendRequest now (.downloadFile file.id)
          (.onFileStreamDownload file.id)
      else s.listed streamId file := rfl

theorem joinFileStream_frame (now : Int) (s : Client) (streamId : Int) (file : TdFile) :
    Frame (fun a => a.Plain ∨ (s.fileStreamListeners.get file.id = [] ∧ s.isClosing = false ∧
        ∃ n, a = .request n (.downloadFile file.id)))
      (s.listed streamId file) (s.joinFileStream now streamId file.size file) := by
  have hclosing : (s.listed streamId file).isClosing = s.isClosing := rfl
  rw [joinFileStream_eq]
  by_cases hfirst : s.fileStreamListeners.get file.id = []
  · rw [if_pos hfirst]
    unfold sendRequest
    rw [hclosing]
    split_ifs with hc
    · exact (frame_onInlineError _ _).imp fun a ha => Or.inl ha
    · exact frame_doSendRequest (mayWait_of_not id id)
        (Or.inr ⟨hfirst, by simpa using hc, _, rfl⟩)
  · rw [if_neg hfirst]
    exact Frame.refl _

/-- The first listener of a file starts its download. -/
theorem joinFileStream_requests {streamId : Int} {file : TdFile}
    (hfirst : s.fileStreamListeners.get file.id = []) (hc : s.isClosing = false) :
    ∃ n, ClientAction.request n (.downloadFile file.id) ∈
      (s.joinFileStream now streamId file.size file).out := by
  refine ⟨s.nextHandlerId, ?_⟩
  rw [joinFileStream_eq, if_pos hfirst]
  unfold sendRequest
  rw [if_neg (by simpa [listed, isClosing] using hc)]
  simp [doSendRequest, listed]

/-- The client after a query was added to those that wait for `fileId`. -/
def awaited (query : Query) (fileId : Int) (s : Client) : Client :=
  { s with fileDownloadListeners := s.fileDownloadListeners.push fileId query }

theorem doGetFile_frame (now : Int) (s : Client) (file : TdFile) (query : Query) :
    Frame Plain s (s.doGetFile S now file query) ∨
      (¬ (¬ S.localMode ∧ maxDownloadFileSize < max file.expectedSize file.downloadedSize) ∧
        Frame (fun a => a.Plain ∨ (s.isClosing = false ∧ ∃ n, a = .request n (.downloadFile file.id)))
          (s.awaited query file.id) (s.doGetFile S now file query)) := by
  have hclosing : (s.awaited query file.id).isClosing = s.isClosing := rfl
  unfold doGetFile
  split_ifs with hbig
  · exact Or.inl (frame_emit trivial)
  · refine Or.inr ⟨hbig, ?_⟩
    change Frame _ _ ((s.awaited query file.id).sendRequest now _ _)
    unfold sendRequest
    rw [hclosing]
    split_ifs with hc
    · exact (frame_onInlineError _ _).imp fun a ha => Or.inl ha
    · exact frame_doSendRequest (mayWait_of_not id id) (Or.inr ⟨by simpa using hc, _, rfl⟩)

structure Cleared (s t : Client) : Prop where
  active : t.activeFileStreams = []
  pending : t.pendingFileStreams = []
  listeners : t.fileStreamListeners = .empty
  waiting : ∀ f, t.fileDownloadListeners.get f = []
  authorized : t.wasAuthorized = s.wasAuthorized
  tdClient : t.tdClient = false
  state : t.authorizationState = s.authorizationState
  closing : s.isClosing = true → t.isClosing = true
  closes : t.isClosing = true → s.isClosing = true ∨ s.authorizationState = .loggingOut ∨
    s.authorizationState = .closing
  handlers : Numbered s → Numbered t ∧ KeepsHandlers s t
  out : Extends Plain s.out t.out
  answered : ∀ streamId ∈ s.activeFileStreams,
    ClientAction.stream streamId (.onFileError closingStream) ∈ t.out

theorem failAll_cleared (now : Int) (s : Client) : Cleared s (s.failAll now) := by
  have hf := failQueryClosing_handlers now
    (s.cmdQueue ++ s.fileDownloadListeners.values) { s with
      tdClient := false
      cmdQueue := []
      fileDownloadListeners := .empty }
  have hstream : ∀ a ∈ s.activeFileStreams.map (ClientAction.stream · (.onFileError closingStream)),
      Plain a := by
    intro a ha
    obtain ⟨id, -, rfl⟩ := List.mem_map.1 ha
    trivial
  exact {
    active := rfl
    pending := rfl
    listeners := rfl
    waiting := fun f => by
      rcases hf.waiting f with hw | hw
      · exact hw
      · exact hw.trans (Multimap.get_empty f)
    authorized := hf.authorized
    tdClient := hf.tdClient
    state := hf.state
    closing := hf.closing
    closes := hf.closes
    handlers := hf.handlers
    out := hf.out.trans (Extends.append hstream)
    answered := fun streamId hid =>
      List.mem_append_right _ (List.mem_map.2 ⟨streamId, hid, rfl⟩) }

theorem onClosed_cleared (now : Int) (s : Client) : Cleared s (s.onClosed now) := by
  have hf := failAll_cleared now (s.check (s.isClosing && s.tdClient))
  unfold onClosed finishClosing
  simp only
  split_ifs
  · exact { hf with }
  · exact { hf with }
  · exact { hf with }

theorem Cleared.frame {u : Client} (h : Cleared s t) (hf : Frame Plain t u) : Cleared s u where
  active := hf.active.trans h.active
  pending := hf.pending.trans h.pending
  listeners := hf.listeners.trans h.listeners
  waiting f := by
    rcases hf.waiting f with hw | hw
    · exact hw
    · exact hw.trans (h.waiting f)
  authorized := hf.authorized.trans h.authorized
  tdClient := hf.tdClient.trans h.tdClient
  state := hf.state.trans h.state
  closing hc := hf.closing (h.closing hc)
  closes hc := by
    rcases hf.closes hc with hc | hc
    · exact h.closes hc
    · rw [h.state] at hc
      exact Or.inr hc
  handlers hs := by
    obtain ⟨ht, hst⟩ := h.handlers hs
    obtain ⟨hu, htu⟩ := hf.handlers ht
    exact ⟨hu, hst.trans h.authorized htu⟩
  out := h.out.trans hf.out
  answered id hid := by
    obtain ⟨k, hk, -⟩ := hf.out
    rw [hk]
    exact List.mem_append_left _ (h.answered id hid)

theorem WellKept.cleared (hs : WellKept s) (hc : Cleared s t) : WellKept t := by
  obtain ⟨hnum, hlook⟩ := hc.handlers hs.numbered
  refine ⟨hnum, fun ht => ⟨hc.waiting, fun f => by rw [hc.listeners, Multimap.get_empty], ?_⟩⟩
  intro n h hn
  have hnew : s.wasAuthorized = false := hc.authorized ▸ ht
  by_contra hh
  rw [← not_or, not_not] at hh
  rcases hlook.lookup hn hh with hn | ⟨-, ha⟩
  · exact hh.elim ((hs.unused hnew).lookups n h hn).1 ((hs.unused hnew).lookups n h hn).2
  · rw [hnew] at ha
    cases ha

theorem WellKept.authorized {t : Client} (hnum : Numbered t) (ha : t.wasAuthorized = true) :
    WellKept t := ⟨hnum, fun h => by rw [ha] at h; cases h⟩

theorem WellKept.detached (hs : WellKept s) (streamId : Int) : WellKept (s.detached streamId) :=
  ⟨hs.numbered, fun h => ⟨(hs.unused h).waiting, (hs.unused h).listeners, (hs.unused h).lookups⟩⟩

theorem wellKept_removeFileStream (hs : WellKept s) (streamId fileId : Int) (flag : Bool) :
    WellKept (s.removeFileStream now streamId fileId flag) := by
  rw [removeFileStream_eq]
  split_ifs with hnone
  · exact hs.detached streamId
  · have ha : s.wasAuthorized = true := by
      by_contra hc
      exact hnone (Or.inr ((hs.unused (by simpa using hc)).listeners fileId))
    have hf := removeListener_frame now (s.detached streamId) streamId fileId flag
    exact (WellKept.authorized (t := (s.detached streamId).unlisted streamId fileId) hs.numbered
      ha).frame hf

theorem wellKept_outcome {e : Event} (hs : WellKept s) (h : StepOutcome S now s e t) :
    WellKept t := by
  cases h with
  | frame h => exact hs.frame h
  | start p =>
      refine ⟨hs.numbered.startFileStream p, fun h => ?_⟩
      have ho := startFileStream_opened now s p
      have hnew : s.wasAuthorized = false := ho.authorized ▸ h
      have hu := hs.unused hnew
      have he : (s.startFileStream now p).handlers = s.handlers := by
        unfold startFileStream
        simp only
        rw [if_pos (by simp [hnew])]
      exact ⟨fun f => by rw [ho.waiting, hu.waiting], fun f => by rw [ho.listeners, hu.listeners],
        fun n h hn => hu.lookups n h (he ▸ hn)⟩
  | leave streamId fileId removeLocalFile => exact wellKept_removeFileStream hs _ _ _
  | join n streamId expectedSize file hn ha hsize =>
      have hauth := hs.authorized_of_lookup hn (Or.inl trivial)
      have hf := joinFileStream_frame now s streamId file
      exact ((WellKept.authorized (t := s.listed streamId file) hs.numbered hauth).frame hf).frame
        (frame_erase (P := Plain) _ n)
  | update file ha => exact hs.frame (frame_onUpdateFile now file)
  | downloaded n fileId file started hn =>
      have hs₁ := hs.withStarted started
      exact (hs₁.frame (frame_onUpdateFile now file)).frame (frame_erase (P := Plain) _ n)
  | getFile n query file hn =>
      have hauth := hs.authorized_of_lookup hn (Or.inr trivial)
      rcases doGetFile_frame (S := S) now s file query with hf | ⟨-, hf⟩
      · exact (hs.frame hf).frame (frame_erase (P := Plain) _ n)
      · exact ((WellKept.authorized (t := s.awaited query file.id) hs.numbered hauth).frame hf).frame
          (frame_erase (P := Plain) _ n)
  | authorize u hu hready hnew ht =>
      have hk := hs.frame hu
      have hd := drainStreams_opened now u
      have hf := becomeAuthorized_frame (S := S) now (hk.unused hnew)
      have hnum : Numbered (u.drainStreams now) := hd.numbered hk.numbered
      exact ((WellKept.authorized hnum hd.authorized).frame hf).frame ht
  | closed u hu ht => exact (hs.frame hu).cleared ((onClosed_cleared now u).frame ht)

/-- Every step keeps a client well kept. -/
theorem wellKept_step (hs : WellKept s) (x : Input) : WellKept (s.step S x) := by
  unfold step
  simp only
  split_ifs
  · exact hs.withOut []
  · exact wellKept_outcome (hs.begun x.event) (handle_outcome s x.event)

theorem wellKept_startUp (S : ClientSetup) (now : Int) : WellKept (startUp S now) := by
  have hempty : ∀ t : Client, t.handlers = ∅ → t.fileDownloadListeners = .empty →
      t.fileStreamListeners = .empty → WellKept t := by
    intro t hh hw hl
    refine ⟨fun n hn => ?_, fun _ => ⟨fun f => ?_, fun f => ?_, fun n h hn => ?_⟩⟩
    · rw [hh] at hn
      exact absurd hn (AList.notMem_empty n)
    · rw [hw, Multimap.get_empty]
    · rw [hl, Multimap.get_empty]
    · rw [hh, AList.lookup_empty] at hn
      cases hn
  unfold startUp finishClosing
  split_ifs
  · exact hempty _ rfl rfl rfl
  · exact hempty _ rfl rfl rfl
  · exact hempty _ rfl rfl rfl

end Client

end TelegramBotApi
