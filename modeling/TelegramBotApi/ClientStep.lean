import TelegramBotApi.ClientFrame

/-!
# What one step of a client can do to streams and downloads

`StepOutcome` lists, for every event, the ways in which a client can touch its stream tables or send
requests about files; everything else is a frame. `WellKept` is the part of the client's invariant
that the other developments build on: before authorization a client has neither listeners nor
callbacks that could create one.
-/

namespace TelegramBotApi

open ActionLog

namespace Client

open ClientAction (Plain)

variable {S : ClientSetup} {now : Int} {s t : Client} {P : ClientAction → Prop}

def erased (n : Nat) (s : Client) : Client := { s with handlers := s.handlers.erase n }

inductive StepOutcome (S : ClientSetup) (now : Int) (s : Client) : Event → Client → Prop
  | frame {e : Event} {t : Client} (h : Frame Plain s t) : StepOutcome S now s e t
  | start (p : PendingFileStream) :
      StepOutcome S now s (.startFileStream p) (s.startFileStream now p)
  | leave (streamId fileId : Int) (removeLocalFile : Bool) :
      StepOutcome S now s (.removeFileStream streamId fileId removeLocalFile)
        (s.removeFileStream now streamId fileId removeLocalFile)
  | join (n : Nat) (streamId expectedSize : Int) (file : TdFile)
      (hn : s.handlers.lookup n = some (.onFileStreamRemoteFile streamId expectedSize))
      (ha : streamId ∈ s.activeFileStreams) (hsize : 0 < file.size) :
      StepOutcome S now s (.onResult n (.file file))
        ((s.joinFileStream now streamId file.size file).erased n)
  | update (file : TdFile) (ha : s.wasAuthorized = true) :
      StepOutcome S now s (.onUpdate (.file file)) (s.onUpdateFile S now file)
  | downloaded (n : Nat) (fileId : Int) (file : TdFile) (started : List Int)
      (hn : s.handlers.lookup n = some (.onFileStreamDownload fileId) ∨
        s.handlers.lookup n = some (.onDownloadFile fileId)) :
      StepOutcome S now s (.onResult n (.file file))
        (({ s with downloadStartedFileIds := started }.onUpdateFile S now file).erased n)
  | getFile (n : Nat) (query : Query) (file : TdFile)
      (hn : s.handlers.lookup n = some (.onCheckRemoteFileId query false)) :
      StepOutcome S now s (.onResult n (.file file)) ((s.doGetFile S now file query).erased n)
  | authorize {e : Event} {t : Client} (u : Client) (hu : Frame Plain s u)
      (hready : u.authorizationState = .ready) (hnew : u.wasAuthorized = false)
      (ht : Frame Plain (u.becomeAuthorized S now) t) :
      StepOutcome S now s e t
  | closed {e : Event} {t : Client} (u : Client) (hu : Frame Plain s u)
      (ht : Frame Plain (u.onClosed now) t) : StepOutcome S now s e t

theorem frame_farewell (wasTold : Bool) : Frame Plain s { s with out := s.out ++ s.farewell wasTold } :=
  { Frame.refl (P := Plain) s with
    out := Extends.append fun a ha => by
      unfold farewell at ha
      split_ifs at ha
      · rw [List.mem_singleton.1 ha]
        trivial
      · cases ha }

theorem onUpdateAuthorizationState_cases (now : Int) (s : Client) :
    Frame Plain s (s.onUpdateAuthorizationState S now) ∨
      (s.authorizationState = .ready ∧ s.wasAuthorized = false ∧
        Frame Plain (s.becomeAuthorized S now) (s.onUpdateAuthorizationState S now)) ∨
      s.onUpdateAuthorizationState S now = s.onClosed now := by
  have hopt : ∀ (t : Client) (name : String), Frame Plain t
      (t.sendRequest now (.setOption name) .onOk) := fun t name =>
    frame_sendRequest id fun _ => mayWait_of_not id id
  unfold onUpdateAuthorizationState
  split
  · left
    refine Frame.trans (Frame.foldl (I := fun _ => True) (fun t name _ => hopt t name)
      (fun _ _ _ _ => trivial) options trivial) ?_
    exact frame_sendRequest id fun _ => mayWait_of_not id id
  · left
    exact (hopt s "online").trans (frame_sendRequest id fun _ => mayWait_of_not id id)
  · rename_i hready
    split_ifs with hme hnew
    · exact Or.inl (frame_sendRequest id fun _ => mayWait_of_not id id)
    · exact Or.inl (frame_loop s)
    · exact Or.inr (Or.inl ⟨hready, by simpa using hnew, frame_loop _⟩)
  · rename_i hstate
    left
    split_ifs with hout
    · exact frame_loop s
    · have ht : Frame Plain s { s with
          loggingOut := true
          out := s.out ++ s.farewell s.closing } :=
        { frame_farewell (s := s) s.closing with
          closing := fun _ => by simp [isClosing]
          closes := fun _ => Or.inr (Or.inl hstate) }
      exact ht.trans (frame_loop _)
  · rename_i hstate
    left
    split_ifs with hout
    · exact frame_loop s
    · have ht : Frame Plain s { s with
          closing := true
          out := s.out ++ s.farewell s.loggingOut } :=
        { frame_farewell (s := s) s.loggingOut with
          closing := fun _ => by simp [isClosing]
          closes := fun _ => Or.inr (Or.inr hstate) }
      exact ht.trans (frame_loop _)
  · exact Or.inr (Or.inr rfl)
  · exact Or.inl (frame_logOut _ _)

theorem outcome_of_authorizationState {e : Event} {u : Client} (hu : Frame Plain s u)
    (ht : Frame Plain (u.onUpdateAuthorizationState S now) t) : StepOutcome S now s e t := by
  rcases onUpdateAuthorizationState_cases (S := S) now u with hf | ⟨hready, hnew, hf⟩ | he
  · exact .frame ((hu.trans hf).trans ht)
  · exact .authorize u hu hready hnew (hf.trans ht)
  · rw [he] at ht
    exact .closed u hu ht

theorem onAuthorizationResult_outcome (n : Nat) (result : TdObject) :
    StepOutcome S now s (.onResult n result)
      ((s.onAuthorizationResult S now result).erased n) := by
  unfold onAuthorizationResult
  simp only
  split
  · split_ifs
    · exact outcome_of_authorizationState (Frame.refl s) (frame_erase _ n)
    · exact .frame ((frame_logOut _ _).trans (frame_erase _ n))
  · split_ifs
    · exact outcome_of_authorizationState (Frame.refl s) (frame_erase _ n)
    · exact .frame (frame_erase _ n)

theorem onRemoteFile_outcome {n : Nat} {streamId expectedSize : Int}
    (hn : s.handlers.lookup n = some (.onFileStreamRemoteFile streamId expectedSize))
    (file : TdFile) :
    StepOutcome S now s (.onResult n (.file file))
      ((s.onRemoteFile now streamId expectedSize file).erased n) := by
  unfold onRemoteFile resolveFileStreamSize
  split_ifs with ha hsize
  · exact .join n streamId expectedSize file hn ha hsize
  · have hemit : Plain (.stream streamId (.onFileError sizeUnavailable)) := trivial
    exact .frame ((frame_emit hemit).trans (frame_erase _ n))
  · exact .frame (frame_erase _ n)

theorem onDownloaded_outcome {n : Nat} {fileId : Int} (file : TdFile)
    (hn : s.handlers.lookup n = some (.onDownloadFile fileId)) :
    StepOutcome S now s (.onResult n (.file file))
      ((s.onCallback S now (.onDownloadFile fileId) (.file file)).erased n) := by
  dsimp only [onCallback]
  split_ifs
  · exact .downloaded n fileId file s.downloadStartedFileIds (Or.inr hn)
  · exact .downloaded n fileId file _ (Or.inr hn)

theorem onResult_outcome (n : Nat) (result : TdObject) :
    StepOutcome S now s (.onResult n result) (s.onResult S now n result) := by
  unfold onResult
  cases hn : s.handlers.lookup n with
  | none => exact .frame (frame_check _)
  | some h =>
      have hcheck : ∀ b, StepOutcome S now s (.onResult n result) ((s.check b).erased n) :=
        fun b => .frame ((frame_check b).trans (frame_erase _ n))
      have hsame : StepOutcome S now s (.onResult n result) (s.erased n) := .frame (frame_erase _ n)
      have hemit : ∀ a : ClientAction, a.Plain →
          StepOutcome S now s (.onResult n result) ((s.emit a).erased n) :=
        fun a ha => .frame ((frame_emit ha).trans (frame_erase _ n))
      have herror : ∀ error, StepOutcome S now s (.onResult n result)
          ((s.onInlineError now error h).erased n) :=
        fun error => .frame ((frame_onInlineError error h).trans (frame_erase _ n))
      change StepOutcome S now s _ ((s.onCallback S now h result).erased n)
      cases h with
      | onAuthorization => exact onAuthorizationResult_outcome n result
      | onFileStreamRemoteFile streamId expectedSize =>
          cases result with
          | error error => exact herror error
          | file file => exact onRemoteFile_outcome hn file
          | ok => exact hcheck _
          | user => exact hcheck _
      | onFileStreamDownload fileId =>
          cases result with
          | error error => exact herror error
          | file file => exact .downloaded n fileId file s.downloadStartedFileIds (Or.inl hn)
          | ok => exact hcheck _
          | user => exact hcheck _
      | onDownloadFile fileId =>
          cases result with
          | error error => exact herror error
          | file file => exact onDownloaded_outcome file hn
          | ok => exact hcheck _
          | user => exact hcheck _
      | onCheckRemoteFileId query metadataOnly =>
          cases result with
          | error error => exact herror error
          | file file =>
              cases metadataOnly with
              | true => exact hemit _ trivial
              | false => exact .getFile n query file hn
          | ok => exact hcheck _
          | user => exact hcheck _
      | onOkQuery query =>
          cases result with
          | error error => exact herror error
          | file file => exact hcheck _
          | ok => exact hemit _ trivial
          | user => exact hcheck _
      | onCancelDownloadFile =>
          cases result with
          | error error => exact herror error
          | file file => exact hcheck _
          | ok => exact hsame
          | user => exact hcheck _
      | onDeleteFile fileId =>
          cases result with
          | error error => exact herror error
          | file file => exact hcheck _
          | ok => exact hsame
          | user => exact hcheck _
      | onInit =>
          cases result with
          | error error => exact herror error
          | file file => exact hsame
          | ok => exact hsame
          | user => exact hsame
      | onOk =>
          cases result with
          | error error => exact herror error
          | file file => exact hsame
          | ok => exact hsame
          | user => exact hsame

theorem onUpdate_outcome (update : TdUpdate) :
    StepOutcome S now s (.onUpdate update) (s.onUpdate S now update) := by
  unfold onUpdate
  split_ifs with hpark
  · exact .frame { Frame.refl (P := Plain) s with }
  · cases update with
    | file file =>
        refine .update file ?_
        simpa [allowUpdateBeforeAuthorization] using hpark
    | myId value =>
        cases value with
        | none => exact .frame { Frame.refl (P := Plain) s with }
        | some value => exact .frame { Frame.refl (P := Plain) s with }
    | user userId => exact .frame { Frame.refl (P := Plain) s with }
    | other => exact .frame (Frame.refl s)

def stateAfter (s : Client) : Event → AuthorizationState
  | .onAuthorizationState state => state
  | _ => s.authorizationState

def begun (s : Client) (e : Event) : Client :=
  { s with
    out := []
    authorizationState := s.stateAfter e }

/-- The inversion of `handle`. -/
theorem handle_outcome (s : Client) (e : Event) :
    StepOutcome S now (s.begun e) e ({ s with out := [] }.handle S now e) := by
  cases e with
  | startFileStream p => exact .start p
  | removeFileStream streamId fileId removeLocalFile => exact .leave streamId fileId removeLocalFile
  | send query => exact .frame (frame_send query)
  | onResult n result => exact onResult_outcome n result
  | onUpdate update => exact onUpdate_outcome update
  | onAuthorizationState state =>
      exact outcome_of_authorizationState (Frame.refl (s.begun (.onAuthorizationState state)))
        (Frame.refl _)
  | close => exact .frame (frame_close (s.begun .close))
  | finishClosing =>
      dsimp only [handle, finishClosing]
      split_ifs
      · exact .frame { Frame.refl (P := Plain) (s.begun .finishClosing) with }
      · exact .frame (Frame.refl (s.begun .finishClosing))
  | timeoutExpired => exact .frame { Frame.refl (P := Plain) (s.begun .timeoutExpired) with }

/-- Nobody waits for a file, and no pending answer will make anybody wait. -/
structure Unused (s : Client) : Prop where
  waiting : ∀ f, s.fileDownloadListeners.get f = []
  listeners : ∀ f, s.fileStreamListeners.get f = []
  lookups : ∀ n h, s.handlers.lookup n = some h → ¬ h.IsRemoteFile ∧ ¬ h.IsGetFile

structure WellKept (s : Client) : Prop where
  numbered : Numbered s
  unused : s.wasAuthorized = false → Unused s

theorem WellKept.frame (hs : WellKept s) (hf : Frame P s t) : WellKept t := by
  obtain ⟨hnum, hlook⟩ := hf.handlers hs.numbered
  refine ⟨hnum, fun ht => ?_⟩
  have hnew : s.wasAuthorized = false := hf.authorized ▸ ht
  have hu := hs.unused hnew
  refine ⟨fun f => ?_, fun f => ?_, fun n h hn => ?_⟩
  · rcases hf.waiting f with hw | hw
    · exact hw
    · rw [hw, hu.waiting]
  · rw [hf.listeners, hu.listeners]
  · by_contra hc
    rw [← not_or, not_not] at hc
    rcases hlook.lookup hn hc with hn | ⟨-, ha⟩
    · exact hc.elim (hu.lookups n h hn).1 (hu.lookups n h hn).2
    · rw [hnew] at ha
      cases ha

theorem WellKept.withOut (hs : WellKept s) (out : List ClientAction) :
    WellKept { s with out := out } :=
  ⟨hs.numbered, fun h => ⟨(hs.unused h).waiting, (hs.unused h).listeners, (hs.unused h).lookups⟩⟩

theorem WellKept.begun (hs : WellKept s) (e : Event) : WellKept (s.begun e) :=
  ⟨hs.numbered, fun h => ⟨(hs.unused h).waiting, (hs.unused h).listeners, (hs.unused h).lookups⟩⟩

theorem WellKept.withStarted (hs : WellKept s) (started : List Int) :
    WellKept { s with downloadStartedFileIds := started } :=
  ⟨hs.numbered, fun h => ⟨(hs.unused h).waiting, (hs.unused h).listeners, (hs.unused h).lookups⟩⟩

theorem WellKept.authorized_of_lookup (hs : WellKept s) {n : Nat} {h : TdQueryCallback}
    (hn : s.handlers.lookup n = some h) (hh : h.IsRemoteFile ∨ h.IsGetFile) :
    s.wasAuthorized = true := by
  by_contra hc
  have hu := (hs.unused (by simpa using hc)).lookups n h hn
  exact hh.elim hu.1 hu.2

theorem Numbered.sendRequest (hs : Numbered s) (request : TdRequest) (h : TdQueryCallback) :
    Numbered (s.sendRequest now request h) := by
  unfold Client.sendRequest
  split_ifs
  · exact ((frame_onInlineError _ h).handlers hs).1
  · exact hs.doSendRequest request h

theorem Numbered.startFileStream (hs : Numbered s) (p : PendingFileStream) :
    Numbered (s.startFileStream now p) := by
  have ht : Numbered { s with activeFileStreams := s.activeFileStreams.insert p.streamId } := hs
  unfold Client.startFileStream requestFileStream
  simp only
  split_ifs
  · exact hs
  · exact hs
  · exact ht.sendRequest _ _
  · exact hs

/-- A report about a file that nobody waits for changes nothing. -/
theorem onUpdateFile_of_unheard {file : TdFile} (hl : s.fileStreamListeners.get file.id = [])
    (hw : s.fileDownloadListeners.get file.id = []) : s.onUpdateFile S now file = s := by
  have ht : s.toStreams (s.fileStreamListeners.get file.id)
      (.onFileProgress file.size file.progress) = s := by
    rw [hl]
    simp [toStreams]
  unfold onUpdateFile
  rw [ht, updateFileDownload, if_pos hw]

/-- The first half of `becomeAuthorized`: the parked streams are started. -/
def drainStreams (now : Int) (s : Client) : Client :=
  s.pendingFileStreams.foldl (fun t p => t.startFileStream now p) { s with
    wasAuthorized := true
    pendingFileStreams := []
    out := s.out ++ [ClientAction.parentEvent true] }

/-- Starting a stream is invisible to those who wait for files. -/
structure Opened (s t : Client) : Prop where
  listeners : t.fileStreamListeners = s.fileStreamListeners
  waiting : t.fileDownloadListeners = s.fileDownloadListeners
  authorized : t.wasAuthorized = s.wasAuthorized
  tdClient : t.tdClient = s.tdClient
  closing : t.closing = s.closing
  loggingOut : t.loggingOut = s.loggingOut
  state : t.authorizationState = s.authorizationState
  numbered : Numbered s → Numbered t
  out : Extends Plain s.out t.out

theorem startFileStream_opened (now : Int) (s : Client) (p : PendingFileStream) :
    Opened s (s.startFileStream now p) := by
  have hnum : Numbered s → Numbered (s.startFileStream now p) := fun hs => hs.startFileStream p
  revert hnum
  unfold startFileStream requestFileStream sendRequest
  simp only
  split_ifs
  · exact fun hnum => ⟨rfl, rfl, rfl, rfl, rfl, rfl, rfl, hnum, Extends.concat (P := Plain) trivial⟩
  · exact fun hnum => ⟨rfl, rfl, rfl, rfl, rfl, rfl, rfl, hnum, Extends.concat (P := Plain) trivial⟩
  · exact fun hnum => ⟨rfl, rfl, rfl, rfl, rfl, rfl, rfl, hnum, Extends.concat id⟩
  · exact fun hnum => ⟨rfl, rfl, rfl, rfl, rfl, rfl, rfl, hnum, Extends.refl _⟩

theorem Opened.trans {u : Client} (h₁ : Opened s t) (h₂ : Opened t u) : Opened s u where
  listeners := h₂.listeners.trans h₁.listeners
  waiting := h₂.waiting.trans h₁.waiting
  authorized := h₂.authorized.trans h₁.authorized
  tdClient := h₂.tdClient.trans h₁.tdClient
  closing := h₂.closing.trans h₁.closing
  loggingOut := h₂.loggingOut.trans h₁.loggingOut
  state := h₂.state.trans h₁.state
  numbered h := h₂.numbered (h₁.numbered h)
  out := h₁.out.trans h₂.out

theorem foldl_startFileStream_opened (now : Int) (ps : List PendingFileStream) (s : Client) :
    Opened s (ps.foldl (fun t p => t.startFileStream now p) s) := by
  induction ps generalizing s with
  | nil => exact ⟨rfl, rfl, rfl, rfl, rfl, rfl, rfl, id, Extends.refl _⟩
  | cons p ps ih => exact (startFileStream_opened now s p).trans (ih _)

theorem drainStreams_opened (now : Int) (s : Client) :
    Opened { s with wasAuthorized := true } (s.drainStreams now) := by
  have h := foldl_startFileStream_opened now s.pendingFileStreams { s with
    wasAuthorized := true
    pendingFileStreams := []
    out := s.out ++ [ClientAction.parentEvent true] }
  have hout : Extends Plain s.out (s.out ++ [ClientAction.parentEvent true]) := Extends.concat trivial
  exact { h with out := hout.trans h.out }

/-- The updates parked before authorization reach nobody. -/
theorem becomeAuthorized_frame (now : Int) (hs : Unused s) :
    Frame Plain (s.drainStreams now) (s.becomeAuthorized S now) := by
  have hd := drainStreams_opened now s
  let I : Client → Prop := fun t => (∀ f, t.fileStreamListeners.get f = []) ∧
    ∀ f, t.fileDownloadListeners.get f = []
  have hI : I (s.drainStreams now) := by
    refine ⟨fun f => ?_, fun f => ?_⟩
    · rw [hd.listeners, hs.listeners]
    · rw [hd.waiting, hs.waiting]
  have hstep : ∀ t update, I t → Frame Plain t (t.onPlainUpdate S now update) := by
    intro t update ht
    cases update with
    | file file =>
        dsimp only [onPlainUpdate]
        rw [onUpdateFile_of_unheard (ht.1 file.id) (ht.2 file.id)]
        exact Frame.refl t
    | myId value =>
        cases value with
        | none => exact { Frame.refl (P := Plain) t with }
        | some value => exact { Frame.refl (P := Plain) t with }
    | user userId => exact { Frame.refl (P := Plain) t with }
    | other => exact Frame.refl t
  have hkeep : ∀ t u, I t → Frame Plain t u → I u := by
    intro t u ht hf
    refine ⟨fun f => by rw [hf.listeners, ht.1], fun f => ?_⟩
    rcases hf.waiting f with hw | hw
    · exact hw
    · rw [hw, ht.2]
  have hfold := Frame.foldl (I := I) hstep hkeep s.pendingUpdates hI
  exact hfold.trans { Frame.refl (P := Plain) _ with }

theorem failQueryClosing_handlers (now : Int) (queries : List Query) (s : Client) :
    Frame Plain s (queries.foldl (fun t query => t.failQueryClosing now query) s) :=
  Frame.foldl (I := fun _ => True) (fun _ query _ => frame_failQueryClosing query)
    (fun _ _ _ _ => trivial) queries trivial

end Client

end TelegramBotApi
