import TelegramBotApi.Client
import TelegramBotApi.ActionLog
import TelegramBotApi.TableLookup

/-!
# What the handlers of a client leave alone

Most of what a client does has nothing to do with streams. `Frame P s t` says that `t` has the
stream tables, the authorization flags and the pending `getRemoteFile` callbacks of `s`, and that the
handler only added actions that satisfy `P`. An action is `Plain` when it is neither a request about
a file nor a report to a stream.
-/

namespace TelegramBotApi

open ActionLog

def TdRequest.IsFileRequest : TdRequest → Prop
  | .downloadFile _ | .cancelDownloadFile _ | .deleteFile _ => True
  | _ => False

def ClientAction.Plain : ClientAction → Prop
  | .request _ r => ¬ r.IsFileRequest
  | .stream _ (.onFileError _) => True
  | .stream _ _ => False
  | _ => True

def TdQueryCallback.IsRemoteFile : TdQueryCallback → Prop
  | .onFileStreamRemoteFile .. => True
  | _ => False

def TdQueryCallback.IsGetFile : TdQueryCallback → Prop
  | .onCheckRemoteFileId .. => True
  | _ => False

namespace Client

open ClientAction (Plain)

variable {S : ClientSetup} {now : Int} {s t u : Client} {P Q : ClientAction → Prop}

def Numbered (s : Client) : Prop := ∀ n ∈ s.handlers, n < s.nextHandlerId

/-- A callback that leads to no listener, or a `getFile` lookup of an authorized client. -/
def MayWait (s : Client) (h : TdQueryCallback) : Prop :=
  ¬ h.IsRemoteFile ∧ (h.IsGetFile → s.wasAuthorized = true)

/-- The callbacks of `t` are those of `s` and, under new ids, some that lead to no listener. -/
def KeepsHandlers (s t : Client) : Prop :=
  s.nextHandlerId ≤ t.nextHandlerId ∧ ∀ n h, t.handlers.lookup n = some h →
    s.handlers.lookup n = some h ∨ (s.nextHandlerId ≤ n ∧ MayWait s h)

theorem KeepsHandlers.refl (s : Client) : KeepsHandlers s s := ⟨le_rfl, fun _ _ h => Or.inl h⟩

theorem KeepsHandlers.trans (ha : t.wasAuthorized = s.wasAuthorized) (h₁ : KeepsHandlers s t)
    (h₂ : KeepsHandlers t u) : KeepsHandlers s u := by
  refine ⟨h₁.1.trans h₂.1, fun n h hn => ?_⟩
  rcases h₂.2 n h hn with hn | ⟨hle, hr, hg⟩
  · exact h₁.2 n h hn
  · exact Or.inr ⟨h₁.1.trans hle, hr, fun hh => ha ▸ hg hh⟩

/-- A lookup that is pending in `t` was pending in `s`, unless it is a `getFile` of an authorized
client. -/
theorem KeepsHandlers.lookup (hk : KeepsHandlers s t) {n : Nat} {h : TdQueryCallback}
    (hn : t.handlers.lookup n = some h) (hh : h.IsRemoteFile ∨ h.IsGetFile) :
    s.handlers.lookup n = some h ∨ (h.IsGetFile ∧ s.wasAuthorized = true) := by
  rcases hk.2 n h hn with hn | ⟨-, hr, hg⟩
  · exact Or.inl hn
  · rcases hh with hh | hh
    · exact absurd hh hr
    · exact Or.inr ⟨hh, hg hh⟩

theorem KeepsHandlers.remote (hk : KeepsHandlers s t) {n : Nat} {streamId expectedSize : Int}
    (hn : t.handlers.lookup n = some (.onFileStreamRemoteFile streamId expectedSize)) :
    s.handlers.lookup n = some (.onFileStreamRemoteFile streamId expectedSize) := by
  rcases hk.2 n _ hn with hn | ⟨-, hr, -⟩
  · exact hn
  · exact absurd trivial hr

structure Frame (P : ClientAction → Prop) (s t : Client) : Prop where
  active : t.activeFileStreams = s.activeFileStreams
  pending : t.pendingFileStreams = s.pendingFileStreams
  listeners : t.fileStreamListeners = s.fileStreamListeners
  waiting : ∀ f, t.fileDownloadListeners.get f = [] ∨
    t.fileDownloadListeners.get f = s.fileDownloadListeners.get f
  authorized : t.wasAuthorized = s.wasAuthorized
  tdClient : t.tdClient = s.tdClient
  state : t.authorizationState = s.authorizationState
  closing : s.isClosing = true → t.isClosing = true
  closes : t.isClosing = true → s.isClosing = true ∨ s.authorizationState = .loggingOut ∨
    s.authorizationState = .closing
  handlers : Numbered s → Numbered t ∧ KeepsHandlers s t
  out : Extends P s.out t.out

namespace Frame

theorem refl (s : Client) : Frame P s s where
  active := rfl
  pending := rfl
  listeners := rfl
  waiting _ := Or.inr rfl
  authorized := rfl
  tdClient := rfl
  state := rfl
  closing h := h
  closes := Or.inl
  handlers h := ⟨h, KeepsHandlers.refl s⟩
  out := Extends.refl _

theorem trans (h₁ : Frame P s t) (h₂ : Frame P t u) : Frame P s u where
  active := h₂.active.trans h₁.active
  pending := h₂.pending.trans h₁.pending
  listeners := h₂.listeners.trans h₁.listeners
  waiting f := by
    rcases h₂.waiting f with h | h
    · exact Or.inl h
    · rw [h]
      exact h₁.waiting f
  authorized := h₂.authorized.trans h₁.authorized
  tdClient := h₂.tdClient.trans h₁.tdClient
  state := h₂.state.trans h₁.state
  closing h := h₂.closing (h₁.closing h)
  closes h := by
    rcases h₂.closes h with h | h
    · exact h₁.closes h
    · rw [h₁.state] at h
      exact Or.inr h
  handlers hs := by
    obtain ⟨ht, hst⟩ := h₁.handlers hs
    obtain ⟨hu, htu⟩ := h₂.handlers ht
    exact ⟨hu, hst.trans h₁.authorized htu⟩
  out := h₁.out.trans h₂.out

theorem imp (h : Frame P s t) (hpq : ∀ a, P a → Q a) : Frame Q s t :=
  { h with out := h.out.imp hpq }

theorem foldl {β : Type} {f : Client → β → Client} {I : Client → Prop}
    (hf : ∀ t b, I t → Frame P t (f t b)) (hi : ∀ t u, I t → Frame P t u → I u) (bs : List β)
    {s : Client} (hs : I s) : Frame P s (bs.foldl f s) := by
  induction bs generalizing s with
  | nil => exact refl s
  | cons b bs ih => exact (hf s b hs).trans (ih (hi _ _ hs (hf s b hs)))

end Frame

theorem frame_emit {a : ClientAction} (ha : P a) : Frame P s (s.emit a) :=
  { Frame.refl (P := P) s with out := Extends.concat ha }

theorem frame_toStreams {ids : List Int} {event : StreamEvent}
    (h : ∀ id ∈ ids, P (.stream id event)) : Frame P s (s.toStreams ids event) :=
  { Frame.refl (P := P) s with
    out := Extends.append fun a ha => by
      obtain ⟨id, hid, rfl⟩ := List.mem_map.1 ha
      exact h id hid }

theorem frame_check (condition : Bool) : Frame P s (s.check condition) := { Frame.refl (P := P) s with }

theorem frame_failQueryClosing (query : Query) : Frame Plain s (s.failQueryClosing now query) := by
  unfold failQueryClosing
  simp only
  split_ifs
  · exact frame_emit trivial
  · exact frame_emit trivial

theorem Numbered.doSendRequest (hs : Numbered s) (request : TdRequest) (h : TdQueryCallback) :
    Numbered (s.doSendRequest request h) := by
  intro n hn
  change n < s.nextHandlerId + 1
  rcases (AList.mem_insert s.handlers).1 hn with rfl | hn
  · exact Nat.lt_succ_self _
  · exact Nat.lt_succ_of_lt (hs n hn)

theorem frame_doSendRequest {request : TdRequest} {h : TdQueryCallback} (hh : MayWait s h)
    (hp : P (.request s.nextHandlerId request)) : Frame P s (s.doSendRequest request h) :=
  { Frame.refl (P := P) s with
    handlers := fun hs => by
      refine ⟨hs.doSendRequest request h, Nat.le_succ _, fun n g hn => ?_⟩
      change (s.handlers.insert s.nextHandlerId h).lookup n = some g at hn
      rcases TableLookup.of_insert hn with ⟨rfl, rfl⟩ | ⟨-, hn⟩
      · exact Or.inr ⟨le_rfl, hh⟩
      · exact Or.inl hn
    out := Extends.concat hp }

theorem mayWait_of_not {h : TdQueryCallback} (hr : ¬ h.IsRemoteFile) (hg : ¬ h.IsGetFile) :
    MayWait s h := ⟨hr, fun h => absurd h hg⟩

theorem frame_noteLogOut (code : Int) (message : String) :
    Frame P s (s.noteLogOut now code message) := by
  unfold noteLogOut
  simp only
  split_ifs
  · exact { Frame.refl (P := P) s with }
  · exact { Frame.refl (P := P) s with }
  · exact Frame.refl s
  · exact { Frame.refl (P := P) s with }
  · exact Frame.refl s

theorem frame_logOut (code : Int) (message : String) : Frame Plain s (s.logOut now code message) := by
  unfold logOut
  simp only
  split_ifs
  · exact (frame_noteLogOut code message).trans (frame_doSendRequest (mayWait_of_not id id) id)
  · exact frame_noteLogOut code message

theorem frame_close (s : Client) : Frame Plain s s.close := by
  have ht : Frame Plain s { s with needClose := true } := { Frame.refl (P := Plain) s with }
  unfold close
  simp only
  split_ifs
  · exact ht.trans (frame_doSendRequest (mayWait_of_not id id) id)
  · exact ht

theorem frame_onFileDownload (fileId : Int) (file : Except Status TdFile) :
    Frame Plain s (s.onFileDownload fileId file) := by
  unfold onFileDownload
  simp only
  split_ifs
  · exact Frame.refl s
  · refine { Frame.refl (P := Plain) s with
      waiting := fun f => ?_
      out := Extends.append fun a ha => ?_ }
    · by_cases hf : f = fileId
      · subst hf
        exact Or.inl (Multimap.get_drop_self _ _)
      · exact Or.inr (Multimap.get_drop_ne _ _ hf)
    · obtain ⟨query, -, rfl⟩ := List.mem_map.1 ha
      cases file <;> trivial

theorem frame_onInlineError (error : Status) (h : TdQueryCallback) :
    Frame Plain s (s.onInlineError now error h) := by
  cases h with
  | onFileStreamRemoteFile streamId size =>
      dsimp only [onInlineError]
      split_ifs
      · exact frame_emit (P := Plain) trivial
      · exact Frame.refl s
  | onFileStreamDownload fileId => exact frame_toStreams (P := Plain) fun _ _ => trivial
  | onDownloadFile fileId => exact frame_onFileDownload (s := s) fileId (.error error)
  | onCancelDownloadFile => exact Frame.refl s
  | onDeleteFile fileId => exact Frame.refl s
  | onCheckRemoteFileId query metadataOnly => exact frame_emit trivial
  | onAuthorization =>
      dsimp only [onInlineError]
      split_ifs
      · exact { Frame.refl (P := Plain) s with }
      · exact frame_logOut _ _
  | onInit => exact frame_close s
  | onOk => exact Frame.refl s
  | onOkQuery query => exact frame_emit trivial

theorem frame_sendRequest {request : TdRequest} {h : TdQueryCallback} (hr : ¬ request.IsFileRequest)
    (hh : s.isClosing = false → MayWait s h) : Frame Plain s (s.sendRequest now request h) := by
  unfold sendRequest
  split_ifs with hc
  · exact frame_onInlineError _ h
  · exact frame_doSendRequest (hh (by simpa using hc)) hr

def TakesCommands (s : Client) : Prop := s.wasAuthorized = true ∨ s.isClosing = true

theorem frame_processQuery (hs : TakesCommands s) (query : Query) :
    Frame Plain s (s.processQuery now query) := by
  unfold processQuery
  split_ifs with hc
  · exact frame_failQueryClosing query
  · split
    · unfold processGetFileQuery
      split_ifs
      · exact frame_emit trivial
      · exact frame_sendRequest id fun _ => ⟨id, fun _ => hs.resolve_right hc⟩
    · exact frame_emit trivial

theorem frame_onCmd (hs : TakesCommands s) (query : Query) :
    Frame Plain s (s.onCmd S now query) := by
  unfold onCmd
  split_ifs
  · split
    · simp only
      split_ifs
      · exact frame_emit trivial
      · have ht : Frame Plain s { s with needClose := true } := { Frame.refl (P := Plain) s with }
        exact ht.trans (frame_doSendRequest (mayWait_of_not id id) id)
    · have ht : Frame Plain s { s with clearTqueue := true } := { Frame.refl (P := Plain) s with }
      exact ht.trans (frame_doSendRequest (mayWait_of_not id id) id)
    · exact frame_processQuery hs query
  · exact frame_processQuery hs query

theorem frame_loop (s : Client) : Frame Plain s (s.loop S now) := by
  unfold loop
  split_ifs with hs
  · have ht : Frame Plain s { s with cmdQueue := [] } := { Frame.refl (P := Plain) s with }
    refine ht.trans (Frame.foldl (I := TakesCommands) (fun _ query h => frame_onCmd h query) ?_
      s.cmdQueue hs)
    intro t u h hf
    rcases h with h | h
    · exact Or.inl (hf.authorized.trans h)
    · exact Or.inr (hf.closing h)
  · exact Frame.refl s

theorem frame_send (query : Query) : Frame Plain s (s.send S now query) := by
  have ht : Frame Plain s { s with cmdQueue := s.cmdQueue ++ [query] } :=
    { Frame.refl (P := Plain) s with }
  exact ht.trans (frame_loop _)

def Oversized (S : ClientSetup) (s : Client) (file : TdFile) : Prop :=
  s.fileDownloadListeners.get file.id ≠ [] ∧ S.localMode = false ∧
    maxDownloadFileSize < file.downloadedSize ∧ file.progress.isDownloadingActive = true ∧
    s.isClosing = false

/-- What a report about `file` can make a client do. -/
def ReportAction (S : ClientSetup) (s : Client) (file : TdFile) (a : ClientAction) : Prop :=
  a.Plain ∨ (∃ id ∈ s.fileStreamListeners.get file.id,
      a = .stream id (.onFileProgress file.size file.progress)) ∨
    (Oversized S s file ∧ ∃ n, a = .request n (.cancelDownloadFile file.id))

theorem frame_updateFileDownload (file : TdFile) :
    Frame (ReportAction S s file) s (s.updateFileDownload S now file) := by
  have hplain : ∀ {t : Client} e, Frame (ReportAction S s file) t (t.onFileDownload file.id e) :=
    fun e => (frame_onFileDownload file.id e).imp fun a ha => Or.inl ha
  unfold updateFileDownload
  split_ifs with hwait hbig hactive hdone hstopped hclosing
  · exact Frame.refl s
  · refine Frame.trans ?_ (hplain _)
    unfold sendRequest
    split_ifs with hclosing
    · exact (frame_onInlineError _ _).imp fun a ha => Or.inl ha
    · exact frame_doSendRequest (mayWait_of_not id id)
        (Or.inr (Or.inr ⟨⟨hwait, by simpa using hbig.1, hbig.2, hactive, by simpa using hclosing⟩,
          _, rfl⟩))
  · exact hplain _
  · exact hplain _
  · exact hplain _
  · exact hplain _
  · exact Frame.refl s

theorem frame_onUpdateFile (now : Int) (file : TdFile) :
    Frame (ReportAction S s file) s (s.onUpdateFile S now file) := by
  unfold onUpdateFile
  refine Frame.trans (frame_toStreams fun id hid => Or.inr (Or.inl ⟨id, hid, rfl⟩)) ?_
  exact frame_updateFileDownload (s := s.toStreams (s.fileStreamListeners.get file.id)
    (.onFileProgress file.size file.progress)) file

/-- The end of a callback: its handler is forgotten. -/
theorem frame_erase (s : Client) (n : Nat) : Frame P s { s with handlers := s.handlers.erase n } :=
  { Frame.refl (P := P) s with
    handlers := fun hs => by
      refine ⟨fun m hm => hs m (AList.mem_erase.1 hm).2, le_rfl, fun m h hm => Or.inl ?_⟩
      change (s.handlers.erase n).lookup m = some h at hm
      exact (TableLookup.of_erase hm).2 }

end Client

end TelegramBotApi
