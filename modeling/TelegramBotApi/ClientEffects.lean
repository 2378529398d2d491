import TelegramBotApi.ClientRegistry

/-!
# Everything a step of a client sends

`EmittedBy S s e a` lists the reasons for which a client in state `s` can send `a` while it handles
`e`: what reaches a stream, and when a download is started, cancelled or deleted. Together with what
a step does to the listeners and to the pending callbacks it is all that the protocol between
streams, client and TDLib needs to know about a client.
-/

namespace TelegramBotApi

open ActionLog

namespace Client

open ClientAction (Plain)

variable {S : ClientSetup} {now : Int} {s t : Client} {P : ClientAction → Prop}

/-- The file that an event passes to `on_update_file`. -/
def reportOf (s : Client) : Event → Option TdFile
  | .onUpdate (.file file) => if s.wasAuthorized then some file else none
  | .onResult n (.file file) => match s.handlers.lookup n with
    | some (.onFileStreamDownload _) => some file
    | some (.onDownloadFile _) => some file
    | _ => none
  | _ => none

/-- The file of a report on its way to a client; an update may still be parked. -/
def reportFile (s : Client) : Event → Option TdFile
  | .onUpdate (.file file) => some file
  | e => reportOf s e

theorem reportFile_of_reportOf {e : Event} {file : TdFile} (h : reportOf s e = some file) :
    reportFile s e = some file := by
  unfold reportFile
  split
  · simp only [reportOf, Option.ite_none_right_eq_some] at h
    exact h.2
  · exact h

/-- The event answers the lookup of an active stream with a file of known size. -/
def lookupAnswer (s : Client) : Event → Option (Int × TdFile)
  | .onResult n (.file file) => match s.handlers.lookup n with
    | some (.onFileStreamRemoteFile streamId _) =>
      if streamId ∈ s.activeFileStreams ∧ 0 < file.size then some (streamId, file) else none
    | _ => none
  | _ => none

/-- The event answers the lookup of a `getFile` query with a file that may be downloaded. -/
def getFileAnswer (S : ClientSetup) (s : Client) : Event → Option TdFile
  | .onResult n (.file file) => match s.handlers.lookup n with
    | some (.onCheckRemoteFileId _ false) =>
      if ¬ S.localMode ∧ maxDownloadFileSize < max file.expectedSize file.downloadedSize ∨
          s.isClosing then none
      else some file
    | _ => none
  | _ => none

inductive EmittedBy (S : ClientSetup) (s : Client) (e : Event) : ClientAction → Prop
  | plain {a : ClientAction} (h : a.Plain) : EmittedBy S s e a
  | ready (streamId : Int) (file : TdFile) (h : lookupAnswer s e = some (streamId, file)) :
      EmittedBy S s e (.stream streamId (.onFileReady file.id file.size file.progress))
  | progress (streamId : Int) (file : TdFile) (h : reportOf s e = some file)
      (hid : streamId ∈ s.fileStreamListeners.get file.id) :
      EmittedBy S s e (.stream streamId (.onFileProgress file.size file.progress))
  | first (m : Nat) (streamId : Int) (file : TdFile)
      (h : lookupAnswer s e = some (streamId, file)) (hfirst : s.fileStreamListeners.get file.id = [])
      (hc : s.isClosing = false) : EmittedBy S s e (.request m (.downloadFile file.id))
  | getFile (m : Nat) (file : TdFile) (h : getFileAnswer S s e = some file) :
      EmittedBy S s e (.request m (.downloadFile file.id))
  | tooBig (m : Nat) (file : TdFile) (h : reportOf s e = some file) (hbig : Oversized S s file) :
      EmittedBy S s e (.request m (.cancelDownloadFile file.id))
  | last (m : Nat) (streamId fileId : Int) (removeLocalFile : Bool)
      (he : e = .removeFileStream streamId fileId removeLocalFile)
      (hheard : ¬ (fileId = 0 ∨ s.fileStreamListeners.get fileId = []))
      (h : LastToLeave streamId fileId s) :
      EmittedBy S s e (.request m (leaveRequest fileId removeLocalFile))

theorem EmittedBy.of_begun {e : Event} {a : ClientAction} (h : EmittedBy S (s.begun e) e a) :
    EmittedBy S s e a := by
  cases h with
  | plain h => exact .plain h
  | ready streamId file h => exact .ready streamId file h
  | progress streamId file h hid => exact .progress streamId file h hid
  | first m streamId file h hfirst hc => exact .first m streamId file h hfirst hc
  | getFile m file h => exact .getFile m file h
  | tooBig m file h hbig => exact .tooBig m file h hbig
  | last m streamId fileId flag he hheard h => exact .last m streamId fileId flag he hheard h

theorem emittedBy_report {e : Event} {file : TdFile} (hr : reportOf s e = some file)
    {started : List Int} {a : ClientAction}
    (h : ReportAction S { s with downloadStartedFileIds := started } file a) :
    EmittedBy S s e a := by
  rcases h with h | ⟨id, hid, rfl⟩ | ⟨hbig, m, rfl⟩
  · exact .plain h
  · exact .progress id file hr hid
  · exact .tooBig m file hr hbig

theorem reportOf_downloaded {n : Nat} {fileId : Int} {file : TdFile}
    (hn : s.handlers.lookup n = some (.onFileStreamDownload fileId) ∨
      s.handlers.lookup n = some (.onDownloadFile fileId)) :
    reportOf s (.onResult n (.file file)) = some file := by
  rcases hn with hn | hn
  · simp [reportOf, hn]
  · simp [reportOf, hn]

theorem lookupAnswer_join {n : Nat} {streamId expectedSize : Int} {file : TdFile}
    (hn : s.handlers.lookup n = some (.onFileStreamRemoteFile streamId expectedSize))
    (ha : streamId ∈ s.activeFileStreams) (hsize : 0 < file.size) :
    lookupAnswer s (.onResult n (.file file)) = some (streamId, file) := by
  simp only [lookupAnswer, hn]
  rw [if_pos ⟨ha, hsize⟩]

theorem lookupAnswer_eq_some {e : Event} {streamId : Int} {file : TdFile}
    (h : lookupAnswer s e = some (streamId, file)) :
    ∃ n size, e = .onResult n (.file file) ∧
      s.handlers.lookup n = some (.onFileStreamRemoteFile streamId size) ∧
      streamId ∈ s.activeFileStreams ∧ 0 < file.size := by
  unfold lookupAnswer at h
  split at h
  · split at h
    · rename_i hn
      split_ifs at h with hc
      cases h
      exact ⟨_, _, rfl, hn, hc.1, hc.2⟩
    · cases h
  · cases h

theorem getFileAnswer_eq_some {e : Event} {file : TdFile} (h : getFileAnswer S s e = some file) :
    ∃ n query, e = .onResult n (.file file) ∧
      s.handlers.lookup n = some (.onCheckRemoteFileId query false) ∧
      ¬ (¬ S.localMode ∧ maxDownloadFileSize < max file.expectedSize file.downloadedSize) ∧
      s.isClosing = false := by
  unfold getFileAnswer at h
  split at h
  · split at h
    · rename_i hn
      split_ifs at h with hc
      cases h
      rw [not_or] at hc
      exact ⟨_, _, rfl, hn, hc.1, by simpa using hc.2⟩
    · cases h
  · cases h

theorem outcome_emits {e : Event} {a : ClientAction} (hk : WellKept s) (hout : s.out = [])
    (h : StepOutcome S now s e t) (ha : a ∈ t.out) : EmittedBy S s e a := by
  have hplain : ∀ {u}, Extends Plain s.out u → a ∈ u → EmittedBy S s e a := by
    intro u hu hmem
    exact .plain (hu.mem_of_nil hout a hmem)
  cases h with
  | frame h => exact hplain h.out ha
  | start p => exact hplain (startFileStream_opened now s p).out ha
  | leave streamId fileId flag =>
      rw [removeFileStream_eq] at ha
      split_ifs at ha with hnone
      · exact hplain (Extends.refl _) ha
      · have hf := (removeListener_frame now (s.detached streamId) streamId fileId flag).out
        obtain ⟨hlast, m, rfl⟩ := hf.mem_of_nil hout a ha
        exact .last m streamId fileId flag rfl hnone hlast
  | join n streamId expectedSize file hn hactive hsize =>
      have hans := lookupAnswer_join hn hactive hsize
      obtain ⟨k, hk, hp⟩ := (joinFileStream_frame now s streamId file).out
      have hmem : a ∈ (s.joinFileStream now streamId file.size file).out := ha
      rw [hk] at hmem
      rcases List.mem_append.1 hmem with hmem | hmem
      · simp only [listed, hout, List.nil_append, List.mem_singleton] at hmem
        rw [hmem]
        exact .ready streamId file hans
      · rcases hp a hmem with h | ⟨hfirst, hc, m, rfl⟩
        · exact .plain h
        · exact .first m streamId file hans hfirst hc
  | update file hauth =>
      have hf := (frame_onUpdateFile (S := S) (s := s) now file).out
      exact emittedBy_report (by simp [reportOf, hauth])
        (hf.mem_of_nil hout a ha)
  | downloaded n fileId file started hn =>
      have hf := (frame_onUpdateFile (S := S)
        (s := { s with downloadStartedFileIds := started }) now file).out
      exact emittedBy_report (reportOf_downloaded hn) (hf.mem_of_nil hout a ha)
  | getFile n query file hn =>
      have hmem : a ∈ (s.doGetFile S now file query).out := ha
      rcases doGetFile_frame (S := S) now s file query with hf | ⟨hsmall, hf⟩
      · exact hplain hf.out hmem
      · rcases hf.out.mem_of_nil hout a hmem with h | ⟨hc, m, rfl⟩
        · exact .plain h
        · refine .getFile m file ?_
          simp only [getFileAnswer, hn]
          rw [if_neg (not_or.2 ⟨hsmall, by simpa using hc⟩)]
  | authorize u hu hready hnew ht =>
      have hb := becomeAuthorized_frame (S := S) now ((hk.frame hu).unused hnew)
      exact hplain (((hu.out.trans (drainStreams_opened now u).out).trans hb.out).trans ht.out) ha
  | closed u hu ht => exact hplain (hu.out.trans ((onClosed_cleared now u).frame ht).out) ha

/-- Listeners come only from answered lookups. -/
theorem outcome_listeners {e : Event} {id f : Int} (hk : WellKept s)
    (h : StepOutcome S now s e t) (hid : id ∈ t.fileStreamListeners.get f) :
    id ∈ s.fileStreamListeners.get f ∨ ∃ file, lookupAnswer s e = some (id, file) ∧ file.id = f := by
  cases h with
  | frame h => exact Or.inl (h.listeners ▸ hid)
  | start p => exact Or.inl ((startFileStream_opened now s p).listeners ▸ hid)
  | leave streamId fileId flag =>
      left
      rw [removeFileStream_eq] at hid
      split_ifs at hid
      · exact hid
      · rw [(removeListener_frame now (s.detached streamId) streamId fileId flag).listeners] at hid
        change id ∈ (s.fileStreamListeners.set fileId _).get f at hid
        rw [Multimap.get_set] at hid
        split_ifs at hid with he
        · subst he
          exact List.mem_of_mem_filter hid
        · exact hid
  | join n streamId expectedSize file hn hactive hsize =>
      have hid : id ∈ (s.joinFileStream now streamId file.size file).fileStreamListeners.get f := hid
      rw [(joinFileStream_frame now s streamId file).listeners] at hid
      rcases (Multimap.mem_get_push _ _).1 hid with hid | ⟨rfl, rfl⟩
      · exact Or.inl hid
      · exact Or.inr ⟨file, lookupAnswer_join hn hactive hsize, rfl⟩
  | update file hauth => exact Or.inl ((frame_onUpdateFile (S := S) now file).listeners ▸ hid)
  | downloaded n fileId file started hn =>
      have hl := (frame_onUpdateFile (S := S)
        (s := { s with downloadStartedFileIds := started }) now file).listeners
      exact Or.inl (hl ▸ hid)
  | getFile n query file hn =>
      left
      have hid : id ∈ (s.doGetFile S now file query).fileStreamListeners.get f := hid
      rcases doGetFile_frame (S := S) now s file query with hf | ⟨-, hf⟩
      · rwa [hf.listeners] at hid
      · rwa [hf.listeners] at hid
  | authorize u hu hready hnew ht =>
      left
      have hb := becomeAuthorized_frame (S := S) now ((hk.frame hu).unused hnew)
      rwa [ht.listeners, hb.listeners, (drainStreams_opened now u).listeners, hu.listeners] at hid
  | closed u hu ht =>
      rw [((onClosed_cleared now u).frame ht).listeners, Multimap.get_empty] at hid
      cases hid

/-- Callbacks of `t` under an id of `s` are callbacks of `s`. -/
def SameHandlers (s t : Client) : Prop :=
  s.nextHandlerId ≤ t.nextHandlerId ∧ ∀ n < s.nextHandlerId, ∀ h,
    t.handlers.lookup n = some h → s.handlers.lookup n = some h

theorem SameHandlers.refl (s : Client) : SameHandlers s s := ⟨le_rfl, fun _ _ _ h => h⟩

theorem SameHandlers.trans {u : Client} (h₁ : SameHandlers s t) (h₂ : SameHandlers t u) :
    SameHandlers s u :=
  ⟨h₁.1.trans h₂.1, fun n hn h hl => h₁.2 n hn h (h₂.2 n (hn.trans_le h₁.1) h hl)⟩

theorem KeepsHandlers.same (h : KeepsHandlers s t) : SameHandlers s t := by
  refine ⟨h.1, fun n hn g hg => ?_⟩
  rcases h.2 n g hg with hg | ⟨hle, -⟩
  · exact hg
  · exact absurd hn (Nat.not_lt.2 hle)

theorem doSendRequest_same (request : TdRequest) (h : TdQueryCallback) :
    SameHandlers s (s.doSendRequest request h) := by
  refine ⟨Nat.le_succ _, fun n hn g hg => ?_⟩
  change (s.handlers.insert s.nextHandlerId h).lookup n = some g at hg
  rwa [AList.lookup_insert_ne (Nat.ne_of_lt hn)] at hg

theorem startFileStream_same (s : Client) (p : PendingFileStream) :
    SameHandlers s (s.startFileStream now p) := by
  unfold startFileStream requestFileStream sendRequest
  simp only
  split_ifs
  · exact ⟨le_rfl, fun _ _ _ h => h⟩
  · exact ⟨le_rfl, fun _ _ _ h => h⟩
  · exact doSendRequest_same (s := { s with
      activeFileStreams := s.activeFileStreams.insert p.streamId }) _ _
  · exact ⟨le_rfl, fun _ _ _ h => h⟩

theorem foldl_startFileStream_same (ps : List PendingFileStream) (s : Client) :
    SameHandlers s (ps.foldl (fun t p => t.startFileStream now p) s) := by
  induction ps generalizing s with
  | nil => exact SameHandlers.refl s
  | cons p ps ih => exact (startFileStream_same s p).trans (ih _)

theorem outcome_handlers {e : Event} (hk : WellKept s) (h : StepOutcome S now s e t) :
    SameHandlers s t := by
  have herase : ∀ (u : Client) n, SameHandlers u (u.erased n) := fun u n => by
    refine ⟨le_rfl, fun m _ h hm => ?_⟩
    change (u.handlers.erase n).lookup m = some h at hm
    exact (TableLookup.of_erase hm).2
  cases h with
  | frame h => exact (h.handlers hk.numbered).2.same
  | start p => exact startFileStream_same s p
  | leave streamId fileId flag =>
      rw [removeFileStream_eq]
      split_ifs
      · exact SameHandlers.refl s
      · have hf := removeListener_frame now (s.detached streamId) streamId fileId flag
        exact (hf.handlers hk.numbered).2.same
  | join n streamId expectedSize file hn hactive hsize =>
      have hf := joinFileStream_frame now s streamId file
      exact SameHandlers.trans (hf.handlers hk.numbered).2.same (herase _ n)
  | update file hauth => exact ((frame_onUpdateFile now file).handlers hk.numbered).2.same
  | downloaded n fileId file started hn =>
      have hf := frame_onUpdateFile (S := S) (s := { s with downloadStartedFileIds := started })
        now file
      exact SameHandlers.trans (hf.handlers hk.numbered).2.same (herase _ n)
  | getFile n query file hn =>
      refine SameHandlers.trans ?_ (herase _ n)
      rcases doGetFile_frame (S := S) now s file query with hf | ⟨-, hf⟩
      · exact (hf.handlers hk.numbered).2.same
      · exact (hf.handlers hk.numbered).2.same
  | authorize u hu hready hnew ht =>
      have hku := hk.frame hu
      have hb := becomeAuthorized_frame (S := S) now (hku.unused hnew)
      have ho := drainStreams_opened now u
      have hkd : WellKept (u.drainStreams now) :=
        WellKept.authorized (ho.numbered hku.numbered) ho.authorized
      have hd : SameHandlers u (u.drainStreams now) :=
        foldl_startFileStream_same u.pendingFileStreams { u with
          wasAuthorized := true
          pendingFileStreams := []
          out := u.out ++ [ClientAction.parentEvent true] }
      exact (((hu.handlers hk.numbered).2.same.trans hd).trans
        (hb.handlers hkd.numbered).2.same).trans (ht.handlers (hkd.frame hb).numbered).2.same
  | closed u hu ht =>
      have hc := (onClosed_cleared now u).frame ht
      exact (hu.handlers hk.numbered).2.same.trans
        (hc.handlers (hk.frame hu).numbered).2.same

/-- A stream becomes active by being started, now or while it was parked. -/
theorem outcome_active {e : Event} {id : Int} (hk : WellKept s) (h : StepOutcome S now s e t)
    (hid : id ∈ t.activeFileStreams) :
    id ∈ s.activeFileStreams ∨ id ∈ startsOf e ∨ ∃ p ∈ s.pendingFileStreams, p.streamId = id := by
  cases h with
  | frame h => exact Or.inl (h.active ▸ hid)
  | start p =>
      have hi : id ∈ s.activeFileStreams.insert p.streamId := by
        cases hauth : s.wasAuthorized with
        | true => rwa [(startFileStream_of_authorized now hauth p).1] at hid
        | false => rwa [startFileStream_of_unauthorized now hauth p] at hid
      rcases List.mem_insert_iff.1 hi with rfl | hi
      · exact Or.inr (Or.inl (List.mem_singleton.2 rfl))
      · exact Or.inl hi
  | leave streamId fileId flag =>
      left
      rw [removeFileStream_eq] at hid
      split_ifs at hid
      · exact List.mem_of_mem_filter hid
      · rw [(removeListener_frame now (s.detached streamId) streamId fileId flag).active] at hid
        exact List.mem_of_mem_filter hid
  | join n streamId expectedSize file hn hactive hsize =>
      exact Or.inl ((joinFileStream_frame now s streamId file).active ▸ hid)
  | update file hauth => exact Or.inl ((frame_onUpdateFile (S := S) now file).active ▸ hid)
  | downloaded n fileId file started hn =>
      exact Or.inl ((frame_onUpdateFile (S := S)
        (s := { s with downloadStartedFileIds := started }) now file).active ▸ hid)
  | getFile n query file hn =>
      have hid : id ∈ (s.doGetFile S now file query).activeFileStreams := hid
      rcases doGetFile_frame (S := S) now s file query with hf | ⟨-, hf⟩
      · exact Or.inl (hf.active ▸ hid)
      · exact Or.inl (hf.active ▸ hid)
  | authorize u hu hready hnew ht =>
      have hb := becomeAuthorized_frame (S := S) now ((hk.frame hu).unused hnew)
      rw [ht.active, hb.active] at hid
      rcases foldl_startFileStream_active now u.pendingFileStreams rfl hid with hid | ⟨p, hp, he⟩
      · exact Or.inl (hu.active ▸ hid)
      · exact Or.inr (Or.inr ⟨p, hu.pending ▸ hp, he⟩)
  | closed u hu ht =>
      rw [((onClosed_cleared now u).frame ht).active] at hid
      cases hid

def isRunning (s : Client) : Bool := !(s.stopped || s.crashed)

theorem step_of_running {x : Input} (h : s.isRunning = true) :
    s.step S x = { s with out := [] }.handle S x.now x.event := by
  unfold step
  simp only
  rw [if_neg]
  simpa [isRunning] using h

structure StepEffects (S : ClientSetup) (s : Client) (e : Event) (t : Client) : Prop where
  emits : ∀ a ∈ t.out, s.isRunning = true ∧ EmittedBy S s e a
  listeners : ∀ f, ∀ id ∈ t.fileStreamListeners.get f, id ∈ s.fileStreamListeners.get f ∨
    (s.isRunning = true ∧ ∃ file, lookupAnswer s e = some (id, file) ∧ file.id = f)
  handlers : SameHandlers s t
  active : ∀ id ∈ t.activeFileStreams, id ∈ s.activeFileStreams ∨ id ∈ startsOf e ∨
    ∃ p ∈ s.pendingFileStreams, p.streamId = id

theorem step_effects (hk : WellKept s) (x : Input) : StepEffects S s x.event (s.step S x) := by
  have hk₁ := hk.begun x.event
  unfold step
  simp only
  by_cases hstop : s.stopped = true ∨ s.crashed = true
  · rw [if_pos hstop]
    exact ⟨fun a ha => absurd ha List.not_mem_nil, fun f id h => Or.inl h, SameHandlers.refl s,
      fun id h => Or.inl h⟩
  · rw [if_neg hstop]
    have hrun : s.isRunning = true := by simpa [isRunning] using hstop
    have h : StepOutcome S x.now (s.begun x.event) x.event _ := handle_outcome s x.event
    have hh : SameHandlers (s.begun x.event) _ := outcome_handlers hk₁ h
    refine ⟨fun a ha => ?_, fun f id hid => ?_, hh, fun id hid => ?_⟩
    · exact ⟨hrun, (outcome_emits hk₁ rfl h ha).of_begun⟩
    · exact (outcome_listeners (s := s.begun x.event) hk₁ h hid).imp_right fun h => ⟨hrun, h⟩
    · exact outcome_active (s := s.begun x.event) hk₁ h hid

end Client

end TelegramBotApi
