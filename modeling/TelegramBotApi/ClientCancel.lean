import TelegramBotApi.ClientEffects
import TelegramBotApi.StepRun

/-!
# Cancelling a shared download

TDLib has one download per file, shared by the `getFile` queries and the streams of the file. The last
stream that leaves checks both tables before it cancels the download or deletes the file. The size
limit of `getFile` in `on_update_file` looks only at its own table, so it cancels the download under
the streams of the file. `SparesStreams` excludes exactly these reports.
-/

namespace TelegramBotApi

open ActionLog

namespace Client

open ClientAction (Plain)

variable {S : ClientSetup} {now : Int} {s t : Client}

def SendsCancel (t : Client) (f : Int) : Prop :=
  ∃ n, ClientAction.request n (.cancelDownloadFile f) ∈ t.out ∨
    ClientAction.request n (.deleteFile f) ∈ t.out

/-- Nobody is left waiting for a file whose download a step cancels or which it deletes. -/
def CancelsUnused (t : Client) : Prop :=
  ∀ f, SendsCancel t f → t.fileDownloadListeners.get f = [] ∧ t.fileStreamListeners.get f = []

/-- The step brings no report about an oversized `getFile` download that streams share. -/
def SparesStreams (S : ClientSetup) (s : Client) (x : Input) : Prop :=
  s.stopped = false → s.crashed = false → ∀ file, reportOf s x.event = some file →
    Oversized S s file → s.fileStreamListeners.get file.id = []

theorem not_sendsCancel (h : Extends (fun a => ∀ n f, a ≠ .request n (.cancelDownloadFile f) ∧
    a ≠ .request n (.deleteFile f)) [] t.out) (f : Int) : ¬ SendsCancel t f := by
  rintro ⟨n, hmem | hmem⟩
  · exact (h.mem _ hmem n f).1 rfl
  · exact (h.mem _ hmem n f).2 rfl

theorem Plain.not_cancel {a : ClientAction} (ha : a.Plain) (n : Nat) (f : Int) :
    a ≠ .request n (.cancelDownloadFile f) ∧ a ≠ .request n (.deleteFile f) := by
  constructor
  · rintro rfl
    exact ha trivial
  · rintro rfl
    exact ha trivial

theorem cancelsUnused_of_plain (h : Extends Plain [] t.out) : CancelsUnused t := by
  intro f hf
  exact absurd hf (not_sendsCancel (h.imp fun a ha => Plain.not_cancel ha) f)

theorem onFileDownload_waiting (s : Client) (fileId : Int) (file : Except Status TdFile) :
    (s.onFileDownload fileId file).fileDownloadListeners.get fileId = [] := by
  unfold onFileDownload
  simp only
  split_ifs with hw
  · exact hw
  · exact Multimap.get_drop_self _ _

/-- The size limit cancels the download and answers its `getFile` queries. -/
theorem onUpdateFile_oversized (now : Int) {file : TdFile} (h : Oversized S s file) :
    SendsCancel (s.onUpdateFile S now file) file.id ∧
      (s.onUpdateFile S now file).fileDownloadListeners.get file.id = [] := by
  obtain ⟨hw, hlocal, hsize, hactive, hclosing⟩ := h
  let u := s.toStreams (s.fileStreamListeners.get file.id) (.onFileProgress file.size file.progress)
  have hc : u.isClosing = false := hclosing
  have hwu : u.fileDownloadListeners.get file.id ≠ [] := hw
  have he : s.onUpdateFile S now file = (u.doSendRequest (.cancelDownloadFile file.id)
      .onCancelDownloadFile).onFileDownload file.id (.error fileTooBig) := by
    unfold onUpdateFile
    change u.updateFileDownload S now file = _
    unfold updateFileDownload
    rw [if_neg hwu, if_pos ⟨by simp [hlocal], hsize⟩, if_pos hactive, sendRequest,
      if_neg (by simp [hc])]
  rw [he]
  refine ⟨⟨u.nextHandlerId, Or.inl ?_⟩, onFileDownload_waiting _ _ _⟩
  obtain ⟨k, hk, -⟩ := (frame_onFileDownload (s := u.doSendRequest (.cancelDownloadFile file.id)
    .onCancelDownloadFile) file.id (.error fileTooBig)).out
  rw [hk]
  exact List.mem_append_left _ (by simp [doSendRequest])

theorem cancelsUnused_onUpdateFile {file : TdFile} (hout : s.out = [])
    (h : Oversized S s file → s.fileStreamListeners.get file.id = []) :
    CancelsUnused (s.onUpdateFile S now file) := by
  have hf := frame_onUpdateFile (S := S) (s := s) now file
  intro f hcancel
  have hbig : Oversized S s file ∧ f = file.id := by
    have hmem := hf.out
    rw [hout] at hmem
    obtain ⟨n, hn | hn⟩ := hcancel
    · rcases hmem.mem _ hn with hp | ⟨id, -, he⟩ | ⟨hbig, m, he⟩
      · exact absurd rfl (Plain.not_cancel hp n f).1
      · cases he
      · cases he
        exact ⟨hbig, rfl⟩
    · rcases hmem.mem _ hn with hp | ⟨id, -, he⟩ | ⟨hbig, m, he⟩
      · exact absurd rfl (Plain.not_cancel hp n f).2
      · cases he
      · cases he
  obtain ⟨hbig, rfl⟩ := hbig
  refine ⟨(onUpdateFile_oversized now hbig).2, ?_⟩
  rw [hf.listeners]
  exact h hbig

theorem cancelsUnused_removeFileStream (hout : s.out = []) (streamId fileId : Int) (flag : Bool) :
    CancelsUnused (s.removeFileStream now streamId fileId flag) := by
  rw [removeFileStream_eq]
  split_ifs
  · apply cancelsUnused_of_plain
    change Extends Plain [] s.out
    rw [hout]
    exact Extends.refl _
  · have hf := removeListener_frame now (s.detached streamId) streamId fileId flag
    have hmem := hf.out
    change Extends _ s.out _ at hmem
    rw [hout] at hmem
    intro f hcancel
    have hlast : LastToLeave streamId fileId (s.detached streamId) ∧ f = fileId := by
      obtain ⟨n, hn | hn⟩ := hcancel
      · obtain ⟨hlast, m, he⟩ := hmem.mem _ hn
        unfold leaveRequest at he
        cases flag <;> cases he
        exact ⟨hlast, rfl⟩
      · obtain ⟨hlast, m, he⟩ := hmem.mem _ hn
        unfold leaveRequest at he
        cases flag <;> cases he
        exact ⟨hlast, rfl⟩
    obtain ⟨⟨hrest, hw, -⟩, rfl⟩ := hlast
    constructor
    · rcases hf.waiting f with h | h
      · exact h
      · exact h.trans hw
    · rw [hf.listeners]
      change ((s.detached streamId).fileStreamListeners.set f _).get f = []
      rw [Multimap.get_set, if_pos rfl]
      exact hrest

theorem cancelsUnused_erased {n : Nat} (h : CancelsUnused t) : CancelsUnused (t.erased n) := h

theorem extends_plain_or_download {P : Prop} {fileId : Int} {l : List ClientAction}
    (h : Extends (fun a => a.Plain ∨ (P ∧ ∃ n, a = .request n (.downloadFile fileId))) [] l) :
    Extends (fun a => ∀ n f, a ≠ .request n (.cancelDownloadFile f) ∧
      a ≠ .request n (.deleteFile f)) [] l := by
  apply h.imp
  rintro a (ha | ⟨-, m, rfl⟩) n f
  · exact Plain.not_cancel ha n f
  · exact ⟨nofun, nofun⟩

theorem cancelsUnused_outcome {e : Event} (hs : WellKept s) (hout : s.out = [])
    (hspare : ∀ file, reportOf s e = some file → Oversized S s file →
      s.fileStreamListeners.get file.id = [])
    (h : StepOutcome S now s e t) : CancelsUnused t := by
  cases h with
  | frame h => exact cancelsUnused_of_plain (hout ▸ h.out)
  | start p => exact cancelsUnused_of_plain (hout ▸ (startFileStream_opened now s p).out)
  | leave streamId fileId removeLocalFile => exact cancelsUnused_removeFileStream hout _ _ _
  | join n streamId expectedSize file hn ha hsize =>
      apply cancelsUnused_erased
      intro f hf
      refine absurd hf (not_sendsCancel ?_ f)
      have hready : Extends (fun a => a.Plain ∨ ((s.fileStreamListeners.get file.id = [] ∧
          s.isClosing = false) ∧ ∃ n, a = .request n (.downloadFile file.id)))
          (s.listed streamId file).out (s.joinFileStream now streamId file.size file).out :=
        (joinFileStream_frame now s streamId file).out.imp fun a ha =>
          ha.imp id fun h => ⟨⟨h.1, h.2.1⟩, h.2.2⟩
      obtain ⟨k, hk, hp⟩ := hready
      have hk₁ := extends_plain_or_download (l := k) ⟨k, rfl, hp⟩
      have hlisted : (s.listed streamId file).out =
          [.stream streamId (.onFileReady file.id file.size file.progress)] := by
        simp [listed, hout]
      rw [hk, hlisted]
      refine ⟨[.stream streamId (.onFileReady file.id file.size file.progress)] ++ k, rfl,
        fun a ha n f => ?_⟩
      rcases List.mem_append.1 ha with ha | ha
      · rw [List.mem_singleton.1 ha]
        exact ⟨(fun heq => by cases heq), fun heq => by cases heq⟩
      · exact hk₁.mem a ha n f
  | update file ha =>
      apply cancelsUnused_onUpdateFile hout
      exact hspare file (by simp [reportOf, ha])
  | downloaded n fileId file started hn =>
      apply cancelsUnused_erased
      apply cancelsUnused_onUpdateFile (s := { s with downloadStartedFileIds := started }) hout
      refine hspare file ?_
      rcases hn with hn | hn
      · simp [reportOf, hn]
      · simp [reportOf, hn]
  | getFile n query file hn =>
      apply cancelsUnused_erased
      rcases doGetFile_frame (S := S) now s file query with hf | ⟨-, hf⟩
      · exact cancelsUnused_of_plain (hout ▸ hf.out)
      · intro f hcancel
        refine absurd hcancel (not_sendsCancel ?_ f)
        have h₁ := hf.out
        change Extends _ s.out _ at h₁
        rw [hout] at h₁
        exact extends_plain_or_download h₁
  | authorize u hu hready hnew ht =>
      have hk := hs.frame hu
      have hd := (drainStreams_opened now u).out
      have hf := (becomeAuthorized_frame (S := S) now (hk.unused hnew)).out
      exact cancelsUnused_of_plain (hout ▸ ((hu.out.trans hd).trans hf).trans ht.out)
  | closed u hu ht =>
      exact cancelsUnused_of_plain
        (hout ▸ (hu.out.trans (onClosed_cleared now u).out).trans ht.out)

/-- A report about a file goes through `on_update_file`. -/
theorem handle_of_reportOf (now : Int) {e : Event} {file : TdFile} (h : reportOf s e = some file) :
    ∃ started, (s.handle S now e).out =
        ({ s with downloadStartedFileIds := started }.onUpdateFile S now file).out ∧
      (s.handle S now e).fileStreamListeners = s.fileStreamListeners ∧
      (s.handle S now e).fileDownloadListeners =
        ({ s with downloadStartedFileIds := started }.onUpdateFile S now file).fileDownloadListeners := by
  have hl : ∀ u : Client, u.fileStreamListeners = s.fileStreamListeners →
      (u.onUpdateFile S now file).fileStreamListeners = s.fileStreamListeners :=
    fun u hu => (frame_onUpdateFile now file).listeners.trans hu
  unfold reportOf at h
  split at h
  · rename_i file'
    split_ifs at h with ha
    obtain rfl := Option.some.inj h
    refine ⟨s.downloadStartedFileIds, ?_⟩
    have he : s.handle S now (.onUpdate (.file file')) = s.onUpdateFile S now file' := by
      dsimp only [handle, onUpdate]
      rw [if_neg (by simp [ha])]
      rfl
    rw [he]
    exact ⟨rfl, hl s rfl, rfl⟩
  · rename_i n file'
    have hresult : ∀ handler, s.handlers.lookup n = some handler →
        s.handle S now (.onResult n (.file file')) =
          (s.onCallback S now handler (.file file')).erased n := by
      intro handler hn
      dsimp only [handle, onResult]
      rw [hn]
      rfl
    split at h
    · rename_i fileId hn
      obtain rfl := Option.some.inj h
      rw [hresult _ hn]
      exact ⟨s.downloadStartedFileIds, rfl, hl s rfl, rfl⟩
    · rename_i fileId hn
      obtain rfl := Option.some.inj h
      rw [hresult _ hn]
      dsimp only [onCallback]
      split_ifs
      · exact ⟨s.downloadStartedFileIds, rfl, hl s rfl, rfl⟩
      · exact ⟨_, rfl, hl _ rfl, rfl⟩
    · cases h
  · cases h

theorem cancelsUnused_step_iff (hs : WellKept s) (x : Input) :
    CancelsUnused (s.step S x) ↔ SparesStreams S s x := by
  unfold step
  simp only
  by_cases hstop : s.stopped = true ∨ s.crashed = true
  · rw [if_pos hstop]
    refine iff_of_true (cancelsUnused_of_plain (Extends.refl _)) fun h₁ h₂ => ?_
    simp [h₁, h₂] at hstop
  rw [if_neg hstop]
  simp only [not_or, Bool.not_eq_true] at hstop
  constructor
  · intro h _ _ file hreport hbig
    have hreport₁ : reportOf { s with out := [] } x.event = some file := hreport
    obtain ⟨started, hout, hl, -⟩ := handle_of_reportOf (S := S) x.now hreport₁
    have hbig₁ : Oversized S { s with out := [], downloadStartedFileIds := started } file := hbig
    have hcancel := (onUpdateFile_oversized x.now hbig₁).1
    have hempty := (h file.id (by
      obtain ⟨n, hn⟩ := hcancel
      exact ⟨n, by rwa [hout]⟩)).2
    rwa [hl] at hempty
  · intro h
    exact cancelsUnused_outcome (s := s.begun x.event) (hs.begun x.event) rfl (h hstop.1 hstop.2)
      (handle_outcome s x.event)

end Client

/-- In every run of a client, each step that cancels a download or deletes a file leaves nobody
waiting for it, if and only if no step of the run reports an oversized `getFile` download that
streams share. -/
theorem client_cancels_unused_iff (S : ClientSetup) (now : Int) (inputs : List Client.Input) :
    StepRun.AllSteps (Client.step S) (fun s x => Client.CancelsUnused (s.step S x))
        (Client.startUp S now) inputs ↔
      StepRun.AllSteps (Client.step S) (Client.SparesStreams S) (Client.startUp S now) inputs :=
  StepRun.allSteps_congr (I := Client.WellKept) (fun _ x hs _ => Client.wellKept_step hs x)
    (fun _ x hs => Client.cancelsUnused_step_iff hs x) (Client.wellKept_startUp S now) inputs

/-- A `getFile` query waits for file 7, whose size was not known at first, and a stream has joined
the download when the query finds the file too big. -/
theorem client_cancels_shared_download :
    let S : ClientSetup := { token := "123:AAAAAAAAAAAAAAAAAAAAAAAA".toList }
    let inputs : List Client.Input := [⟨.onUpdate (.myId (some 123)), 0⟩, ⟨.onUpdate (.user 123), 0⟩,
      ⟨.onAuthorizationState .ready, 0⟩, ⟨.send ⟨5, .getFile ['x'] false⟩, 0⟩,
      ⟨.onResult 1 (.file { id := 7 }), 0⟩, ⟨.startFileStream ⟨1, ['x'], -1⟩, 0⟩,
      ⟨.onResult 3 (.file { id := 7, size := 50000000, expectedSize := 50000000 }), 0⟩]
    let report : Client.Input := ⟨.onUpdate (.file
      { id := 7, size := 50000000, expectedSize := 50000000, downloadedSize := 30000000,
        progress := { isDownloadingActive := true } }), 0⟩
    let s := StepRun.run (Client.step S) (Client.startUp S 0) inputs
    ClientAction.request 5 (.cancelDownloadFile 7) ∈ (s.step S report).out ∧
      (s.step S report).fileStreamListeners.get 7 = [1] ∧
      ¬ Client.CancelsUnused (s.step S report) := by
  intro S inputs report s
  have hcancel : ClientAction.request 5 (.cancelDownloadFile 7) ∈ (s.step S report).out := by
    decide +kernel
  have hlisteners : (s.step S report).fileStreamListeners.get 7 = [1] := by decide +kernel
  refine ⟨hcancel, hlisteners, fun h => ?_⟩
  have hempty := (h 7 ⟨5, Or.inl hcancel⟩).2
  rw [hlisteners] at hempty
  cases hempty

end TelegramBotApi
