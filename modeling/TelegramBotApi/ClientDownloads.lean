import TelegramBotApi.ClientDeparture
import TelegramBotApi.ClientEffects
import TelegramBotApi.History
import TelegramBotApi.StepRun

/-!
# Downloads for joining streams

A stream that joins a file starts its download only if it is the first listener. The listeners of a
download that has failed leave later, by messages of their own, so a stream that joins in between
waits for a download that nobody has asked for. The notes of a record say when downloads were
requested and when they ended; `interrupted` lists the files that had such an end since their
listeners, or a `getFile` query, last asked for the download.
-/

namespace TelegramBotApi

open History

inductive DownloadNote where
  | requested (fileId : Int)
  | ended (fileId : Int)
  deriving DecidableEq

/-- What a note says on whether the download of `f` stands requested. -/
def DownloadNote.asserts (f : Int) : DownloadNote → Option Bool
  | .requested g => if g = f then some true else none
  | .ended g => if g = f then some false else none

def ClientAction.note : ClientAction → Option DownloadNote
  | .request _ (.downloadFile f) => some (.requested f)
  | .request _ (.cancelDownloadFile f) => some (.ended f)
  | .request _ (.deleteFile f) => some (.ended f)
  | _ => none

namespace Client

variable (S : ClientSetup) (s : Client)

def isIdle (file : TdFile) : Bool :=
  !file.progress.isCompleted && !file.progress.isDownloadingActive

def failedDownload : Event → Option Int
  | .onResult n (.error _) => match s.handlers.lookup n with
    | some (.onFileStreamDownload fileId) => some fileId
    | some (.onDownloadFile fileId) => some fileId
    | _ => none
  | e => match reportOf s e with
    | some file => if isIdle file then some file.id else none
    | none => none

instance (file : TdFile) : Decidable (Oversized S s file) :=
  inferInstanceAs (Decidable (_ ∧ _ ∧ _ ∧ _ ∧ _))

/-- The file whose download an event makes the client cancel for its size. -/
def oversizedDownload (e : Event) : Option Int :=
  match reportOf s e with
  | some file => if Oversized S s file then some file.id else none
  | none => none

/-- The file that an event gives its first listener. -/
def firstJoin (e : Event) : Option Int :=
  match lookupAnswer s e with
  | some (_, file) => if s.fileStreamListeners.get file.id = [] then some file.id else none
  | none => none

/-- The files whose download an event interrupts, or fails to start in a closing client. -/
def cuts (e : Event) : List Int :=
  (s.failedDownload e).toList ++ (s.oversizedDownload S e).toList ++
    if s.isClosing then (s.firstJoin e).toList else []

/-- The files whose download an event makes the client request. -/
def opens (e : Event) : List Int :=
  (if s.isClosing then [] else (s.firstJoin e).toList) ++
    ((s.getFileAnswer S e).map (·.id)).toList

end Client

structure DownloadRecord where
  client : Client
  notes : List DownloadNote := []
  interrupted : List Int := []

namespace DownloadRecord

variable (S : ClientSetup) (r : DownloadRecord)

def isServed (f : Int) : Bool := lastWord (DownloadNote.asserts f) r.notes

def step (x : Client.Input) : DownloadRecord :=
  if r.client.isRunning then
    { client := r.client.step S x
      notes := r.notes ++ ((r.client.failedDownload x.event).toList.map .ended ++
        (r.client.step S x).out.filterMap ClientAction.note)
      interrupted := (r.interrupted.filter (· ∉ r.client.opens S x.event)) ++
        r.client.cuts S x.event }
  else { r with client := r.client.step S x }

def start (now : Int) : DownloadRecord := { client := Client.startUp S now }

/-- A stream that joins an idle file has a download, requested now or since its last end. -/
def JoinsServed (x : Client.Input) : Prop :=
  r.client.isRunning = true → ∀ answer ∈ r.client.lookupAnswer x.event,
    Client.isIdle answer.2 = true →
      .requested answer.2.id ∈ (r.client.step S x).out.filterMap ClientAction.note ∨
        r.isServed answer.2.id = true

instance (x : Client.Input) : Decidable (r.JoinsServed S x) :=
  inferInstanceAs (Decidable (_ → ∀ answer ∈ r.client.lookupAnswer x.event, _ → _ ∨ _))

/-- No stream joins an idle file as its first listener in a closing client, nor beside the listeners
of an interrupted download. -/
def JoinsUninterrupted (r : DownloadRecord) (x : Client.Input) : Prop :=
  r.client.isRunning = true → ∀ answer ∈ r.client.lookupAnswer x.event,
    Client.isIdle answer.2 = true →
      (r.client.fileStreamListeners.get answer.2.id = [] → r.client.isClosing = false) ∧
      (r.client.fileStreamListeners.get answer.2.id ≠ [] → answer.2.id ∉ r.interrupted)

instance (x : Client.Input) : Decidable (r.JoinsUninterrupted x) :=
  inferInstanceAs (Decidable (_ → ∀ answer ∈ r.client.lookupAnswer x.event, _ → _ ∧ _))

end DownloadRecord

namespace Client

variable {S : ClientSetup} {s : Client} {f : Int} {x : Input}

theorem firstJoin_eq_some {e : Event} (h : s.firstJoin e = some f) :
    ∃ id file, s.lookupAnswer e = some (id, file) ∧ file.id = f ∧
      s.fileStreamListeners.get f = [] := by
  unfold firstJoin at h
  split at h
  · rename_i id file ha
    split_ifs at h with hl
    cases h
    exact ⟨id, file, ha, rfl, hl⟩
  · cases h

/-- The first listener of a file makes a running client request the download. -/
theorem step_requests_first (hrun : s.isRunning = true) (hc : s.isClosing = false)
    (hf : s.firstJoin x.event = some f) :
    ∃ n, ClientAction.request n (.downloadFile f) ∈ (s.step S x).out := by
  obtain ⟨id, file, ha, rfl, hl⟩ := firstJoin_eq_some hf
  obtain ⟨n, size, he, hn, hactive, hsize⟩ := lookupAnswer_eq_some ha
  rw [step_of_running hrun, he]
  simp only [handle, onResult, hn, onCallback, onRemoteFile, resolveFileStreamSize, if_pos hactive,
    if_pos hsize]
  exact joinFileStream_requests (s := { s with out := [] }) hl hc

/-- So does a `getFile` query. -/
theorem step_requests_getFile (hrun : s.isRunning = true) {file : TdFile}
    (hf : s.getFileAnswer S x.event = some file) :
    ∃ n, ClientAction.request n (.downloadFile file.id) ∈ (s.step S x).out := by
  obtain ⟨n, query, he, hn, hsmall, hc⟩ := getFileAnswer_eq_some hf
  refine ⟨s.nextHandlerId, ?_⟩
  rw [step_of_running hrun, he]
  simp only [handle, onResult, hn, onCallback, doGetFile, if_neg hsmall]
  change _ ∈ (({ s with out := [] }.awaited query file.id).sendRequest x.now _ _).out
  unfold sendRequest
  rw [if_neg (by simpa [awaited, isClosing] using hc)]
  simp [doSendRequest, awaited]

theorem requests_of_opens (hrun : s.isRunning = true) (h : f ∈ s.opens S x.event) :
    ∃ n, ClientAction.request n (.downloadFile f) ∈ (s.step S x).out := by
  rcases List.mem_append.1 h with h | h
  · split_ifs at h with hc
    · cases h
    · exact step_requests_first hrun (by simpa using hc) (Option.mem_toList.1 h)
  · obtain ⟨file, hf, rfl⟩ := Option.map_eq_some_iff.1 (Option.mem_toList.1 h)
    exact step_requests_getFile hrun hf

/-- A request that ends the download of a file with listeners interrupts it. -/
theorem cuts_of_ended {n : Nat} {request : TdRequest} (hk : WellKept s)
    (hmem : ClientAction.request n request ∈ (s.step S x).out)
    (hr : request = .cancelDownloadFile f ∨ request = .deleteFile f)
    (hne : (s.step S x).fileStreamListeners.get f ≠ []) : f ∈ s.cuts S x.event := by
  obtain ⟨hrun, hemit⟩ := (step_effects hk x).emits _ hmem
  cases hemit with
  | plain h => rcases hr with rfl | rfl <;> exact absurd trivial h
  | first m id file h hfirst hc => rcases hr with hr | hr <;> cases hr
  | getFile m file h => rcases hr with hr | hr <;> cases hr
  | tooBig m file h hbig =>
      have hid : file.id = f := by
        rcases hr with hr | hr
        · exact TdRequest.cancelDownloadFile.inj hr
        · cases hr
      subst hid
      refine List.mem_append_left _ (List.mem_append_right _ (Option.mem_toList.2 ?_))
      simp [oversizedDownload, h, hbig]
  | last m id fileId flag he hheard h =>
      have hid : fileId = f := by
        unfold leaveRequest at hr
        cases flag with
        | true =>
            rcases hr with hr | hr
            · cases hr
            · exact TdRequest.deleteFile.inj hr
        | false =>
            rcases hr with hr | hr
            · exact TdRequest.cancelDownloadFile.inj hr
            · cases hr
      subst hid
      refine absurd ?_ hne
      rw [step_of_running hrun, he]
      exact unheard_of_lastToLeave (s := { s with out := [] }) flag hheard h

end Client

namespace DownloadRecord

variable {S : ClientSetup} {r : DownloadRecord} {f : Int} {x : Client.Input}

structure Served (r : DownloadRecord) : Prop where
  wellKept : r.client.WellKept
  served : ∀ f, r.client.fileStreamListeners.get f ≠ [] → f ∉ r.interrupted → r.isServed f = true

theorem step_of_running (S : ClientSetup) (x : Client.Input) (hrun : r.client.isRunning = true) :
    r.step S x = { client := r.client.step S x
                   notes := r.notes ++ ((r.client.failedDownload x.event).toList.map .ended ++
                     (r.client.step S x).out.filterMap ClientAction.note)
                   interrupted := (r.interrupted.filter (· ∉ r.client.opens S x.event)) ++
                     r.client.cuts S x.event } := if_pos hrun

theorem step_client (S : ClientSetup) (r : DownloadRecord) (x : Client.Input) :
    (r.step S x).client = r.client.step S x := by
  unfold step
  split_ifs
  · rfl
  · rfl

/-- What the new notes of a step say on a file that has listeners and is not interrupted. -/
theorem new_notes (hk : r.client.WellKept) (hcut : f ∉ r.client.cuts S x.event)
    (hne : (r.client.step S x).fileStreamListeners.get f ≠ []) :
    ∀ note ∈ (r.client.failedDownload x.event).toList.map DownloadNote.ended ++
        (r.client.step S x).out.filterMap ClientAction.note,
      note.asserts f = none ∨ (note.asserts f = some true ∧
        ∃ n, ClientAction.request n (.downloadFile f) ∈ (r.client.step S x).out) := by
  intro note hnote
  rcases List.mem_append.1 hnote with hnote | hnote
  · obtain ⟨g, hg, rfl⟩ := List.mem_map.1 hnote
    left
    refine if_neg fun he => hcut ?_
    subst he
    exact List.mem_append_left _ (List.mem_append_left _ hg)
  · obtain ⟨a, ha, he⟩ := List.mem_filterMap.1 hnote
    unfold ClientAction.note at he
    split at he
    · rename_i n g
      cases he
      by_cases hg : g = f
      · subst hg
        exact Or.inr ⟨if_pos rfl, n, ha⟩
      · exact Or.inl (if_neg hg)
    · cases he
      refine Or.inl (if_neg fun hg => hcut ?_)
      exact Client.cuts_of_ended hk ha (Or.inl (by rw [hg])) hne
    · cases he
      refine Or.inl (if_neg fun hg => hcut ?_)
      exact Client.cuts_of_ended hk ha (Or.inr (by rw [hg])) hne
    · cases he

/-- Listeners of a file without a new request were served before. -/
theorem served_before (hs : Served r) (hrun : r.client.isRunning = true)
    (hne : (r.client.step S x).fileStreamListeners.get f ≠ [])
    (hint : f ∉ (r.interrupted.filter (· ∉ r.client.opens S x.event)) ++ r.client.cuts S x.event)
    (hreq : ¬ ∃ n, ClientAction.request n (.downloadFile f) ∈ (r.client.step S x).out) :
    r.isServed f = true := by
  rw [List.mem_append, not_or] at hint
  apply hs.served
  · intro hempty
    obtain ⟨id, hid⟩ := List.exists_mem_of_ne_nil _ hne
    rcases (Client.step_effects hs.wellKept x).listeners f id hid with hid | ⟨-, file, ha, rfl⟩
    · rw [hempty] at hid
      cases hid
    · have hfirst : r.client.firstJoin x.event = some file.id := by
        simp [Client.firstJoin, ha, hempty]
      cases hc : r.client.isClosing with
      | true =>
          refine hint.2 (List.mem_append_right _ ?_)
          rw [if_pos hc]
          exact Option.mem_toList.2 hfirst
      | false => exact hreq (Client.step_requests_first hrun hc hfirst)
  · intro hmem
    by_cases ho : f ∈ r.client.opens S x.event
    · exact hreq (Client.requests_of_opens hrun ho)
    · exact hint.1 (List.mem_filter.2 ⟨hmem, by simpa using ho⟩)

theorem served_step (hs : Served r) (x : Client.Input) : Served (r.step S x) := by
  refine ⟨?_, fun f hne hint => ?_⟩
  · rw [step_client]
    exact Client.wellKept_step hs.wellKept x
  · rw [step_client] at hne
    by_cases hrun : r.client.isRunning = true
    · rw [step_of_running S x hrun] at hint ⊢
      have hcut : f ∉ r.client.cuts S x.event := fun h => hint (List.mem_append_right _ h)
      have hnew := new_notes hs.wellKept hcut hne
      change lastWord (DownloadNote.asserts f) (r.notes ++ _) = true
      by_cases hreq : ∃ n, ClientAction.request n (.downloadFile f) ∈ (r.client.step S x).out
      · obtain ⟨n, hn⟩ := hreq
        refine lastWord_append_of_affirmed (fun note hnote => ?_) ⟨.requested f, ?_, if_pos rfl⟩
        · rcases hnew note hnote with h | ⟨h, -⟩
          · simp [h]
          · simp [h]
        · exact List.mem_append_right _ (List.mem_filterMap.2 ⟨_, hn, rfl⟩)
      · rw [lastWord_append_of_silent fun note hnote =>
          (hnew note hnote).resolve_right fun h => hreq h.2]
        exact served_before hs hrun hne hint hreq
    · have hstill : r.step S x = { r with client := r.client.step S x } := if_neg hrun
      rw [hstill] at hint ⊢
      apply hs.served f _ hint
      intro hempty
      obtain ⟨id, hid⟩ := List.exists_mem_of_ne_nil _ hne
      rcases (Client.step_effects hs.wellKept x).listeners f id hid with hid | ⟨hr, -⟩
      · rw [hempty] at hid
        cases hid
      · exact hrun hr

theorem joinsServed (hs : Served r) (hok : JoinsUninterrupted r x) : JoinsServed S r x := by
  intro hrun answer ha hidle
  obtain ⟨hfirst, hbeside⟩ := hok hrun answer ha hidle
  by_cases hempty : r.client.fileStreamListeners.get answer.2.id = []
  · left
    have hjoin : r.client.firstJoin x.event = some answer.2.id := by
      simp [Client.firstJoin, Option.mem_def.1 ha, hempty]
    obtain ⟨n, hn⟩ := Client.step_requests_first (S := S) hrun (hfirst hempty) hjoin
    exact List.mem_filterMap.2 ⟨_, hn, rfl⟩
  · exact Or.inr (hs.served _ hempty (hbeside hempty))

end DownloadRecord

/-- In every run of a client in which no stream joins an idle file beside the listeners of an
interrupted download, or first in a closing client, every stream that joins an idle file has a
download: it is requested in that step or was requested after its last end. -/
theorem client_joins_served (S : ClientSetup) (now : Int) (inputs : List Client.Input)
    (h : StepRun.AllSteps (DownloadRecord.step S) DownloadRecord.JoinsUninterrupted
      (DownloadRecord.start S now) inputs) :
    StepRun.AllSteps (DownloadRecord.step S) (DownloadRecord.JoinsServed S)
      (DownloadRecord.start S now) inputs := by
  refine StepRun.AllSteps.imp (I := DownloadRecord.Served)
    (fun r x hs _ => DownloadRecord.served_step hs x) (fun r x hs hok => DownloadRecord.joinsServed hs hok)
    ⟨Client.wellKept_startUp S now, fun f hne => ?_⟩ h
  refine absurd ?_ hne
  unfold DownloadRecord.start Client.startUp Client.finishClosing
  dsimp only
  split_ifs
  · exact Multimap.get_empty f
  · exact Multimap.get_empty f
  · exact Multimap.get_empty f

/-- Two viewers join file 7; the second finds the download requested by the first. -/
theorem client_joins_served_twice :
    let S : ClientSetup := { token := "123:AAAAAAAAAAAAAAAAAAAAAAAA".toList }
    let inputs : List Client.Input := [⟨.onUpdate (.myId (some 123)), 0⟩, ⟨.onUpdate (.user 123), 0⟩,
      ⟨.onAuthorizationState .ready, 0⟩, ⟨.startFileStream ⟨1, ['x'], -1⟩, 0⟩,
      ⟨.onResult 1 (.file { id := 7, size := 10 }), 0⟩, ⟨.startFileStream ⟨2, ['x'], -1⟩, 0⟩,
      ⟨.onResult 3 (.file { id := 7, size := 10 }), 0⟩]
    let r := StepRun.run (DownloadRecord.step S) (DownloadRecord.start S 0) inputs
    r.client.fileStreamListeners.get 7 = [1, 2] ∧ r.isServed 7 = true ∧
      StepRun.AllSteps (DownloadRecord.step S) (DownloadRecord.JoinsServed S)
        (DownloadRecord.start S 0) inputs := by
  intro S inputs r
  exact ⟨by decide +kernel, by decide +kernel, client_joins_served S 0 inputs (by decide +kernel)⟩

/-- The download of the first viewer fails; the second viewer joins before the first has left. -/
theorem client_joins_failed_download :
    let S : ClientSetup := { token := "123:AAAAAAAAAAAAAAAAAAAAAAAA".toList }
    let inputs : List Client.Input := [⟨.onUpdate (.myId (some 123)), 0⟩, ⟨.onUpdate (.user 123), 0⟩,
      ⟨.onAuthorizationState .ready, 0⟩, ⟨.startFileStream ⟨1, ['x'], -1⟩, 0⟩,
      ⟨.onResult 1 (.file { id := 7, size := 10 }), 0⟩, ⟨.startFileStream ⟨2, ['x'], -1⟩, 0⟩,
      ⟨.onResult 2 (.error ⟨400, "Can't download file"⟩), 0⟩]
    let join : Client.Input := ⟨.onResult 3 (.file { id := 7, size := 10 }), 0⟩
    let r := StepRun.run (DownloadRecord.step S) (DownloadRecord.start S 0) inputs
    (r.step S join).client.fileStreamListeners.get 7 = [1, 2] ∧
      r.notes = [.requested 7, .ended 7] ∧ ¬ r.JoinsServed S join := by
  decide +kernel

end TelegramBotApi
