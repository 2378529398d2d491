import TelegramBotApi.StreamTransport
import TelegramBotApi.FileStreamHistory

/-!
# Reports of stopped downloads

A report that a download is neither active nor complete ends the streams of the file. It says nothing
about which request of the client it answers, so a report that crosses a `downloadFile` of the client
ends streams whose download is about to start. `StopsDoNotCross` excludes the crossings: the client
starts no download for listening streams while such a report is on its way, and TDLib makes none
while such a request is.
-/

namespace TelegramBotApi

open RequestLog (Settled)

/-- The download is neither active nor complete. -/
def FileProgress.isStopped (progress : FileProgress) : Bool :=
  !progress.isCompleted && !progress.isDownloadingActive

namespace StreamSystem

variable {S : ClientSetup} {s : StreamSystem} {c : Client} {f : Int}

def stoppedFile (c : Client) (e : Client.Event) : Option Int :=
  match Client.reportFile c e with
  | some file => if file.progress.isStopped then some file.id else none
  | none => none

def stoppedMail (mail : StreamMail) : Option Int :=
  match mail.event, mail.origin with
  | .onFileProgress _ progress, some m =>
    if progress.isStopped then m.event.carried.map (·.id) else none
  | _, _ => none

/-- Behind the first message of TDLib no report calls `f` stopped. -/
def QueueClear (s : StreamSystem) (f : Int) : Prop :=
  ∀ m ∈ s.reports.tail, stoppedFile s.client m.event ≠ some f

/-- No running stream has yet to read that `f` stopped. -/
def InboxesClear (s : StreamSystem) (f : Int) : Prop :=
  ∀ id ∈ s.started, ∀ a ∈ s.streams id, a.state.stopped = false →
    ∀ mail ∈ a.inbox, stoppedMail mail ≠ some f

instance : Decidable (QueueClear s f) := inferInstanceAs (Decidable (∀ _ ∈ _, _))

instance : Decidable (InboxesClear s f) := inferInstanceAs (Decidable (∀ _ ∈ _, _))

def StopsDoNotCross (S : ClientSetup) (s : StreamSystem) : Event → Prop
  | .produce event => ∀ f ∈ stoppedFile s.client event,
      s.client.fileStreamListeners.get f = [] ∨ Settled (.downloadFile f) s.requests s.processed
  | .report _ => s.client.isRunning = true → ∀ m ∈ s.reports.head?,
      (∀ answer ∈ s.client.lookupAnswer m.event,
        s.client.fileStreamListeners.get answer.2.id = [] →
          QueueClear s answer.2.id ∧ InboxesClear s answer.2.id) ∧
      (∀ file ∈ s.client.getFileAnswer S m.event,
        (s.client.fileStreamListeners.get file.id = [] ∨ QueueClear s file.id) ∧
          InboxesClear s file.id)
  | _ => True

instance StopsDoNotCross.decidable (S : ClientSetup) (s : StreamSystem) :
    ∀ e, Decidable (StopsDoNotCross S s e)
  | .produce event => inferInstanceAs (Decidable (∀ f ∈ stoppedFile s.client event, _ ∨ _))
  | .report _ => inferInstanceAs (Decidable (s.client.isRunning = true →
      ∀ m ∈ s.reports.head?, (∀ answer ∈ s.client.lookupAnswer m.event, _ → _ ∧ _) ∧
        (∀ file ∈ s.client.getFileAnswer S m.event, _ ∧ _)))
  | .create _ | .connect _ _ | .refuse _ _ _ | .greet _ _ | .mail _ _ | .stream _ _ _
  | .removal _ _ | .external _ _ | .process => inferInstanceAs (Decidable True)

/-- The report behind a message was made after TDLib had processed every request to download its
file. -/
def FreshMail (s : StreamSystem) (mail : StreamMail) : Prop :=
  ∃ m ∈ mail.origin, ∃ file ∈ m.event.carried, Settled (.downloadFile file.id) s.requests m.stamp

instance (mail : StreamMail) : Decidable (FreshMail s mail) :=
  inferInstanceAs (Decidable (∃ m ∈ mail.origin, ∃ file ∈ m.event.carried, Settled _ _ _))

/-- The report that makes a stream end with `downloadStopped`. -/
def stoppedBy (s : StreamSystem) : Event → Option StreamMail
  | .mail id io => match s.streams id with
    | some a => match a.inbox with
      | ⟨.onFileProgress size progress, origin⟩ :: _ =>
        if StreamAction.send (.writeError FileStreamConnection.downloadStopped) ∈
            (a.state.step a.setup ⟨.onFileProgress size progress, io⟩).out then
          some ⟨.onFileProgress size progress, origin⟩
        else none
      | _ => none
    | none => none
  | _ => none

/-- A stream that is aborted because its download stopped is aborted by a fresh report. -/
def AbortsFresh (s : StreamSystem) (e : Event) : Prop := ∀ mail ∈ stoppedBy s e, FreshMail s mail

instance (e : Event) : Decidable (AbortsFresh s e) :=
  inferInstanceAs (Decidable (∀ mail ∈ stoppedBy s e, FreshMail s mail))

structure StopsFresh (s : StreamSystem) : Prop where
  queue : ∀ f, s.client.fileStreamListeners.get f ≠ [] → ∀ m ∈ s.reports,
    stoppedFile s.client m.event = some f → Settled (.downloadFile f) s.requests m.stamp
  inbox : ∀ id a, s.streams id = some a → a.state.stopped = false → ∀ mail ∈ a.inbox,
    ∀ size progress, mail.event = .onFileProgress size progress → progress.isStopped = true →
      id ∈ s.started ∧ FreshMail s mail

theorem abortsFresh (hs : StopsFresh s) (e : Event) : AbortsFresh s e := by
  intro mail hmail
  unfold stoppedBy at hmail
  split at hmail
  · rename_i id io
    split at hmail
    · rename_i a ha
      split at hmail
      · rename_i size progress origin rest hbox
        split_ifs at hmail with hout
        · cases hmail
          have hrun : a.state.stopped = false := by
            by_contra hstop
            rw [FileStreamConnection.step_of_stopped (by simpa using hstop)] at hout
            cases hout
          obtain ⟨hc, hd⟩ := FileStreamConnection.step_onFileProgress rfl hout
          refine (hs.inbox id a ha hrun _ (hbox ▸ List.mem_cons_self) size progress rfl ?_).2
          simp [FileProgress.isStopped, hc, hd]
        · cases hmail
      · cases hmail
    · cases hmail
  · cases hmail

theorem stoppedFile_back {d : Client} (h : Client.SameHandlers c d) {e : Client.Event}
    (he : isFromTdlib c e = true) (hr : stoppedFile d e = some f) : stoppedFile c e = some f := by
  unfold stoppedFile at hr
  cases hf : Client.reportFile d e with
  | none =>
      rw [hf] at hr
      cases hr
  | some file =>
      rw [hf] at hr
      unfold stoppedFile
      rw [reportFile_back h he hf]
      exact hr

/-- The client asks for a download of `f`. -/
theorem emits_download {e : Client.Event} {n : Nat}
    (h : Client.EmittedBy S c e (.request n (.downloadFile f))) :
    (∃ id file, c.lookupAnswer e = some (id, file) ∧ file.id = f ∧
      c.fileStreamListeners.get f = []) ∨ ∃ file, c.getFileAnswer S e = some file ∧ file.id = f := by
  generalize hr : TdRequest.downloadFile f = r at h
  cases h with
  | plain h =>
      subst hr
      exact absurd trivial h
  | first m id file h hfirst hc =>
      cases hr
      exact Or.inl ⟨id, file, h, rfl, hfirst⟩
  | getFile m file h =>
      cases hr
      exact Or.inr ⟨file, h, rfl⟩
  | tooBig m file h hbig => cases hr
  | last m id fileId flag he hheard h =>
      unfold Client.leaveRequest at hr
      split_ifs at hr

section ClientStep

variable {e : Event} {x : Client.Input} {origin : Option TdMessage}

/-- A download that the client starts crosses no report on its way to the streams, nor, if streams
listen, on its way to the client. -/
theorem clear_of_download (hs : Consistent s) (hd : s.delivered e = some (x, origin))
    (hcross : StopsDoNotCross S s e)
    (hreq : TdRequest.downloadFile f ∈ (s.client.step S x).out.filterMap requestOf) :
    InboxesClear s f ∧ (s.client.fileStreamListeners.get f ≠ [] →
      ∀ m ∈ (s.environment e).reports, stoppedFile s.client m.event ≠ some f) := by
  obtain ⟨n, hn⟩ := mem_requests.1 hreq
  obtain ⟨hrun, hemit⟩ := (Client.step_effects hs.wellKept x).emits _ hn
  rcases emits_download hemit with ⟨id, file, hans, rfl, hempty⟩ | ⟨file, hans, rfl⟩
  · obtain ⟨m, rest, now, rfl, hm, he, -⟩ :=
      (delivered_delivery hd).of_carried (Client.carried_of_lookupAnswer hans)
    rw [he] at hans
    have h := (hcross hrun m (by rw [hm]; rfl)).1 (id, file) hans hempty
    exact ⟨h.2, fun hne => absurd hempty hne⟩
  · obtain ⟨m, rest, now, rfl, hm, he, -⟩ :=
      (delivered_delivery hd).of_carried (Client.carried_of_getFileAnswer hans)
    rw [he] at hans
    have h := (hcross hrun m (by rw [hm]; rfl)).2 file hans
    exact ⟨h.2, fun hne => h.1.resolve_left hne⟩

/-- A file that gets its first listener has no report of a stop on its way. -/
theorem clear_of_first (hs : Consistent s) (hd : s.delivered e = some (x, origin))
    (hcross : StopsDoNotCross S s e) (hempty : s.client.fileStreamListeners.get f = [])
    (hne : (s.client.step S x).fileStreamListeners.get f ≠ []) :
    ∀ m ∈ (s.environment e).reports, stoppedFile s.client m.event ≠ some f := by
  obtain ⟨id, hid⟩ := List.exists_mem_of_ne_nil _ hne
  rcases (Client.step_effects hs.wellKept x).listeners f id hid with hid | ⟨hrun, file, hans, rfl⟩
  · rw [hempty] at hid
    cases hid
  · obtain ⟨m, rest, now, rfl, hm, he, -⟩ :=
      (delivered_delivery hd).of_carried (Client.carried_of_lookupAnswer hans)
    rw [he] at hans
    exact ((hcross hrun m (by rw [hm]; rfl)).1 (id, file) hans hempty).1

theorem stopsFresh_queue (hs : Consistent s) (hf : StopsFresh s)
    (hd : s.delivered e = some (x, origin)) (hcross : StopsDoNotCross S s e)
    (hne : (s.client.step S x).fileStreamListeners.get f ≠ []) {m : TdMessage}
    (hm : m ∈ (s.environment e).reports)
    (hstop : stoppedFile (s.client.step S x) m.event = some f) :
    Settled (.downloadFile f) (s.requests ++ (s.client.step S x).out.filterMap requestOf)
      m.stamp := by
  have ho := environment_outside s e
  have hdel := delivered_delivery hd
  have hold : m ∈ s.reports := by
    rcases ho.mem_reports m hm with hm | ⟨event, rfl, -⟩
    · exact hm
    · cases hdel
  have hstop₁ := stoppedFile_back (Client.step_effects hs.wellKept x).handlers (hs.reports m hold) hstop
  by_cases hempty : s.client.fileStreamListeners.get f = []
  · exact absurd hstop₁ (clear_of_first hs hd hcross hempty hne m hm)
  · by_cases hreq : TdRequest.downloadFile f ∈ (s.client.step S x).out.filterMap requestOf
    · exact absurd hstop₁ ((clear_of_download hs hd hcross hreq).2 hempty m hm)
    · exact (hf.queue f hempty m hold hstop₁).append hreq

/-- Messages already in an inbox stay fresh. -/
theorem freshMail_kept (hs : Consistent s) (hf : StopsFresh s)
    (hd : s.delivered e = some (x, origin)) (hcross : StopsDoNotCross S s e) {id : Int}
    {a : StreamActor} (ha : s.streams id = some a) (hrun : a.state.stopped = false)
    {mail : StreamMail} (hmail : mail ∈ a.inbox) {size : Int} {progress : FileProgress}
    (hevent : mail.event = .onFileProgress size progress) (hstop : progress.isStopped = true) :
    id ∈ s.started ∧ ∃ m ∈ mail.origin, ∃ file ∈ m.event.carried,
      Settled (.downloadFile file.id)
        (s.requests ++ (s.client.step S x).out.filterMap requestOf) m.stamp := by
  obtain ⟨hid, m, horigin, file, hcarried, hset⟩ :=
    hf.inbox id a ha hrun mail hmail size progress hevent hstop
  refine ⟨hid, m, horigin, file, hcarried, hset.append fun hreq => ?_⟩
  refine (clear_of_download hs hd hcross hreq).1 id hid a ha hrun mail hmail ?_
  rw [Option.mem_def] at horigin hcarried
  simp [stoppedMail, hevent, horigin, hstop, hcarried]

/-- A report that the client forwards is fresh. -/
theorem freshMail_sent (hs : Consistent s) (hf : StopsFresh s)
    (hd : s.delivered e = some (x, origin)) {id : Int} {size : Int} {progress : FileProgress}
    (hout : .stream id (.onFileProgress size progress) ∈ (s.client.step S x).out)
    (hstop : progress.isStopped = true) :
    id ∈ s.started ∧ ∃ m ∈ origin, ∃ file ∈ m.event.carried,
      Settled (.downloadFile file.id)
        (s.requests ++ (s.client.step S x).out.filterMap requestOf) m.stamp := by
  have heff := Client.step_effects (S := S) hs.wellKept x
  generalize hp : StreamEvent.onFileProgress size progress = event at hout
  cases (heff.emits _ hout).2 with
  | plain h =>
      subst hp
      exact h.elim
  | ready _ file h => cases hp
  | progress _ file h hid =>
      cases hp
      have hcar := Client.carried_of_reportOf h
      obtain ⟨m, rest, now, rfl, hm, he, rfl⟩ := (delivered_delivery hd).of_carried hcar
      have hmem : m ∈ s.reports := hm ▸ List.mem_cons_self
      have hfile : stoppedFile s.client m.event = some file.id := by
        unfold stoppedFile
        rw [← he, Client.reportFile_of_reportOf h]
        exact if_pos hstop
      refine ⟨hs.accounted.readiedStarted _ _ (hs.accounted.listed file.id id hid), m, rfl,
        file, he ▸ hcar, ?_⟩
      refine (hf.queue file.id (List.ne_nil_of_mem hid) m hmem hfile).append fun hreq => ?_
      obtain ⟨n, hn⟩ := mem_requests.1 hreq
      rcases emits_download (heff.emits _ hn).2 with ⟨j, g, hans, -⟩ | ⟨g, hans, -⟩
      · rw [Client.lookupAnswer_of_reportOf h] at hans
        cases hans
      · rw [Client.getFileAnswer_of_reportOf h] at hans
        cases hans

end ClientStep

theorem stopsFresh_environment (hf : StopsFresh s) {e : Event}
    (hcross : StopsDoNotCross S s e) : StopsFresh (s.environment e) := by
  have ho := environment_outside s e
  constructor
  · intro f hne m hm hstop
    rw [ho.client] at hne hstop
    rw [ho.requests]
    rcases ho.mem_reports m hm with hm | ⟨event, rfl, -, rfl⟩
    · exact hf.queue f hne m hm hstop
    · exact (hcross f hstop).resolve_left hne
  · intro id a ha hrun mail hmail size progress hevent hstop
    rw [ho.started]
    unfold FreshMail
    rw [ho.requests]
    rcases environment_streams ha with hnil | ⟨b, hb, hold⟩
    · rw [hnil] at hmail
      cases hmail
    · exact hf.inbox id b hb (hold.running hrun) mail (hold.inbox mail hmail) size progress hevent
        hstop

theorem stopsFresh_step (hs : Consistent s) (hf : StopsFresh s) {e : Event}
    (hcross : StopsDoNotCross S s e) : StopsFresh (s.step S e) := by
  have ho := environment_outside s e
  unfold step
  cases hd : s.delivered e with
  | none => exact stopsFresh_environment hf hcross
  | some d =>
      obtain ⟨x, origin⟩ := d
      constructor
      · intro f hne m hm hstop
        change (((s.environment e).client.step S x).fileStreamListeners.get f ≠ []) at hne
        change stoppedFile ((s.environment e).client.step S x) m.event = some f at hstop
        change Settled _ ((s.environment e).requests ++
          ((s.environment e).client.step S x).out.filterMap requestOf) _
        rw [ho.client] at hne hstop ⊢
        rw [ho.requests]
        exact stopsFresh_queue hs hf hd hcross hne hm hstop
      · intro id a ha hrun mail hmail size progress hevent hstop
        obtain ⟨b, hb, hbrun, hbox⟩ := clientStep_streams ha
        unfold FreshMail
        change id ∈ (s.environment e).started ++ _ ∧ ∃ m ∈ _, ∃ file ∈ _,
          Settled _ ((s.environment e).requests ++
            ((s.environment e).client.step S x).out.filterMap requestOf) _
        rw [ho.client, ho.requests, ho.started]
        have hfresh : id ∈ s.started ∧ ∃ m ∈ mail.origin, ∃ file ∈ m.event.carried,
            Settled (.downloadFile file.id)
              (s.requests ++ (s.client.step S x).out.filterMap requestOf) m.stamp := by
          rcases hbox mail hmail with hmail | ⟨hmail, horigin⟩
          · rcases environment_streams hb with hnil | ⟨a₀, ha₀, hold⟩
            · rw [hnil] at hmail
              cases hmail
            · exact freshMail_kept hs hf hd hcross ha₀ (hold.running (hbrun hrun))
                (hold.inbox mail hmail) hevent hstop
          · rw [ho.client, hevent] at hmail
            rw [horigin]
            exact freshMail_sent hs hf hd hmail hstop
        exact ⟨List.mem_append_left _ hfresh.1, hfresh.2⟩

end StreamSystem

/-- In every run in which no report of a stop crosses a download that the client starts, streams are
aborted as stopped only by reports that TDLib made after the last download request for the file. -/
theorem streams_stopped_by_fresh_reports (S : ClientSetup) (now : Int)
    (events : List StreamSystem.Event)
    (h : StepRun.AllSteps (StreamSystem.step S) (StreamSystem.StopsDoNotCross S)
      (StreamSystem.init S now) events) :
    StepRun.AllSteps (StreamSystem.step S) StreamSystem.AbortsFresh (StreamSystem.init S now)
      events := by
  refine StepRun.AllSteps.imp (I := fun s => s.Consistent ∧ s.StopsFresh)
    (fun s e hs hok => ⟨StreamSystem.consistent_step hs.1 e, StreamSystem.stopsFresh_step hs.1 hs.2 hok⟩)
    (fun s e hs _ => StreamSystem.abortsFresh hs.2 e)
    ⟨StreamSystem.consistent_init S now, ?_, ?_⟩ h
  all_goals simp [StreamSystem.init]

/-- The download of a viewer stops after TDLib has taken the request for it. -/
theorem streams_stopped_by_fresh_report_once :
    let S : ClientSetup := { token := "123:AAAAAAAAAAAAAAAAAAAAAAAA".toList }
    let io := FileAccess.ofBytes []
    let events : List StreamSystem.Event := [.produce (.onUpdate (.myId (some 123))),
      .produce (.onUpdate (.user 123)), .produce (.onAuthorizationState .ready), .report 0,
      .report 0, .report 0, .create { streamId := 1, route := { token := [], fileId := ['x'] } },
      .connect 1 0, .greet 1 io, .process, .produce (.onResult 1 (.file { id := 7, size := 10 })),
      .report 0, .mail 1 io, .process, .produce (.onUpdate (.file { id := 7, size := 10 })),
      .report 0]
    let s := StepRun.run (StreamSystem.step S) (StreamSystem.init S 0) events
    (s.stoppedBy (.mail 1 io)).isSome = true ∧
      StepRun.AllSteps (StreamSystem.step S) StreamSystem.AbortsFresh (StreamSystem.init S 0)
        (events ++ [.mail 1 io]) := by
  intro S io events s
  exact ⟨by decide +kernel, streams_stopped_by_fresh_reports S 0 _ (by decide +kernel)⟩

/-- A viewer leaves and its download is cancelled while the lookup of the next viewer is answered. The
report of the cancellation then ends the new stream, whose download request TDLib has not seen. -/
theorem streams_stopped_by_stale_report :
    let S : ClientSetup := { token := "123:AAAAAAAAAAAAAAAAAAAAAAAA".toList }
    let io := FileAccess.ofBytes []
    let events : List StreamSystem.Event := [.produce (.onUpdate (.myId (some 123))),
      .produce (.onUpdate (.user 123)), .produce (.onAuthorizationState .ready), .report 0,
      .report 0, .report 0, .create { streamId := 1, route := { token := [], fileId := ['x'] } },
      .create { streamId := 2, route := { token := [], fileId := ['x'] } }, .connect 1 0,
      .greet 1 io, .process, .produce (.onResult 1 (.file { id := 7, size := 10 })), .report 0,
      .mail 1 io, .process, .connect 2 0, .greet 2 io, .process,
      .produce (.onResult 3 (.file
        { id := 7, size := 10, progress := { isDownloadingActive := true } })),
      .stream 1 (.onHeadersFlushed (.error ⟨0, "Connection closed"⟩)) io, .removal ⟨1, 7, false⟩ 0,
      .report 0, .process, .produce (.onUpdate (.file { id := 7, size := 10 })), .report 0,
      .mail 2 io]
    let s := StepRun.run (StreamSystem.step S) (StreamSystem.init S 0) events
    s.requests.drop 3 = [.cancelDownloadFile 7, .downloadFile 7] ∧
      ¬ s.AbortsFresh (.mail 2 io) := by
  decide +kernel

end TelegramBotApi
