import TelegramBotApi.StreamTransport
import TelegramBotApi.GuardedQueue
import TelegramBotApi.FileStreamHistory

/-!
# Files that the client has deleted

The last stream of a file that asks for it makes the client delete the local copy. A stream that is
still looked up does not count as a listener, so an answer to its lookup that TDLib made before the
deletion registers the stream with a copy that is gone, and the reports behind that answer follow.
The reports on their way to the client form a guarded queue: answered lookups open the door for the
reports behind them. `DeletesDoNotCross` asks that no deletion crosses a completed copy that would
get through.
-/

namespace TelegramBotApi

open RequestLog (Settled)
open GuardedQueue (Guarded Kinds guarded_concat)

namespace StreamSystem

variable {S : ClientSetup} {s : StreamSystem} {c d : Client} {f : Int}

/-- What the messages of TDLib mean for the streams of `f`. -/
def kinds (c : Client) (f : Int) : Kinds TdMessage where
  opens m := (c.lookupAnswer m.event).any fun answer => answer.2.id = f
  strict m := (c.lookupAnswer m.event).any fun answer =>
    answer.2.id = f && answer.2.progress.isCompleted
  relayed m := (c.reportFile m.event).any fun file => file.id = f && file.progress.isCompleted

def isHeard (c : Client) (f : Int) : Bool := decide (c.fileStreamListeners.get f ≠ [])

instance (streamId fileId : Int) : Decidable (Client.LastToLeave streamId fileId c) :=
  inferInstanceAs (Decidable (_ ∧ _ ∧ _))

def DeletesDoNotCross (s : StreamSystem) : Event → Prop
  | .produce event => ∀ file ∈ event.carried,
      Settled (.deleteFile file.id) s.requests s.processed ∨
        ((kinds s.client file.id).strict ⟨event, s.processed⟩ = false ∧
          ((kinds s.client file.id).relayed ⟨event, s.processed⟩ = true →
            (isHeard s.client file.id || s.reports.any (kinds s.client file.id).opens) = false))
  | .removal r _ => r ∈ s.removals → s.client.isRunning = true → r.removeLocalFile = true →
      ¬ (r.fileId = 0 ∨ s.client.fileStreamListeners.get r.fileId = []) →
      Client.LastToLeave r.streamId r.fileId s.client →
      Guarded (kinds s.client r.fileId) (fun _ => False) false s.reports
  | _ => True

instance DeletesDoNotCross.decidable (s : StreamSystem) : ∀ e, Decidable (DeletesDoNotCross s e)
  | .produce event => inferInstanceAs (Decidable (∀ file ∈ event.carried, _ ∨ (_ ∧ (_ → _))))
  | .removal r _ => inferInstanceAs (Decidable (r ∈ s.removals → _ → _ → _ →
      Client.LastToLeave r.streamId r.fileId s.client → Guarded _ _ _ _))
  | .create _ | .connect _ _ | .refuse _ _ _ | .greet _ _ | .mail _ _ | .stream _ _ _
  | .external _ _ | .report _ | .process => inferInstanceAs (Decidable True)

/-- The file of which an action hands a completed copy to a stream. -/
def completedCopy (event : Client.Event) : ClientAction → Option Int
  | .stream _ (.onFileReady f _ progress) => if progress.isCompleted then some f else none
  | .stream _ (.onFileProgress _ progress) =>
    if progress.isCompleted then event.carried.map (·.id) else none
  | _ => none

/-- The completed copies that the client hands out were reported after every deletion it has asked
for. -/
def ForwardsKept (S : ClientSetup) (s : StreamSystem) (e : Event) : Prop :=
  ∀ delivery ∈ s.delivered e, ∀ a ∈ (s.client.step S delivery.1).out,
    ∀ f ∈ completedCopy delivery.1.event a, ∃ m ∈ delivery.2, Settled (.deleteFile f) s.requests m.stamp

instance (e : Event) : Decidable (ForwardsKept S s e) :=
  inferInstanceAs (Decidable (∀ delivery ∈ s.delivered e, ∀ a ∈ _, ∀ f ∈ _, ∃ m ∈ _, Settled _ _ _))

def DeletesFresh (s : StreamSystem) : Prop :=
  ∀ f, Guarded (kinds s.client f) (fun m => Settled (.deleteFile f) s.requests m.stamp)
    (isHeard s.client f) s.reports

theorem completedCopy_of_plain {event : Client.Event} {a : ClientAction} (h : a.Plain) :
    completedCopy event a = none := by
  cases a with
  | stream id e => cases e <;> first | rfl | exact h.elim
  | _ => rfl

theorem forwardsKept (hs : Consistent s) (hf : DeletesFresh s) (e : Event) : ForwardsKept S s e := by
  rintro ⟨x, origin⟩ hd a ha f hcopy
  have hdel := delivered_delivery (Option.mem_def.1 hd)
  cases ((Client.step_effects hs.wellKept x).emits a ha).2 with
  | plain h =>
      rw [completedCopy_of_plain h] at hcopy
      cases hcopy
  | ready id file h =>
      simp only [completedCopy, Option.mem_def] at hcopy
      split_ifs at hcopy with hc
      cases hcopy
      obtain ⟨m, rest, now, rfl, hm, he, rfl⟩ := hdel.of_carried (Client.carried_of_lookupAnswer h)
      have hg := hf file.id
      rw [hm] at hg
      refine ⟨m, rfl, hg.1 ?_⟩
      simp [kinds, ← he, h, hc]
  | progress id file h hid =>
      have hcar := Client.carried_of_reportOf h
      simp only [completedCopy, Option.mem_def] at hcopy
      split_ifs at hcopy with hc
      rw [hcar] at hcopy
      cases hcopy
      obtain ⟨m, rest, now, rfl, hm, he, rfl⟩ := hdel.of_carried hcar
      have hg := hf file.id
      rw [hm] at hg
      refine ⟨m, rfl, hg.2.1 (by simpa [isHeard] using List.ne_nil_of_mem hid) ?_⟩
      simp [kinds, ← he, Client.reportFile_of_reportOf h, hc]
  | first m id file h hfirst hc => cases hcopy
  | getFile m file h => cases hcopy
  | tooBig m file h hbig => cases hcopy
  | last m id fileId flag he hheard h => cases hcopy

theorem emits_delete {e : Client.Event} {n : Nat}
    (h : Client.EmittedBy S c e (.request n (.deleteFile f))) :
    ∃ id, e = .removeFileStream id f true ∧ ¬ (f = 0 ∨ c.fileStreamListeners.get f = []) ∧
      Client.LastToLeave id f c := by
  generalize hr : TdRequest.deleteFile f = r at h
  cases h with
  | plain h =>
      subst hr
      exact absurd trivial h
  | first m id file h hfirst hc => cases hr
  | getFile m file h => cases hr
  | tooBig m file h hbig => cases hr
  | last m id fileId flag he hheard h =>
      unfold Client.leaveRequest at hr
      split_ifs at hr with hflag
      cases hr
      subst hflag
      exact ⟨id, he, hheard, h⟩

/-- Nobody listens to a file that was just deleted. -/
theorem unheard_of_delete (hrun : c.isRunning = true) {id now : Int}
    (hne : ¬ (f = 0 ∨ c.fileStreamListeners.get f = [])) (hlast : Client.LastToLeave id f c) :
    (c.step S ⟨.removeFileStream id f true, now⟩).fileStreamListeners.get f = [] := by
  rw [Client.step_of_running hrun]
  exact Client.unheard_of_lastToLeave (s := { c with out := [] }) true hne hlast

theorem exists_of_any {α : Type*} {o : Option α} {p : α → Bool} (h : o.any p = true) :
    ∃ a, o = some a ∧ p a = true := by
  cases o with
  | none => cases h
  | some a => exact ⟨a, rfl, h⟩

theorem any_back {α : Type*} {o o' : Option α} {p : α → Bool} (hback : ∀ a, o = some a → o' = some a)
    (h : o.any p = true) : o'.any p = true := by
  obtain ⟨a, ha, hp⟩ := exists_of_any h
  rw [hback a ha]
  exact hp

/-- While messages are on their way they only lose their meaning. -/
theorem kinds_back (hs : Consistent s) {x : Client.Input}
    (hfresh : ∀ i ∈ Client.startsOf x.event, i ∉ s.started) {m : TdMessage} (hm : m ∈ s.reports) :
    ((kinds (s.client.step S x) f).opens m = true → (kinds s.client f).opens m = true) ∧
    ((kinds (s.client.step S x) f).strict m = true → (kinds s.client f).strict m = true) ∧
    ((kinds (s.client.step S x) f).relayed m = true → (kinds s.client f).relayed m = true) := by
  have hfrom := hs.reports m hm
  have hlook : ∀ answer, Client.lookupAnswer (s.client.step S x) m.event = some answer →
      Client.lookupAnswer s.client m.event = some answer :=
    fun answer h => lookupAnswer_back hs hfresh hfrom h
  have hreport : ∀ file, Client.reportFile (s.client.step S x) m.event = some file →
      Client.reportFile s.client m.event = some file :=
    fun file h => reportFile_back (Client.step_effects hs.wellKept x).handlers hfrom h
  exact ⟨any_back hlook, any_back hlook, any_back hreport⟩

theorem isHeard_back (hs : Consistent s) {x : Client.Input}
    (h : isHeard (s.client.step S x) f = true) :
    isHeard s.client f = true ∨ ∃ answer, s.client.lookupAnswer x.event = some answer ∧
      answer.2.id = f := by
  obtain ⟨id, hid⟩ := List.exists_mem_of_ne_nil _ (by simpa [isHeard] using h)
  rcases (Client.step_effects hs.wellKept x).listeners f id hid with hid | ⟨-, file, hans, he⟩
  · exact Or.inl (by simpa [isHeard] using List.ne_nil_of_mem hid)
  · exact Or.inr ⟨(id, file), hans, he⟩

theorem deletesFresh_environment (hf : DeletesFresh s) {e : Event} (hcross : DeletesDoNotCross s e)
    (hd : s.delivered e = none) : DeletesFresh (s.environment e) := by
  have ho := environment_outside s e
  intro f
  rw [ho.client, ho.requests]
  rcases ho.reports with he | ⟨now, rfl, he⟩ | ⟨event, rfl, hfrom, he⟩
  · rw [he]
    exact hf f
  · cases hr : s.reports with
    | nil =>
        rw [he, hr]
        trivial
    | cons m rest =>
        simp only [delivered, hr] at hd
        cases hd
  · rw [he, guarded_concat]
    refine ⟨hf f, ?_⟩
    by_cases hset : Settled (.deleteFile f) s.requests s.processed
    · exact ⟨fun _ => hset, fun _ _ => hset⟩
    · have hfile : ∀ file, event.carried = some file → file.id = f →
          (kinds s.client f).strict ⟨event, s.processed⟩ = false ∧
          ((kinds s.client f).relayed ⟨event, s.processed⟩ = true →
            (isHeard s.client f || s.reports.any (kinds s.client f).opens) = false) := by
        rintro file hc rfl
        exact (hcross file hc).resolve_left hset
      refine ⟨fun h => ?_, fun hopen h => ?_⟩
      · obtain ⟨answer, ha, hp⟩ := exists_of_any h
        have hid : answer.2.id = f := by
          simp only [Bool.and_eq_true, decide_eq_true_eq] at hp
          exact hp.1
        have := (hfile answer.2 (Client.carried_of_lookupAnswer ha) hid).1
        rw [h] at this
        cases this
      · obtain ⟨file, ha, hp⟩ := exists_of_any h
        have hid : file.id = f := by
          simp only [Bool.and_eq_true, decide_eq_true_eq] at hp
          exact hp.1
        have := (hfile file (Client.carried_of_reportFile ha) hid).2 h
        rw [hopen] at this
        cases this

section Delivered

variable {e : Event} {x : Client.Input} {origin : Option TdMessage}

/-- The step that deletes a file. -/
theorem deletesFresh_removal (hs : Consistent s) (hd : s.delivered e = some (x, origin))
    (hcross : DeletesDoNotCross s e) {ok : TdMessage → Prop}
    (hreq : TdRequest.deleteFile f ∈ (s.client.step S x).out.filterMap requestOf) :
    Guarded (kinds (s.client.step S x) f) ok (isHeard (s.client.step S x) f)
      (s.environment e).reports := by
  have hdel := delivered_delivery hd
  have hfresh := hdel.fresh hs
  obtain ⟨n, hn⟩ := mem_requests.1 hreq
  obtain ⟨hrun, hemit⟩ := (Client.step_effects hs.wellKept x).emits _ hn
  obtain ⟨id, hx, hne, hlast⟩ := emits_delete hemit
  obtain ⟨event, now⟩ := x
  dsimp only at hx
  subst hx
  have hunheard : isHeard (s.client.step S ⟨.removeFileStream id f true, now⟩) f = false := by
    simp [isHeard, unheard_of_delete hrun hne hlast]
  have hcases : ∃ t, e = .removal ⟨id, f, true⟩ t ∧ ⟨id, f, true⟩ ∈ s.removals := by
    generalize hev : Client.Event.removeFileStream id f true = event at hdel
    cases hdel with
    | connect => cases hev
    | removal r t hr =>
        obtain ⟨rId, rFile, rFlag⟩ := r
        cases hev
        exact ⟨t, rfl, hr⟩
    | external event t hx =>
        subst hev
        cases hx
    | report m rest t hm =>
        obtain ⟨event, stamp⟩ := m
        have hfrom := hs.reports _ (hm ▸ List.mem_cons_self)
        subst hev
        cases hfrom
  obtain ⟨t, rfl, hr⟩ := hcases
  have hreports : (s.environment (.removal ⟨id, f, true⟩ t)).reports = s.reports := by
    simp only [environment, if_pos hr]
  rw [hunheard, hreports]
  exact (hcross hr hrun rfl hne hlast).mono (fun m hm => kinds_back hs hfresh hm)
    (fun _ _ h => h.elim) nofun

/-- Every other step of the client. -/
theorem deletesFresh_other (hs : Consistent s) (hf : DeletesFresh s)
    (hd : s.delivered e = some (x, origin)) :
    Guarded (kinds (s.client.step S x) f) (fun m => Settled (.deleteFile f) s.requests m.stamp)
      (isHeard (s.client.step S x) f) (s.environment e).reports := by
  have ho := environment_outside s e
  have hdel := delivered_delivery hd
  have hfresh := hdel.fresh hs
  have hback := fun m (hm : m ∈ s.reports) => kinds_back (S := S) (f := f) hs hfresh hm
  have hquiet : (∀ now, e ≠ .report now) → (s.environment e).reports = s.reports →
      Guarded (kinds (s.client.step S x) f) (fun m => Settled (.deleteFile f) s.requests m.stamp)
        (isHeard (s.client.step S x) f) (s.environment e).reports := by
    intro he hreports
    rw [hreports]
    refine (hf f).mono hback (fun _ _ h => h) fun h => (isHeard_back hs h).resolve_right ?_
    rintro ⟨answer, ha, -⟩
    obtain ⟨m, rest, now, hnow, -⟩ := hdel.of_carried (Client.carried_of_lookupAnswer ha)
    exact he now hnow
  rcases ho.reports with hreports | ⟨now, rfl, hreports⟩ | ⟨event, rfl, -⟩
  · by_cases he : ∃ now, e = .report now
    · obtain ⟨now, rfl⟩ := he
      have hnil : s.reports.tail = s.reports := hreports
      generalize hev : x.event = event at hdel
      cases hdel with
      | report m rest now hm =>
          rw [hm, List.tail_cons] at hnil
          exact absurd hnil.symm (List.cons_ne_self m rest)
    · exact hquiet (fun now h => he ⟨now, h⟩) hreports
  · generalize hev : x.event = event at hdel
    cases hdel with
    | report m rest now hm =>
        have hg := hf f
        rw [hm] at hg
        rw [hreports, hm, List.tail_cons]
        refine hg.2.2.mono (fun m' hm' => hback m' (hm ▸ List.mem_cons_of_mem _ hm'))
          (fun _ _ h => h) fun h => ?_
        rw [Bool.or_eq_true]
        refine (isHeard_back hs h).imp_right ?_
        rintro ⟨answer, ha, hid⟩
        rw [hev] at ha
        simp [kinds, ha, hid]
  · cases hdel

theorem deletesFresh_delivered (hs : Consistent s) (hf : DeletesFresh s)
    (hd : s.delivered e = some (x, origin)) (hcross : DeletesDoNotCross s e) :
    DeletesFresh ((s.environment e).clientStep S x origin) := by
  have ho := environment_outside s e
  intro f
  change Guarded (kinds ((s.environment e).client.step S x) f)
    (fun m => Settled _ ((s.environment e).requests ++
      ((s.environment e).client.step S x).out.filterMap requestOf) m.stamp)
    (isHeard ((s.environment e).client.step S x) f) (s.environment e).reports
  rw [ho.client, ho.requests]
  by_cases hreq : TdRequest.deleteFile f ∈ (s.client.step S x).out.filterMap requestOf
  · exact deletesFresh_removal hs hd hcross hreq
  · exact (deletesFresh_other hs hf hd).mono (fun _ _ => ⟨fun h => h, fun h => h, fun h => h⟩)
      (fun m _ h => h.append hreq) fun h => h

end Delivered

theorem deletesFresh_step (hs : Consistent s) (hf : DeletesFresh s) {e : Event}
    (hcross : DeletesDoNotCross s e) : DeletesFresh (s.step S e) := by
  unfold step
  cases hd : s.delivered e with
  | none => exact deletesFresh_environment hf hcross hd
  | some d => exact deletesFresh_delivered hs hf hd hcross

end StreamSystem

/-- In every run in which no deletion crosses a completed copy on its way to a stream, the client
hands out only completed copies that TDLib reported after the last deletion of the file. -/
theorem streams_get_kept_copies (S : ClientSetup) (now : Int) (events : List StreamSystem.Event)
    (h : StepRun.AllSteps (StreamSystem.step S) StreamSystem.DeletesDoNotCross
      (StreamSystem.init S now) events) :
    StepRun.AllSteps (StreamSystem.step S) (StreamSystem.ForwardsKept S) (StreamSystem.init S now)
      events :=
  StepRun.AllSteps.imp (I := fun s => s.Consistent ∧ s.DeletesFresh)
    (fun _ e hs hok =>
      ⟨StreamSystem.consistent_step hs.1 e, StreamSystem.deletesFresh_step hs.1 hs.2 hok⟩)
    (fun _ e hs _ => StreamSystem.forwardsKept hs.1 hs.2 e)
    ⟨StreamSystem.consistent_init S now, fun _ => trivial⟩ h

/-- A viewer without cache ends and the file is deleted; the next viewer is looked up afterwards and
is told of the new copy. -/
theorem streams_get_kept_copy_again :
    let S : ClientSetup := { token := "123:AAAAAAAAAAAAAAAAAAAAAAAA".toList }
    let io := FileAccess.ofBytes [1, 2]
    let copy : TdFile := { id := 7, size := 2, progress :=
      { localPath := ['f'], downloadedPrefixSize := 2, isCompleted := true } }
    let setup : Int → FileStreamSetup := fun streamId =>
      { streamId := streamId, route := { token := [], fileId := ['x'], noCache := true } }
    let events : List StreamSystem.Event := [.produce (.onUpdate (.myId (some 123))),
      .produce (.onUpdate (.user 123)), .produce (.onAuthorizationState .ready), .report 0,
      .report 0, .report 0, .create (setup 1), .create (setup 2), .connect 1 0, .greet 1 io, .process,
      .produce (.onResult 1 (.file copy)), .report 0, .mail 1 io, .process,
      .stream 1 (.onChunkFlushed (.ok ())) io, .removal ⟨1, 7, true⟩ 0, .process, .connect 2 0,
      .greet 2 io, .process, .produce (.onResult 4 (.file copy)), .report 0]
    let s := StepRun.run (StreamSystem.step S) (StreamSystem.init S 0) events
    s.requests.drop 2 = [.deleteFile 7, .getRemoteFile ['x'], .downloadFile 7] ∧
      s.client.fileStreamListeners.get 7 = [2] ∧
      StepRun.AllSteps (StreamSystem.step S) (StreamSystem.ForwardsKept S) (StreamSystem.init S 0)
        events := by
  intro S io copy setup events s
  exact ⟨by decide +kernel, by decide +kernel, streams_get_kept_copies S 0 events (by decide +kernel)⟩

/-- The lookup of the second viewer is answered while the first viewer ends and deletes the file. -/
theorem streams_get_deleted_copy :
    let S : ClientSetup := { token := "123:AAAAAAAAAAAAAAAAAAAAAAAA".toList }
    let io := FileAccess.ofBytes [1, 2]
    let copy : TdFile := { id := 7, size := 2, progress :=
      { localPath := ['f'], downloadedPrefixSize := 2, isCompleted := true } }
    let setup : Int → FileStreamSetup := fun streamId =>
      { streamId := streamId, route := { token := [], fileId := ['x'], noCache := true } }
    let events : List StreamSystem.Event := [.produce (.onUpdate (.myId (some 123))),
      .produce (.onUpdate (.user 123)), .produce (.onAuthorizationState .ready), .report 0,
      .report 0, .report 0, .create (setup 1), .create (setup 2), .connect 1 0, .greet 1 io, .process,
      .produce (.onResult 1 (.file copy)), .report 0, .mail 1 io, .process, .connect 2 0,
      .greet 2 io, .process, .produce (.onResult 3 (.file copy)),
      .stream 1 (.onChunkFlushed (.ok ())) io, .removal ⟨1, 7, true⟩ 0]
    let s := StepRun.run (StreamSystem.step S) (StreamSystem.init S 0) events
    s.requests.drop 3 = [.deleteFile 7] ∧ s.reports.map (·.stamp) = [3] ∧
      ¬ s.ForwardsKept S (.report 0) := by
  decide +kernel

end TelegramBotApi
