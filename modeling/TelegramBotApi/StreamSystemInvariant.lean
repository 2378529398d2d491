import TelegramBotApi.StreamSystem

/-!
# What holds in every state of the system

`Informed` ties what a stream knows, and what is on its way to and from it, to the messages that the
client and its manager sent. `Consistent` adds the invariants of the client and of the two queues of
TDLib. Every step of the system keeps it.
-/

namespace TelegramBotApi

namespace StreamActor

variable {started : List Int} {readied : List (Int × Int)} {id : Int} {a : StreamActor}

/-- A stream knows its client only after `set_client` and its file only from `on_file_ready`. -/
structure Informed (started : List Int) (readied : List (Int × Int)) (id : Int) (a : StreamActor) :
    Prop where
  streamId : a.setup.streamId = id
  greeting : a.greeting = true → id ∈ started
  client : a.state.client = true → id ∈ started
  fileId : a.state.fileId = 0 ∨ (id, a.state.fileId) ∈ readied
  inbox : ∀ m ∈ a.inbox, m.event ≠ .setClient ∧
    ∀ f size progress, m.event = .onFileReady f size progress → (id, f) ∈ readied

namespace Informed

theorem mono (h : a.Informed started readied id) {moreStarted : List Int}
    {moreReadied : List (Int × Int)} :
    a.Informed (started ++ moreStarted) (readied ++ moreReadied) id where
  streamId := h.streamId
  greeting hg := List.mem_append_left _ (h.greeting hg)
  client hc := List.mem_append_left _ (h.client hc)
  fileId := h.fileId.imp (fun he => he) (List.mem_append_left _)
  inbox m hm := ⟨(h.inbox m hm).1, fun f size progress he =>
    List.mem_append_left _ ((h.inbox m hm).2 f size progress he)⟩

theorem receive (h : a.Informed started readied id) {mails : List StreamMail}
    (hm : ∀ m ∈ mails, m.event ≠ .setClient ∧
      ∀ f size progress, m.event = .onFileReady f size progress → (id, f) ∈ readied) :
    (a.receive mails).Informed started readied id := by
  unfold StreamActor.receive
  split_ifs
  · exact h
  · exact { h with inbox := fun m hmem => (List.mem_append.1 hmem).elim (h.inbox m) (hm m) }

theorem step (h : a.Informed started readied id) {x : StreamInput}
    (hclient : x.event = .setClient → id ∈ started)
    (hready : ∀ f size progress, x.event = .onFileReady f size progress → (id, f) ∈ readied) :
    (a.step x).Informed started readied id := by
  have hr := FileStreamConnection.step_registration (S := a.setup) a.state x
  refine { h with client := fun hc => ?_, fileId := ?_ }
  · rcases hr.client hc with hc | he
    · exact h.client hc
    · exact hclient he
  · rcases hr.fileId with he | ⟨size, progress, he⟩
    · exact h.fileId.imp (he.trans) fun hm => by
        rw [StreamActor.step, he]
        exact hm
    · exact Or.inr (hready _ size progress he)

/-- A stream removes itself as a started stream and under the file it was told. -/
theorem removal (h : a.Informed started readied id) {x : StreamInput}
    (ht : (a.step x).Informed started readied id) {r : Removal}
    (hr : r ∈ (a.step x).state.out.filterMap StreamSystem.removalOf) :
    r.streamId = id ∧ r.streamId ∈ started ∧ (r.fileId = 0 ∨ (r.streamId, r.fileId) ∈ readied) := by
  obtain ⟨action, hmem, he⟩ := List.mem_filterMap.1 hr
  unfold StreamSystem.removalOf at he
  split at he
  · obtain rfl := Option.some.inj he
    obtain ⟨hid, hf, hc⟩ := (FileStreamConnection.step_registration (S := a.setup) a.state x).removal
      _ _ _ hmem
    have hid := hid.trans h.streamId
    subst hid
    refine ⟨rfl, ht.client hc, ?_⟩
    rw [hf]
    exact ht.fileId
  · cases he

end Informed

theorem informed_startUp (setup : FileStreamSetup) :
    Informed started readied setup.streamId
      { setup := setup, state := FileStreamConnection.startUp setup } where
  streamId := rfl
  greeting h := Bool.noConfusion h
  client h := by
    have hc : (FileStreamConnection.startUp setup).client = false := rfl
    rw [hc] at h
    cases h
  fileId := Or.inl rfl
  inbox m hm := absurd hm List.not_mem_nil

end StreamActor

namespace StreamSystem

variable {S : ClientSetup} {s t : StreamSystem} {started : List Int} {readied : List (Int × Int)}

structure Informed (started : List Int) (readied : List (Int × Int)) (s : StreamSystem) : Prop where
  streams : ∀ id a, s.streams id = some a → a.Informed started readied id
  removals : ∀ r ∈ s.removals, r.streamId ∈ started ∧
    (r.fileId = 0 ∨ (r.streamId, r.fileId) ∈ readied)

namespace Informed

theorem mono (h : Informed started readied s) (moreStarted : List Int)
    (moreReadied : List (Int × Int)) :
    Informed (started ++ moreStarted) (readied ++ moreReadied) s where
  streams id a ha := (h.streams id a ha).mono
  removals r hr := ⟨List.mem_append_left _ (h.removals r hr).1,
    (h.removals r hr).2.imp id (List.mem_append_left _)⟩

theorem modify (h : Informed started readied s) {id : Int} {f : StreamActor → StreamActor}
    (hf : ∀ a, s.streams id = some a → (f a).Informed started readied id) :
    Informed started readied (s.modify id f) := by
  refine ⟨fun j a ha => ?_, h.removals⟩
  change Function.update s.streams id ((s.streams id).map f) j = some a at ha
  by_cases hj : j = id
  · subst hj
    rw [Function.update_self] at ha
    obtain ⟨b, hb, rfl⟩ := Option.map_eq_some_iff.1 ha
    exact hf b hb
  · rw [Function.update_of_ne hj] at ha
    exact h.streams j a ha

theorem streamStep (h : Informed started readied s) {id : Int} {x : StreamInput}
    (hclient : x.event = .setClient → id ∈ started)
    (hready : ∀ f size progress, x.event = .onFileReady f size progress → (id, f) ∈ readied) :
    Informed started readied (s.streamStep id x) := by
  unfold StreamSystem.streamStep
  cases ha : s.streams id with
  | none => exact h
  | some a =>
      have hi := (h.streams id a ha).step hclient hready
      refine ⟨fun j b hb => ?_, fun r hr => ?_⟩
      · change Function.update s.streams id (some (a.step x)) j = some b at hb
        by_cases hj : j = id
        · subst hj
          rw [Function.update_self] at hb
          obtain rfl := Option.some.inj hb
          exact hi
        · rw [Function.update_of_ne hj] at hb
          exact h.streams j b hb
      · rcases List.mem_append.1 hr with hr | hr
        · exact h.removals r hr
        · exact ((h.streams id a ha).removal hi hr).2

theorem takeMail (h : Informed started readied s) (id : Int) (io : FileAccess) :
    Informed started readied (s.takeMail id io) := by
  unfold StreamSystem.takeMail
  cases ha : s.streams id with
  | none => exact h
  | some a =>
      dsimp only
      cases hbox : a.inbox with
      | nil => exact h
      | cons mail rest =>
          have hi := h.streams id a ha
          have hmem : mail ∈ a.inbox := hbox ▸ List.mem_cons_self
          refine Informed.streamStep (x := ⟨mail.event, io⟩) (h.modify fun b hb => ?_)
            (fun he => absurd he (hi.inbox mail hmem).1) (hi.inbox mail hmem).2
          obtain rfl := Option.some.inj (ha.symm.trans hb)
          exact { hi with
            inbox := fun m hm => hi.inbox m (hbox ▸ List.mem_cons_of_mem _ hm) }

theorem takeGreeting (h : Informed started readied s) (id : Int) (io : FileAccess) :
    Informed started readied (s.takeGreeting id io) := by
  unfold StreamSystem.takeGreeting
  cases ha : s.streams id with
  | none => exact h
  | some a =>
      dsimp only
      split_ifs with hg
      · refine Informed.streamStep (h.modify fun b hb => ?_)
          (fun _ => (h.streams id a ha).greeting hg) fun _ _ _ he => nomatch he
        exact { h.streams id b hb with greeting := fun h => nomatch h }
      · exact h

/-- Events outside the client keep the streams informed; `connect` needs its stream to count as
started. -/
theorem environment (h : Informed started readied s) {e : Event}
    (he : ∀ id now a, e = .connect id now → s.streams id = some a → id ∈ started) :
    Informed started readied (s.environment e) := by
  cases e with
  | create setup =>
      dsimp only [StreamSystem.environment]
      cases hs : s.streams setup.streamId with
      | some a => exact h
      | none =>
          refine ⟨fun j a ha => ?_, h.removals⟩
          change Function.update s.streams setup.streamId (some _) j = some a at ha
          by_cases hj : j = setup.streamId
          · subst hj
            rw [Function.update_self] at ha
            obtain rfl := Option.some.inj ha
            exact StreamActor.informed_startUp setup
          · rw [Function.update_of_ne hj] at ha
            exact h.streams j a ha
  | connect id now =>
      dsimp only [StreamSystem.environment]
      split_ifs
      · exact h
      · exact h.modify fun a ha => { h.streams id a ha with greeting := fun _ => he id now a rfl ha }
  | refuse id error io =>
      dsimp only [StreamSystem.environment]
      split_ifs
      · exact h
      · exact h.streamStep nofun nofun
  | greet id io => exact h.takeGreeting id io
  | mail id io => exact h.takeMail id io
  | stream id event io =>
      dsimp only [StreamSystem.environment]
      split_ifs with hl
      · refine h.streamStep (fun he => ?_) fun f size progress he => ?_
        · rw [show event = .setClient from he] at hl
          cases hl
        · rw [show event = .onFileReady f size progress from he] at hl
          cases hl
      · exact h
  | removal r now =>
      dsimp only [StreamSystem.environment]
      split_ifs
      · exact ⟨h.streams, fun q hq => h.removals q (List.mem_of_mem_erase hq)⟩
      · exact ⟨h.streams, fun q hq => h.removals q (List.mem_of_mem_erase hq)⟩
      · exact h
  | external event now => exact h
  | report now => exact ⟨h.streams, h.removals⟩
  | process => exact ⟨h.streams, h.removals⟩
  | produce event =>
      dsimp only [StreamSystem.environment]
      split_ifs
      · exact ⟨h.streams, h.removals⟩
      · exact h

end Informed

/-- What a client sends to a stream. -/
theorem mem_mails {actions : List ClientAction} {origin : Option TdMessage} {id : Int}
    {m : StreamMail} :
    m ∈ actions.filterMap (mailOf origin id) ↔
      .stream id m.event ∈ actions ∧ m.origin = origin := by
  rw [List.mem_filterMap]
  constructor
  · rintro ⟨a, ha, he⟩
    unfold mailOf at he
    split at he
    · split_ifs at he with hid
      obtain rfl := Option.some.inj he
      subst hid
      exact ⟨ha, rfl⟩
    · cases he
  · rintro ⟨ha, rfl⟩
    exact ⟨_, ha, by simp [mailOf]⟩

theorem mem_requests {actions : List ClientAction} {r : TdRequest} :
    r ∈ actions.filterMap requestOf ↔ ∃ n, .request n r ∈ actions := by
  rw [List.mem_filterMap]
  constructor
  · rintro ⟨a, ha, he⟩
    unfold requestOf at he
    split at he
    · obtain rfl := Option.some.inj he
      exact ⟨_, ha⟩
    · cases he
  · rintro ⟨n, hn⟩
    exact ⟨_, hn, rfl⟩

theorem emits_not_setClient {c : Client} {e : Client.Event} {id : Int}
    (h : Client.EmittedBy S c e (.stream id .setClient)) : False := by
  cases h with
  | plain h => exact h

theorem Informed.clientStep {x : Client.Input} {origin : Option TdMessage}
    (h : Informed started readied s) (hk : Client.WellKept s.client) :
    Informed started (readied ++ Client.readiesOf (s.client.step S x).out)
      (s.clientStep S x origin) := by
  have hm := h.mono [] (Client.readiesOf (s.client.step S x).out)
  rw [List.append_nil] at hm
  refine ⟨fun id a ha => ?_, hm.removals⟩
  obtain ⟨b, hb, rfl⟩ := Option.map_eq_some_iff.1 ha
  refine (hm.streams id b hb).receive fun m hmem => ?_
  obtain ⟨hmem, -⟩ := mem_mails.1 hmem
  refine ⟨fun he => ?_, fun f size progress he => ?_⟩
  · exact emits_not_setClient (he ▸ ((Client.step_effects hk x).emits _ hmem).2)
  · refine List.mem_append_right _ (List.mem_filterMap.2 ⟨_, hmem, ?_⟩)
    rw [he]
    rfl

structure Consistent (s : StreamSystem) : Prop where
  wellKept : Client.WellKept s.client
  accounted : Client.Accounted s.started s.readied s.client.pendingFileStreams s.client
  informed : Informed s.started s.readied s
  removed : ∀ id ∈ s.removed, id ∈ s.started
  reports : ∀ m ∈ s.reports, isFromTdlib s.client m.event = true
  stamps : ∀ m ∈ s.reports, m.stamp ≤ s.processed
  processed : s.processed ≤ s.requests.length

inductive Delivery (s : StreamSystem) : Event → Client.Event → Option TdMessage → Prop
  | connect (id now : Int) (a : StreamActor) (ha : s.streams id = some a) (hid : id ∉ s.started) :
      Delivery s (.connect id now)
        (.startFileStream ⟨id, a.setup.route.fileId, a.setup.route.expectedSize⟩) none
  | removal (r : Removal) (now : Int) (hr : r ∈ s.removals) :
      Delivery s (.removal r now) (.removeFileStream r.streamId r.fileId r.removeLocalFile) none
  | external (event : Client.Event) (now : Int) (hx : isExternal event = true) :
      Delivery s (.external event now) event none
  | report (m : TdMessage) (rest : List TdMessage) (now : Int) (hm : s.reports = m :: rest) :
      Delivery s (.report now) m.event (some m)

theorem delivered_delivery {e : Event} {x : Client.Input} {origin : Option TdMessage}
    (h : s.delivered e = some (x, origin)) : Delivery s e x.event origin := by
  unfold delivered at h
  cases e with
  | connect id now =>
      dsimp only at h
      cases ha : s.streams id with
      | none =>
          rw [ha] at h
          cases h
      | some a =>
          rw [ha] at h
          dsimp only at h
          split_ifs at h with hs
          cases h
          exact .connect id now a ha hs
  | removal r now =>
      dsimp only at h
      split_ifs at h with hr
      cases h
      exact .removal r now hr
  | external event now =>
      dsimp only at h
      split_ifs at h with hx
      cases h
      exact .external event now hx
  | report now =>
      dsimp only at h
      cases hm : s.reports with
      | nil =>
          rw [hm] at h
          cases h
      | cons m rest =>
          rw [hm] at h
          cases h
          exact .report m rest now hm
  | _ => cases h

theorem Delivery.fresh {e : Event} {event : Client.Event} {origin : Option TdMessage}
    (h : Delivery s e event origin) (hs : Consistent s) :
    ∀ id ∈ Client.startsOf event, id ∉ s.started := by
  intro id hid
  cases h with
  | connect j now a ha hj =>
      obtain rfl := List.mem_singleton.1 hid
      exact hj
  | removal r now hr => cases hid
  | external event now hx =>
      cases event with
      | startFileStream p => cases hx
      | _ => cases hid
  | report m rest now hm =>
      have hfrom := hs.reports m (hm ▸ List.mem_cons_self)
      cases he : m.event with
      | startFileStream p =>
          rw [he] at hfrom
          cases hfrom
      | _ =>
          rw [he] at hid
          cases hid

/-- What an event does outside the client, the streams apart. -/
structure Outside (s : StreamSystem) (e : Event) (t : StreamSystem) : Prop where
  client : t.client = s.client
  requests : t.requests = s.requests
  started : t.started = s.started
  readied : t.readied = s.readied
  removed : ∀ id ∈ t.removed, id ∈ s.removed ∨
    ∃ r now, e = .removal r now ∧ r ∈ s.removals ∧ r.streamId = id ∧ s.client.isRunning = true
  reports : t.reports = s.reports ∨ (∃ now, e = .report now ∧ t.reports = s.reports.tail) ∨
    ∃ event, e = .produce event ∧ isFromTdlib s.client event = true ∧
      t.reports = s.reports ++ [⟨event, s.processed⟩]
  processed : s.processed ≤ s.requests.length →
    s.processed ≤ t.processed ∧ t.processed ≤ t.requests.length

theorem Outside.refl (s : StreamSystem) (e : Event) : Outside s e s :=
  ⟨rfl, rfl, rfl, rfl, fun _ => Or.inl, Or.inl rfl, fun h => ⟨le_rfl, h⟩⟩

theorem Outside.mem_reports {e : Event} (h : Outside s e t) (m : TdMessage) (hm : m ∈ t.reports) :
    m ∈ s.reports ∨
      ∃ event, e = .produce event ∧ isFromTdlib s.client event = true ∧ m = ⟨event, s.processed⟩ := by
  rcases h.reports with he | ⟨now, -, he⟩ | ⟨event, he, hf, ht⟩
  · exact Or.inl (he ▸ hm)
  · rw [he] at hm
    exact Or.inl (List.mem_of_mem_tail hm)
  · rw [ht] at hm
    rcases List.mem_append.1 hm with hm | hm
    · exact Or.inl hm
    · exact Or.inr ⟨event, he, hf, List.mem_singleton.1 hm⟩

theorem outside_modify (s : StreamSystem) (e : Event) (id : Int) (f : StreamActor → StreamActor) :
    Outside s e (s.modify id f) :=
  ⟨rfl, rfl, rfl, rfl, fun _ => Or.inl, Or.inl rfl, fun h => ⟨le_rfl, h⟩⟩

theorem outside_streamStep (s : StreamSystem) (e : Event) (id : Int) (x : StreamInput) :
    Outside s e (s.streamStep id x) := by
  unfold streamStep
  cases s.streams id with
  | none => exact Outside.refl s e
  | some a => exact ⟨rfl, rfl, rfl, rfl, fun _ => Or.inl, Or.inl rfl, fun h => ⟨le_rfl, h⟩⟩

theorem outside_modify_streamStep (s : StreamSystem) (e : Event) (id : Int)
    (f : StreamActor → StreamActor) (x : StreamInput) :
    Outside s e ((s.modify id f).streamStep id x) := by
  unfold streamStep
  cases (s.modify id f).streams id with
  | none => exact outside_modify s e id f
  | some a => exact ⟨rfl, rfl, rfl, rfl, fun _ => Or.inl, Or.inl rfl, fun h => ⟨le_rfl, h⟩⟩

theorem environment_outside (s : StreamSystem) (e : Event) : Outside s e (s.environment e) := by
  cases e with
  | create setup =>
      dsimp only [environment]
      cases s.streams setup.streamId with
      | none => exact ⟨rfl, rfl, rfl, rfl, fun _ => Or.inl, Or.inl rfl, fun h => ⟨le_rfl, h⟩⟩
      | some a => exact Outside.refl s _
  | connect id now =>
      dsimp only [environment]
      split_ifs
      · exact Outside.refl s _
      · exact outside_modify s _ id _
  | refuse id error io =>
      dsimp only [environment]
      split_ifs
      · exact Outside.refl s _
      · exact outside_streamStep s _ id _
  | greet id io =>
      dsimp only [environment, takeGreeting]
      cases s.streams id with
      | none => exact Outside.refl s _
      | some a =>
          dsimp only
          split_ifs
          · exact outside_modify_streamStep s _ id _ _
          · exact Outside.refl s _
  | mail id io =>
      dsimp only [environment, takeMail]
      cases s.streams id with
      | none => exact Outside.refl s _
      | some a =>
          dsimp only
          cases a.inbox with
          | nil => exact Outside.refl s _
          | cons mail rest => exact outside_modify_streamStep s _ id _ _
  | stream id event io =>
      dsimp only [environment]
      split_ifs
      · exact outside_streamStep s _ id _
      · exact Outside.refl s _
  | removal r now =>
      dsimp only [environment]
      split_ifs with hr hrun
      · refine { Outside.refl s _ with removed := fun id hid => ?_ }
        rcases List.mem_append.1 hid with hid | hid
        · exact Or.inl hid
        · exact Or.inr ⟨r, now, rfl, hr, (List.mem_singleton.1 hid).symm, hrun⟩
      · exact { Outside.refl s _ with }
      · exact Outside.refl s _
  | external event now => exact Outside.refl s _
  | report now =>
      exact { Outside.refl s _ with reports := Or.inr (Or.inl ⟨now, rfl, rfl⟩) }
  | process =>
      exact { Outside.refl s _ with
        processed := fun h => ⟨le_min (Nat.le_succ _) h, min_le_right _ _⟩ }
  | produce event =>
      dsimp only [environment]
      split_ifs with hf
      · exact { Outside.refl s _ with reports := Or.inr (Or.inr ⟨event, rfl, hf, rfl⟩) }
      · exact Outside.refl s _

theorem isFromTdlib_mono {c d : Client} (h : c.nextHandlerId ≤ d.nextHandlerId) {e : Client.Event}
    (he : isFromTdlib c e = true) : isFromTdlib d e = true := by
  cases e with
  | onResult n r =>
      have hn : n < c.nextHandlerId := by simpa [isFromTdlib] using he
      simpa [isFromTdlib] using hn.trans_le h
  | _ => exact he

theorem environment_reports (hs : Consistent s) {e : Event} :
    ∀ m ∈ (s.environment e).reports, isFromTdlib s.client m.event = true ∧
      m.stamp ≤ (s.environment e).processed := by
  have ho := environment_outside s e
  have hp := ho.processed hs.processed
  intro m hm
  rcases ho.mem_reports m hm with hm | ⟨event, -, hf, rfl⟩
  · exact ⟨hs.reports m hm, (hs.stamps m hm).trans hp.1⟩
  · exact ⟨hf, hp.1⟩

theorem environment_removed (hs : Consistent s) {e : Event} :
    ∀ id ∈ (s.environment e).removed, id ∈ s.started := by
  intro id hid
  rcases (environment_outside s e).removed id hid with hid | ⟨r, now, -, hr, rfl, -⟩
  · exact hs.removed id hid
  · exact (hs.informed.removals r hr).1

/-- A stream that is connected is started at the client, now or before. -/
theorem connect_started {id now : Int} {a : StreamActor} (ha : s.streams id = some a) :
    id ∈ s.started ∨ ∃ x, s.delivered (.connect id now) = some (x, none) ∧
      Client.startsOf x.event = [id] := by
  by_cases hid : id ∈ s.started
  · exact Or.inl hid
  · right
    simp only [delivered, ha, if_neg hid]
    exact ⟨_, rfl, rfl⟩

theorem consistent_idle (hs : Consistent s) {e : Event} (hd : s.delivered e = none) :
    Consistent (s.environment e) := by
  have ho := environment_outside s e
  have hi : Informed s.started s.readied (s.environment e) := by
    refine hs.informed.environment fun id now a he ha => ?_
    subst he
    rcases connect_started ha with hid | ⟨x, hx, -⟩
    · exact hid
    · rw [hd] at hx
      cases hx
  constructor
  · rw [ho.client]
    exact hs.wellKept
  · rw [ho.client, ho.started, ho.readied]
    exact hs.accounted
  · rw [ho.started, ho.readied]
    exact hi
  · rw [ho.started]
    exact environment_removed hs
  · rw [ho.client]
    exact fun m hm => (environment_reports hs m hm).1
  · exact fun m hm => (environment_reports hs m hm).2
  · exact (ho.processed hs.processed).2

theorem consistent_delivered (hs : Consistent s) {e : Event} {x : Client.Input}
    {origin : Option TdMessage} (hd : s.delivered e = some (x, origin)) :
    Consistent ((s.environment e).clientStep S x origin) := by
  have ho := environment_outside s e
  have hk : Client.WellKept (s.environment e).client := ho.client ▸ hs.wellKept
  have hi : Informed (s.started ++ Client.startsOf x.event) s.readied (s.environment e) := by
    have hm := hs.informed.mono (Client.startsOf x.event) []
    rw [List.append_nil] at hm
    refine hm.environment fun id now a he ha => ?_
    subst he
    rcases connect_started ha with hid | ⟨y, hy, hstart⟩
    · exact List.mem_append_left _ hid
    · cases hd.symm.trans hy
      rw [hstart]
      exact List.mem_append_right _ (List.mem_singleton.2 rfl)
  have hstep := Client.step_effects (S := S) hk x
  constructor
  · exact Client.wellKept_step hk x
  · change Client.Accounted ((s.environment e).started ++ _) ((s.environment e).readied ++ _) _ _
    rw [ho.started, ho.readied]
    refine Client.Accounted.step ?_ hk ((delivered_delivery hd).fresh hs)
    rw [ho.client]
    exact hs.accounted
  · change Informed ((s.environment e).started ++ _) ((s.environment e).readied ++ _) _
    rw [ho.started, ho.readied]
    exact hi.clientStep hk
  · intro id hid
    change id ∈ (s.environment e).started ++ _
    rw [ho.started]
    exact List.mem_append_left _ (environment_removed hs id hid)
  · intro m hm
    have hf := (environment_reports hs m hm).1
    rw [← ho.client] at hf
    exact isFromTdlib_mono hstep.handlers.1 hf
  · exact fun m hm => (environment_reports hs m hm).2
  · change _ ≤ ((s.environment e).requests ++ _).length
    rw [List.length_append]
    exact ((ho.processed hs.processed).2).trans (Nat.le_add_right _ _)

/-- Every step of the system keeps it consistent. -/
theorem consistent_step (hs : Consistent s) (e : Event) : Consistent (s.step S e) := by
  unfold step
  cases hd : s.delivered e with
  | none => exact consistent_idle hs hd
  | some d => exact consistent_delivered hs hd

theorem consistent_init (S : ClientSetup) (now : Int) : Consistent (init S now) := by
  refine ⟨Client.wellKept_startUp S now, Client.accounted_startUp S now, ⟨?_, ?_⟩, ?_, ?_, ?_, ?_⟩
  all_goals simp [init]

end StreamSystem

end TelegramBotApi
