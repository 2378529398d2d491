import TelegramBotApi.WebhookMoves
import TelegramBotApi.WebhookSettings

/-!
# The queues of a webhook along its runs

The loaded updates are the disjoint union of the queues, a queue waits for its turn at most once and
not while its front is under way, and the limits on queues and connections are kept. Whether a queue
that is loaded is ever served depends on the length of the request: an update whose header does not fit
takes its queue out of the schedule.
-/

namespace TelegramBotApi

namespace WebhookSchedule

variable {cfg : WebhookConfig} {s t : WebhookSchedule}

/-- The loaded events are exactly the events of the queues, which are not empty and disjoint. -/
structure Partitioned (s : WebhookSchedule) : Prop where
  covers : ∀ id, (s.updateMap.lookup id).isSome = true ↔
    ∃ q ids, s.queueUpdates.lookup q = some ids ∧ id ∈ ids
  nonempty : ∀ {q ids}, s.queueUpdates.lookup q = some ids → ids ≠ []
  once : ∀ {q ids}, s.queueUpdates.lookup q = some ids → ids.Nodup
  disjoint : ∀ {q q' ids ids' id}, s.queueUpdates.lookup q = some ids →
    s.queueUpdates.lookup q' = some ids' → id ∈ ids → id ∈ ids' → q = q'

theorem Integrity.partitioned (h : s.Integrity) : s.Partitioned where
  covers id := by
    constructor
    · intro hsome
      obtain ⟨u, hu⟩ := Option.isSome_iff_exists.1 hsome
      obtain ⟨-, -, ids, hids, hmem⟩ := h.update hu
      exact ⟨u.queueId, ids, hids, hmem⟩
    · rintro ⟨q, ids, hids, hmem⟩
      obtain ⟨u, hu, -⟩ := (h.queue hids).2.2.2 id hmem
      rw [hu]
      rfl
  nonempty hids := (h.queue hids).2.1
  once hids := (h.queue hids).2.2.1
  disjoint hids hids' hmem hmem' :=
    Integrity.loaded_unique ((h.queue hids).2.2.2 _ hmem) ((h.queue hids').2.2.2 _ hmem')

/-- The queue is in flight: a connection carries one of its events. -/
def InFlight (s : WebhookSchedule) (q : Int) : Prop := ∃ c id, s.Carries c id ∧ s.Loaded id q

theorem Integrity.not_scheduled_inFlight (h : s.Integrity) {q : Int} (hq : q ∈ s.scheduled) :
    ¬ s.InFlight q := by
  rintro ⟨c, id, hc, hloaded⟩
  exact h.not_carried hq c id hc hloaded

section served

variable {reads : TQueueEvent → Prop} {event : WebhookEvent} {eventId : Int} {u u' : WebhookUpdate}
  {rest : List Int}

/-- The queue waits for its turn, or its front is under way. -/
def ServedQueue (s : WebhookSchedule) (q : Int) (ids : List Int) : Prop :=
  q ∈ s.scheduled ∨ ∃ c id rest, ids = id :: rest ∧ s.Carries c id

def Served (s : WebhookSchedule) : Prop := ∀ q ids, s.queueUpdates.lookup q = some ids → s.ServedQueue q ids

/-- The request of every loaded update can be written. -/
def Fits (cfg : WebhookConfig) (s : WebhookSchedule) : Prop :=
  ∀ id u, s.updateMap.lookup id = some u → cfg.CanPost u.id u.json

theorem Fits.touch (h : s.Fits cfg) (hu : s.updateMap.lookup eventId = some u) (hid : u'.id = u.id)
    (hjson : u'.json = u.json) : (s.touch eventId u').Fits cfg := by
  intro id v hv
  change (s.updateMap.insert eventId u').lookup id = some v at hv
  rcases TableLookup.of_insert hv with ⟨rfl, rfl⟩ | ⟨-, hv⟩
  · rw [hid, hjson]
    exact h _ u hu
  · exact h id v hv

theorem Fits.withoutEvent (h : s.Fits cfg) (eventId q : Int) (rest : List Int) :
    (s.withoutEvent eventId q rest).Fits cfg := by
  intro id v hv
  have hv : (s.updateMap.erase eventId).lookup id = some v := by
    cases rest <;> exact hv
  exact h id v (TableLookup.of_erase hv).2

theorem Fits.releaseConnection (h : s.Fits cfg) (c : Int) (close : Bool) :
    (s.releaseConnection c close).Fits cfg := by
  cases close <;> exact h

theorem Fits.loopMove (h : s.Fits cfg) (hreads : ∀ e, reads e → cfg.CanPost e.id e.data)
    (hmove : LoopMove cfg reads s t) : t.Fits cfg := by
  cases hmove with
  | load now e he hid hnew hroom =>
      intro id v hv
      change (s.updateMap.insert e.id _).lookup id = some v at hv
      rcases TableLookup.of_insert hv with ⟨rfl, rfl⟩ | ⟨-, hv⟩
      · exact hreads e he
      · exact h id v hv
  | connect ipGeneration hroom => exact h
  | send now ok hsend =>
      cases hsend with
      | idle => exact h
      | tooLong w q eventId queues u hqueues hfront hu hq hheader =>
          exact Fits.touch (s := s.unschedule) h hu rfl rfl
      | sent w q eventId c queues ready u hqueues hready hfront hu hq hheader =>
          exact Fits.touch (s := s.unschedule) h hu rfl rfl

theorem Fits.answered (h : s.Fits cfg) (ha : WebhookActor.Answered s event t) : t.Fits cfg := by
  cases ha with
  | unchanged => exact h
  | closed c connection hc hidle => exact h
  | delivered c eventId u rest close hc hf hnot hconfirms =>
      exact (h.releaseConnection c close).withoutEvent _ _ _
  | dropped c eventId u rest close input retryAfter hc hf hnot hfails hlate =>
      exact (h.releaseConnection c close).withoutEvent _ _ _
  | retried c eventId u rest close input retryAfter hc hf hnot hfails hintime =>
      refine (h.releaseConnection c close).touch (u := u) ?_ rfl rfl
      cases close <;> exact hf.update

/-- A loaded event joins a served queue, or a new one that is scheduled. -/
theorem Served.withUpdate (h : s.Served) (now : Int) (e : TQueueEvent) : (s.withUpdate now e).Served := by
  intro q ids hq
  change (s.queueUpdates.insert (s.queueOf e) _).lookup q = some ids at hq
  rcases TableLookup.of_insert hq with ⟨rfl, rfl⟩ | ⟨hqe, hq⟩
  · cases hold : s.queueUpdates.lookup (s.queueOf e) with
    | none => exact Or.inl (mem_withUpdate_scheduled.2 (Or.inl ⟨rfl, by rw [hold]; rfl⟩))
    | some old =>
        rcases h _ old hold with hmem | ⟨c, id, rest, rfl, hc⟩
        · exact Or.inl (mem_withUpdate_scheduled.2 (Or.inr hmem))
        · exact Or.inr ⟨c, id, rest ++ [e.id], rfl, hc⟩
  · rcases h q ids hq with hmem | hcarried
    · exact Or.inl (mem_withUpdate_scheduled.2 (Or.inr hmem))
    · exact Or.inr hcarried

/-- `send_update` keeps every queue served as long as its request can be written. -/
theorem Served.send (h : s.Served) (hi : s.Integrity) (hfits : s.Fits cfg) {now : Int} {ok : Bool}
    (hsend : SendOutcome cfg now s ok t) : t.Served := by
  cases hsend with
  | idle => exact h
  | tooLong w q eventId queues u hqueues hfront hu hq hheader =>
      obtain ⟨status, hstatus⟩ := hheader
      obtain ⟨text, htext⟩ := (cfg.updateHeader_ok_iff _).2 (hfits eventId u hu)
      rw [hstatus] at htext
      cases htext
  | sent w q eventId c queues ready u hqueues hready hfront hu hq hheader =>
      obtain ⟨connection, hconn, hidle⟩ := hi.ready c (by simp [hready])
      have hcarries : ∀ {c' id : Int}, ((s.unschedule.touch eventId
          { u with lastSendTime := now }).carry eventId).Carries c' id ↔
          (c' = c ∧ id = eventId) ∨ (c' ≠ c ∧ s.Carries c' id) :=
        carry_carries (s := s.unschedule.touch eventId { u with lastSendTime := now }) hready hconn _ _ _
      intro p ids hp
      change s.queueUpdates.lookup p = some ids at hp
      by_cases hpq : p = q
      · subst hpq
        obtain ⟨rest, hrest⟩ := hfront
        rw [hrest] at hp
        exact Or.inr ⟨c, eventId, rest, (Option.some.inj hp).symm, hcarries.2 (Or.inl ⟨rfl, rfl⟩)⟩
      · rcases h p ids hp with hmem | ⟨c', id, rest, rfl, hc'⟩
        · rw [scheduled_eq hqueues] at hmem
          exact Or.inl ((List.mem_cons.1 hmem).resolve_left hpq)
        · refine Or.inr ⟨c', id, rest, rfl, hcarries.2 (Or.inr ⟨?_, hc'⟩)⟩
          rintro rfl
          obtain ⟨connection', hconn', hid⟩ := hc'
          rw [hconn] at hconn'
          rw [← Option.some.inj hconn', hidle] at hid
          cases hid

theorem Served.loopMove (h : s.Served) (hi : s.Integrity) (hfits : s.Fits cfg)
    (hmove : LoopMove cfg reads s t) : t.Served := by
  cases hmove with
  | load now e he hid hnew hroom => exact h.withUpdate now e
  | connect ipGeneration hroom =>
      intro q ids hq
      rcases h q ids hq with hmem | ⟨c, id, rest, rfl, hc⟩
      · exact Or.inl hmem
      · exact Or.inr ⟨c, id, rest, rfl, (createConnection_carries hi).2 hc⟩
  | send now ok hsend => exact h.send hi hfits hsend

/-- When the connection of an event is released, the other queues stay served. -/
theorem Served.release (h : s.Served) {c q : Int} {ids : List Int} (close : Bool)
    (hq : s.queueUpdates.lookup q = some ids) (hother : ∀ id rest, ids = id :: rest → ¬ s.Carries c id) :
    (s.releaseConnection c close).ServedQueue q ids := by
  rcases h q ids hq with hmem | ⟨c', id, rest, rfl, hc'⟩
  · left
    cases close <;> exact hmem
  · refine Or.inr ⟨c', id, rest, rfl, releaseConnection_carries.2 ⟨?_, hc'⟩⟩
    rintro rfl
    exact hother id rest rfl hc'

/-- A connection that carries the front of one queue carries no other front. -/
theorem Leads.not_carries (hf : s.Leads eventId u rest) (hi : s.Integrity) {c q : Int} {ids : List Int}
    (hc : s.Carries c eventId) (hq : s.queueUpdates.lookup q = some ids) (hne : q ≠ u.queueId) :
    ∀ id rest, ids = id :: rest → ¬ s.Carries c id := by
  rintro id rest' rfl ⟨connection, hconn, hid⟩
  obtain ⟨connection', hconn', hid'⟩ := hc
  rw [hconn] at hconn'
  rw [← Option.some.inj hconn', hid] at hid'
  obtain rfl := Option.some.inj hid'
  obtain ⟨v, hv, rfl⟩ := (hi.queue hq).2.2.2 id (by simp)
  rw [hf.update] at hv
  exact hne (by rw [Option.some.inj hv])

theorem Served.withoutEvent (h : s.Served) (hi : s.Integrity) {c : Int} (close : Bool)
    (hc : s.Carries c eventId) (hf : s.Leads eventId u rest) :
    ((s.releaseConnection c close).withoutEvent eventId u.queueId rest).Served := by
  intro q ids hq
  have hlookup : (((s.releaseConnection c close).removeFront eventId u.queueId rest).queueUpdates.lookup
      q) = some ids := by
    cases rest <;> exact hq
  by_cases hqu : q = u.queueId
  · subst hqu
    rw [removeFront_lookup] at hlookup
    cases rest with
    | nil => cases hlookup
    | cons next rest => exact Or.inl (mem_schedule.2 (Or.inl rfl))
  · rw [removeFront_lookup_ne hqu] at hlookup
    have hq : s.queueUpdates.lookup q = some ids := by
      cases close <;> exact hlookup
    rcases h.release close hq (hf.not_carries hi hc hq hqu) with hmem | hcarried
    · left
      cases rest with
      | nil => exact hmem
      | cons next rest => exact mem_schedule.2 (Or.inr hmem)
    · right
      cases rest <;> exact hcarried

theorem Served.answered (h : s.Served) (hi : s.Integrity) (ha : WebhookActor.Answered s event t) :
    t.Served := by
  cases ha with
  | unchanged => exact h
  | closed c connection hc hidle =>
      intro q ids hq
      refine h.release true hq ?_
      rintro id rest rfl ⟨connection', hc', hid⟩
      rw [hc] at hc'
      rw [← Option.some.inj hc', hidle] at hid
      cases hid
  | delivered c eventId u rest close hc hf hnot hconfirms => exact h.withoutEvent hi close hc hf
  | dropped c eventId u rest close input retryAfter hc hf hnot hfails hlate =>
      exact h.withoutEvent hi close hc hf
  | retried c eventId u rest close input retryAfter hc hf hnot hfails hintime =>
      intro q ids hq
      have hq : s.queueUpdates.lookup q = some ids := by
        cases close <;> exact hq
      by_cases hqu : q = u.queueId
      · exact Or.inl (mem_schedule.2 (Or.inl hqu))
      · rcases h.release close hq (hf.not_carries hi hc hq hqu) with hmem | hcarried
        · exact Or.inl (mem_schedule.2 (Or.inr hmem))
        · exact Or.inr hcarried

/-- Where every request can be written, a call of `send_update` that returns an error changes
nothing. -/
theorem Fits.sendUpdate_false (h : s.Fits cfg) {now : Int}
    (hsend : s.sendUpdate cfg now = .ok (false, t)) : t = s := by
  unfold sendUpdate at hsend
  split at hsend
  · exact (Prod.mk.inj (Except.ok.inj hsend)).2.symm
  · exact (Prod.mk.inj (Except.ok.inj hsend)).2.symm
  · split at hsend
    · exact (Prod.mk.inj (Except.ok.inj hsend)).2.symm
    split at hsend
    · cases hsend
    split at hsend
    · cases hsend
    split at hsend
    · cases hsend
    split at hsend
    · cases hsend
    · rename_i u hu
      obtain ⟨text, htext⟩ := (cfg.updateHeader_ok_iff _).2 (h _ u hu)
      simp only [htext] at hsend
      cases hsend

end served

end WebhookSchedule

namespace WebhookActor

open WebhookSchedule

/-- In every run no assertion fails, and the containers agree. -/
theorem webhook_queue_integrity (cfg : WebhookConfig) (now resolveDelay : Int)
    (events : List WebhookEvent) :
    ∃ s, run cfg now resolveDelay events = .ok s ∧ s.sched.Partitioned ∧ s.sched.scheduled.Nodup ∧
      (∀ q ∈ s.sched.scheduled, ¬ s.sched.InFlight q) ∧
      (∀ c c' id id' q, s.sched.Carries c id → s.sched.Carries c' id' → s.sched.Loaded id q →
        s.sched.Loaded id' q → c = c') ∧
      (∀ c id, s.sched.Carries c id → ∃ q, s.sched.Loaded id q ∧ s.sched.Front id q) ∧
      s.sched.queueUpdates.keys.length ≤ cfg.maxLoadedUpdates ∧
      s.sched.connections.keys.length ≤ cfg.maxConnections := by
  obtain ⟨s, hs, hwithin, -⟩ := run_invariant cfg (I := fun _ => True)
    trivial (fun _ _ _ _ _ _ _ => trivial) now resolveDelay (fun _ _ => trivial)
  have h := hwithin.toIntegrity
  refine ⟨s, hs, h.partitioned, h.scheduledOnce, fun q hq => h.not_scheduled_inFlight hq, ?_, ?_,
    hwithin.queues_le, hwithin.connections_le⟩
  · intro c c' id id' q hc hc' hq hq'
    exact h.carries_queue hc hc' hq hq'
  · intro c id hc
    obtain ⟨q, hloaded, hfront, -⟩ := h.carried hc
    exact ⟨q, hloaded, hfront⟩

/-- The step reads only updates whose requests can be written. -/
def ReadsShort (cfg : WebhookConfig) (event : WebhookEvent) : Prop :=
  ∀ e, event.Reads e → cfg.CanPost e.id e.data

theorem Changes.fits_served {cfg : WebhookConfig} {event : WebhookEvent} {s t : WebhookSchedule}
    (hshort : ReadsShort cfg event) (hwithin : s.Within cfg) (hs : s.Fits cfg ∧ s.Served)
    (h : Changes cfg event s t) : t.Fits cfg ∧ t.Served := by
  obtain ⟨m, hanswer, hmoves⟩ := h
  have hm : m.Within cfg ∧ m.Fits cfg ∧ m.Served :=
    ⟨hanswer.within hwithin, hs.1.answered hanswer, hs.2.answered hwithin.toIntegrity hanswer⟩
  refine (hmoves.invariant (I := fun t => t.Within cfg ∧ t.Fits cfg ∧ t.Served) ?_ hm).2
  rintro a b ⟨ha, hfits, hserved⟩ hmove
  exact ⟨hmove.within ha, hfits.loopMove hshort hmove, hserved.loopMove ha.toIntegrity hfits hmove⟩

/-- As long as the requests of the updates can be written, every queue is scheduled once or under way,
and a call of `send_update` that returns an error changes nothing. -/
theorem webhook_queues_served (cfg : WebhookConfig) (now resolveDelay : Int) (events : List WebhookEvent)
    (hshort : ∀ event ∈ events, ReadsShort cfg event) :
    ∃ s, run cfg now resolveDelay events = .ok s ∧
      (∀ q ids, s.sched.queueUpdates.lookup q = some ids → s.sched.scheduled.count q = 1 ∨
        ∃ c id rest, ids = id :: rest ∧ s.sched.Carries c id) ∧
      ∀ event m, ReadsShort cfg event → Changes cfg event s.sched m →
        ∀ now t, m.sendUpdate cfg now = .ok (false, t) → t = m := by
  obtain ⟨s, hs, hwithin, hfits, hserved⟩ := run_invariant cfg (I := fun s => s.Fits cfg ∧ s.Served)
    ⟨by intro id u hu; simp at hu, by intro q ids hq; simp at hq⟩
    (fun event s t hok hw hI h => h.fits_served hok hw hI) now resolveDelay hshort
  refine ⟨s, hs, fun q ids hq => ?_, fun event m hevent hm now t hsend => ?_⟩
  · rcases hserved q ids hq with hmem | hcarried
    · exact Or.inl (List.count_eq_one_of_mem hwithin.scheduledOnce hmem)
    · exact Or.inr hcarried
  · exact (hm.fits_served hevent hwithin ⟨hfits, hserved⟩).1.sendUpdate_false hsend

def pathWebhook (path : Slice) : WebhookConfig where
  url := {
    protocol := .https
    userinfo := []
    host := "h.org".toList
    isIpv6 := false
    specifiedPort := 0
    port := 443
    query := path }
  maxConnections := 40
  cachedIpAddress := .ipv4 0x95a7a7dc 443
  maxConnections_pos := by decide

/-- One update of one chat, when there is a connection to send it. -/
def firstUpdate (data : Slice) : LoopInput where
  now := 0
  unixTime := 1000
  queue := some {
    tailId := 6
    events := [{ id := 5, expiresAt := 2000, data := data, extra := 7 }]
    sorted := by simp
    bounded := by simp
    tail_lt := by decide }
  connects := [.opened]
  sendTime := fun _ => 0

/-- With a short path the update of the chat is sent. -/
theorem webhook_queues_served_short :
    ReadsShort (pathWebhook "/b".toList) (.onSslContextCreated (.ok ()) (firstUpdate "1".toList)) ∧
    ∃ s, run (pathWebhook "/b".toList) 0 0 [.onSslContextCreated (.ok ()) (firstUpdate "1".toList)] =
        .ok s ∧
      ∀ q ids, s.sched.queueUpdates.lookup q = some ids → s.sched.scheduled.count q = 1 ∨
        ∃ c id rest, ids = id :: rest ∧ s.sched.Carries c id := by
  have hshort : ReadsShort (pathWebhook "/b".toList)
      (.onSslContextCreated (.ok ()) (firstUpdate "1".toList)) := by
    rintro e ⟨io, hio, queue, hqueue, he⟩
    obtain rfl := List.mem_singleton.1 hio
    obtain rfl := Option.some.inj hqueue
    obtain rfl := List.mem_singleton.1 he
    decide +kernel
  obtain ⟨s, hs, hserved, -⟩ := webhook_queues_served (pathWebhook "/b".toList) 0 0
    [.onSslContextCreated (.ok ()) (firstUpdate "1".toList)]
    (fun event hevent => by rw [List.mem_singleton.1 hevent]; exact hshort)
  exact ⟨hshort, s, hs, hserved⟩

/-- The address is accepted, and the update of the chat is neither scheduled nor under way. -/
theorem webhook_queue_stranded :
    let inet : InetPton := ⟨fun _ => none, fun _ => none⟩
    let query : BotQuery := {
      token := "1:A".toList
      method := "setwebhook".toList
      args := [("url".toList, "https://h.org/".toList ++ List.replicate 4000 'a')] }
    checkWebhook inet query = .ok () ∧
    HttpUrl.parseUrl inet query.newWebhookUrl .https = .ok (pathWebhook ('/' :: List.replicate 4000 'a')).url ∧
    ∃ s, run (pathWebhook ('/' :: List.replicate 4000 'a')) 0 0
        [.onSslContextCreated (.ok ()) (firstUpdate "\"message\":1".toList)] = .ok s ∧
      s.sched.queueUpdates.lookup 7 = some [5] ∧ 7 ∉ s.sched.scheduled ∧
      ∀ c id, ¬ s.sched.Carries c id := by
  refine ⟨by decide +kernel, by decide +kernel, ?_⟩
  have heval : ((run (pathWebhook ('/' :: List.replicate 4000 'a')) 0 0 [.onSslContextCreated (.ok ())
      (firstUpdate "\"message\":1".toList)]).toOption.any fun s =>
        s.sched.queueUpdates.lookup 7 = some [5] ∧ s.sched.queues = [] ∧
          s.sched.connections.entries.map (·.2.eventId) = [none]) = true := by
    decide +kernel
  cases hrun : run (pathWebhook ('/' :: List.replicate 4000 'a')) 0 0 [.onSslContextCreated (.ok ())
      (firstUpdate "\"message\":1".toList)] with
  | error check =>
      rw [hrun] at heval
      exact absurd heval Bool.false_ne_true
  | ok s =>
      rw [hrun] at heval
      obtain ⟨hqueue, hqueues, hidle⟩ := of_decide_eq_true heval
      refine ⟨s, rfl, hqueue, by simp [scheduled, hqueues], ?_⟩
      rintro c id ⟨connection, hconn, hid⟩
      have hmem : connection.eventId ∈ s.sched.connections.entries.map (·.2.eventId) :=
        List.mem_map.2 ⟨⟨c, connection⟩, AList.mem_lookup_iff.1 hconn, rfl⟩
      rw [hidle, List.mem_singleton, hid] at hmem
      cases hmem

end WebhookActor

end TelegramBotApi
