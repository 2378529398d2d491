import TelegramBotApi.WebhookSchedule
import TelegramBotApi.TableLookup

/-!
# What the containers of a webhook say about each other

`Integrity` relates the four containers of the schedule. Every operation of the schedule keeps it, and
under it none of their assertions fails. Only the front of a queue is ever carried by a connection, and
a queue is then not in the schedule.
-/

namespace TelegramBotApi

theorem mem_emplaceQueue {queues : List (Int × Int)} {w q : Int} {x : Int × Int} :
    x ∈ emplaceQueue queues w q ↔ x = (w, q) ∨ x ∈ queues := by
  unfold emplaceQueue
  split_ifs with h
  · constructor
    · exact Or.inr
    · rintro (rfl | hx)
      · exact h
      · exact hx
  · exact List.mem_orderedInsert queueLe

theorem emplaceQueue_ids {queues : List (Int × Int)} {w q : Int} (hq : q ∉ queues.map (·.2)) :
    ((emplaceQueue queues w q).map (·.2)).Perm (q :: queues.map (·.2)) := by
  unfold emplaceQueue
  rw [if_neg fun h => hq (List.mem_map.2 ⟨_, h, rfl⟩)]
  exact (List.perm_orderedInsert queueLe (w, q) queues).map (·.2)

namespace WebhookSchedule

def scheduled (s : WebhookSchedule) : List Int := s.queues.map (·.2)

def Carries (s : WebhookSchedule) (connectionId eventId : Int) : Prop :=
  ∃ connection, s.connections.lookup connectionId = some connection ∧ connection.eventId = some eventId

def Front (s : WebhookSchedule) (eventId queueId : Int) : Prop :=
  ∃ rest, s.queueUpdates.lookup queueId = some (eventId :: rest)

def Loaded (s : WebhookSchedule) (eventId queueId : Int) : Prop :=
  ∃ update, s.updateMap.lookup eventId = some update ∧ update.queueId = queueId

structure Integrity (s : WebhookSchedule) : Prop where
  queue : ∀ {q ids}, s.queueUpdates.lookup q = some ids → q ≠ 0 ∧ ids ≠ [] ∧ ids.Nodup ∧
    ∀ id ∈ ids, s.Loaded id q
  update : ∀ {id u}, s.updateMap.lookup id = some u → u.id = id ∧ isValidEventId id ∧
    ∃ ids, s.queueUpdates.lookup u.queueId = some ids ∧ id ∈ ids
  scheduledOnce : s.scheduled.Nodup
  scheduledQueue : ∀ q ∈ s.scheduled, ∃ ids, s.queueUpdates.lookup q = some ids
  carried : ∀ {c id}, s.Carries c id → ∃ q, s.Loaded id q ∧ s.Front id q ∧ q ∉ s.scheduled
  carriedOnce : ∀ {c c' id}, s.Carries c id → s.Carries c' id → c = c'
  readyOnce : s.readyConnections.Nodup
  ready : ∀ c ∈ s.readyConnections, ∃ connection, s.connections.lookup c = some connection ∧
    connection.eventId = none
  fresh : ∀ {c connection}, s.connections.lookup c = some connection → c < s.nextConnectionId
  unique : 0 < s.uniqueQueueId

theorem integrity_empty : Integrity {} where
  queue h := by simp at h
  update h := by simp at h
  scheduledOnce := List.nodup_nil
  scheduledQueue q hq := by simp [scheduled] at hq
  carried := by
    rintro c id ⟨connection, h, -⟩
    simp at h
  carriedOnce := by
    rintro c c' id ⟨connection, h, -⟩
    simp at h
  readyOnce := List.nodup_nil
  ready c hc := by simp at hc
  fresh h := by simp at h
  unique := by decide

variable {s : WebhookSchedule}

namespace Integrity

theorem loaded_unique {id q q' : Int} (h : s.Loaded id q) (h' : s.Loaded id q') : q = q' := by
  obtain ⟨u, hu, rfl⟩ := h
  obtain ⟨u', hu', rfl⟩ := h'
  rw [hu] at hu'
  rw [Option.some.inj hu']

/-- Connections that carry events of one queue are the same. -/
theorem carries_queue (h : s.Integrity) {c c' id id' q : Int} (hc : s.Carries c id)
    (hc' : s.Carries c' id') (hq : s.Loaded id q) (hq' : s.Loaded id' q) : c = c' := by
  obtain ⟨p, hp, ⟨rest, hfront⟩, -⟩ := h.carried hc
  obtain ⟨p', hp', ⟨rest', hfront'⟩, -⟩ := h.carried hc'
  obtain rfl := loaded_unique hq hp
  obtain rfl := loaded_unique hq' hp'
  rw [hfront] at hfront'
  obtain ⟨rfl, -⟩ := List.cons.inj (Option.some.inj hfront')
  exact h.carriedOnce hc hc'

end Integrity

/-- The schedule after a new event was loaded. -/
def withUpdate (s : WebhookSchedule) (now : Int) (e : TQueueEvent) : WebhookSchedule :=
  { s with
    updateMap := s.updateMap.insert e.id
      { id := e.id, json := e.data, expiresAt := e.expiresAt, wakeupAt := now, queueId := s.queueOf e }
    uniqueQueueId := if e.extra = 0 then s.uniqueQueueId + 1 else s.uniqueQueueId
    queues := if (s.queueUpdates.lookup (s.queueOf e)).getD [] = [] then
      emplaceQueue s.queues now (s.queueOf e) else s.queues
    queueUpdates := s.queueUpdates.insert (s.queueOf e)
      ((s.queueUpdates.lookup (s.queueOf e)).getD [] ++ [e.id])
    log := s.log ++ [.loaded e.id (s.queueOf e)] }

theorem loadUpdate_eq {now unixTimeNow : Int} {e : TQueueEvent} (hid : isValidEventId e.id)
    (hnext : isValidEventId (e.id + 1)) (hexpires : unixTimeNow ≤ e.expiresAt) :
    s.loadUpdate now unixTimeNow e =
      .ok (if (s.updateMap.lookup e.id).isSome then s else s.withUpdate now e) := by
  unfold loadUpdate
  rw [if_neg (not_not_intro hid)]
  by_cases hdup : (s.updateMap.lookup e.id).isSome = true
  · rw [if_pos hdup, if_pos hdup]
  · rw [if_neg hdup, if_neg hdup, if_neg (by omega), if_neg (not_not_intro hnext)]
    rfl

/-- An event is loaded unless it already is. -/
theorem loadUpdate_cases {now unixTimeNow : Int} {e : TQueueEvent} {t : WebhookSchedule}
    (h : s.loadUpdate now unixTimeNow e = .ok t) :
    ((s.updateMap.lookup e.id).isSome = true ∧ t = s) ∨
      ((s.updateMap.lookup e.id).isSome = false ∧ t = s.withUpdate now e) := by
  by_cases hid : isValidEventId e.id
  · by_cases hdup : (s.updateMap.lookup e.id).isSome = true
    · unfold loadUpdate at h
      rw [if_neg (not_not_intro hid), if_pos hdup] at h
      exact Or.inl ⟨hdup, (Except.ok.inj h).symm⟩
    by_cases hok : unixTimeNow ≤ e.expiresAt ∧ isValidEventId (e.id + 1)
    · rw [loadUpdate_eq hid hok.2 hok.1, if_neg hdup] at h
      exact Or.inr ⟨by simpa using hdup, (Except.ok.inj h).symm⟩
    · unfold loadUpdate at h
      rw [if_neg (not_not_intro hid), if_neg hdup] at h
      by_cases hexpires : e.expiresAt < unixTimeNow
      · rw [if_pos hexpires] at h
        cases h
      · rw [if_neg hexpires, if_pos fun hnext => hok ⟨by omega, hnext⟩] at h
        cases h
  · unfold loadUpdate at h
    rw [if_pos hid] at h
    cases h

section withUpdate

variable {now : Int} {e : TQueueEvent}

theorem queueOf_ne_zero (h : s.Integrity) (e : TQueueEvent) : s.queueOf e ≠ 0 := by
  have := h.unique
  unfold queueOf
  split_ifs with he
  · omega
  · exact he

theorem withUpdate_loaded {id q : Int} (hid : id ≠ e.id) :
    (s.withUpdate now e).Loaded id q ↔ s.Loaded id q := by
  unfold Loaded withUpdate
  simp only [AList.lookup_insert_ne hid]

theorem withUpdate_loaded_self : (s.withUpdate now e).Loaded e.id (s.queueOf e) :=
  ⟨_, AList.lookup_insert _, rfl⟩

theorem mem_withUpdate_scheduled {q : Int} : q ∈ (s.withUpdate now e).scheduled ↔
    (q = s.queueOf e ∧ (s.queueUpdates.lookup (s.queueOf e)).getD [] = []) ∨ q ∈ s.scheduled := by
  unfold scheduled withUpdate
  simp only
  split_ifs with h
  · simp only [List.mem_map, mem_emplaceQueue]
    constructor
    · rintro ⟨x, rfl | hx, rfl⟩
      · exact Or.inl ⟨rfl, h⟩
      · exact Or.inr ⟨x, hx, rfl⟩
    · rintro (⟨rfl, -⟩ | ⟨x, hx, rfl⟩)
      · exact ⟨_, Or.inl rfl, rfl⟩
      · exact ⟨x, Or.inr hx, rfl⟩
  · simp [h]

/-- A queue that is not there yet is neither scheduled nor carried. -/
theorem Integrity.lookup_nil (h : s.Integrity) {q : Int} (hq : (s.queueUpdates.lookup q).getD [] = []) :
    s.queueUpdates.lookup q = none := by
  cases hl : s.queueUpdates.lookup q with
  | none => rfl
  | some ids =>
      rw [hl] at hq
      exact absurd hq (h.queue hl).2.1

theorem Integrity.withUpdate (h : s.Integrity) (hid : isValidEventId e.id)
    (hnew : s.updateMap.lookup e.id = none) : (s.withUpdate now e).Integrity := by
  have hnotin : ∀ {q ids}, s.queueUpdates.lookup q = some ids → e.id ∉ ids := by
    intro q ids hq hmem
    obtain ⟨u, hu, -⟩ := (h.queue hq).2.2.2 _ hmem
    rw [hnew] at hu
    cases hu
  have hold : ∀ id ∈ (s.queueUpdates.lookup (s.queueOf e)).getD [], s.Loaded id (s.queueOf e) := by
    cases hl : s.queueUpdates.lookup (s.queueOf e) with
    | none => simp
    | some ids => exact (h.queue hl).2.2.2
  have hne : ∀ {id q}, s.Loaded id q → id ≠ e.id := by
    rintro id q ⟨u, hu, -⟩ rfl
    rw [hnew] at hu
    cases hu
  refine
    { queue := ?_
      update := ?_
      scheduledOnce := ?_
      scheduledQueue := ?_
      carried := ?_
      carriedOnce := h.carriedOnce
      readyOnce := h.readyOnce
      ready := h.ready
      fresh := h.fresh
      unique := ?_ }
  · intro q ids hq
    change (s.queueUpdates.insert (s.queueOf e) _).lookup q = some ids at hq
    rcases TableLookup.of_insert hq with ⟨rfl, rfl⟩ | ⟨-, hq⟩
    · refine ⟨queueOf_ne_zero h e, by simp, ?_, fun id hmem => ?_⟩
      · cases hl : s.queueUpdates.lookup (s.queueOf e) with
        | none => simp
        | some ids =>
            refine List.nodup_append.2 ⟨(h.queue hl).2.2.1, by simp, ?_⟩
            rintro a ha b hb rfl
            obtain rfl := List.mem_singleton.1 hb
            exact hnotin hl ha
      · rcases List.mem_append.1 hmem with hmem | hmem
        · exact (withUpdate_loaded (hne (hold id hmem))).2 (hold id hmem)
        · rw [List.mem_singleton.1 hmem]
          exact withUpdate_loaded_self
    · obtain ⟨h0, hnil, hnodup, hall⟩ := h.queue hq
      exact ⟨h0, hnil, hnodup, fun id hmem => (withUpdate_loaded (hne (hall id hmem))).2 (hall id hmem)⟩
  · intro id u hu
    change (s.updateMap.insert e.id _).lookup id = some u at hu
    change _ ∧ _ ∧ ∃ ids, (s.queueUpdates.insert (s.queueOf e) _).lookup u.queueId = some ids ∧ _
    rcases TableLookup.of_insert hu with ⟨rfl, rfl⟩ | ⟨-, hu⟩
    · exact ⟨rfl, hid, _, AList.lookup_insert _, by simp⟩
    · obtain ⟨heq, hvalid, ids, hids, hmem⟩ := h.update hu
      refine ⟨heq, hvalid, ?_⟩
      by_cases hq : u.queueId = s.queueOf e
      · rw [hq] at hids ⊢
        exact ⟨_, AList.lookup_insert _, by simp [hids, hmem]⟩
      · exact ⟨ids, by rw [AList.lookup_insert_ne hq, hids], hmem⟩
  · unfold scheduled WebhookSchedule.withUpdate
    simp only
    split_ifs with hnil
    · have hnot : s.queueOf e ∉ s.queues.map (·.2) := by
        intro hmem
        obtain ⟨ids, hids⟩ := h.scheduledQueue _ hmem
        rw [h.lookup_nil hnil] at hids
        cases hids
      exact (emplaceQueue_ids hnot).nodup_iff.2 (List.nodup_cons.2 ⟨hnot, h.scheduledOnce⟩)
    · exact h.scheduledOnce
  · intro q hq
    change ∃ ids, (s.queueUpdates.insert (s.queueOf e) _).lookup q = some ids
    by_cases hqe : q = s.queueOf e
    · subst hqe
      exact ⟨_, AList.lookup_insert _⟩
    · rw [AList.lookup_insert_ne hqe]
      rcases mem_withUpdate_scheduled.1 hq with ⟨rfl, -⟩ | hq
      · exact absurd rfl hqe
      · exact h.scheduledQueue q hq
  · intro c id hc
    obtain ⟨q, hloaded, ⟨rest, hfront⟩, hnot⟩ := h.carried hc
    refine ⟨q, (withUpdate_loaded (hne hloaded)).2 hloaded, ?_, ?_⟩
    · change ∃ rest, (s.queueUpdates.insert (s.queueOf e) _).lookup q = some (id :: rest)
      by_cases hqe : q = s.queueOf e
      · subst hqe
        exact ⟨rest ++ [e.id], by rw [AList.lookup_insert, hfront]; rfl⟩
      · exact ⟨rest, by rw [AList.lookup_insert_ne hqe, hfront]⟩
    · rw [mem_withUpdate_scheduled]
      rintro (⟨rfl, hnil⟩ | hmem)
      · rw [hfront] at hnil
        cases hnil
      · exact hnot hmem
  · have := h.unique
    unfold WebhookSchedule.withUpdate
    simp only
    split_ifs <;> omega

end withUpdate

/-- Replaces an update by one of the same event and queue. -/
def touch (s : WebhookSchedule) (eventId : Int) (u : WebhookUpdate) : WebhookSchedule :=
  { s with updateMap := s.updateMap.insert eventId u }

def schedule (s : WebhookSchedule) (wakeupAt queueId : Int) : WebhookSchedule :=
  { s with queues := emplaceQueue s.queues wakeupAt queueId }

def unschedule (s : WebhookSchedule) : WebhookSchedule := { s with queues := s.queues.tail }

/-- The first ready connection takes the event. -/
def carry (s : WebhookSchedule) (eventId : Int) : WebhookSchedule :=
  { s with
    readyConnections := s.readyConnections.tail
    connections := s.setEvent (s.readyConnections.headD 0) (some eventId) }

def removeFront (s : WebhookSchedule) (eventId queueId : Int) (rest : List Int) : WebhookSchedule :=
  { s with
    updateMap := s.updateMap.erase eventId
    queueUpdates := if rest = [] then s.queueUpdates.erase queueId
      else s.queueUpdates.insert queueId rest }

section operations

variable {eventId queueId : Int} {u u' : WebhookUpdate}

theorem touch_loaded (hu : s.updateMap.lookup eventId = some u) (u' : WebhookUpdate) (hq : u'.queueId = u.queueId)
    {id q : Int} : (s.touch eventId u').Loaded id q ↔ s.Loaded id q := by
  unfold Loaded touch
  by_cases hid : id = eventId
  · subst hid
    simp only [AList.lookup_insert, hu, Option.some.injEq, exists_eq_left', hq]
  · simp only [AList.lookup_insert_ne hid]

theorem Integrity.touch (h : s.Integrity) (hu : s.updateMap.lookup eventId = some u) (u' : WebhookUpdate)
    (hid : u'.id = u.id) (hq : u'.queueId = u.queueId) : (s.touch eventId u').Integrity := by
  refine
    { queue := fun hl => ?_
      update := ?_
      scheduledOnce := h.scheduledOnce
      scheduledQueue := h.scheduledQueue
      carried := fun hc => ?_
      carriedOnce := h.carriedOnce
      readyOnce := h.readyOnce
      ready := h.ready
      fresh := h.fresh
      unique := h.unique }
  · obtain ⟨h0, hnil, hnodup, hall⟩ := h.queue hl
    exact ⟨h0, hnil, hnodup, fun id hmem => (touch_loaded hu u' hq).2 (hall id hmem)⟩
  · intro id v hv
    change (s.updateMap.insert eventId u').lookup id = some v at hv
    rcases TableLookup.of_insert hv with ⟨rfl, rfl⟩ | ⟨-, hv⟩
    · rw [hid, hq]
      exact h.update hu
    · exact h.update hv
  · obtain ⟨q, hloaded, hfront, hnot⟩ := h.carried hc
    exact ⟨q, (touch_loaded hu u' hq).2 hloaded, hfront, hnot⟩

theorem mem_schedule {wakeupAt q : Int} :
    q ∈ (s.schedule wakeupAt queueId).scheduled ↔ q = queueId ∨ q ∈ s.scheduled := by
  unfold scheduled schedule
  simp only [List.mem_map, mem_emplaceQueue]
  constructor
  · rintro ⟨x, rfl | hx, rfl⟩
    · exact Or.inl rfl
    · exact Or.inr ⟨x, hx, rfl⟩
  · rintro (rfl | ⟨x, hx, rfl⟩)
    · exact ⟨_, Or.inl rfl, rfl⟩
    · exact ⟨x, Or.inr hx, rfl⟩

/-- A queue may be scheduled if it is not and no connection carries its front. -/
theorem Integrity.schedule (h : s.Integrity) {ids : List Int} (wakeupAt : Int)
    (hq : s.queueUpdates.lookup queueId = some ids) (hnot : queueId ∉ s.scheduled)
    (hfree : ∀ c id, s.Carries c id → ¬ s.Loaded id queueId) :
    (s.schedule wakeupAt queueId).Integrity := by
  refine
    { queue := h.queue
      update := h.update
      scheduledOnce := ?_
      scheduledQueue := ?_
      carried := fun {c id} hc => ?_
      carriedOnce := h.carriedOnce
      readyOnce := h.readyOnce
      ready := h.ready
      fresh := h.fresh
      unique := h.unique }
  · exact (emplaceQueue_ids hnot).nodup_iff.2 (List.nodup_cons.2 ⟨hnot, h.scheduledOnce⟩)
  · intro q hmem
    rcases mem_schedule.1 hmem with rfl | hmem
    · exact ⟨ids, hq⟩
    · exact h.scheduledQueue q hmem
  · obtain ⟨q, hloaded, hfront, hq'⟩ := h.carried hc
    refine ⟨q, hloaded, hfront, ?_⟩
    rw [mem_schedule]
    rintro (rfl | hmem)
    · exact hfree c id hc hloaded
    · exact hq' hmem

theorem scheduled_eq {wakeupAt : Int} {queues : List (Int × Int)}
    (hqueues : s.queues = (wakeupAt, queueId) :: queues) :
    s.scheduled = queueId :: s.unschedule.scheduled := by
  unfold scheduled unschedule
  rw [hqueues]
  rfl

theorem Integrity.unschedule (h : s.Integrity) {wakeupAt : Int} {queues : List (Int × Int)}
    (hqueues : s.queues = (wakeupAt, queueId) :: queues) :
    s.unschedule.Integrity ∧ queueId ∉ s.unschedule.scheduled := by
  have hs := scheduled_eq hqueues
  have hnodup := h.scheduledOnce
  rw [hs] at hnodup
  obtain ⟨hnot, hnodup⟩ := List.nodup_cons.1 hnodup
  refine ⟨?_, hnot⟩
  refine
    { queue := h.queue
      update := h.update
      scheduledOnce := hnodup
      scheduledQueue := fun q hq => h.scheduledQueue q (by rw [hs]; exact List.mem_cons_of_mem _ hq)
      carried := fun hc => ?_
      carriedOnce := h.carriedOnce
      readyOnce := h.readyOnce
      ready := h.ready
      fresh := h.fresh
      unique := h.unique }
  obtain ⟨q, hloaded, hfront, hq⟩ := h.carried hc
  exact ⟨q, hloaded, hfront, fun hmem => hq (by rw [hs]; exact List.mem_cons_of_mem _ hmem)⟩

/-- A scheduled queue has no event on a connection. -/
theorem Integrity.not_carried (h : s.Integrity) (hq : queueId ∈ s.scheduled) (c id : Int)
    (hc : s.Carries c id) : ¬ s.Loaded id queueId := by
  intro hloaded
  obtain ⟨q, hq', -, hnot⟩ := h.carried hc
  rw [Integrity.loaded_unique hq' hloaded] at hnot
  exact hnot hq

theorem setEvent_lookup_ne {c c' : Int} {ev : Option Int} (hne : c' ≠ c) :
    (s.setEvent c ev).lookup c' = s.connections.lookup c' := by
  unfold setEvent
  split
  · rfl
  · exact AList.lookup_insert_ne hne

theorem setEvent_lookup {c : Int} {ev : Option Int} {connection : WebhookConnection}
    (hc : s.connections.lookup c = some connection) :
    (s.setEvent c ev).lookup c = some { connection with eventId := ev } := by
  unfold setEvent
  rw [hc]
  exact AList.lookup_insert _

theorem carry_carries {c : Int} {ready : List Int} {connection : WebhookConnection}
    (hready : s.readyConnections = c :: ready) (hconn : s.connections.lookup c = some connection)
    (eventId c' id : Int) : (s.carry eventId).Carries c' id ↔
      (c' = c ∧ id = eventId) ∨ (c' ≠ c ∧ s.Carries c' id) := by
  have hhead : s.readyConnections.headD 0 = c := by rw [hready]; rfl
  unfold Carries carry
  simp only [hhead]
  by_cases hcc : c' = c
  · subst hcc
    rw [setEvent_lookup hconn]
    simp [eq_comm]
  · rw [setEvent_lookup_ne hcc]
    simp [hcc]

/-- The front of a queue that is not scheduled may be carried. -/
theorem Integrity.carry (h : s.Integrity) {c : Int} {ready : List Int}
    (hready : s.readyConnections = c :: ready) (hloaded : s.Loaded eventId queueId)
    (hfront : s.Front eventId queueId) (hnot : queueId ∉ s.scheduled)
    (hfree : ∀ c, ¬ s.Carries c eventId) : (s.carry eventId).Integrity := by
  obtain ⟨connection, hconn, hidle⟩ := h.ready c (by simp [hready])
  have hnodup := h.readyOnce
  rw [hready] at hnodup
  obtain ⟨hcnot, hnodup⟩ := List.nodup_cons.1 hnodup
  have htail : (s.carry eventId).readyConnections = ready := by
    unfold WebhookSchedule.carry
    rw [hready]
    rfl
  have hhead : s.readyConnections.headD 0 = c := by rw [hready]; rfl
  have hiff := carry_carries hready hconn eventId
  refine
    { queue := h.queue
      update := h.update
      scheduledOnce := h.scheduledOnce
      scheduledQueue := h.scheduledQueue
      carried := fun {c' id} hc => ?_
      carriedOnce := fun {c₁ c₂ id} h₁ h₂ => ?_
      readyOnce := by rw [htail]; exact hnodup
      ready := ?_
      fresh := fun {c' connection'} hl => ?_
      unique := h.unique }
  · rcases (hiff c' id).1 hc with ⟨-, rfl⟩ | ⟨-, hc⟩
    · exact ⟨queueId, hloaded, hfront, hnot⟩
    · exact h.carried hc
  · rcases (hiff c₁ id).1 h₁ with ⟨rfl, rfl⟩ | ⟨-, h₁⟩ <;>
      rcases (hiff c₂ id).1 h₂ with ⟨rfl, he⟩ | ⟨-, h₂⟩
    · rfl
    · exact absurd h₂ (hfree _)
    · exact absurd (he ▸ h₁) (hfree _)
    · exact h.carriedOnce h₁ h₂
  · intro c' hc'
    rw [htail] at hc'
    have hne : c' ≠ c := fun he => hcnot (he ▸ hc')
    obtain ⟨connection', hl, hidle'⟩ := h.ready c' (by simp [hready, hc'])
    refine ⟨connection', ?_, hidle'⟩
    change (s.setEvent (s.readyConnections.headD 0) (some eventId)).lookup c' = some connection'
    rw [hhead, setEvent_lookup_ne hne, hl]
  · change (s.setEvent (s.readyConnections.headD 0) (some eventId)).lookup c' = some connection' at hl
    rw [hhead] at hl
    by_cases hcc : c' = c
    · subst hcc
      exact h.fresh hconn
    · rw [setEvent_lookup_ne hcc] at hl
      exact h.fresh hl

/-- A first event of a queue, with the events behind it. -/
structure Leads (s : WebhookSchedule) (eventId : Int) (u : WebhookUpdate) (rest : List Int) : Prop where
  update : s.updateMap.lookup eventId = some u
  front : s.queueUpdates.lookup u.queueId = some (eventId :: rest)

/-- A first event of a queue that is neither scheduled nor carried. -/
structure Floating (s : WebhookSchedule) (eventId : Int) (u : WebhookUpdate) (rest : List Int) : Prop
    extends s.Leads eventId u rest where
  unscheduled : u.queueId ∉ s.scheduled
  uncarried : ∀ c, ¬ s.Carries c eventId

variable {rest : List Int}

theorem removeFront_loaded {id q : Int} : (s.removeFront eventId queueId rest).Loaded id q ↔
    id ≠ eventId ∧ s.Loaded id q := by
  unfold Loaded removeFront
  by_cases hid : id = eventId
  · subst hid
    simp [AList.lookup_erase]
  · simp [AList.lookup_erase_ne hid, hid]

theorem removeFront_lookup_ne {q : Int} (hq : q ≠ queueId) :
    (s.removeFront eventId queueId rest).queueUpdates.lookup q = s.queueUpdates.lookup q := by
  unfold removeFront
  simp only
  split_ifs
  · exact AList.lookup_erase_ne hq
  · exact AList.lookup_insert_ne hq

theorem removeFront_lookup : (s.removeFront eventId queueId rest).queueUpdates.lookup queueId =
    if rest = [] then none else some rest := by
  unfold removeFront
  simp only
  split_ifs
  · exact AList.lookup_erase _ _
  · exact AList.lookup_insert _

/-- No other queue has the event. -/
theorem Integrity.notMem_other (h : s.Integrity) (hf : s.Floating eventId u rest) {q : Int}
    {ids : List Int} (hq : s.queueUpdates.lookup q = some ids) (hne : q ≠ u.queueId) :
    eventId ∉ ids := by
  intro hmem
  obtain ⟨v, hv, rfl⟩ := (h.queue hq).2.2.2 _ hmem
  rw [hf.update] at hv
  rw [Option.some.inj hv] at hne
  exact hne rfl

theorem Integrity.removeFront (h : s.Integrity) (hf : s.Floating eventId u rest) :
    (s.removeFront eventId u.queueId rest).Integrity := by
  obtain ⟨hzero, -, hnodup, hall⟩ := h.queue hf.front
  obtain ⟨hnotin, hrest⟩ := List.nodup_cons.1 hnodup
  refine
    { queue := fun {q ids} hl => ?_
      update := fun {id v} hv => ?_
      scheduledOnce := h.scheduledOnce
      scheduledQueue := fun q hq => ?_
      carried := fun {c id} hc => ?_
      carriedOnce := h.carriedOnce
      readyOnce := h.readyOnce
      ready := h.ready
      fresh := h.fresh
      unique := h.unique }
  · by_cases hq : q = u.queueId
    · subst hq
      rw [removeFront_lookup] at hl
      split_ifs at hl with hnil
      obtain rfl := Option.some.inj hl
      refine ⟨hzero, hnil, hrest, fun id hmem => removeFront_loaded.2 ⟨?_, hall id (by simp [hmem])⟩⟩
      rintro rfl
      exact hnotin hmem
    · rw [removeFront_lookup_ne hq] at hl
      obtain ⟨h0, hnil, hnodup', hall'⟩ := h.queue hl
      refine ⟨h0, hnil, hnodup', fun id hmem => removeFront_loaded.2 ⟨?_, hall' id hmem⟩⟩
      rintro rfl
      exact h.notMem_other hf hl hq hmem
  · change (s.updateMap.erase eventId).lookup id = some v at hv
    obtain ⟨hid, hv⟩ := TableLookup.of_erase hv
    obtain ⟨heq, hvalid, ids, hids, hmem⟩ := h.update hv
    refine ⟨heq, hvalid, ?_⟩
    by_cases hq : v.queueId = u.queueId
    · rw [hq] at hids ⊢
      rw [removeFront_lookup]
      rw [hf.front] at hids
      obtain rfl := Option.some.inj hids
      have hmem' : id ∈ rest := (List.mem_cons.1 hmem).resolve_left hid
      exact ⟨rest, if_neg (List.ne_nil_of_mem hmem'), hmem'⟩
    · rw [removeFront_lookup_ne hq]
      exact ⟨ids, hids, hmem⟩
  · have hne : q ≠ u.queueId := by
      rintro rfl
      exact hf.unscheduled hq
    rw [removeFront_lookup_ne hne]
    exact h.scheduledQueue q hq
  · obtain ⟨q, hloaded, ⟨ids, hfront⟩, hnot⟩ := h.carried hc
    have hid : id ≠ eventId := by
      rintro rfl
      exact hf.uncarried c hc
    have hne : q ≠ u.queueId := by
      rintro rfl
      rw [hf.front] at hfront
      exact hid (List.cons.inj (Option.some.inj hfront)).1.symm
    refine ⟨q, removeFront_loaded.2 ⟨hid, hloaded⟩, ⟨ids, ?_⟩, hnot⟩
    rw [removeFront_lookup_ne hne, hfront]

theorem createConnection_carries (h : s.Integrity) {ipGeneration c id : Int} :
    (s.createConnection ipGeneration).Carries c id ↔ s.Carries c id := by
  unfold Carries createConnection
  by_cases hc : c = s.nextConnectionId
  · subst hc
    rw [AList.lookup_insert]
    constructor
    · rintro ⟨connection, hl, hid⟩
      rw [← Option.some.inj hl] at hid
      cases hid
    · rintro ⟨connection, hl, -⟩
      have := h.fresh hl
      omega
  · rw [AList.lookup_insert_ne hc]

theorem Integrity.createConnection (h : s.Integrity) (ipGeneration : Int) :
    (s.createConnection ipGeneration).Integrity := by
  have hnew : s.nextConnectionId ∉ s.readyConnections := by
    intro hmem
    obtain ⟨connection, hl, -⟩ := h.ready _ hmem
    have := h.fresh hl
    omega
  refine
    { queue := h.queue
      update := h.update
      scheduledOnce := h.scheduledOnce
      scheduledQueue := h.scheduledQueue
      carried := fun hc => h.carried ((createConnection_carries h).1 hc)
      carriedOnce := fun h₁ h₂ => h.carriedOnce ((createConnection_carries h).1 h₁)
        ((createConnection_carries h).1 h₂)
      readyOnce := ?_
      ready := fun c hc => ?_
      fresh := fun {c connection} hl => ?_
      unique := h.unique }
  · refine List.nodup_append.2 ⟨h.readyOnce, by simp, ?_⟩
    rintro a ha b hb rfl
    exact hnew (List.mem_singleton.1 hb ▸ ha)
  · change ∃ connection, (s.connections.insert s.nextConnectionId _).lookup c = some connection ∧ _
    by_cases hcc : c = s.nextConnectionId
    · subst hcc
      exact ⟨_, AList.lookup_insert _, rfl⟩
    · rw [AList.lookup_insert_ne hcc]
      refine h.ready c ?_
      rcases List.mem_append.1 hc with hc | hc
      · exact hc
      · exact absurd (List.mem_singleton.1 hc) hcc
  · change (s.connections.insert s.nextConnectionId _).lookup c = some connection at hl
    change c < s.nextConnectionId + 1
    by_cases hcc : c = s.nextConnectionId
    · omega
    · rw [AList.lookup_insert_ne hcc] at hl
      have := h.fresh hl
      omega

variable {c : Int}

theorem releaseConnection_carries {close : Bool} {c' id : Int} :
    (s.releaseConnection c close).Carries c' id ↔ c' ≠ c ∧ s.Carries c' id := by
  unfold Carries releaseConnection
  by_cases hcc : c' = c
  · subst hcc
    simp only [ne_eq, not_true_eq_false, false_and, iff_false]
    rintro ⟨connection, hl, hid⟩
    split_ifs at hl
    · exact absurd rfl (TableLookup.of_erase hl).1
    · cases hconn : s.connections.lookup c' with
      | none =>
          simp only [setEvent, hconn] at hl
          cases hl
      | some connection' =>
          simp only [setEvent_lookup hconn] at hl
          rw [← Option.some.inj hl] at hid
          cases hid
  · split_ifs
    · simp only [AList.lookup_erase_ne hcc, ne_eq, hcc, not_false_eq_true, true_and]
    · simp only [setEvent_lookup_ne hcc, ne_eq, hcc, not_false_eq_true, true_and]

/-- A connection that is closed, or that carried an event and is ready again. -/
theorem Integrity.releaseConnection (h : s.Integrity) {close : Bool} {connection : WebhookConnection}
    (hconn : s.connections.lookup c = some connection)
    (hbusy : close = false → connection.eventId ≠ none) : (s.releaseConnection c close).Integrity := by
  have hready : ∀ c' ∈ s.readyConnections, connection.eventId ≠ none → c' ≠ c := by
    rintro c' hc' hne rfl
    obtain ⟨connection', hl, hidle⟩ := h.ready c' hc'
    rw [hconn] at hl
    rw [← Option.some.inj hl] at hidle
    exact hne hidle
  refine
    { queue := ?_
      update := ?_
      scheduledOnce := ?_
      scheduledQueue := ?_
      carried := fun hc => ?_
      carriedOnce := fun h₁ h₂ => h.carriedOnce (releaseConnection_carries.1 h₁).2
        (releaseConnection_carries.1 h₂).2
      readyOnce := ?_
      ready := ?_
      fresh := ?_
      unique := ?_ }
  · cases close <;> exact h.queue
  · cases close <;> exact h.update
  · cases close <;> exact h.scheduledOnce
  · cases close <;> exact h.scheduledQueue
  · have hcarried := h.carried (releaseConnection_carries.1 hc).2
    cases close <;> exact hcarried
  · cases close with
    | true => exact h.readyOnce.filter _
    | false =>
        refine List.nodup_append.2 ⟨h.readyOnce, by simp, ?_⟩
        rintro a ha b hb rfl
        exact hready _ ha (hbusy rfl) (List.mem_singleton.1 hb)
  · intro c' hc'
    cases close with
    | true =>
        obtain ⟨hmem, hne⟩ := List.mem_filter.1 hc'
        have hne : c' ≠ c := by simpa using hne
        obtain ⟨connection', hl, hidle⟩ := h.ready c' hmem
        refine ⟨connection', ?_, hidle⟩
        change (s.connections.erase c).lookup c' = some connection'
        rw [AList.lookup_erase_ne hne, hl]
    | false =>
        change ∃ connection', (s.setEvent c none).lookup c' = some connection' ∧ _
        rcases List.mem_append.1 hc' with hmem | hmem
        · rw [setEvent_lookup_ne (hready c' hmem (hbusy rfl))]
          exact h.ready c' hmem
        · rw [List.mem_singleton.1 hmem]
          exact ⟨_, setEvent_lookup hconn, rfl⟩
  · intro c' connection' hl
    cases close with
    | true =>
        change (s.connections.erase c).lookup c' = some connection' at hl
        exact h.fresh (TableLookup.of_erase hl).2
    | false =>
        change (s.setEvent c none).lookup c' = some connection' at hl
        by_cases hcc : c' = c
        · subst hcc
          exact h.fresh hconn
        · rw [setEvent_lookup_ne hcc] at hl
          exact h.fresh hl
  · cases close <;> exact h.unique

end operations

end WebhookSchedule

end TelegramBotApi
