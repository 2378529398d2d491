import TelegramBotApi.WebhookIntegrity

/-!
# The operations of the schedule as moves of events

Under `Integrity` no assertion of an operation fails, and its result is a composition of the moves of
the previous module: an update is loaded, a queue leaves the schedule, its front is carried, a carried
event is taken out or scheduled again. The results below say which.
-/

namespace TelegramBotApi

namespace WebhookSchedule

variable {s t : WebhookSchedule} {eventId : Int} {u : WebhookUpdate} {rest : List Int}

/-- The schedule after the first event of a queue was dropped: the next one, if any, takes its turn. -/
def withoutEvent (s : WebhookSchedule) (eventId queueId : Int) (rest : List Int) : WebhookSchedule :=
  let t := (s.removeFront eventId queueId rest).record (.forgotten eventId)
  match rest with
  | [] => t
  | next :: _ => t.schedule (((s.updateMap.lookup next).map (·.wakeupAt)).getD 0) queueId

theorem Integrity.record (h : s.Integrity) (entry : WebhookEntry) : (s.record entry).Integrity :=
  ⟨h.queue, h.update, h.scheduledOnce, h.scheduledQueue, h.carried, h.carriedOnce, h.readyOnce, h.ready,
    h.fresh, h.unique⟩

/-- An event behind the first one is loaded into the same queue. -/
theorem Integrity.next (h : s.Integrity) (hf : s.Leads eventId u rest) {next : Int}
    (hnext : next ∈ rest) : isValidEventId next ∧ next ≠ eventId ∧
      ∃ v, s.updateMap.lookup next = some v ∧ v.queueId = u.queueId := by
  obtain ⟨-, -, hnodup, hall⟩ := h.queue hf.front
  obtain ⟨v, hv, hq⟩ := hall next (List.mem_cons_of_mem _ hnext)
  refine ⟨(h.update hv).2.1, ?_, v, hv, hq⟩
  rintro rfl
  exact (List.nodup_cons.1 hnodup).1 hnext

theorem dropEvent_eq (h : s.Integrity) (hf : s.Leads eventId u rest) :
    s.dropEvent eventId = .ok (s.withoutEvent eventId u.queueId rest) := by
  unfold dropEvent
  simp only [hf.update, hf.front]
  rw [if_neg (not_not_intro rfl)]
  cases rest with
  | nil => rfl
  | cons next rest =>
      obtain ⟨hvalid, hne, v, hv, hq⟩ := h.next hf (List.mem_cons_self : next ∈ next :: rest)
      simp only
      rw [if_neg (not_not_intro hvalid), AList.lookup_erase_ne hne, hv]
      simp only [hq]
      unfold withoutEvent
      simp only [hv]
      rfl

theorem Integrity.withoutEvent (h : s.Integrity) (hf : s.Floating eventId u rest) :
    (s.withoutEvent eventId u.queueId rest).Integrity := by
  have hrecord := (h.removeFront hf).record (.forgotten eventId)
  unfold WebhookSchedule.withoutEvent
  cases rest with
  | nil => exact hrecord
  | cons next rest =>
      have hrest : (s.removeFront eventId u.queueId (next :: rest)).queueUpdates.lookup u.queueId =
          some (next :: rest) := removeFront_lookup
      refine hrecord.schedule _ hrest hf.unscheduled ?_
      · intro c id hc hloaded
        change (s.removeFront eventId u.queueId (next :: rest)).Loaded id u.queueId at hloaded
        obtain ⟨hid, hloaded⟩ := removeFront_loaded.1 hloaded
        obtain ⟨q, hq, ⟨ids, hfront⟩, -⟩ := h.carried hc
        obtain rfl := Integrity.loaded_unique hq hloaded
        rw [hf.front] at hfront
        exact hid (List.cons.inj (Option.some.inj hfront)).1.symm

/-- The update after one more failure. -/
def delayed (u : WebhookUpdate) (now retryAfter maxTimeout : Int) : WebhookUpdate :=
  { u with
    delay := (nextDelay u retryAfter maxTimeout).1
    wakeupAt := now + (nextDelay u retryAfter maxTimeout).2 * 10 ^ 9
    failCount := u.failCount + 1 }

/-- The schedule after a failed event was put back. -/
def withRetry (s : WebhookSchedule) (eventId : Int) (u : WebhookUpdate)
    (now retryAfter maxTimeout : Int) : WebhookSchedule :=
  (s.touch eventId (delayed u now retryAfter maxTimeout)).schedule
    (now + (nextDelay u retryAfter maxTimeout).2 * 10 ^ 9) u.queueId

/-- `on_update_error` drops the event exactly if its next try would come too late. -/
theorem onUpdateError_eq (h : s.Integrity) (hf : s.Leads eventId u rest)
    (now unixTime retryAfter maxTimeout : Int) :
    s.onUpdateError now unixTime eventId retryAfter maxTimeout =
      .ok (if u.expiresAt < unixTime + (nextDelay u retryAfter maxTimeout).2 then
        s.withoutEvent eventId u.queueId rest
      else s.withRetry eventId u now retryAfter maxTimeout) := by
  unfold onUpdateError
  simp only [hf.update]
  by_cases hlate : u.expiresAt < unixTime + (nextDelay u retryAfter maxTimeout).2
  · rw [if_pos hlate, if_pos hlate, dropEvent_eq h hf]
  · rw [if_neg hlate, if_neg hlate]
    rfl

theorem Integrity.withRetry (h : s.Integrity) (hf : s.Floating eventId u rest)
    (now retryAfter maxTimeout : Int) :
    (s.withRetry eventId u now retryAfter maxTimeout).Integrity := by
  have htouch := h.touch hf.update (delayed u now retryAfter maxTimeout) rfl rfl
  refine htouch.schedule _ hf.front hf.unscheduled ?_
  intro c id hc hloaded
  have hloaded := (touch_loaded hf.update (delayed u now retryAfter maxTimeout) rfl).1 hloaded
  obtain ⟨q, hq, ⟨ids, hfront⟩, -⟩ := h.carried hc
  obtain rfl := Integrity.loaded_unique hq hloaded
  rw [hf.front] at hfront
  obtain ⟨rfl, -⟩ := List.cons.inj (Option.some.inj hfront)
  exact hf.uncarried c hc

theorem Integrity.leads (h : s.Integrity) {c : Int} (hc : s.Carries c eventId) :
    ∃ u rest, s.Leads eventId u rest ∧ u.queueId ∉ s.scheduled := by
  obtain ⟨q, ⟨u, hu, rfl⟩, ⟨rest, hfront⟩, hnot⟩ := h.carried hc
  exact ⟨u, rest, ⟨hu, hfront⟩, hnot⟩

/-- A carried event floats once its connection is released. -/
theorem Integrity.floating (h : s.Integrity) {c : Int} (hc : s.Carries c eventId)
    (hf : s.Leads eventId u rest) (hnot : u.queueId ∉ s.scheduled) (close : Bool) :
    (s.releaseConnection c close).Floating eventId u rest := by
  refine
    { update := ?_
      front := ?_
      unscheduled := ?_
      uncarried := fun c' hc' => ?_ }
  · cases close <;> exact hf.update
  · cases close <;> exact hf.front
  · cases close <;> exact hnot
  · obtain ⟨hne, hc'⟩ := releaseConnection_carries.1 hc'
    exact hne (h.carriedOnce hc' hc)

theorem withoutEvent_release (c q : Int) (close : Bool) :
    (s.withoutEvent eventId q rest).releaseConnection c close =
      (s.releaseConnection c close).withoutEvent eventId q rest := by
  cases close <;> cases rest <;> rfl

theorem withRetry_release (c now retryAfter maxTimeout : Int) (close : Bool) :
    (s.withRetry eventId u now retryAfter maxTimeout).releaseConnection c close =
      (s.releaseConnection c close).withRetry eventId u now retryAfter maxTimeout := by
  cases close <;> rfl

/-- What one call of `send_update` did. -/
inductive SendOutcome (cfg : WebhookConfig) (now : Int) (s : WebhookSchedule) :
    Bool → WebhookSchedule → Prop
  | idle : SendOutcome cfg now s false s
  | tooLong (w q eventId : Int) (queues : List (Int × Int)) (u : WebhookUpdate)
      (hqueues : s.queues = (w, q) :: queues) (hfront : s.Front eventId q)
      (hu : s.updateMap.lookup eventId = some u) (hq : u.queueId = q)
      (hheader : ∃ status, cfg.updateHeader (updateBody u.id u.json).length = .error status) :
      SendOutcome cfg now s false (s.unschedule.touch eventId { u with lastSendTime := now })
  | sent (w q eventId c : Int) (queues : List (Int × Int)) (ready : List Int) (u : WebhookUpdate)
      (hqueues : s.queues = (w, q) :: queues) (hready : s.readyConnections = c :: ready)
      (hfront : s.Front eventId q) (hu : s.updateMap.lookup eventId = some u) (hq : u.queueId = q)
      (hheader : ∃ text, cfg.updateHeader (updateBody u.id u.json).length = .ok text) :
      SendOutcome cfg now s true (((s.unschedule.touch eventId { u with lastSendTime := now }).carry
        eventId).record (.sent c eventId))

theorem carry_eq {c : Int} {ready : List Int} (hready : s.readyConnections = c :: ready) :
    s.carry eventId =
      { s with readyConnections := ready, connections := s.setEvent c (some eventId) } := by
  unfold carry
  simp only [hready, List.tail_cons, List.headD_cons]

theorem sendUpdate_outcome (cfg : WebhookConfig) (now : Int) (h : s.Integrity) :
    ∃ ok t, s.sendUpdate cfg now = .ok (ok, t) ∧ SendOutcome cfg now s ok t := by
  unfold sendUpdate
  split
  · exact ⟨_, _, rfl, .idle⟩
  · exact ⟨_, _, rfl, .idle⟩
  · rename_i c ready w q queues hready hqueues
    by_cases hlate : now < w
    · rw [if_pos hlate]
      exact ⟨_, _, rfl, .idle⟩
    rw [if_neg hlate]
    obtain ⟨ids, hids⟩ := h.scheduledQueue q (by simp [scheduled, hqueues])
    obtain ⟨hzero, hnil, -, hall⟩ := h.queue hids
    obtain ⟨eventId, rest, rfl⟩ := List.exists_cons_of_ne_nil hnil
    obtain ⟨u, hu, hq⟩ := hall eventId (by simp)
    obtain ⟨hid, hvalid, -⟩ := h.update hu
    rw [if_neg hzero, hids]
    simp only [Option.getD_some]
    rw [if_neg (not_not_intro hvalid), hu]
    simp only
    cases hheader : cfg.updateHeader (updateBody u.id u.json).length with
    | error status =>
        refine ⟨_, _, rfl, ?_⟩
        have ht : SendOutcome cfg now s _ _ := .tooLong w q eventId queues u hqueues
          ⟨rest, hids⟩ hu hq ⟨status, hheader⟩
        simpa [unschedule, touch, hqueues] using ht
    | ok text =>
        refine ⟨_, _, rfl, ?_⟩
        have ht : SendOutcome cfg now s _ _ := .sent w q eventId c queues ready u hqueues hready
          ⟨rest, hids⟩ hu hq ⟨text, hheader⟩
        rw [carry_eq (s := s.unschedule.touch eventId { u with lastSendTime := now }) hready] at ht
        simpa [unschedule, touch, WebhookSchedule.record, setEvent, hqueues, hid] using ht

theorem SendOutcome.integrity {cfg : WebhookConfig} {now : Int} {ok : Bool} (h : s.Integrity)
    (ht : SendOutcome cfg now s ok t) : t.Integrity := by
  cases ht with
  | idle => exact h
  | tooLong w q eventId queues u hqueues hfront hu hq hheader =>
      exact (h.unschedule hqueues).1.touch hu _ rfl rfl
  | sent w q eventId c queues ready u hqueues hready hfront hu hq hheader =>
      obtain ⟨hun, hnot⟩ := h.unschedule hqueues
      have htouch := hun.touch hu { u with lastSendTime := now } rfl rfl
      refine (htouch.carry hready ?_ hfront hnot ?_).record _
      · exact (touch_loaded (s := s.unschedule) hu { u with lastSendTime := now } rfl).2
          ⟨u, hu, hq⟩
      · intro c' hc'
        refine h.not_carried ?_ c' eventId hc' ⟨u, hu, hq⟩
        rw [scheduled_eq hqueues]
        exact List.mem_cons_self

/-- The loop of `send_updates` keeps what every call keeps, and ends with a call that sent nothing. -/
theorem sendLoop_induct {cfg : WebhookConfig} {now : Nat → Int} {I : WebhookSchedule → Prop}
    (hI : ∀ s, I s → s.Integrity)
    (hstep : ∀ k s ok t, I s → SendOutcome cfg (now k) s ok t → I t) (fuel : Nat) (hs : I s) :
    ∃ t, s.sendLoop cfg now fuel = .ok t ∧ I t := by
  induction fuel generalizing s with
  | zero => exact ⟨s, rfl, hs⟩
  | succ fuel ih =>
      obtain ⟨ok, t, hsend, hout⟩ := sendUpdate_outcome cfg (now fuel) (hI s hs)
      have ht := hstep fuel s ok t hs hout
      unfold sendLoop
      rw [hsend]
      cases ok with
      | false => exact ⟨t, rfl, ht⟩
      | true => exact ih ht

theorem SendOutcome.ready_length {cfg : WebhookConfig} {now : Int} (ht : SendOutcome cfg now s true t) :
    t.readyConnections.length + 1 = s.readyConnections.length := by
  cases ht with
  | sent w q eventId c queues ready u hqueues hready hfront hu hq hheader =>
      change s.readyConnections.tail.length + 1 = _
      rw [hready]
      rfl

/-- The fuel of `sendUpdates` suffices: the last call of `send_update` returned an error. -/
theorem sendLoop_ends {cfg : WebhookConfig} {now : Nat → Int} (h : s.Integrity) {fuel : Nat}
    (hfuel : s.readyConnections.length < fuel) :
    ∃ (last t : WebhookSchedule) (k : Nat), s.sendLoop cfg now fuel = .ok t ∧
      last.sendUpdate cfg (now k) = .ok (false, t) := by
  induction fuel generalizing s with
  | zero => omega
  | succ fuel ih =>
      obtain ⟨ok, t, hsend, hout⟩ := sendUpdate_outcome cfg (now fuel) h
      unfold sendLoop
      rw [hsend]
      cases ok with
      | false => exact ⟨s, t, fuel, rfl, hsend⟩
      | true =>
          have hlen := hout.ready_length
          exact ih (hout.integrity h) (by omega)

end WebhookSchedule

end TelegramBotApi
