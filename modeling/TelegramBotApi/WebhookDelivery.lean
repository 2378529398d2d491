import TelegramBotApi.WebhookOrder
import TelegramBotApi.WebhookQueues

/-!
# Deliveries in order and at least once

While the identifiers in the storage queue grow, updates are loaded in their order, so the order of
deliveries is the order of identifiers. An update leaves the storage for one of two reasons only: it was
confirmed, or its next try would come after it has expired.
-/

namespace TelegramBotApi

namespace WebhookSchedule

variable {cfg : WebhookConfig} {reads : TQueueEvent → Prop} {event : WebhookEvent}
  {s t : WebhookSchedule}

/-- The event may be forgotten: a connection carries it, and either this connection confirms it or the
next try after the failure would come too late. -/
def Removable (s : WebhookSchedule) (event : WebhookEvent) (id : Int) : Prop :=
  ∃ c u, s.Carries c id ∧ s.updateMap.lookup id = some u ∧
    (event.Confirms c ∨ ∃ input retryAfter, event.Fails c input retryAfter ∧
      u.expiresAt < input.unixTime + (nextDelay u retryAfter input.maxTimeout).2)

theorem withoutEvent_log (eventId q : Int) (rest : List Int) :
    (s.withoutEvent eventId q rest).log = s.log ++ [.forgotten eventId] := by
  cases rest <;> rfl

theorem releaseConnection_log (c : Int) (close : Bool) : (s.releaseConnection c close).log = s.log := by
  cases close <;> rfl

/-- An answer adds nothing to the log but the event that it removes. -/
theorem answered_log (ha : WebhookActor.Answered s event t) :
    t.log = s.log ∨ ∃ id, t.log = s.log ++ [.forgotten id] ∧ s.Removable event id := by
  cases ha with
  | unchanged => exact Or.inl rfl
  | closed c connection hc hidle => exact Or.inl rfl
  | delivered c eventId u rest close hc hf hnot hconfirms =>
      refine Or.inr ⟨eventId, ?_, c, u, hc, hf.update, Or.inl hconfirms⟩
      rw [withoutEvent_log, releaseConnection_log]
  | dropped c eventId u rest close input retryAfter hc hf hnot hfails hlate =>
      refine Or.inr ⟨eventId, ?_, c, u, hc, hf.update, Or.inr ⟨input, retryAfter, hfails, hlate⟩⟩
      rw [withoutEvent_log, releaseConnection_log]
  | retried c eventId u rest close input retryAfter hc hf hnot hfails hintime =>
      exact Or.inl (releaseConnection_log c close)

theorem LoopMove.log (hmove : LoopMove cfg reads s t) :
    ∃ new, t.log = s.log ++ new ∧ (∀ id, .forgotten id ∉ new) ∧
      ((∀ e, ¬ reads e) → new.filterMap WebhookEntry.loadedId = []) := by
  cases hmove with
  | load now e hreads hid hnew hroom =>
      exact ⟨[.loaded e.id (s.queueOf e)], rfl, by simp, fun h => absurd hreads (h e)⟩
  | connect ipGeneration hroom => exact ⟨[], by simp [createConnection], by simp, fun _ => rfl⟩
  | send now ok hsend =>
      cases hsend with
      | idle => exact ⟨[], by simp, by simp, fun _ => rfl⟩
      | tooLong w q eventId queues u hqueues hfront hu hq hheader =>
          exact ⟨[], by simp [unschedule, touch], by simp, fun _ => rfl⟩
      | sent w q eventId c queues ready u hqueues hready hfront hu hq hheader =>
          exact ⟨[.sent c eventId], rfl, by simp, fun _ => rfl⟩

/-- The moves of `loop` forget nothing. -/
theorem LoopMoves.log (h : LoopMoves cfg reads s t) :
    ∃ new, t.log = s.log ++ new ∧ (∀ id, .forgotten id ∉ new) ∧
      ((∀ e, ¬ reads e) → new.filterMap WebhookEntry.loadedId = []) := by
  induction h with
  | refl => exact ⟨[], by simp, by simp, fun _ => rfl⟩
  | tail _ hmove ih =>
      obtain ⟨new, hnew, hkeeps, hloads⟩ := ih
      obtain ⟨new', hnew', hkeeps', hloads'⟩ := hmove.log
      refine ⟨new ++ new', by rw [hnew', hnew, List.append_assoc], fun id hmem => ?_, fun hr => ?_⟩
      · rcases List.mem_append.1 hmem with hmem | hmem
        · exact hkeeps id hmem
        · exact hkeeps' id hmem
      · rw [List.filterMap_append, hloads hr, hloads' hr]
        rfl

/-- Whatever a step forgets was removable when the step began. -/
theorem changes_log (h : WebhookActor.Changes cfg event s t) :
    ∃ new, t.log = s.log ++ new ∧ ∀ id, .forgotten id ∈ new → s.Removable event id := by
  obtain ⟨m, hanswer, hmoves⟩ := h
  obtain ⟨new, hnew, hkeeps, -⟩ := hmoves.log
  rcases answered_log hanswer with hlog | ⟨id, hlog, hremovable⟩
  · exact ⟨new, by rw [hnew, hlog], fun id hmem => absurd hmem (hkeeps id)⟩
  · refine ⟨.forgotten id :: new, by rw [hnew, hlog]; simp, fun id' hmem => ?_⟩
    rcases List.mem_cons.1 hmem with he | hmem
    · cases he
      exact hremovable
    · exact absurd hmem (hkeeps id')

def loadedIds (s : WebhookSchedule) : List Int := s.log.filterMap WebhookEntry.loadedId

theorem loadedIds_answered (ha : WebhookActor.Answered s event t) : t.loadedIds = s.loadedIds := by
  unfold loadedIds
  rcases answered_log ha with hlog | ⟨id, hlog, -⟩
  · rw [hlog]
  · rw [hlog, List.filterMap_append]
    exact List.append_nil _

theorem loadedIds_moves (h : LoopMoves cfg (fun _ => False) s t) : t.loadedIds = s.loadedIds := by
  obtain ⟨new, hnew, -, hloads⟩ := h.log
  unfold loadedIds
  rw [hnew, List.filterMap_append, hloads fun _ => id, List.append_nil]

end WebhookSchedule

namespace WebhookActor

open WebhookSchedule

variable {cfg : WebhookConfig} {s t : WebhookActor} {io : LoopInput}

/-- Updates were loaded in the order of their identifiers, up to the offset. -/
structure LoadedUpTo (sched : WebhookSchedule) (offset : Int) : Prop where
  sorted : sched.loadedIds.Pairwise (· < ·)
  below : ∀ id ∈ sched.loadedIds, 0 < id ∧ id < offset

theorem LoadedUpTo.withUpdate {sched : WebhookSchedule} {offset : Int} (h : LoadedUpTo sched offset)
    {e : TQueueEvent} (hpos : 0 < e.id) (hle : offset ≤ e.id) (now : Int) :
    LoadedUpTo (sched.withUpdate now e) (e.id + 1) := by
  have hids : (sched.withUpdate now e).loadedIds = sched.loadedIds ++ [e.id] := List.filterMap_append
  refine ⟨?_, fun id hmem => ?_⟩
  · rw [hids]
    refine List.pairwise_append.2 ⟨h.sorted, List.pairwise_singleton _ _, fun a ha b hb => ?_⟩
    have hbelow := h.below a ha
    rw [List.mem_singleton.1 hb]
    omega
  · rw [hids] at hmem
    rcases List.mem_append.1 hmem with hmem | hmem
    · have hbelow := h.below id hmem
      omega
    · rw [List.mem_singleton.1 hmem]
      omega

/-- The events that `load_updates` gets lie between the old offset and the tail of the queue, if the old
offset does not lie behind the tail. -/
theorem fetchUpdates_ordered {queue : TQueue} {limit : Nat} {events : List TQueueEvent} {offset : Int}
    (hqueue : io.queue = some queue) (htail : s.tqueueOffset = 0 ∨ s.tqueueOffset ≤ queue.tailId)
    (h : s.fetchUpdates io limit = some (events, offset)) :
    (s.tqueueOffset = 0 ∨ s.tqueueOffset ≤ offset) ∧ offset ≤ queue.tailId ∧
      (events.map (·.id)).Pairwise (· < ·) ∧
      ∀ e ∈ events, offset ≤ e.id ∧ 0 < e.id ∧ e.id < queue.tailId := by
  have hhead := queue.head_le_tail
  have hget : ∀ fromId, ((queue.doGet fromId io.unixTime limit).map (·.id)).Pairwise (· < ·) ∧
      ∀ e ∈ queue.doGet fromId io.unixTime limit, fromId ≤ e.id ∧ 0 < e.id ∧ e.id < queue.tailId := by
    intro fromId
    refine ⟨TQueue.doGet_sorted _ _ _ _, fun e he => ?_⟩
    obtain ⟨hmem, hfrom, -, -⟩ := TQueue.mem_doGet he
    exact ⟨hfrom, queue.bounded e hmem⟩
  unfold fetchUpdates at h
  rw [hqueue] at h
  simp only [TQueue.get_head] at h
  have hstart : (s.tqueueOffset = 0 ∨ s.tqueueOffset ≤
        if s.tqueueOffset = 0 then queue.head else s.tqueueOffset) ∧
      (if s.tqueueOffset = 0 then queue.head else s.tqueueOffset) ≤ queue.tailId := by
    split_ifs <;> omega
  generalize (if s.tqueueOffset = 0 then queue.head else s.tqueueOffset) = start at h hstart
  by_cases hzero : start = 0
  · rw [if_pos hzero] at h
    obtain ⟨rfl, rfl⟩ := Prod.mk.inj (Option.some.inj h)
    exact ⟨hstart.1, hstart.2, List.Pairwise.nil, by simp⟩
  rw [if_neg hzero] at h
  unfold TQueue.get at h
  rw [if_neg (by omega)] at h
  by_cases hpast : start < queue.head - 100000
  · rw [if_pos hpast] at h
    obtain ⟨rfl, rfl⟩ := Prod.mk.inj (Option.some.inj h)
    exact ⟨by omega, hhead, hget _⟩
  · rw [if_neg hpast] at h
    obtain ⟨rfl, rfl⟩ := Prod.mk.inj (Option.some.inj h)
    exact ⟨hstart.1, hstart.2, hget _⟩

/-- The loop of `load_updates` loads in order. -/
theorem loadLoop_ordered {events : List TQueueEvent} {sched sched' : WebhookSchedule}
    {offset offset' tail now unixTime : Int} (h : LoadedUpTo sched offset)
    (hsorted : (events.map (·.id)).Pairwise (· < ·))
    (hevents : ∀ e ∈ events, offset ≤ e.id ∧ 0 < e.id ∧ e.id < tail) (hoffset : offset ≤ tail)
    (hload : loadLoop now unixTime events (sched, offset) = .ok (sched', offset')) :
    LoadedUpTo sched' offset' ∧ offset' ≤ tail := by
  induction events generalizing sched offset with
  | nil =>
      obtain ⟨rfl, rfl⟩ := Prod.mk.inj (Except.ok.inj hload)
      exact ⟨h, hoffset⟩
  | cons e events ih =>
      obtain ⟨hfirst, hrest⟩ := List.pairwise_cons.1 hsorted
      obtain ⟨hle, hpos, hlt⟩ := hevents e (by simp)
      unfold loadLoop at hload
      cases hone : sched.loadUpdate now unixTime e with
      | error check =>
          rw [hone] at hload
          cases hload
      | ok next =>
          rw [hone] at hload
          simp only at hload
          unfold advanceOffset at hload
          rcases loadUpdate_cases hone with ⟨hdup, rfl⟩ | ⟨hdup, rfl⟩
          · rw [if_pos hdup] at hload
            exact ih h hrest (fun e he => hevents e (by simp [he])) hoffset hload
          · rw [if_neg (by simp [hdup])] at hload
            refine ih (h.withUpdate hpos hle now) hrest (fun e' he' => ?_) (by omega) hload
            have hb := hevents e' (by simp [he'])
            have ha : e.id < e'.id := hfirst e'.id (List.mem_map.2 ⟨e', he', rfl⟩)
            omega

theorem LoadedUpTo.mono {sched : WebhookSchedule} {offset offset' : Int} (h : LoadedUpTo sched offset)
    (hle : offset = 0 ∨ offset ≤ offset') : LoadedUpTo sched offset' := by
  refine ⟨h.sorted, fun id hmem => ?_⟩
  have hbelow := h.below id hmem
  omega

theorem loadUpdates_ordered {u : WebhookActor} (h : LoadedUpTo s.sched s.tqueueOffset)
    (htail : ∀ queue, io.queue = some queue → s.tqueueOffset = 0 ∨ s.tqueueOffset ≤ queue.tailId)
    (hload : s.loadUpdates cfg io = .ok u) :
    LoadedUpTo u.sched u.tqueueOffset ∧
      (u.tqueueOffset = s.tqueueOffset ∨ ∃ queue, io.queue = some queue ∧ u.tqueueOffset ≤ queue.tailId) := by
  unfold loadUpdates at hload
  simp only at hload
  split_ifs at hload
  · obtain rfl := Except.ok.inj hload
    exact ⟨h, Or.inl rfl⟩
  · obtain rfl := Except.ok.inj hload
    exact ⟨h, Or.inl rfl⟩
  · cases hfetch : s.fetchUpdates io
        (min 1000 (cfg.maxLoadedUpdates - s.sched.queueUpdates.keys.length)) with
    | none =>
        rw [hfetch] at hload
        cases hload
    | some result =>
        obtain ⟨events, offset⟩ := result
        rw [hfetch] at hload
        simp only at hload
        cases hloop : loadLoop io.now io.unixTime events (s.sched, offset) with
        | error check =>
            rw [hloop] at hload
            cases hload
        | ok result =>
            obtain ⟨sched', offset'⟩ := result
            rw [hloop] at hload
            obtain rfl := Except.ok.inj hload
            cases hqueue : io.queue with
            | none =>
                unfold fetchUpdates at hfetch
                rw [hqueue] at hfetch
                obtain ⟨rfl, rfl⟩ := Prod.mk.inj (Option.some.inj hfetch)
                obtain ⟨rfl, rfl⟩ := Prod.mk.inj (Except.ok.inj hloop)
                exact ⟨h, Or.inl rfl⟩
            | some queue =>
                obtain ⟨hold, hle, hsorted, hevents⟩ :=
                  fetchUpdates_ordered hqueue (htail queue hqueue) hfetch
                obtain ⟨hloaded, hle'⟩ := loadLoop_ordered (h.mono hold) hsorted hevents hle hloop
                exact ⟨hloaded, Or.inr ⟨queue, rfl, hle'⟩⟩

theorem loop_ordered (hs : s.sched.Within cfg) (h : LoadedUpTo s.sched s.tqueueOffset)
    (htail : ∀ queue, io.queue = some queue → s.tqueueOffset = 0 ∨ s.tqueueOffset ≤ queue.tailId)
    (hloop : s.loop cfg io = .ok t) :
    LoadedUpTo t.sched t.tqueueOffset ∧
      (t.tqueueOffset = s.tqueueOffset ∨ ∃ queue, io.queue = some queue ∧ t.tqueueOffset ≤ queue.tailId) := by
  obtain ⟨u, t', hloop', hload, -, hmoves, hoffset⟩ := loop_parts hs
  rw [hloop] at hloop'
  obtain rfl := Except.ok.inj hloop'
  have hu : LoadedUpTo u.sched u.tqueueOffset ∧ (u.tqueueOffset = s.tqueueOffset ∨
      ∃ queue, io.queue = some queue ∧ u.tqueueOffset ≤ queue.tailId) := by
    rcases hload with rfl | hload
    · exact ⟨h, Or.inl rfl⟩
    · exact loadUpdates_ordered h htail hload
  rw [hoffset]
  refine ⟨⟨?_, ?_⟩, hu.2⟩
  · rw [loadedIds_moves hmoves]
    exact hu.1.sorted
  · rw [loadedIds_moves hmoves]
    exact hu.1.below

def tails (ios : List LoopInput) : List Int := (ios.filterMap (·.queue)).map (·.tailId)

theorem tails_cons (io : LoopInput) (ios : List LoopInput) :
    tails (io :: ios) = (io.queue.map (·.tailId)).toList ++ tails ios := by
  unfold tails
  cases hqueue : io.queue with
  | none => simp [hqueue]
  | some queue => simp [hqueue]

/-- The offset lies before one of the tails that were seen. -/
def Seen (s : WebhookActor) (seen : List Int) : Prop :=
  s.tqueueOffset = 0 ∨ ∃ T ∈ seen, s.tqueueOffset ≤ T

theorem Seen.append {seen : List Int} (h : Seen s seen) (more : List Int) : Seen s (seen ++ more) := by
  rcases h with hzero | ⟨T, hT, hle⟩
  · exact Or.inl hzero
  · exact Or.inr ⟨T, List.mem_append_left _ hT, hle⟩

theorem Loops.ordered {ios : List LoopInput} {seen : List Int} (hloops : Loops cfg ios s t)
    (hs : s.sched.Within cfg) (h : LoadedUpTo s.sched s.tqueueOffset) (hseen : Seen s seen)
    (hgrow : (seen ++ tails ios).Pairwise (· ≤ ·)) :
    LoadedUpTo t.sched t.tqueueOffset ∧ Seen t (seen ++ tails ios) := by
  induction hloops generalizing seen with
  | nil s => exact ⟨h, hseen.append _⟩
  | skip io _ ih =>
      rw [tails_cons, ← List.append_assoc] at hgrow ⊢
      exact ih hs h (hseen.append _) hgrow
  | @call ios s u t io hloop _ ih =>
      rw [tails_cons, ← List.append_assoc] at hgrow ⊢
      have htail : ∀ queue, io.queue = some queue →
          s.tqueueOffset = 0 ∨ s.tqueueOffset ≤ queue.tailId := by
        intro queue hqueue
        rcases hseen with hzero | ⟨T, hT, hle⟩
        · exact Or.inl hzero
        · have hpair := (List.pairwise_append.1 (List.pairwise_append.1 hgrow).1).2.2 T hT queue.tailId
            (by simp [hqueue])
          exact Or.inr (by omega)
      obtain ⟨hu, hoffset⟩ := loop_ordered hs h htail hloop
      obtain ⟨v, hv, hmoves⟩ := loop_moves hs
      rw [hloop] at hv
      obtain rfl := Except.ok.inj hv
      refine ih (LoopMoves.within hs hmoves) hu ?_ hgrow
      rcases hoffset with heq | ⟨queue, hqueue, hle⟩
      · have hkept := hseen.append (io.queue.map (·.tailId)).toList
        unfold Seen at hkept ⊢
        rw [heq]
        exact hkept
      · exact Or.inr ⟨queue.tailId, by simp [hqueue], hle⟩

/-- The storage queue that the run reads does not restart its identifiers. -/
def TailsGrow (events : List WebhookEvent) : Prop :=
  (tails (events.flatMap WebhookEvent.inputs)).Pairwise (· ≤ ·)

theorem run_ordered (cfg : WebhookConfig) (now resolveDelay : Int) {events : List WebhookEvent}
    (hgrow : TailsGrow events) :
    ∃ s, run cfg now resolveDelay events = .ok s ∧ s.sched.Within cfg ∧
      LoadedUpTo s.sched s.tqueueOffset ∧ Seen s (tails (events.flatMap WebhookEvent.inputs)) := by
  induction events using List.reverseRecOn with
  | nil =>
      refine ⟨startUp cfg now resolveDelay, rfl, ?_, ?_, Or.inl (startUp_frame ..).tqueueOffset⟩
      · rw [(startUp_frame cfg now resolveDelay).sched]
        exact within_empty cfg
      · rw [(startUp_frame cfg now resolveDelay).sched]
        exact ⟨List.Pairwise.nil, fun id hmem => absurd hmem List.not_mem_nil⟩
  | append_singleton events event ih =>
      have htails : tails ((events ++ [event]).flatMap WebhookEvent.inputs) =
          tails (events.flatMap WebhookEvent.inputs) ++ tails event.inputs := by
        unfold tails
        simp
      unfold TailsGrow at hgrow
      rw [htails] at hgrow ⊢
      obtain ⟨s, hs, hwithin, hloaded, hseen⟩ := ih (List.pairwise_append.1 hgrow).1
      obtain ⟨t, hstep, hsteps⟩ := step_steps hwithin event
      refine ⟨t, ?_, (hsteps.changes hwithin).within hwithin, ?_⟩
      · unfold run at hs ⊢
        rw [StepRun.run_concat, hs]
        exact hstep
      · obtain ⟨u, hanswer, hoffset, hloops⟩ := hsteps
        refine hloops.ordered (hanswer.within hwithin) ⟨?_, ?_⟩ ?_ hgrow
        · rw [loadedIds_answered hanswer]
          exact hloaded.sorted
        · rw [loadedIds_answered hanswer, hoffset]
          exact hloaded.below
        · unfold Seen at hseen ⊢
          rw [hoffset]
          exact hseen

/-- In an ordered log the update with the smaller identifier was loaded first. -/
theorem LoadedUpTo.loaded_before {sched : WebhookSchedule} {offset : Int} (h : LoadedUpTo sched offset)
    {before after : List WebhookEntry} {x y q p : Int} (hlog : sched.log = before ++ .loaded y q :: after)
    (hx : .loaded x p ∈ sched.log) (hlt : x < y) : .loaded x p ∈ before := by
  have hsorted := h.sorted
  unfold loadedIds at hsorted
  rw [hlog, List.filterMap_append, List.filterMap_cons] at hsorted
  rw [hlog] at hx
  rcases List.mem_append.1 hx with hx | hx
  · exact hx
  exfalso
  rcases List.mem_cons.1 hx with hxy | hx
  · cases hxy
    omega
  · have hafter := (List.pairwise_cons.1 (List.pairwise_append.1 hsorted).2.1).1 x
      (List.mem_filterMap.2 ⟨_, hx, rfl⟩)
    omega

/-- Deliveries in order, and no removal without a reason. -/
theorem webhook_delivery_in_order (cfg : WebhookConfig) (now resolveDelay : Int)
    (events : List WebhookEvent) :
    ∃ s, run cfg now resolveDelay events = .ok s ∧
      (∀ l₁ l₂ m n x y q c,
        s.sched.log = l₁ ++ .loaded x q :: (l₂ ++ .loaded y q :: (m ++ .sent c y :: n)) →
        .forgotten x ∈ l₂ ++ m) ∧
      (TailsGrow events → ∀ before after x y q c, s.sched.log = before ++ .sent c y :: after →
        .loaded y q ∈ before → .loaded x q ∈ s.sched.log → x < y → .forgotten x ∈ before) ∧
      ∀ event t, s.step cfg event = .ok t → ∃ new, t.sched.log = s.sched.log ++ new ∧
        ∀ id, .forgotten id ∈ new → s.sched.Removable event id := by
  obtain ⟨s, hs, hwithin, hfollows⟩ := run_invariant cfg (I := Follows) follows_empty
    (fun event s t (_ : True) hw hI h => hI.changes hw h) now resolveDelay (fun _ _ => trivial)
  refine ⟨s, hs, fun l₁ l₂ m n x y q c hlog => hfollows.sent_after hlog, ?_, ?_⟩
  · intro hgrow before after x y q c hlog hy hx hlt
    obtain ⟨s', hs', -, hloaded, -⟩ := run_ordered cfg now resolveDelay hgrow
    rw [hs] at hs'
    obtain rfl := Except.ok.inj hs'
    obtain ⟨l, m, rfl⟩ := List.append_of_mem hy
    rw [List.append_assoc, List.cons_append] at hlog
    obtain ⟨l₁, l₂, rfl⟩ := List.append_of_mem (hloaded.loaded_before hlog hx hlt)
    rw [List.append_assoc, List.cons_append] at hlog
    have hforgotten := hfollows.sent_after hlog
    simp only [List.mem_append, List.mem_cons] at hforgotten ⊢
    tauto
  · intro event t hstep
    obtain ⟨t', hstep', hchanges⟩ := step_changes hwithin event
    rw [hstep] at hstep'
    obtain rfl := Except.ok.inj hstep'
    exact changes_log hchanges

/-- A storage queue with one update of chat 7, and a connection to send it. -/
def oneUpdate (id expiresAt : Int) (hpos : 0 < id) (hlt : id + 1 < maxEventId) : LoopInput where
  now := 0
  unixTime := 1000
  queue := some {
    tailId := id + 1
    events := [{ id := id, expiresAt := expiresAt, data := "1".toList, extra := 7 }]
    sorted := by simp
    bounded := by
      intro e he
      rw [List.mem_singleton.1 he]
      exact ⟨hpos, Int.lt_succ id⟩
    tail_lt := hlt }
  connects := [.opened]
  sendTime := fun _ => 0

/-- An answer that asks to wait for an hour removes an update that expires in half a minute. After the
storage has restarted its identifiers, the update with the larger one was sent first. -/
theorem webhook_removes_unexpired :
    let io := oneUpdate 2000005 1030 (by decide) (by decide)
    let large := oneUpdate 1999999998 2000 (by decide) (by decide)
    let small := oneUpdate 2000001 2000 (by decide) (by decide)
    let response : WebhookResponse := { code := 429, retryAfter := 3600 }
    let cfg := pathWebhook "/b".toList
    (run cfg 0 0 [.onSslContextCreated (.ok ()) io]).map
        (fun s => (s.sched.log, (s.sched.updateMap.lookup 2000005).map (·.expiresAt))) =
      .ok ([.loaded 2000005 7, .sent 1 2000005], some 1030) ∧
    (run cfg 0 0 [.onSslContextCreated (.ok ()) io, .handle 1 response ⟨0, 1000, 60⟩
        { now := 0, unixTime := 1000, queue := none, sendTime := fun _ => 0 }]).map (·.sched.log) =
      .ok [.loaded 2000005 7, .sent 1 2000005, .forgotten 2000005] ∧
    (run cfg 0 0 [.onSslContextCreated (.ok ()) large, .update small]).map (·.sched.log) =
      .ok [.loaded 1999999998 7, .sent 1 1999999998, .loaded 2000001 7] := by
  decide +kernel

end WebhookActor

end TelegramBotApi
