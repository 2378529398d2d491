import TelegramBotApi.WebhookMoves
import TelegramBotApi.KeyedFifo

/-!
# The order of deliveries

The log of a schedule is a legal history of queues with keys: an update is pushed when it is loaded,
served when it is sent and dropped when it is forgotten. What `KeyedFifo` says about such histories
therefore holds of the deliveries. An update is forgotten only in a step that begins with an answer of
the connection that carries it.
-/

namespace TelegramBotApi

namespace WebhookEntry

def op : WebhookEntry → KeyedFifo.Op Int Int
  | .loaded event queue => .push queue event
  | .sent _ event => .serve event
  | .forgotten event => .drop event

/-- The event that the entry says was loaded. -/
def loadedId : WebhookEntry → Option Int
  | .loaded event _ => some event
  | _ => none

end WebhookEntry

namespace WebhookSchedule

variable {cfg : WebhookConfig} {reads : TQueueEvent → Prop} {event : WebhookEvent}
  {s t : WebhookSchedule} {eventId : Int} {u : WebhookUpdate} {rest : List Int}

def waiting (s : WebhookSchedule) (q : Int) : List Int := (s.queueUpdates.lookup q).getD []

/-- The queues are what a legal history makes of the log. -/
structure Follows (s : WebhookSchedule) : Prop where
  legal : StepRun.AllSteps KeyedFifo.step KeyedFifo.Legal (fun _ => []) (s.log.map WebhookEntry.op)
  queues : StepRun.run KeyedFifo.step (fun _ => []) (s.log.map WebhookEntry.op) = s.waiting

theorem follows_empty : Follows {} := ⟨trivial, rfl⟩

theorem Follows.same (h : s.Follows) (hlog : t.log = s.log) (hqueues : t.queueUpdates = s.queueUpdates) :
    t.Follows := by
  have hwaiting : t.waiting = s.waiting := by
    funext q
    unfold waiting
    rw [hqueues]
  refine ⟨?_, ?_⟩
  · rw [hlog]
    exact h.legal
  · rw [hlog, hwaiting]
    exact h.queues

theorem Follows.concat (h : s.Follows) {entry : WebhookEntry} (hlog : t.log = s.log ++ [entry])
    (hlegal : KeyedFifo.Legal s.waiting entry.op)
    (hqueues : t.waiting = KeyedFifo.step s.waiting entry.op) : t.Follows := by
  have hmap : t.log.map WebhookEntry.op = s.log.map WebhookEntry.op ++ [entry.op] := by
    rw [hlog, List.map_append]
    rfl
  refine ⟨?_, ?_⟩
  · rw [hmap, StepRun.allSteps_concat, h.queues]
    exact ⟨h.legal, hlegal⟩
  · rw [hmap, StepRun.run_concat, h.queues, hqueues]

theorem Integrity.notMem_waiting (h : s.Integrity) (hnew : s.updateMap.lookup eventId = none) (q : Int) :
    eventId ∉ s.waiting q := by
  unfold waiting
  cases hq : s.queueUpdates.lookup q with
  | none => simp
  | some ids =>
      intro hmem
      obtain ⟨u, hu, -⟩ := (h.queue hq).2.2.2 eventId hmem
      rw [hnew] at hu
      cases hu

theorem Follows.withUpdate (h : s.Follows) (hi : s.Integrity) (now : Int) (e : TQueueEvent)
    (hnew : s.updateMap.lookup e.id = none) : (s.withUpdate now e).Follows := by
  refine h.concat rfl (hi.notMem_waiting hnew) ?_
  funext q
  simp only [waiting, WebhookSchedule.withUpdate, WebhookEntry.op, KeyedFifo.step,
    Function.update_apply]
  split_ifs with hq
  · subst hq
    rw [AList.lookup_insert]
    rfl
  · rw [AList.lookup_insert_ne hq]

theorem Leads.head? (hf : s.Leads eventId u rest) : (s.waiting u.queueId).head? = some eventId := by
  unfold waiting
  rw [hf.front]
  rfl

/-- No other queue starts with the event. -/
theorem Leads.head?_other (hf : s.Leads eventId u rest) (hi : s.Integrity) {q : Int}
    (hq : q ≠ u.queueId) : (s.waiting q).head? ≠ some eventId := by
  unfold waiting
  cases hl : s.queueUpdates.lookup q with
  | none => simp
  | some ids =>
      intro hhead
      obtain ⟨v, hv, rfl⟩ := (hi.queue hl).2.2.2 eventId (List.mem_of_head? hhead)
      rw [hf.update] at hv
      exact hq (by rw [Option.some.inj hv])

theorem withoutEvent_waiting (hf : s.Leads eventId u rest) (hi : s.Integrity) :
    (s.withoutEvent eventId u.queueId rest).waiting = KeyedFifo.step s.waiting (.drop eventId) := by
  have hqueues : (s.withoutEvent eventId u.queueId rest).queueUpdates =
      (s.removeFront eventId u.queueId rest).queueUpdates := by
    cases rest <;> rfl
  funext q
  simp only [KeyedFifo.step]
  by_cases hq : q = u.queueId
  · subst hq
    rw [if_pos hf.head?]
    unfold waiting
    rw [hqueues, removeFront_lookup, hf.front]
    cases rest <;> rfl
  · rw [if_neg (hf.head?_other hi hq)]
    unfold waiting
    rw [hqueues, removeFront_lookup_ne hq]

theorem Follows.withoutEvent (h : s.Follows) (hi : s.Integrity) (hf : s.Leads eventId u rest) :
    (s.withoutEvent eventId u.queueId rest).Follows := by
  have hlog : (s.withoutEvent eventId u.queueId rest).log = s.log ++ [.forgotten eventId] := by
    cases rest <;> rfl
  exact h.concat hlog ⟨u.queueId, hf.head?⟩ (withoutEvent_waiting hf hi)

theorem Follows.loopMove (h : s.Follows) (hi : s.Integrity) (hmove : LoopMove cfg reads s t) :
    t.Follows := by
  cases hmove with
  | load now e hreads hid hnew hroom => exact h.withUpdate hi now e hnew
  | connect ipGeneration hroom => exact h.same rfl rfl
  | send now ok hsend =>
      cases hsend with
      | idle => exact h
      | tooLong w q eventId queues u hqueues hfront hu hq hheader => exact h.same rfl rfl
      | sent w q eventId c queues ready u hqueues hready hfront hu hq hheader =>
          obtain ⟨rest, hrest⟩ := hfront
          refine h.concat rfl ⟨q, ?_⟩ rfl
          unfold waiting
          rw [hrest]
          rfl

theorem Follows.releaseConnection (h : s.Follows) (c : Int) (close : Bool) :
    (s.releaseConnection c close).Follows := by
  cases close <;> exact h.same rfl rfl

theorem Follows.answered (h : s.Follows) (hi : s.Within cfg) (ha : WebhookActor.Answered s event t) :
    t.Follows := by
  cases ha with
  | unchanged => exact h
  | closed c connection hc hidle => exact h.releaseConnection c true
  | delivered c eventId u rest close hc hf hnot hconfirms =>
      obtain ⟨connection, hconn, hbusy⟩ := WebhookActor.Carries.connection hc
      exact (h.releaseConnection c close).withoutEvent
        (hi.toIntegrity.releaseConnection hconn fun _ => hbusy)
        (hi.toIntegrity.floating hc hf hnot close).toLeads
  | dropped c eventId u rest close input retryAfter hc hf hnot hfails hlate =>
      obtain ⟨connection, hconn, hbusy⟩ := WebhookActor.Carries.connection hc
      exact (h.releaseConnection c close).withoutEvent
        (hi.toIntegrity.releaseConnection hconn fun _ => hbusy)
        (hi.toIntegrity.floating hc hf hnot close).toLeads
  | retried c eventId u rest close input retryAfter hc hf hnot hfails hintime =>
      exact (h.releaseConnection c close).same rfl rfl

theorem Follows.changes (hwithin : s.Within cfg) (h : s.Follows)
    (hc : WebhookActor.Changes cfg event s t) : t.Follows := by
  obtain ⟨m, hanswer, hmoves⟩ := hc
  refine (hmoves.invariant (I := fun t => t.Within cfg ∧ t.Follows) ?_
    ⟨hanswer.within hwithin, h.answered hwithin hanswer⟩).2
  rintro a b ⟨ha, hfollows⟩ hmove
  exact ⟨hmove.within ha, hfollows.loopMove ha.toIntegrity hmove⟩

/-- In the log of a schedule an update is sent only after those loaded before it into its queue were
forgotten. -/
theorem Follows.sent_after (h : s.Follows) {l₁ l₂ m n : List WebhookEntry} {x y q c : Int}
    (hlog : s.log = l₁ ++ .loaded x q :: (l₂ ++ .loaded y q :: (m ++ .sent c y :: n))) :
    .forgotten x ∈ l₂ ++ m := by
  have hlegal := h.legal
  rw [hlog] at hlegal
  simp only [List.map_append, List.map_cons, WebhookEntry.op] at hlegal
  have hdrop := KeyedFifo.served_after_drop KeyedFifo.clean_empty hlegal
  rw [← List.map_append] at hdrop
  obtain ⟨entry, hmem, hentry⟩ := List.mem_map.1 hdrop
  cases entry with
  | loaded event queue => cases hentry
  | sent connection event => cases hentry
  | forgotten event =>
      cases hentry
      exact hmem

end WebhookSchedule

end TelegramBotApi
