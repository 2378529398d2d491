import TelegramBotApi.GetUpdatesDelivery
import Mathlib.Data.List.Nodup
import Mathlib.Data.List.Perm.Subperm

/-!
# The warning about updates that nobody fetches

The client tells TDLib when many updates of the bot are pending and neither `getUpdates` nor a webhook takes
them, and tells it again when the backlog is gone. The record joins the members about this warning with the
`getUpdates` part of the client. Whether a webhook is set is an input of the steps that ask for it, and what
the webhook actor and the storage itself do to the queue is an input, too.
-/

namespace TelegramBotApi

structure ClientBacklog where
  updates : ClientUpdates := {}
  wasBotUpdatesWarning : Bool := false
  nextBotUpdatesWarningTime : Int := 0
  /-- The numbers of pending updates that were sent with `setBotUpdatesStatus`. -/
  statuses : List Nat := []

inductive BacklogEvent where
  | addUpdate (first : FirstEventId) (data : Slice) (expiresAt extra : Int) (hasWebhook : Bool)
  | getUpdates (query : BotQuery) (hasWebhook : Bool)
  /-- The time of `long_poll_slot_` has come. -/
  | rawEvent
  | webhookSuccess
  | webhookError
  /-- A `setWebhook` request; one that sets another webhook terminates the long poll. -/
  | setWebhook (terminates : Bool)
  /-- The webhook actor, or the storage itself, has changed the queue. -/
  | tqueueChanged (tqueue : { q : TQueue // q.Tidy })

structure BacklogInput where
  event : BacklogEvent
  now : Int
  unixTime : Int

namespace ClientBacklog

def minPendingUpdatesWarning : Nat := 200

def botUpdatesWarningDelay : Int := 30 * ClientUpdates.second

variable (s : ClientBacklog)

def getPendingUpdateCount : Nat := s.updates.tqueue.size

/-- `setBotUpdatesStatus` with the number of pending updates, if there are many and it is time to warn. -/
def warn (now : Int) : ClientBacklog :=
  if minPendingUpdatesWarning ≤ s.getPendingUpdateCount ∧ s.nextBotUpdatesWarningTime < now then
    { s with
      statuses := s.statuses ++ [s.getPendingUpdateCount]
      nextBotUpdatesWarningTime := now + botUpdatesWarningDelay
      wasBotUpdatesWarning := true }
  else s

/-- `setBotUpdatesStatus` without pending updates, after a warning. -/
def unwarn : ClientBacklog :=
  if s.wasBotUpdatesWarning then { s with statuses := s.statuses ++ [0], wasBotUpdatesWarning := false } else s

def webhookSuccess (now : Int) : ClientBacklog :=
  { s with nextBotUpdatesWarningTime := now + botUpdatesWarningDelay }.unwarn

def webhookError (now : Int) : ClientBacklog := s.warn now

/-- `do_get_updates`, with the number of updates that it compares before it takes the warning back. -/
def doGetUpdates (offset : Int) (limit : Nat) (timeout : Int) (query : Nat) (now unixTime : Int) : ClientBacklog :=
  let q := ClientUpdates.clearedQueue s.updates.tqueue offset
  let t := { s with updates := s.updates.doGetUpdates offset limit timeout query now unixTime }
  match ClientUpdates.readQueue q (ClientUpdates.readOffset q offset) limit unixTime with
  | none => t
  | some (_, updates, totalSize) =>
    let totalSize := totalSize - updates.length
    if timeout ≠ 0 ∧ updates = [] then t
    else
      let t := { t with nextBotUpdatesWarningTime := now + botUpdatesWarningDelay }
      if totalSize = updates.length then t.unwarn else t

def longPollWakeup (force : Bool) (now unixTime : Int) : ClientBacklog :=
  match s.updates.longPoll with
  | none => s.warn now
  | some longPoll =>
    if force then
      { s with updates := { s.updates with longPoll := none } }.doGetUpdates
        longPoll.offset longPoll.limit 0 longPoll.query now unixTime
    else { s with updates := s.updates.longPollWakeup false now unixTime }

/-- `add_update_impl` with an update of an allowed type. -/
def addUpdate (first : FirstEventId) (data : Slice) (expiresAt extra : Int) (hasWebhook : Bool)
    (now unixTime : Int) : ClientBacklog :=
  match s.updates.tqueue.push first data expiresAt extra with
  | .error _ => s
  | .ok q =>
    let s := { s with updates := { s.updates with
      tqueue := q
      pushed := s.updates.pushed ++ q.events.getLast?.toList } }
    if hasWebhook then s else s.longPollWakeup false now unixTime

def processGetUpdatesQuery (query : BotQuery) (hasWebhook : Bool) (id : Nat) (now unixTime : Int) : ClientBacklog :=
  if hasWebhook then
    let message := "Conflict: can't use getUpdates method while webhook is active; " ++
      "use deleteWebhook to delete the webhook first"
    { s with updates := s.updates.failQueryConflict message id now }
  else
    { s with updates := { s.updates with
      previousGetUpdatesOffset := ClientUpdates.getUpdatesOffset query
      previousGetUpdatesStartTime := now } }.doGetUpdates (ClientUpdates.getUpdatesOffset query)
        (s.updates.getUpdatesLimit query now).toNat (s.updates.getUpdatesTimeout query now) id now unixTime

def step (s : ClientBacklog) (x : BacklogInput) : ClientBacklog :=
  if s.updates.crashed then s
  else match x.event with
    | .addUpdate first data expiresAt extra hasWebhook =>
      s.addUpdate first data expiresAt extra hasWebhook x.now x.unixTime
    | .getUpdates query hasWebhook =>
      { s with updates := { s.updates with nextQuery := s.updates.nextQuery + 1 } }.processGetUpdatesQuery
        query hasWebhook s.updates.nextQuery x.now x.unixTime
    | .rawEvent => s.longPollWakeup true x.now x.unixTime
    | .webhookSuccess => s.webhookSuccess x.now
    | .webhookError => s.webhookError x.now
    | .setWebhook terminates =>
      { s with
        updates := if terminates then s.updates.abortLongPoll true x.now else s.updates
        nextBotUpdatesWarningTime := max s.nextBotUpdatesWarningTime (x.now + botUpdatesWarningDelay) }
    | .tqueueChanged tqueue => { s with updates := { s.updates with tqueue := tqueue } }

/-! ### What an answer says about the backlog -/

def given (s t : ClientBacklog) : List (Nat × UpdatesAnswer) := t.updates.answers.drop s.updates.answers.length

/-- An answer with every pending update leaves no warning, and one that leaves updates behind does not take the
warning back. -/
def Follows (s t : ClientBacklog) : Prop :=
  ∀ query events, (query, .updates events) ∈ given s t →
    ((∀ e ∈ t.updates.tqueue.updates, e ∈ events) → t.wasBotUpdatesWarning = false ∧
      (s.wasBotUpdatesWarning = true → t.statuses = s.statuses ++ [0])) ∧
    ((∃ e ∈ t.updates.tqueue.updates, e ∉ events) → t.wasBotUpdatesWarning = s.wasBotUpdatesWarning)

/-- What the call of a step reads: the updates to return, and the number of those behind them. -/
def reading (s : ClientBacklog) (x : BacklogInput) : Option (List TQueueEvent × Nat) :=
  let read (offset : Int) (limit : Nat) :=
    let q := ClientUpdates.clearedQueue s.updates.tqueue offset
    (ClientUpdates.readQueue q (ClientUpdates.readOffset q offset) limit x.unixTime).map fun r =>
      (r.2.1, r.2.2 - r.2.1.length)
  match x.event with
  | .getUpdates query false =>
    read (ClientUpdates.getUpdatesOffset query) (s.updates.getUpdatesLimit query x.now).toNat
  | .rawEvent => s.updates.longPoll.bind fun longPoll => read longPoll.offset longPoll.limit
  | _ => none

/-- After a warning, as many updates are not left behind as are returned, and if none is left behind they do not
all fit into the answer. -/
def Judged (s : ClientBacklog) (x : BacklogInput) : Prop :=
  s.wasBotUpdatesWarning = true → ∀ updates left, s.reading x = some (updates, left) → updates ≠ [] →
    left ≠ updates.length ∧ (left = 0 → ClientUpdates.jsonUpdates (2 ^ 22) updates ≠ updates)

structure Sound (s : ClientBacklog) : Prop where
  crashed : s.updates.crashed = false
  tidy : s.updates.tqueue.Tidy

variable {s : ClientBacklog}

theorem nodup_updates (q : TQueue) : q.updates.Nodup := by
  have hids : (q.updates.map (·.id)).Nodup :=
    (q.sorted.sublist (List.filter_sublist.map _)).imp fun hlt => Int.ne_of_lt hlt
  exact List.Nodup.of_map _ hids

structure ReadFor (s : ClientBacklog) (offset : Int) (limit : Nat) (unixTime : Int) (q : TQueue)
    (updates : List TQueueEvent) (left : Nat) : Prop where
  read : ClientUpdates.readQueue (ClientUpdates.clearedQueue s.updates.tqueue offset)
    (ClientUpdates.readOffset (ClientUpdates.clearedQueue s.updates.tqueue offset) offset) limit unixTime =
      some (q, updates, updates.length + left)
  tidy : q.Tidy
  returned : updates.Sublist q.updates
  size : q.updates.length = updates.length + left

theorem readQueue_size {q q' : TQueue} {offset unixTime : Int} {limit n : Nat} {r : List TQueueEvent}
    (hempty : offset ≤ 0 → q.events = []) (h : ClientUpdates.readQueue q offset limit unixTime = some (q', r, n)) :
    n = q'.size := by
  have hnil : ∀ q : TQueue, q.events = [] → 0 = q.size := fun q hq => by
    unfold TQueue.size
    rw [hq]
    exact (Nat.zero_sub _).symm
  have hget : ∀ fromId, (q.getForget fromId unixTime limit).toOption = some (q', r, n) → n = q'.size := by
    intro fromId hfrom
    unfold TQueue.getForget at hfrom
    split_ifs at hfrom with htail
    · cases hfrom
      exact hnil q (TQueue.events_eq_nil_of_tail (by omega))
    · cases hfrom
    · cases hfrom
    · cases hfrom
      rfl
  unfold ClientUpdates.readQueue at h
  split_ifs at h with hoffset hmax
  · cases h
    exact hnil q (hempty hoffset)
  · split at h
    · rename_i r' hr'
      cases h
      exact hget offset hr'
    · exact hget q.head h
  · exact hget q.head h

theorem exists_readFor (h : Sound s) (offset : Int) (limit : Nat) (unixTime : Int) :
    ∃ q updates left, ReadFor s offset limit unixTime q updates left := by
  obtain ⟨q, r, n, hread, hspec⟩ := ClientUpdates.exists_read (ClientUpdates.clearedQueue s.updates.tqueue offset)
    (ClientUpdates.readOffset (ClientUpdates.clearedQueue s.updates.tqueue offset) offset) unixTime limit
    ClientUpdates.events_eq_nil_of_readOffset
  have htidy := hspec.tidy (ClientUpdates.tidy_clearedQueue h.tidy offset)
  have hsize : n = q.updates.length :=
    (readQueue_size ClientUpdates.events_eq_nil_of_readOffset hread).trans htidy.size_eq
  have hle := hspec.size
  refine ⟨q, r, n - r.length, ?_, htidy, ?_, by omega⟩
  · rw [hread, Nat.add_sub_cancel' hle]
  · rw [hspec.returned]
    refine (List.take_sublist _ _).trans ?_
    unfold TQueue.live TQueue.updates TQueueEvent.isLive
    refine List.monotone_filter_right _ fun e he => ?_
    exact decide_eq_true (of_decide_eq_true he).1

theorem ReadFor.doGetUpdates_eq {offset : Int} {limit : Nat} {unixTime : Int} {q : TQueue}
    {updates : List TQueueEvent} {left : Nat} (h : ReadFor s offset limit unixTime q updates left) (timeout : Int)
    (query : Nat) (now : Int) :
    s.doGetUpdates offset limit timeout query now unixTime =
      if timeout ≠ 0 ∧ updates = [] then
        { s with updates := { (s.updates.afterRead q unixTime).abortLongPoll false now with
          longPoll := some (ClientUpdates.parked query
            (ClientUpdates.readOffset (ClientUpdates.clearedQueue s.updates.tqueue offset) offset)
            limit timeout now) } }
      else
        let t := { s with
          updates := (s.updates.afterRead q unixTime).answer query
            (.updates (ClientUpdates.jsonUpdates (2 ^ 22) updates))
          nextBotUpdatesWarningTime := now + botUpdatesWarningDelay }
        if left = updates.length then t.unwarn else t := by
  have hupdates : s.updates.doGetUpdates offset limit timeout query now unixTime =
      if timeout ≠ 0 ∧ updates = [] then
        { (s.updates.afterRead q unixTime).abortLongPoll false now with
          longPoll := some (ClientUpdates.parked query
            (ClientUpdates.readOffset (ClientUpdates.clearedQueue s.updates.tqueue offset) offset)
            limit timeout now) }
      else (s.updates.afterRead q unixTime).answer query
        (.updates (ClientUpdates.jsonUpdates (2 ^ 22) updates)) :=
    ClientUpdates.doGetUpdates_eq h.read (Nat.le_add_right _ _) timeout query now
  unfold doGetUpdates
  dsimp only
  rw [h.read, hupdates]
  dsimp only
  rw [Nat.add_sub_cancel_left]
  split_ifs <;> rfl

theorem given_append (s t : ClientBacklog) (answers : List (Nat × UpdatesAnswer))
    (h : t.updates.answers = s.updates.answers ++ answers) : given s t = answers := by
  unfold given
  rw [h, List.drop_left]

/-- A step that answers no call with updates says nothing about the backlog. -/
theorem follows_of_conflicts {t : ClientBacklog} (h : ∀ query events, (query, .updates events) ∉ given s t) :
    Follows s t := fun query events hgiven => absurd hgiven (h query events)

/-- Every pending update is in the answer exactly when none is left behind and all fit. -/
theorem ReadFor.all_given_iff {offset : Int} {limit : Nat} {unixTime : Int} {q : TQueue}
    {updates : List TQueueEvent} {left : Nat} (h : ReadFor s offset limit unixTime q updates left) :
    (∀ e ∈ q.updates, e ∈ ClientUpdates.jsonUpdates (2 ^ 22) updates) ↔
      left = 0 ∧ ClientUpdates.jsonUpdates (2 ^ 22) updates = updates := by
  have hprefix := ClientUpdates.jsonUpdates_isPrefix (2 ^ 22) updates
  have hsize := h.size
  refine ⟨fun hall => ?_, fun hboth e he => ?_⟩
  · have hle := (List.subperm_of_subset (nodup_updates q) hall).length_le
    have hjson := hprefix.length_le
    exact ⟨by omega, hprefix.eq_of_length (by omega)⟩
  · have hall : updates = q.updates := h.returned.eq_of_length (by omega)
    rw [hboth.2, hall]
    exact he

/-- The answer of a call follows the backlog exactly when the numbers that are compared tell it. -/
theorem ReadFor.follows_iff {offset : Int} {limit : Nat} {unixTime : Int} {q : TQueue}
    {updates : List TQueueEvent} {left : Nat} (h : ReadFor s offset limit unixTime q updates left) (query : Nat)
    (now : Int) :
    let t := { s with
      updates := (s.updates.afterRead q unixTime).answer query
        (.updates (ClientUpdates.jsonUpdates (2 ^ 22) updates))
      nextBotUpdatesWarningTime := now + botUpdatesWarningDelay }
    Follows s (if left = updates.length then t.unwarn else t) ↔
      (s.wasBotUpdatesWarning = true → updates ≠ [] →
        left ≠ updates.length ∧ (left = 0 → ClientUpdates.jsonUpdates (2 ^ 22) updates ≠ updates)) := by
  intro t
  have hgiven : given s (if left = updates.length then t.unwarn else t) =
      [(query, .updates (ClientUpdates.jsonUpdates (2 ^ 22) updates))] := by
    refine given_append s _ _ ?_
    split_ifs
    · unfold unwarn
      split_ifs <;> rfl
    · rfl
  have hqueue : (if left = updates.length then t.unwarn else t).updates.tqueue = q := by
    split_ifs
    · unfold unwarn
      split_ifs <;> rfl
    · rfl
  have hfollows : Follows s (if left = updates.length then t.unwarn else t) ↔
      ((left = 0 ∧ ClientUpdates.jsonUpdates (2 ^ 22) updates = updates) →
        (if left = updates.length then t.unwarn else t).wasBotUpdatesWarning = false ∧
        (s.wasBotUpdatesWarning = true →
          (if left = updates.length then t.unwarn else t).statuses = s.statuses ++ [0])) ∧
      (¬ (left = 0 ∧ ClientUpdates.jsonUpdates (2 ^ 22) updates = updates) →
        (if left = updates.length then t.unwarn else t).wasBotUpdatesWarning = s.wasBotUpdatesWarning) := by
    unfold Follows
    rw [hgiven, hqueue]
    have hsome : (∃ e ∈ q.updates, e ∉ ClientUpdates.jsonUpdates (2 ^ 22) updates) ↔
        ¬ (left = 0 ∧ ClientUpdates.jsonUpdates (2 ^ 22) updates = updates) := by
      rw [← h.all_given_iff]
      push Not
      exact Iff.rfl
    refine ⟨fun hall => ?_, fun hboth _ _ hmem => ?_⟩
    · have hanswer := hall query _ List.mem_cons_self
      rw [h.all_given_iff, hsome] at hanswer
      exact hanswer
    · cases List.mem_singleton.1 hmem
      rw [h.all_given_iff, hsome]
      exact hboth
  rw [hfollows]
  cases hwarned : s.wasBotUpdatesWarning with
  | false =>
      have hsame : (if left = updates.length then t.unwarn else t) = t := by
        have hunwarn : t.unwarn = t := if_neg (ne_true_of_eq_false hwarned)
        rw [hunwarn, ite_self]
      rw [hsame]
      refine iff_of_true ⟨fun _ => ⟨hwarned, fun hfalse => ?_⟩, fun _ => hwarned⟩ fun hfalse => ?_
      · cases hfalse
      · cases hfalse
  | true =>
      have hunwarn : t.unwarn = { t with statuses := t.statuses ++ [0], wasBotUpdatesWarning := false } :=
        if_pos hwarned
      by_cases hleft : left = updates.length
      · rw [if_pos hleft, hunwarn]
        refine ⟨fun hboth _ hne => ?_, fun hcond => ⟨fun _ => ⟨rfl, fun _ => rfl⟩, fun hnot => ?_⟩⟩
        · have hpos : left ≠ 0 := by
            rw [hleft]
            exact fun hzero => hne (List.length_eq_zero_iff.1 hzero)
          exact absurd (hboth.2 fun hzero => hpos hzero.1) Bool.false_ne_true
        · have hnil : updates = [] := by
            by_contra hne
            exact (hcond rfl hne).1 hleft
          refine absurd ⟨?_, ?_⟩ hnot
          · rw [hleft, hnil]
            rfl
          · rw [hnil]
            rfl
      · rw [if_neg hleft]
        refine ⟨fun hboth _ _ => ⟨hleft, fun hzero hall => ?_⟩, fun hcond => ⟨fun hall => ?_, fun _ => hwarned⟩⟩
        · have hcleared := (hboth.1 ⟨hzero, hall⟩).1
          exact absurd (hwarned.symm.trans hcleared) (by decide)
        · have hne : updates ≠ [] := fun hnil => hleft (by rw [hall.1, hnil]; rfl)
          exact absurd hall.2 ((hcond rfl hne).2 hall.1)

def OnlyConflicts (answers answers' : List (Nat × UpdatesAnswer)) : Prop :=
  ∃ added, answers' = answers ++ added ∧ ∀ query events, (query, UpdatesAnswer.updates events) ∉ added

theorem OnlyConflicts.refl (answers : List (Nat × UpdatesAnswer)) : OnlyConflicts answers answers :=
  ⟨[], (List.append_nil _).symm, fun _ _ => List.not_mem_nil⟩

theorem OnlyConflicts.follows {t : ClientBacklog} (h : OnlyConflicts s.updates.answers t.updates.answers) :
    Follows s t := by
  obtain ⟨added, hadded, hnone⟩ := h
  refine follows_of_conflicts fun query events hgiven => hnone query events ?_
  rw [given_append s t added hadded] at hgiven
  exact hgiven

theorem onlyConflicts_failQueryConflict (u : ClientUpdates) (message : String) (query : Nat) (now : Int) :
    OnlyConflicts u.answers (u.failQueryConflict message query now).answers := by
  unfold ClientUpdates.failQueryConflict
  split_ifs
  · refine ⟨[(query, .conflict message)], rfl, fun _ _ hmem => ?_⟩
    cases List.mem_singleton.1 hmem
  · exact .refl _

theorem onlyConflicts_abortLongPoll (u : ClientUpdates) (fromSetWebhook : Bool) (now : Int) :
    OnlyConflicts u.answers (u.abortLongPoll fromSetWebhook now).answers := by
  unfold ClientUpdates.abortLongPoll
  cases u.longPoll with
  | none => exact .refl _
  | some l => exact onlyConflicts_failQueryConflict { u with longPoll := none } _ _ _

theorem unwarn_updates (s : ClientBacklog) : s.unwarn.updates = s.updates := by
  unfold unwarn
  split_ifs <;> rfl

theorem warn_updates (s : ClientBacklog) (now : Int) : (s.warn now).updates = s.updates := by
  unfold warn
  split_ifs <;> rfl

theorem Sound.of_updates {t : ClientBacklog} (h : Sound s) (hupdates : t.updates = s.updates) : Sound t :=
  ⟨hupdates ▸ h.crashed, hupdates ▸ h.tidy⟩

/-- A call keeps the queue tidy, and follows the backlog exactly when the numbers that are compared tell it. -/
theorem Sound.doGetUpdates (h : Sound s) (offset : Int) (limit : Nat) (timeout : Int) (query : Nat)
    (now unixTime : Int) :
    Sound (s.doGetUpdates offset limit timeout query now unixTime) ∧
      (Follows s (s.doGetUpdates offset limit timeout query now unixTime) ↔
        (s.wasBotUpdatesWarning = true → ∀ updates left,
          (ClientUpdates.readQueue (ClientUpdates.clearedQueue s.updates.tqueue offset)
            (ClientUpdates.readOffset (ClientUpdates.clearedQueue s.updates.tqueue offset) offset) limit
            unixTime).map (fun r => (r.2.1, r.2.2 - r.2.1.length)) = some (updates, left) → updates ≠ [] →
          left ≠ updates.length ∧ (left = 0 → ClientUpdates.jsonUpdates (2 ^ 22) updates ≠ updates))) := by
  obtain ⟨q, r, left, hread⟩ := exists_readFor h offset limit unixTime
  have hcond : (s.wasBotUpdatesWarning = true → ∀ updates left',
        (ClientUpdates.readQueue (ClientUpdates.clearedQueue s.updates.tqueue offset)
          (ClientUpdates.readOffset (ClientUpdates.clearedQueue s.updates.tqueue offset) offset) limit
          unixTime).map (fun r => (r.2.1, r.2.2 - r.2.1.length)) = some (updates, left') → updates ≠ [] →
        left' ≠ updates.length ∧ (left' = 0 → ClientUpdates.jsonUpdates (2 ^ 22) updates ≠ updates)) ↔
      (s.wasBotUpdatesWarning = true → r ≠ [] →
        left ≠ r.length ∧ (left = 0 → ClientUpdates.jsonUpdates (2 ^ 22) r ≠ r)) := by
    rw [hread.read, Option.map_some]
    dsimp only
    rw [Nat.add_sub_cancel_left]
    refine imp_congr_right fun _ => ⟨fun hall => hall r left rfl, fun hone _ _ heq => ?_⟩
    cases heq
    exact hone
  rw [hread.doGetUpdates_eq timeout query now, hcond]
  by_cases hwait : timeout ≠ 0 ∧ r = []
  · rw [if_pos hwait]
    obtain ⟨hq, -, -, -, hcrashed⟩ := (s.updates.afterRead q unixTime).abortLongPoll_frame false now
    refine ⟨⟨hcrashed.trans h.crashed, ?_⟩, iff_of_true ?_ fun _ hne => absurd hwait.2 hne⟩
    · change ((s.updates.afterRead q unixTime).abortLongPoll false now).tqueue.Tidy
      rw [hq]
      exact hread.tidy
    · exact OnlyConflicts.follows (onlyConflicts_abortLongPoll (s.updates.afterRead q unixTime) false now)
  · rw [if_neg hwait]
    refine ⟨?_, hread.follows_iff query now⟩
    have hsound : Sound { s with
        updates := (s.updates.afterRead q unixTime).answer query
          (.updates (ClientUpdates.jsonUpdates (2 ^ 22) r))
        nextBotUpdatesWarningTime := now + botUpdatesWarningDelay } := ⟨h.crashed, hread.tidy⟩
    dsimp only
    split_ifs
    · exact hsound.of_updates (unwarn_updates _)
    · exact hsound

theorem tidy_push {q q' : TQueue} (h : q.Tidy) {first : FirstEventId} {data : Slice} {expiresAt extra : Int}
    (hpush : q.push first data expiresAt extra = .ok q') : q'.Tidy := by
  unfold TQueue.push at hpush
  split_ifs at hpush
  cases hpush
  refine TQueue.Tidy.append ?_ _ _ _ _ _
  unfold TQueue.withNextId
  split_ifs
  · exact h
  · exact TQueue.tidy_started first

/-- A wake-up that does not end the long poll answers nothing. -/
theorem Sound.wakeup (h : Sound s) (now unixTime : Int) : Sound (s.longPollWakeup false now unixTime) ∧
    (s.longPollWakeup false now unixTime).updates.answers = s.updates.answers := by
  unfold longPollWakeup
  cases s.updates.longPoll with
  | none => exact ⟨h.of_updates (warn_updates s now), by rw [warn_updates]⟩
  | some l =>
      obtain ⟨hquiet, hqueue, -⟩ := ClientUpdates.longPollWakeup_quiet s.updates now unixTime
      refine ⟨⟨hquiet.crashed.trans h.crashed, ?_⟩, hquiet.answers⟩
      change (s.updates.longPollWakeup false now unixTime).tqueue.Tidy
      rw [hqueue]
      exact h.tidy

theorem Sound.step (h : Sound s) (x : BacklogInput) :
    Sound (s.step x) ∧ (Follows s (s.step x) ↔ Judged s x) := by
  have hquiet : ∀ {t : ClientBacklog}, Sound t → OnlyConflicts s.updates.answers t.updates.answers →
      s.reading x = none → Sound t ∧ (Follows s t ↔ Judged s x) := fun hsound hconflicts hnone =>
    ⟨hsound, iff_of_true hconflicts.follows fun _ _ _ heq => by rw [hnone] at heq; cases heq⟩
  obtain ⟨event, now, unixTime⟩ := x
  unfold ClientBacklog.step
  rw [if_neg (ne_true_of_eq_false h.crashed)]
  cases event with
  | addUpdate first data expiresAt extra hasWebhook =>
      dsimp only
      unfold addUpdate
      split
      · exact hquiet h (.refl _) rfl
      · rename_i q hpush
        have hadded : Sound { s with updates := { s.updates with
            tqueue := q, pushed := s.updates.pushed ++ q.events.getLast?.toList } } :=
          ⟨h.crashed, tidy_push h.tidy hpush⟩
        dsimp only
        split_ifs
        · exact hquiet hadded (.refl _) rfl
        · obtain ⟨hsound, hanswers⟩ := hadded.wakeup now unixTime
          refine hquiet hsound ?_ rfl
          rw [hanswers]
          exact .refl _
  | getUpdates query hasWebhook =>
      dsimp only
      unfold processGetUpdatesQuery
      cases hasWebhook with
      | true =>
          have hframe := ClientUpdates.failQueryConflict_frame { s.updates with nextQuery := s.updates.nextQuery + 1 }
            ("Conflict: can't use getUpdates method while webhook is active; " ++
              "use deleteWebhook to delete the webhook first") s.updates.nextQuery now
          obtain ⟨hqueue, -, -, -, hcrashed⟩ := hframe
          have htidy := h.tidy
          change s.updates.tqueue.Tidy at htidy
          refine hquiet ⟨hcrashed.trans h.crashed, ?_⟩
            (onlyConflicts_failQueryConflict { s.updates with nextQuery := s.updates.nextQuery + 1 } _ _ _) rfl
          rw [← hqueue] at htidy
          exact htidy
      | false =>
          exact Sound.doGetUpdates (s := { s with updates := { s.updates with
            nextQuery := s.updates.nextQuery + 1
            previousGetUpdatesOffset := ClientUpdates.getUpdatesOffset query
            previousGetUpdatesStartTime := now } }) ⟨h.crashed, h.tidy⟩ _ _ _ _ _ _
  | rawEvent =>
      dsimp only
      unfold longPollWakeup
      cases hpoll : s.updates.longPoll with
      | none =>
          refine hquiet (h.of_updates (warn_updates s now)) ?_ ?_
          · rw [warn_updates]
            exact .refl _
          · unfold reading
            rw [hpoll]
            rfl
      | some l =>
          have hcall := Sound.doGetUpdates (s := { s with updates := { s.updates with longPoll := none } })
            ⟨h.crashed, h.tidy⟩ l.offset l.limit 0 l.query now unixTime
          have hreading : s.reading ⟨.rawEvent, now, unixTime⟩ =
              (ClientUpdates.readQueue (ClientUpdates.clearedQueue s.updates.tqueue l.offset)
                (ClientUpdates.readOffset (ClientUpdates.clearedQueue s.updates.tqueue l.offset) l.offset) l.limit
                unixTime).map fun r => (r.2.1, r.2.2 - r.2.1.length) := by
            unfold reading
            rw [hpoll]
            rfl
          unfold Judged
          rw [hreading]
          exact hcall
  | webhookSuccess =>
      refine hquiet (Sound.of_updates h (unwarn_updates _)) ?_ rfl
      dsimp only
      unfold webhookSuccess
      rw [unwarn_updates]
      exact .refl _
  | webhookError =>
      refine hquiet (Sound.of_updates h (warn_updates s now)) ?_ rfl
      dsimp only
      unfold webhookError
      rw [warn_updates]
      exact .refl _
  | setWebhook terminates =>
      cases terminates with
      | true =>
          obtain ⟨hq, -, -, -, hcrashed⟩ := s.updates.abortLongPoll_frame true now
          exact hquiet ⟨hcrashed.trans h.crashed, hq ▸ h.tidy⟩ (onlyConflicts_abortLongPoll s.updates true now) rfl
      | false => exact hquiet ⟨h.crashed, h.tidy⟩ (.refl _) rfl
  | tqueueChanged tqueue => exact hquiet ⟨h.crashed, tqueue.2⟩ (.refl _) rfl

theorem sound_initial : Sound {} := ⟨rfl, TQueue.tidy_absent⟩

/-- The warning follows the backlog in every answer of a run if and only if no call after a warning leaves as
many updates as it returns, or returns the last ones. -/
theorem warning_follows_backlog (xs : List BacklogInput) :
    StepRun.AllSteps step (fun s x => Follows s (s.step x)) {} xs ↔ StepRun.AllSteps step Judged {} xs :=
  StepRun.allSteps_congr (I := Sound) (fun _ x h _ => (h.step x).1) (fun _ x h => (h.step x).2) sound_initial xs

/-- After 200 updates and a warning, a call takes the last of them only and forgets the others. -/
theorem backlog_misjudged :
    let pushes : List BacklogInput := List.replicate 200
      ⟨.addUpdate ⟨2000001, by decide, by decide⟩ "1".toList 1000 0 false, 700, 1⟩
    let query : BotQuery := { token := [], method := [], args := [("offset".toList, "-1".toList)] }
    let s := StepRun.run step {} pushes
    let t := s.step ⟨.getUpdates query false, 800, 1⟩
    (given s t = [(0, .updates t.updates.tqueue.updates)] ∧ t.wasBotUpdatesWarning = true) ∧
      ¬ ∀ xs, StepRun.AllSteps step (fun s x => Follows s (s.step x)) {} xs := by
  intro pushes query s t
  have heval : given s t = [(0, .updates t.updates.tqueue.updates)] ∧ t.wasBotUpdatesWarning = true := by
    decide +kernel
  refine ⟨heval, fun h => ?_⟩
  have hall := h (pushes ++ [⟨.getUpdates query false, 800, 1⟩])
  rw [StepRun.allSteps_concat] at hall
  have hlast : Follows s t := hall.2
  have hgiven : (0, UpdatesAnswer.updates t.updates.tqueue.updates) ∈ given s t := by
    rw [heval.1]
    exact List.mem_cons_self
  have hfalse := ((hlast 0 _ hgiven).1 fun _ he => he).1
  exact Bool.false_ne_true (hfalse.symm.trans heval.2)

end ClientBacklog

end TelegramBotApi
