import TelegramBotApi.GetUpdates

/-!
# What getUpdates confirms and delivers

`Read` says what one reading of the queue does: it returns the first live events from an offset on and
drops those before it. Every answer therefore is a beginning of the updates that were asked for. A
negative offset forgets one update too many when the last entry of the queue is only a placeholder and
more updates are left than it keeps; all other removals are confirmations. A bot that goes on behind the
last update it has received gets all of them in order.
-/

namespace TelegramBotApi

namespace ClientUpdates

variable {q q' : TQueue} {s t : ClientUpdates} {x : ClientUpdates.Input} {e : TQueueEvent} {offset now : Int}
  {limit n : Nat} {r : List TQueueEvent}

def Accepted (q : TQueue) (offset : Int) : Prop :=
  offset < maxEventId ∧ offset ≤ q.tailId + 10 ∧ q.head - 100000 ≤ offset

instance (q : TQueue) (offset : Int) : Decidable (Accepted q offset) := inferInstanceAs (Decidable (_ ∧ _ ∧ _))

/-- The identifier from which on a call returns updates. -/
def effectiveOffset (q : TQueue) (offset : Int) : Int :=
  if 0 < offset ∧ Accepted q offset then offset else (clearedQueue q offset).head

/-- The events `r`, at most `limit`, are read from `fromId` on, and `q'` is left. -/
structure Read (q : TQueue) (fromId unixTime : Int) (limit : Nat) (q' : TQueue) (r : List TQueueEvent) (n : Nat) :
    Prop where
  tailId : q'.tailId = q.tailId
  tidy : q.Tidy → q'.Tidy
  live : q'.live unixTime = (q.live unixTime).filter (fromId ≤ ·.id)
  returned : r = (q'.live unixTime).take limit
  size : r.length ≤ n
  kept : ∀ e ∈ q'.updates, e ∈ q.updates ∧ fromId ≤ e.id

theorem read_doGetForget (q : TQueue) (fromId now : Int) (limit : Nat) :
    Read q fromId now limit (q.doGetForget fromId now limit).1 (q.doGetForget fromId now limit).2
      (q.doGetForget fromId now limit).1.size where
  tailId := rfl
  tidy h := h.doGetForget fromId now limit
  live := q.live_doGetForget fromId now limit
  returned := by rw [q.returned_doGetForget, q.live_doGetForget]
  size := by
    rw [q.returned_doGetForget, ← q.live_doGetForget fromId now limit, List.length_take]
    have := (q.doGetForget fromId now limit).1.live_length_le_size now
    omega
  kept _ he := TQueue.updates_doGetForget he

/-- An empty queue is left as it is. -/
theorem read_empty (h : q.events = []) (fromId now : Int) (limit : Nat) : Read q fromId now limit q [] 0 where
  tailId := rfl
  tidy := id
  live := by simp [TQueue.live, h]
  returned := by simp [TQueue.live, h]
  size := Nat.le_refl _
  kept e he := by simp [TQueue.updates, h] at he

/-- Every reading succeeds, from the offset if it is accepted and else from the head. -/
theorem exists_read (q : TQueue) (offset now : Int) (limit : Nat) (hempty : offset ≤ 0 → q.events = []) :
    ∃ q' r n, readQueue q offset limit now = some (q', r, n) ∧
      Read q (if 0 < offset ∧ Accepted q offset then offset else q.head) now limit q' r n := by
  unfold readQueue
  by_cases hoffset : offset ≤ 0
  · rw [if_pos hoffset]
    exact ⟨_, _, _, rfl, read_empty (hempty hoffset) _ _ _⟩
  rw [if_neg hoffset]
  by_cases htail : q.tailId = 0
  · have hget : ∀ fromId, (q.getForget fromId now limit).toOption = some (q, [], 0) := fun fromId => by
      unfold TQueue.getForget
      rw [if_pos htail]
      rfl
    have hread := read_empty (TQueue.events_eq_nil_of_tail (q := q) (by omega))
      (if 0 < offset ∧ Accepted q offset then offset else q.head) now limit
    rw [hget, hget]
    by_cases hmax : offset < maxEventId
    · rw [if_pos hmax]
      exact ⟨_, _, _, rfl, hread⟩
    · rw [if_neg hmax]
      exact ⟨_, _, _, rfl, hread⟩
  have hok : ∀ fromId, fromId ≤ q.tailId + 10 → q.head - 100000 ≤ fromId →
      q.getForget fromId now limit = .ok ((q.doGetForget fromId now limit).1,
        (q.doGetForget fromId now limit).2, (q.doGetForget fromId now limit).1.size) := by
    intro fromId hfuture hpast
    have hpast' : ¬ fromId < q.head - TQueue.maxQueueEvents := Int.not_lt.2 hpast
    unfold TQueue.getForget
    rw [if_neg htail, if_neg (by omega), if_neg hpast']
  by_cases haccepted : Accepted q offset
  · rw [if_pos haccepted.1, hok offset haccepted.2.1 haccepted.2.2, if_pos ⟨by omega, haccepted⟩]
    exact ⟨_, _, _, rfl, read_doGetForget q offset now limit⟩
  · have hrefused : (if offset < maxEventId then (q.getForget offset now limit).toOption else none) = none := by
      split_ifs with hmax
      · unfold TQueue.getForget
        rw [if_neg htail]
        by_cases hfuture : q.tailId + 10 < offset
        · rw [if_pos hfuture]
          rfl
        · have hpast : offset < q.head - TQueue.maxQueueEvents := by
            by_contra hpast
            exact haccepted ⟨hmax, by omega, Int.not_lt.1 hpast⟩
          rw [if_neg hfuture, if_pos hpast]
          rfl
      · rfl
    have hle := q.head_le_tail
    rw [hrefused, hok q.head (by omega) (by omega), if_neg fun h => haccepted h.2]
    exact ⟨_, _, _, rfl, read_doGetForget q q.head now limit⟩

theorem clearedQueue_of_nonneg (h : 0 ≤ offset) : clearedQueue q offset = q := if_neg (by omega)

theorem readOffset_of_pos (h : 0 < offset) : readOffset q offset = offset := if_neg (by omega)

theorem readOffset_of_nonpos (h : offset ≤ 0) : readOffset q offset = q.head := if_pos h

theorem tidy_clearedQueue (h : q.Tidy) (offset : Int) : (clearedQueue q offset).Tidy := by
  unfold clearedQueue
  split_ifs with hneg
  · exact h.clear (by omega)
  · exact h

/-- The place that `do_get_updates` reads from in the end. -/
theorem read_from (q : TQueue) (offset : Int) :
    (if 0 < readOffset (clearedQueue q offset) offset ∧
        Accepted (clearedQueue q offset) (readOffset (clearedQueue q offset) offset) then
      readOffset (clearedQueue q offset) offset else (clearedQueue q offset).head) = effectiveOffset q offset := by
  unfold effectiveOffset
  by_cases hpos : 0 < offset
  · rw [clearedQueue_of_nonneg (Int.le_of_lt hpos), readOffset_of_pos hpos]
  · rw [readOffset_of_nonpos (Int.not_lt.1 hpos), ite_self, if_neg fun h => hpos h.1]

/-- An empty queue is read only if there is no offset. -/
theorem events_eq_nil_of_readOffset (h : readOffset q offset ≤ 0) : q.events = [] := by
  by_cases hpos : 0 < offset
  · rw [readOffset_of_pos hpos] at h
    omega
  · rw [readOffset_of_nonpos (Int.not_lt.1 hpos)] at h
    exact TQueue.events_eq_nil_of_head h

theorem check_of_true {condition : Bool} (h : condition = true) : s.check condition = s := by
  unfold check
  rw [h, Bool.not_true, Bool.or_false]

/-- The long poll that a call leaves behind when there is nothing for it. -/
def parked (query : Nat) (offset : Int) (limit : Nat) (timeout now : Int) : LongPoll where
  query := query
  offset := offset
  limit := limit
  hardTimeout := now + timeout * second
  timeoutAt := now + timeout * second

def afterRead (s : ClientUpdates) (queue : TQueue) (unixTime : Int) : ClientUpdates :=
  { s with tqueue := queue, readTimes := s.readTimes ++ [unixTime] }

/-- A call waits if it may and nothing is there for it, and else it is answered with what was read. -/
theorem doGetUpdates_eq {offset : Int} {limit : Nat} {unixTime : Int} {r : List TQueueEvent} {n : Nat}
    (hread : readQueue (clearedQueue s.tqueue offset) (readOffset (clearedQueue s.tqueue offset) offset) limit
      unixTime = some (q', r, n)) (hsize : r.length ≤ n) (timeout : Int) (query : Nat) (now : Int) :
    s.doGetUpdates offset limit timeout query now unixTime =
      if timeout ≠ 0 ∧ r = [] then
        { (s.afterRead q' unixTime).abortLongPoll false now with
          longPoll := some (parked query (readOffset (clearedQueue s.tqueue offset) offset) limit timeout now) }
      else (s.afterRead q' unixTime).answer query (.updates (jsonUpdates (2 ^ 22) r)) := by
  unfold doGetUpdates
  dsimp only
  rw [hread]
  dsimp only
  rw [check_of_true (decide_eq_true hsize)]
  rfl

theorem doGetUpdates_cases (s : ClientUpdates) (offset : Int) (limit : Nat) (timeout : Int) (query : Nat)
    (now unixTime : Int) :
    ∃ q' r n, Read (clearedQueue s.tqueue offset) (effectiveOffset s.tqueue offset) unixTime limit q' r n ∧
      s.doGetUpdates offset limit timeout query now unixTime =
        if timeout ≠ 0 ∧ r = [] then
          { (s.afterRead q' unixTime).abortLongPoll false now with
            longPoll := some (parked query (readOffset (clearedQueue s.tqueue offset) offset) limit timeout now) }
        else (s.afterRead q' unixTime).answer query (.updates (jsonUpdates (2 ^ 22) r)) := by
  obtain ⟨q', r, n, hread, hspec⟩ := exists_read (clearedQueue s.tqueue offset)
    (readOffset (clearedQueue s.tqueue offset) offset) unixTime limit events_eq_nil_of_readOffset
  rw [read_from] at hspec
  exact ⟨q', r, n, hspec, doGetUpdates_eq hread hspec.size timeout query now⟩

/-! ### The answer -/

theorem jsonUpdates_isPrefix (leftLen : Int) (r : List TQueueEvent) : jsonUpdates leftLen r <+: r := by
  induction r generalizing leftLen with
  | nil => exact List.prefix_rfl
  | cons e r ih =>
      unfold jsonUpdates
      dsimp only
      split_ifs
      · exact List.nil_prefix
      · exact (List.prefix_cons_inj e).2 (ih _)

/-- The length of the objects that `JsonUpdates` counts. -/
def jsonLength (r : List TQueueEvent) : Nat := (r.map (50 + ·.data.length)).sum

theorem jsonUpdates_length {leftLen : Int} (h : 0 < leftLen) (r : List TQueueEvent) :
    (jsonLength (jsonUpdates leftLen r) : Int) < leftLen := by
  induction r generalizing leftLen with
  | nil => exact h
  | cons e r ih =>
      unfold jsonUpdates
      dsimp only
      split_ifs with hleft
      · exact h
      · have hrest := ih (show 0 < leftLen - (50 + (e.data.length : Int)) by omega)
        change ((50 + e.data.length + jsonLength (jsonUpdates _ r) : Nat) : Int) < leftLen
        push_cast
        omega

/-- The budget has room for the first update. -/
theorem jsonUpdates_ne_nil (hne : r ≠ []) (hshort : ∀ e ∈ r, e.data.length ≤ TQueue.maxEventLength) :
    jsonUpdates (2 ^ 22) r ≠ [] := by
  cases r with
  | nil => exact absurd rfl hne
  | cons e r =>
      have hle : e.data.length ≤ 524288 := hshort e List.mem_cons_self
      unfold jsonUpdates
      dsimp only
      rw [if_neg (by omega)]
      exact List.cons_ne_nil _ _

/-! ### Calls -/

def UpdatesAnswer.events : UpdatesAnswer → List TQueueEvent
  | .updates events => events
  | .conflict _ => []

def received (s : ClientUpdates) : List TQueueEvent := s.answers.flatMap (UpdatesAnswer.events ·.2)

structure Call where
  query : Nat
  offset : Int
  limit : Nat

/-- A query that arrives is served, and so is the one that has waited long enough. -/
def serving (s : ClientUpdates) (x : Input) : Option Call :=
  match x.event with
  | .addUpdate .. => none
  | .getUpdates query =>
    some { query := s.nextQuery, offset := getUpdatesOffset query, limit := (s.getUpdatesLimit query x.now).toNat }
  | .rawEvent => s.longPoll.map fun l => { query := l.query, offset := l.offset, limit := l.limit }

theorem failQueryConflict_frame (s : ClientUpdates) (message : String) (query : Nat) (now : Int) :
    let t := s.failQueryConflict message query now
    t.tqueue = s.tqueue ∧ t.received = s.received ∧ t.pushed = s.pushed ∧ t.readTimes = s.readTimes ∧
      t.crashed = s.crashed := by
  unfold failQueryConflict
  by_cases htime : s.nextGetUpdatesConflictTime ≤ now
  · rw [if_pos htime]
    refine ⟨rfl, ?_, rfl, rfl, rfl⟩
    change (s.answers ++ [_]).flatMap _ = _
    rw [List.flatMap_append]
    exact List.append_nil _
  · rw [if_neg htime]
    exact ⟨rfl, rfl, rfl, rfl, rfl⟩

theorem abortLongPoll_frame (s : ClientUpdates) (fromSetWebhook : Bool) (now : Int) :
    let t := s.abortLongPoll fromSetWebhook now
    t.tqueue = s.tqueue ∧ t.received = s.received ∧ t.pushed = s.pushed ∧ t.readTimes = s.readTimes ∧
      t.crashed = s.crashed := by
  unfold abortLongPoll
  cases s.longPoll with
  | none => exact ⟨rfl, rfl, rfl, rfl, rfl⟩
  | some l => exact failQueryConflict_frame { s with longPoll := none } _ _ _

/-- What serving the call `c` does; `r` has been read for it. -/
structure Serves (s : ClientUpdates) (x : Input) (c : Call) (r : List TQueueEvent) : Prop where
  read : ∃ n, Read (clearedQueue s.tqueue c.offset) (effectiveOffset s.tqueue c.offset) x.unixTime c.limit
    (s.step x).tqueue r n
  pushed : (s.step x).pushed = s.pushed
  readTimes : (s.step x).readTimes = s.readTimes ++ [x.unixTime]
  crashed : (s.step x).crashed = false
  outcome :
    (r = [] ∧ (s.step x).received = s.received ∧ ∃ l, (s.step x).longPoll = some l ∧ l.query = c.query ∧
      l.offset = readOffset (clearedQueue s.tqueue c.offset) c.offset ∧ l.limit = c.limit) ∨
    ((s.step x).answers = s.answers ++ [(c.query, .updates (jsonUpdates (2 ^ 22) r))] ∧
      ((s.step x).longPoll = none ∨ x.event ≠ .rawEvent ∧ (s.step x).longPoll = s.longPoll))

/-- A step that serves a call runs `do_get_updates` for it. -/
theorem step_serving (hcrashed : s.crashed = false) {c : Call} (hc : s.serving x = some c) :
    ∃ (t : ClientUpdates) (timeout : Int),
      s.step x = t.doGetUpdates c.offset c.limit timeout c.query x.now x.unixTime ∧ t.tqueue = s.tqueue ∧
      t.answers = s.answers ∧ t.pushed = s.pushed ∧ t.readTimes = s.readTimes ∧
      t.crashed = false ∧ (t.longPoll = none ∨ x.event ≠ .rawEvent ∧ t.longPoll = s.longPoll) := by
  obtain ⟨event, now, unixTime⟩ := x
  unfold step
  rw [hcrashed]
  cases event with
  | addUpdate first data expiresAt extra => cases hc
  | getUpdates query =>
      cases hc
      exact ⟨_, _, rfl, rfl, rfl, rfl, rfl, rfl, Or.inr ⟨Event.noConfusion, rfl⟩⟩
  | rawEvent =>
      change Option.map _ s.longPoll = some c at hc
      obtain ⟨l, hl, rfl⟩ := Option.map_eq_some_iff.1 hc
      refine ⟨{ s with longPoll := none }, 0, ?_, rfl, rfl, rfl, rfl, hcrashed, Or.inl rfl⟩
      change s.longPollWakeup true now unixTime = _
      unfold longPollWakeup
      rw [hl]
      rfl

theorem serves (hcrashed : s.crashed = false) {c : Call} (hc : s.serving x = some c) : ∃ r, Serves s x c r := by
  obtain ⟨t, timeout, hstep, hqueue, hanswers, hpushed, htimes, hok, hpoll⟩ := step_serving hcrashed hc
  obtain ⟨q', r, n, hread, hcall⟩ :=
    t.doGetUpdates_cases c.offset c.limit timeout c.query x.now x.unixTime
  rw [← hstep] at hcall
  rw [hqueue] at hread hcall
  refine ⟨r, ?_⟩
  split_ifs at hcall with hwait
  · obtain ⟨hq, hreceived, hp, ht, hcr⟩ := (t.afterRead q' x.unixTime).abortLongPoll_frame false x.now
    constructor
    · rw [hcall]
      exact ⟨n, by rw [hq]; exact hread⟩
    · rw [hcall]
      exact hp.trans hpushed
    · rw [hcall]
      exact ht.trans (congrArg (· ++ [x.unixTime]) htimes)
    · rw [hcall]
      exact hcr.trans hok
    · rw [hcall]
      refine Or.inl ⟨hwait.2, ?_, _, rfl, rfl, rfl, rfl⟩
      exact hreceived.trans (congrArg (List.flatMap _) hanswers)
  · constructor
    · rw [hcall]
      exact ⟨n, hread⟩
    · rw [hcall]
      exact hpushed
    · rw [hcall]
      exact congrArg (· ++ [x.unixTime]) htimes
    · rw [hcall]
      exact hok
    · rw [hcall]
      exact Or.inr ⟨congrArg (· ++ [_]) hanswers, hpoll⟩

/-! ### New updates -/

def NoWrap (s : ClientUpdates) (x : Input) : Prop :=
  match x.event with
  | .addUpdate .. => s.tqueue.tailId + 1 < maxEventId
  | _ => True

instance (s : ClientUpdates) : ∀ x, Decidable (NoWrap s x)
  | ⟨.addUpdate .., _, _⟩ => inferInstanceAs (Decidable (_ < _))
  | ⟨.getUpdates _, _, _⟩ => isTrue trivial
  | ⟨.rawEvent, _, _⟩ => isTrue trivial

/-- The queue `q'` is `q` with the update `e` at its end. -/
structure Extends (q q' : TQueue) (e : TQueueEvent) : Prop where
  updates : q'.updates = q.updates ++ [e]
  tidy : q'.Tidy
  tail_le : q.tailId ≤ e.id
  tailId : q'.tailId = e.id + 1
  pos : 0 < e.id
  short : e.data.length ≤ TQueue.maxEventLength
  last : q'.events.getLast? = some e

theorem extends_append (h : q.Tidy) (hpos : 0 < q.tailId) (hnext : q.tailId + 1 < maxEventId) {data : Slice}
    (hdata : data ≠ []) (hshort : data.length ≤ TQueue.maxEventLength) (expiresAt extra : Int) :
    Extends q (q.append hpos hnext data expiresAt extra)
      { id := q.tailId, expiresAt := expiresAt, data := data, extra := extra } where
  updates := h.updates_append hpos hnext hdata expiresAt extra
  tidy := h.append hpos hnext data expiresAt extra
  tail_le := Int.le_refl _
  tailId := rfl
  pos := hpos
  short := hshort
  last := List.getLast?_concat

/-- The queue that the next identifier is taken from has the same updates. -/
theorem withNextId_spec (first : FirstEventId) (htidy : q.Tidy) (hnonneg : 0 ≤ q.tailId)
    (hwrap : q.tailId + 1 < maxEventId) :
    (q.withNextId first).1.Tidy ∧ (q.withNextId first).1.updates = q.updates ∧
      q.tailId ≤ (q.withNextId first).1.tailId := by
  unfold TQueue.withNextId
  by_cases hpos : 0 < q.tailId
  · rw [dif_pos ⟨hpos, hwrap⟩]
    exact ⟨htidy, rfl, Int.le_refl _⟩
  · have hlower := first.lower
    rw [dif_neg fun h => hpos h.1]
    refine ⟨TQueue.tidy_started first, ?_, ?_⟩
    · unfold TQueue.updates
      rw [TQueue.events_eq_nil_of_tail (q := q) (by omega)]
      rfl
    · change q.tailId ≤ first.value
      omega

theorem extends_push {first : FirstEventId} {data : Slice} {expiresAt extra : Int} (htidy : q.Tidy)
    (hnonneg : 0 ≤ q.tailId) (hwrap : q.tailId + 1 < maxEventId)
    (h : q.push first data expiresAt extra = .ok q') : ∃ e, Extends q q' e := by
  unfold TQueue.push at h
  split_ifs at h with hdata hlong
  cases h
  obtain ⟨htidy', hupdates, hle⟩ := withNextId_spec first htidy hnonneg hwrap
  have hext := extends_append htidy' (q.withNextId first).2.1 (q.withNextId first).2.2 hdata
    (Nat.not_lt.1 hlong) expiresAt extra
  exact ⟨_, { hext with
    updates := hext.updates.trans (congrArg (· ++ [_]) hupdates)
    tail_le := Int.le_trans hle hext.tail_le }⟩

/-- A step that serves no call leaves the answers, and at most wakes up the long poll. -/
structure Quiet (s t : ClientUpdates) : Prop where
  answers : t.answers = s.answers
  readTimes : t.readTimes = s.readTimes
  crashed : t.crashed = s.crashed
  longPoll : t.longPoll.map (fun l => (l.query, l.offset, l.limit)) =
    s.longPoll.map (fun l => (l.query, l.offset, l.limit))

theorem longPollWakeup_quiet (s : ClientUpdates) (now unixTime : Int) :
    Quiet s (s.longPollWakeup false now unixTime) ∧ (s.longPollWakeup false now unixTime).tqueue = s.tqueue ∧
      (s.longPollWakeup false now unixTime).pushed = s.pushed := by
  unfold longPollWakeup
  cases h : s.longPoll with
  | none => exact ⟨⟨rfl, rfl, rfl, rfl⟩, rfl, rfl⟩
  | some l => exact ⟨⟨rfl, rfl, rfl, by rw [h]; rfl⟩, rfl, rfl⟩

theorem addUpdate_spec (htidy : s.tqueue.Tidy) (hnonneg : 0 ≤ s.tqueue.tailId)
    (hwrap : s.tqueue.tailId + 1 < maxEventId) (first : FirstEventId) (data : Slice) (expiresAt extra : Int)
    (now unixTime : Int) :
    let t := s.addUpdate first data expiresAt extra now unixTime
    Quiet s t ∧ ((t.tqueue = s.tqueue ∧ t.pushed = s.pushed) ∨
      ∃ e, Extends s.tqueue t.tqueue e ∧ t.pushed = s.pushed ++ [e]) := by
  unfold addUpdate
  cases hpush : s.tqueue.push first data expiresAt extra with
  | error _ => exact ⟨⟨rfl, rfl, rfl, rfl⟩, Or.inl ⟨rfl, rfl⟩⟩
  | ok q =>
      obtain ⟨e, he⟩ := extends_push htidy hnonneg hwrap hpush
      obtain ⟨hquiet, hqueue, hpushed⟩ := longPollWakeup_quiet
        { s with tqueue := q, pushed := s.pushed ++ q.events.getLast?.toList } now unixTime
      refine ⟨⟨hquiet.answers, hquiet.readTimes, hquiet.crashed, hquiet.longPoll⟩, Or.inr ⟨e, ?_, ?_⟩⟩
      · rw [hqueue]
        exact he
      · rw [hpushed, he.last]
        rfl

theorem step_of_not_serving (hcrashed : s.crashed = false) (htidy : s.tqueue.Tidy) (hnonneg : 0 ≤ s.tqueue.tailId)
    (hwrap : NoWrap s x) (hc : s.serving x = none) :
    Quiet s (s.step x) ∧ (((s.step x).tqueue = s.tqueue ∧ (s.step x).pushed = s.pushed) ∨
      ∃ e, Extends s.tqueue (s.step x).tqueue e ∧ (s.step x).pushed = s.pushed ++ [e]) := by
  obtain ⟨event, now, unixTime⟩ := x
  cases event with
  | getUpdates query => cases hc
  | rawEvent =>
      have hsame : s.step ⟨.rawEvent, now, unixTime⟩ = s := by
        have hnone : s.longPoll = none := Option.map_eq_none_iff.1 hc
        unfold step longPollWakeup
        rw [hcrashed, hnone]
        rfl
      rw [hsame]
      exact ⟨⟨rfl, rfl, rfl, rfl⟩, Or.inl ⟨rfl, rfl⟩⟩
  | addUpdate first data expiresAt extra =>
      have hstep : s.step ⟨.addUpdate first data expiresAt extra, now, unixTime⟩ =
          s.addUpdate first data expiresAt extra now unixTime := by
        unfold step
        rw [hcrashed]
        rfl
      rw [hstep]
      exact addUpdate_spec htidy hnonneg hwrap first data expiresAt extra now unixTime

/-! ### What a step keeps and answers -/

structure Inv (s : ClientUpdates) : Prop where
  tidy : s.tqueue.Tidy
  nonneg : 0 ≤ s.tqueue.tailId
  short : ∀ e ∈ s.tqueue.updates, e.data.length ≤ TQueue.maxEventLength
  crashed : s.crashed = false
  limit : ∀ l ∈ s.longPoll, 0 < l.limit

theorem inv_init : Inv {} where
  tidy := TQueue.tidy_absent
  nonneg := Int.le_refl 0
  short e he := by cases he
  crashed := rfl
  limit l hl := by cases hl

theorem getUpdatesLimit_pos (s : ClientUpdates) (query : BotQuery) (now : Int) : 1 ≤ s.getUpdatesLimit query now := by
  unfold getUpdatesLimit BotQuery.getIntegerArg
  dsimp only
  split_ifs <;> omega

theorem Inv.limit_pos (h : Inv s) {c : Call} (hc : s.serving x = some c) : 0 < c.limit := by
  obtain ⟨event, now, unixTime⟩ := x
  cases event with
  | addUpdate first data expiresAt extra => cases hc
  | getUpdates query =>
      cases hc
      have := s.getUpdatesLimit_pos query now
      change 0 < (s.getUpdatesLimit query now).toNat
      omega
  | rawEvent =>
      obtain ⟨l, hl, rfl⟩ := Option.map_eq_some_iff.1 hc
      exact h.limit l hl

theorem mem_clearedQueue (h : q.Tidy) (he : e ∈ (clearedQueue q offset).updates) : e ∈ q.updates := by
  unfold clearedQueue at he
  split_ifs at he with hneg
  · rw [h.updates_clear (by omega)] at he
    exact (List.drop_sublist _ _).subset he
  · exact he

theorem clearedQueue_tailId (q : TQueue) (offset : Int) : (clearedQueue q offset).tailId = q.tailId := by
  unfold clearedQueue
  split_ifs
  · exact q.clear_tailId _
  · rfl

/-- A served call removes updates only. -/
theorem Serves.mem_updates {c : Call} (h : s.tqueue.Tidy) (hs : Serves s x c r)
    (he : e ∈ (s.step x).tqueue.updates) : e ∈ s.tqueue.updates := by
  obtain ⟨n, hread⟩ := hs.read
  exact mem_clearedQueue h (hread.kept e he).1

theorem Inv.step (h : Inv s) (hwrap : NoWrap s x) : Inv (s.step x) := by
  cases hc : s.serving x with
  | none =>
      obtain ⟨hquiet, hqueue⟩ := step_of_not_serving h.crashed h.tidy h.nonneg hwrap hc
      have hlimit : ∀ l ∈ (s.step x).longPoll, 0 < l.limit := by
        intro l hl
        have hmap := hquiet.longPoll
        rw [hl] at hmap
        obtain ⟨l₀, hl₀, hsame⟩ := Option.map_eq_some_iff.1 hmap.symm
        have hpos := h.limit l₀ hl₀
        have hlimits : l₀.limit = l.limit := congrArg (·.2.2) hsame
        rwa [← hlimits]
      have hcrashed := hquiet.crashed.trans h.crashed
      rcases hqueue with ⟨hsame, -⟩ | ⟨e, hext, -⟩
      · exact ⟨hsame ▸ h.tidy, hsame ▸ h.nonneg, hsame ▸ h.short, hcrashed, hlimit⟩
      · refine ⟨hext.tidy, ?_, ?_, hcrashed, hlimit⟩
        · have := hext.tailId
          have := hext.pos
          omega
        · intro e' he'
          rw [hext.updates] at he'
          rcases List.mem_append.1 he' with he' | he'
          · exact h.short e' he'
          · rw [List.mem_singleton.1 he']
            exact hext.short
  | some c =>
      obtain ⟨r, hs⟩ := serves h.crashed hc
      obtain ⟨n, hread⟩ := hs.read
      refine ⟨hread.tidy (tidy_clearedQueue h.tidy _), ?_, ?_, hs.crashed, ?_⟩
      · rw [hread.tailId, clearedQueue_tailId]
        exact h.nonneg
      · exact fun e he => h.short e (hs.mem_updates h.tidy he)
      · intro l hl
        rcases hs.outcome with ⟨-, -, l', hl', -, -, hlimit⟩ | ⟨-, hnone | ⟨-, hsame⟩⟩
        · obtain rfl := Option.some.inj (hl'.symm.trans hl)
          rw [hlimit]
          exact h.limit_pos hc
        · rw [hnone] at hl
          cases hl
        · rw [hsame] at hl
          exact h.limit l hl

def wanted (q : TQueue) (offset unixTime : Int) : List TQueueEvent :=
  (q.live unixTime).filter (effectiveOffset q offset ≤ ·.id)

/-- The answer `r` is a beginning of what the call `c` asks for, within its limits. -/
structure GoodAnswer (q : TQueue) (c : Call) (unixTime : Int) (r : List TQueueEvent) : Prop where
  first : r <+: wanted q c.offset unixTime
  sorted : (r.map (·.id)).Pairwise (· < ·)
  limited : r.length ≤ c.limit
  budget : jsonLength r < 2 ^ 22
  nonempty : wanted q c.offset unixTime ≠ [] → r ≠ []

/-- A served call is answered well, or waits since nothing is there for it. -/
def AnswersWell (s : ClientUpdates) (x : Input) : Prop :=
  ∀ c ∈ s.serving x,
    (wanted s.tqueue c.offset x.unixTime = [] ∧ (s.step x).received = s.received ∧
      ∃ l, (s.step x).longPoll = some l ∧ l.query = c.query) ∨
    ∃ r, (s.step x).answers = s.answers ++ [(c.query, .updates r)] ∧ GoodAnswer s.tqueue c x.unixTime r

def lastUpdates (q : TQueue) (count : Nat) : List TQueueEvent := q.updates.drop (q.updates.length - count)

/-- The bot gives the update up: by an accepted offset behind it, or by asking for later updates only. -/
def Confirms (q : TQueue) (offset : Int) (e : TQueueEvent) : Prop :=
  (0 < offset ∧ e.id < offset ∧ Accepted q offset) ∨ (offset < 0 ∧ e ∉ lastUpdates q offset.natAbs)

/-- The step removes no update that has not expired, but confirmed ones. -/
def KeepsUnconfirmed (s : ClientUpdates) (x : Input) : Prop :=
  ∀ e ∈ s.tqueue.updates, x.unixTime ≤ e.expiresAt →
    e ∈ (s.step x).tqueue.updates ∨ ∃ c ∈ s.serving x, Confirms s.tqueue c.offset e

/-- The placeholder at the end of the queue takes the place of an update that has not expired. -/
def LosesUpdate (q : TQueue) (offset unixTime : Int) : Prop :=
  offset < 0 ∧ q.isLastCleared = true ∧ offset.natAbs < q.updates.length ∧
    ∃ e ∈ q.updates[q.updates.length - offset.natAbs]?, unixTime ≤ e.expiresAt

instance (q : TQueue) (offset unixTime : Int) : Decidable (LosesUpdate q offset unixTime) :=
  inferInstanceAs (Decidable (_ ∧ _ ∧ _ ∧ ∃ e ∈ _, _))

/-- The step serves no call with a negative offset that loses an update. -/
def SparesUpdate (s : ClientUpdates) (x : Input) : Prop :=
  ∀ c ∈ s.serving x, ¬ LosesUpdate s.tqueue c.offset x.unixTime

instance (s : ClientUpdates) (x : Input) : Decidable (SparesUpdate s x) :=
  inferInstanceAs (Decidable (∀ c ∈ _, ¬ LosesUpdate _ _ _))

theorem live_sorted (q : TQueue) (now : Int) : ((q.live now).map (·.id)).Pairwise (· < ·) :=
  q.sorted.sublist (List.filter_sublist.map _)

theorem updates_sorted (q : TQueue) : (q.updates.map (·.id)).Pairwise (· < ·) :=
  q.sorted.sublist (List.filter_sublist.map _)

theorem wanted_sorted (q : TQueue) (offset unixTime : Int) :
    ((wanted q offset unixTime).map (·.id)).Pairwise (· < ·) :=
  (live_sorted q unixTime).sublist (List.filter_sublist.map _)

theorem wanted_eq (q : TQueue) (offset unixTime : Int) :
    wanted q offset unixTime =
      ((clearedQueue q offset).live unixTime).filter (effectiveOffset q offset ≤ ·.id) := by
  unfold wanted clearedQueue
  split_ifs with hneg
  · have heff : effectiveOffset q offset = (q.clear offset.natAbs).head := by
      unfold effectiveOffset clearedQueue
      rw [if_neg fun h => by omega, if_pos hneg]
    rw [heff, q.live_clear (by omega), List.filter_filter]
    simp only [Bool.and_self]
  · rfl

theorem Serves.live {c : Call} (hs : Serves s x c r) :
    (s.step x).tqueue.live x.unixTime = wanted s.tqueue c.offset x.unixTime := by
  obtain ⟨n, hread⟩ := hs.read
  rw [hread.live, wanted_eq]

theorem Serves.returned {c : Call} (hs : Serves s x c r) :
    r = (wanted s.tqueue c.offset x.unixTime).take c.limit := by
  obtain ⟨n, hread⟩ := hs.read
  rw [hread.returned, hs.live]

theorem Inv.answersWell (h : Inv s) : AnswersWell s x := by
  intro c hc
  obtain ⟨r, hs⟩ := serves h.crashed hc
  have hlimit := h.limit_pos hc
  have hnil : r = [] → wanted s.tqueue c.offset x.unixTime = [] := by
    intro hr
    rw [hs.returned, List.take_eq_nil_iff] at hr
    exact hr.resolve_left (by omega)
  rcases hs.outcome with ⟨hr, hreceived, l, hl, hquery, -⟩ | ⟨hanswers, -⟩
  · exact Or.inl ⟨hnil hr, hreceived, l, hl, hquery⟩
  · have hstart := jsonUpdates_isPrefix (2 ^ 22) r
    have hfirst : r <+: wanted s.tqueue c.offset x.unixTime := by
      rw [hs.returned]
      exact List.take_prefix _ _
    refine Or.inr ⟨_, hanswers, hstart.trans hfirst, ?_, ?_, ?_, ?_⟩
    · exact (wanted_sorted s.tqueue c.offset x.unixTime).sublist ((hstart.trans hfirst).sublist.map _)
    · refine hstart.length_le.trans ?_
      rw [hs.returned]
      exact List.length_take_le _ _
    · have hbudget := jsonUpdates_length (show (0 : Int) < 2 ^ 22 by omega) r
      omega
    · intro hwanted
      refine jsonUpdates_ne_nil (fun hr => hwanted (hnil hr)) ?_
      intro e he
      have hlive := (List.mem_filter.1 (hfirst.subset he)).1
      exact h.short e (TQueue.mem_live.1 hlive).1

/-- An update stays if it has not expired, was not cleared, and does not lie before the offset. -/
theorem Serves.stays {c : Call} (hs : Serves s x c r) (he : e ∈ (clearedQueue s.tqueue c.offset).updates)
    (hlive : x.unixTime ≤ e.expiresAt) (hoffset : effectiveOffset s.tqueue c.offset ≤ e.id) :
    e ∈ (s.step x).tqueue.updates := by
  obtain ⟨n, hread⟩ := hs.read
  have hmem : e ∈ (s.step x).tqueue.live x.unixTime := by
    rw [hread.live, List.mem_filter, TQueue.mem_live]
    exact ⟨⟨he, hlive⟩, decide_eq_true hoffset⟩
  exact (TQueue.mem_live.1 hmem).1

theorem effectiveOffset_le (he : e ∈ (clearedQueue q offset).updates)
    (hconfirmed : ¬ (0 < offset ∧ e.id < offset ∧ Accepted q offset)) : effectiveOffset q offset ≤ e.id := by
  unfold effectiveOffset
  split_ifs with haccepted
  · by_contra hlt
    exact hconfirmed ⟨haccepted.1, by omega, haccepted.2⟩
  · exact TQueue.head_le (TQueue.mem_updates.1 he).1

/-- With a negative offset, the last updates survive unless a placeholder takes the place of one. -/
theorem mem_clearedQueue_of_mem_lastUpdates (h : q.Tidy) (hneg : offset < 0)
    (he : e ∈ lastUpdates q offset.natAbs) (hlive : now ≤ e.expiresAt) (hspares : ¬ LosesUpdate q offset now) :
    e ∈ (clearedQueue q offset).updates := by
  unfold lastUpdates at he
  unfold clearedQueue
  rw [if_pos hneg, h.updates_clear (by omega)]
  unfold TQueue.keptBy
  rw [h.size_eq]
  split_ifs with hplaceholder
  · have hindex : q.updates.length - offset.natAbs < q.updates.length := by omega
    rw [show q.updates.length - (offset.natAbs - 1) = q.updates.length - offset.natAbs + 1 by omega]
    rw [List.drop_eq_getElem_cons hindex] at he
    rcases List.mem_cons.1 he with rfl | he
    · exact absurd ⟨hneg, hplaceholder.1, hplaceholder.2, _, List.getElem?_eq_getElem hindex, hlive⟩ hspares
    · exact he
  · exact he

theorem not_mem_drop_of_sorted {l : List TQueueEvent} (hsorted : (l.map (·.id)).Pairwise (· < ·)) {i : Nat}
    (hi : l[i]? = some e) : e ∉ l.drop (i + 1) := by
  obtain ⟨hlt, rfl⟩ := List.getElem?_eq_some_iff.1 hi
  rw [← List.take_append_drop i l, List.drop_eq_getElem_cons hlt, List.map_append, List.pairwise_append] at hsorted
  intro hmem
  exact Int.lt_irrefl _ ((List.pairwise_cons.1 hsorted.2.1).1 _ (List.mem_map_of_mem hmem))

/-- The update whose place is taken is removed, though it is one of the last. -/
theorem LosesUpdate.exists (h : q.Tidy) (hloses : LosesUpdate q offset now) :
    ∃ e ∈ q.updates, now ≤ e.expiresAt ∧ e ∉ (clearedQueue q offset).updates ∧ ¬ Confirms q offset e := by
  obtain ⟨hneg, hplaceholder, hmore, e, he, hlive⟩ := hloses
  obtain ⟨hlt, hget⟩ := List.getElem?_eq_some_iff.1 he
  refine ⟨e, List.mem_of_getElem? he, hlive, ?_, ?_⟩
  · unfold clearedQueue
    rw [if_pos hneg, h.updates_clear (by omega)]
    unfold TQueue.keptBy
    rw [h.size_eq, if_pos ⟨hplaceholder, hmore⟩,
      show q.updates.length - (offset.natAbs - 1) = q.updates.length - offset.natAbs + 1 by omega]
    exact not_mem_drop_of_sorted (updates_sorted q) he
  · rintro (hpos | ⟨-, hnot⟩)
    · omega
    · apply hnot
      unfold lastUpdates
      rw [List.drop_eq_getElem_cons hlt, hget]
      exact List.mem_cons_self

/-- A step keeps what is not confirmed exactly if no placeholder takes the place of an update. -/
theorem Inv.keepsUnconfirmed_iff (h : Inv s) (hwrap : NoWrap s x) : KeepsUnconfirmed s x ↔ SparesUpdate s x := by
  cases hc : s.serving x with
  | none =>
      refine iff_of_true (fun e he hlive => Or.inl ?_) (fun c hc' => by rw [hc] at hc'; cases hc')
      obtain ⟨-, ⟨hsame, -⟩ | ⟨e', hext, -⟩⟩ := step_of_not_serving h.crashed h.tidy h.nonneg hwrap hc
      · rw [hsame]
        exact he
      · rw [hext.updates]
        exact List.mem_append_left _ he
  | some c =>
      obtain ⟨r, hs⟩ := serves h.crashed hc
      constructor
      · intro hkeeps c' hc' hloses
        obtain rfl := Option.some.inj (hc.symm.trans hc')
        obtain ⟨e, he, hlive, hcleared, hnot⟩ := hloses.exists h.tidy
        rcases hkeeps e he hlive with hstays | ⟨c', hc', hconfirms⟩
        · obtain ⟨n, hread⟩ := hs.read
          exact hcleared (hread.kept e hstays).1
        · obtain rfl := Option.some.inj (hc.symm.trans hc')
          exact hnot hconfirms
      · intro hspares e he hlive
        by_cases hconfirms : Confirms s.tqueue c.offset e
        · exact Or.inr ⟨c, hc, hconfirms⟩
        · left
          have hcleared : e ∈ (clearedQueue s.tqueue c.offset).updates := by
            by_cases hneg : c.offset < 0
            · have hlast : e ∈ lastUpdates s.tqueue c.offset.natAbs := by
                by_contra hnot
                exact hconfirms (Or.inr ⟨hneg, hnot⟩)
              exact mem_clearedQueue_of_mem_lastUpdates h.tidy hneg hlast hlive (hspares c hc)
            · rw [clearedQueue_of_nonneg (Int.not_lt.1 hneg)]
              exact he
          exact hs.stays hcleared hlive (effectiveOffset_le hcleared fun hpos => hconfirms (Or.inl hpos))

/-- What is asked of a step: no failed check, a good answer, and no update lost. -/
def Delivers (s : ClientUpdates) (x : Input) : Prop :=
  (s.step x).crashed = false ∧ AnswersWell s x ∧ KeepsUnconfirmed s x

theorem Inv.delivers_iff (h : Inv s) (hwrap : NoWrap s x) : Delivers s x ↔ SparesUpdate s x := by
  unfold Delivers
  rw [h.keepsUnconfirmed_iff hwrap]
  exact ⟨fun hall => hall.2.2, fun hspares => ⟨(h.step hwrap).crashed, h.answersWell, hspares⟩⟩

theorem delivers_iff_of_run {xs : List Input} (h : Inv s) (hwrap : StepRun.AllSteps step NoWrap s xs) :
    StepRun.AllSteps step Delivers s xs ↔ StepRun.AllSteps step SparesUpdate s xs := by
  induction xs generalizing s with
  | nil => exact Iff.rfl
  | cons x xs ih => exact and_congr (h.delivers_iff hwrap.1) (ih (h.step hwrap.1) hwrap.2)

end ClientUpdates

end TelegramBotApi
