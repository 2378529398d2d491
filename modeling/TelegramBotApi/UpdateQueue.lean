import TelegramBotApi.TQueue

/-!
# Operations of the update storage

The operations that change one queue. An event that leaves the queue is erased, except the one just
before the tail: its data is cleared and the entry stays, so that the tail survives a restart, until the
next event is pushed. The storage always has its callback here, as the server installs it. The schedule
of its garbage collector is left out.
-/

namespace TelegramBotApi

/-- What `push` takes for the first identifier of a queue, a random number in its range. -/
structure FirstEventId where
  value : Int
  lower : 2000001 ≤ value
  upper : value ≤ 1000000000

/-- The event has its data and has not expired. -/
def TQueueEvent.isLive (unixTimeNow : Int) (e : TQueueEvent) : Bool :=
  e.data ≠ [] ∧ unixTimeNow ≤ e.expiresAt

theorem TQueueEvent.isLive_iff (unixTimeNow : Int) (e : TQueueEvent) :
    e.isLive unixTimeNow = true ↔ ¬ (e.expiresAt < unixTimeNow ∨ e.data = []) := by
  unfold TQueueEvent.isLive
  rw [decide_eq_true_eq, not_or, Int.not_lt]
  exact And.comm

namespace TQueue

def maxEventLength : Nat := 65536 * 8

def maxQueueEvents : Nat := 100000

def maxTotalEventLength : Nat := 2 ^ 27

/-- There is no queue, or it has no identifiers yet. -/
def absent : TQueue where
  tailId := 0
  events := []
  sorted := List.Pairwise.nil
  bounded e he := by cases he
  tail_lt := by decide

def started (first : FirstEventId) : TQueue where
  tailId := first.value
  events := []
  sorted := List.Pairwise.nil
  bounded e he := by cases he
  tail_lt := by have := first.upper; unfold maxEventId; omega

/-- The same queue with fewer events, or with less in them. -/
def withEvents (q : TQueue) (events : List TQueueEvent)
    (h : (events.map (·.id)).Sublist (q.events.map (·.id))) : TQueue where
  tailId := q.tailId
  events := events
  sorted := q.sorted.sublist h
  bounded e he := by
    obtain ⟨e', he', hid⟩ := List.mem_map.1 (h.subset (List.mem_map_of_mem he))
    rw [← hid]
    exact q.bounded e' he'
  tail_lt := q.tail_lt

def totalEventLength (q : TQueue) : Nat := (q.events.map (·.data.length)).sum

def isLastCleared (q : TQueue) : Bool := (q.events.getLast?.map (·.data)) = some []

def size (q : TQueue) : Nat := q.events.length - if q.isLastCleared then 1 else 0

/-- What `pop` leaves of an event. -/
def popped (tailId : Int) (e : TQueueEvent) : Option TQueueEvent :=
  if e.id + 1 = tailId then some { e with data := [] } else none

/-- The second loop of `do_get`: the events that it leaves and those that it returns. -/
def collect (tailId unixTimeNow : Int) : Nat → List TQueueEvent → List TQueueEvent × List TQueueEvent
  | _, [] => ([], [])
  | limit, e :: rest =>
    if e.expiresAt < unixTimeNow ∨ e.data = [] then
      let r := collect tailId unixTimeNow limit rest
      ((popped tailId e).toList ++ r.1, r.2)
    else match limit with
      | 0 => (e :: rest, [])
      | limit + 1 =>
        let r := collect tailId unixTimeNow limit rest
        (e :: r.1, e :: r.2)

section Popped

variable {tailId now : Int} {limit : Nat} {events : List TQueueEvent} {e : TQueueEvent}

theorem popped_map_id (tailId : Int) (e : TQueueEvent) :
    ((popped tailId e).toList.map (·.id)).Sublist [e.id] := by
  unfold popped
  split_ifs
  · exact List.Sublist.refl _
  · exact List.nil_sublist _

theorem collect_map_id (tailId now : Int) (limit : Nat) (events : List TQueueEvent) :
    ((collect tailId now limit events).1.map (·.id)).Sublist (events.map (·.id)) := by
  induction events generalizing limit with
  | nil => exact List.Sublist.refl _
  | cons e events ih =>
      unfold collect
      split_ifs
      · rw [List.map_append]
        exact (popped_map_id tailId e).append (ih limit)
      · cases limit with
        | zero => exact List.Sublist.refl _
        | succ limit => exact (ih limit).cons_cons _

theorem filterMap_popped_map_id (tailId : Int) (events : List TQueueEvent) :
    ((events.filterMap (popped tailId)).map (·.id)).Sublist (events.map (·.id)) := by
  induction events with
  | nil => exact List.Sublist.refl _
  | cons e events ih =>
      have hpopped := popped_map_id tailId e
      rw [List.filterMap_cons]
      cases h : popped tailId e with
      | none => exact ih.cons _
      | some e' =>
          rw [h] at hpopped
          exact hpopped.append ih

/-- What is left of a popped event has no data. -/
theorem popped_not_isLive {e' : TQueueEvent} (h : popped tailId e = some e') : e'.isLive now = false := by
  unfold popped at h
  split_ifs at h
  obtain rfl := Option.some.inj h
  simp [TQueueEvent.isLive]

theorem filter_filterMap_popped (tailId now : Int) (events : List TQueueEvent) :
    (events.filterMap (popped tailId)).filter (·.isLive now) = [] := by
  rw [List.filter_eq_nil_iff]
  intro e' he'
  obtain ⟨e, -, he⟩ := List.mem_filterMap.1 he'
  simp [popped_not_isLive he]

/-- The loop leaves all live events. -/
theorem filter_collect_left (tailId now : Int) (limit : Nat) (events : List TQueueEvent) :
    (collect tailId now limit events).1.filter (·.isLive now) = events.filter (·.isLive now) := by
  induction events generalizing limit with
  | nil => rfl
  | cons e events ih =>
      unfold collect
      split_ifs with hdead
      · have hnot : e.isLive now = false := by
          rw [← Bool.not_eq_true, e.isLive_iff]
          exact not_not_intro hdead
        have hleft : (popped tailId e).toList.filter (·.isLive now) = [] := by
          cases h : popped tailId e with
          | none => rfl
          | some e' => simp [popped_not_isLive h]
        rw [List.filter_append, hleft, List.nil_append, ih, List.filter_cons, hnot]
        rfl
      · cases limit with
        | zero => rfl
        | succ limit =>
            rw [List.filter_cons, List.filter_cons, ih]

/-- The loop returns the first live events. -/
theorem collect_returned (tailId now : Int) (limit : Nat) (events : List TQueueEvent) :
    (collect tailId now limit events).2 = (events.filter (·.isLive now)).take limit := by
  induction events generalizing limit with
  | nil => simp [collect]
  | cons e events ih =>
      unfold collect
      split_ifs with hdead
      · have hnot : e.isLive now = false := by
          rw [← Bool.not_eq_true, e.isLive_iff]
          exact not_not_intro hdead
        rw [List.filter_cons, hnot]
        exact ih limit
      · have hlive : e.isLive now = true := (e.isLive_iff now).2 hdead
        rw [List.filter_cons, hlive]
        cases limit with
        | zero => rfl
        | succ limit =>
            simp only [if_true, List.take_succ_cons]
            rw [ih]

end Popped

/-- The events that `do_get` with `forget_previous` leaves. -/
def afterGet (q : TQueue) (fromId unixTimeNow : Int) (limit : Nat) : List TQueueEvent :=
  (q.events.takeWhile (·.id < fromId)).filterMap (popped q.tailId) ++
    (collect q.tailId unixTimeNow limit (q.events.dropWhile (·.id < fromId))).1

theorem afterGet_map_id (q : TQueue) (fromId unixTimeNow : Int) (limit : Nat) :
    ((q.afterGet fromId unixTimeNow limit).map (·.id)).Sublist (q.events.map (·.id)) := by
  have hids := (filterMap_popped_map_id q.tailId (q.events.takeWhile (·.id < fromId))).append
    (collect_map_id q.tailId unixTimeNow limit (q.events.dropWhile (·.id < fromId)))
  rw [← List.map_append, ← List.map_append, List.takeWhile_append_dropWhile] at hids
  exact hids

/-- `do_get` with `forget_previous`: the queue that it leaves and the events that it returns. -/
def doGetForget (q : TQueue) (fromId unixTimeNow : Int) (limit : Nat) : TQueue × List TQueueEvent :=
  (q.withEvents (q.afterGet fromId unixTimeNow limit) (q.afterGet_map_id fromId unixTimeNow limit),
    (collect q.tailId unixTimeNow limit (q.events.dropWhile (·.id < fromId))).2)

/-- `get` with `forget_previous`: the queue, the events and `get_size` of the queue. -/
def getForget (q : TQueue) (fromId unixTimeNow : Int) (limit : Nat) :
    Except Status (TQueue × List TQueueEvent × Nat) :=
  if q.tailId = 0 then .ok (q, [], 0)
  else if q.tailId + 10 < fromId then .error ⟨0, "Specified from_id is in the future"⟩
  else if fromId < q.head - maxQueueEvents then .error ⟨0, "Specified from_id is in the past"⟩
  else
    let r := q.doGetForget fromId unixTimeNow limit
    .ok (r.1, r.2, r.1.size)

theorem clearedLast_map_id (q : TQueue) :
    ((q.events.getLast?.toList.map fun e => { e with data := [] }).map (·.id)).Sublist
      (q.events.map (·.id)) := by
  cases h : q.events.getLast? with
  | none => exact List.nil_sublist _
  | some e =>
      rw [Option.toList_some, List.map_singleton, List.map_singleton, List.singleton_sublist]
      exact List.mem_map.2 ⟨e, List.mem_of_getLast? h, rfl⟩

def clear (q : TQueue) (keepCount : Nat) : TQueue :=
  if q.size ≤ keepCount then q
  else if keepCount = 0 then
    q.withEvents (q.events.getLast?.toList.map fun e => { e with data := [] }) q.clearedLast_map_id
  else
    q.withEvents (q.events.drop (q.events.length - keepCount)) ((List.drop_sublist _ _).map _)

def afterForget (q : TQueue) (eventId : Int) : List TQueueEvent :=
  q.events.flatMap fun e => if e.id = eventId then (popped q.tailId e).toList else [e]

theorem afterForget_map_id (q : TQueue) (eventId : Int) :
    ((q.afterForget eventId).map (·.id)).Sublist (q.events.map (·.id)) := by
  unfold afterForget
  induction q.events with
  | nil => exact List.Sublist.refl _
  | cons e events ih =>
      rw [List.flatMap_cons, List.map_append]
      have hhead : ((if e.id = eventId then (popped q.tailId e).toList else [e]).map (·.id)).Sublist [e.id] := by
        split_ifs
        · exact popped_map_id q.tailId e
        · exact List.Sublist.refl _
      exact hhead.append ih

def forget (q : TQueue) (eventId : Int) : TQueue :=
  q.withEvents (q.afterForget eventId) (q.afterForget_map_id eventId)

def withoutCleared (q : TQueue) : List TQueueEvent := if q.isLastCleared then q.events.dropLast else q.events

theorem withoutCleared_sublist (q : TQueue) : q.withoutCleared.Sublist q.events := by
  unfold withoutCleared
  split_ifs
  · exact List.dropLast_sublist _
  · exact List.Sublist.refl _

def append (q : TQueue) (hpos : 0 < q.tailId) (hnext : q.tailId + 1 < maxEventId) (data : Slice)
    (expiresAt extra : Int) : TQueue where
  tailId := q.tailId + 1
  events := q.withoutCleared ++ [{ id := q.tailId, expiresAt := expiresAt, data := data, extra := extra }]
  sorted := by
    rw [List.map_append, List.pairwise_append]
    refine ⟨q.sorted.sublist (q.withoutCleared_sublist.map _), List.pairwise_singleton _ _, ?_⟩
    intro id hid next hnext
    obtain ⟨e, he, rfl⟩ := List.mem_map.1 hid
    rw [List.mem_singleton.1 hnext]
    exact (q.bounded e (q.withoutCleared_sublist.subset he)).2
  bounded e he := by
    rcases List.mem_append.1 he with he | he
    · have := q.bounded e (q.withoutCleared_sublist.subset he)
      omega
    · rw [List.mem_singleton.1 he]
      exact ⟨hpos, Int.lt_succ q.tailId⟩
  tail_lt := hnext

/-- The queue from which `push` takes the next identifier: a new one, and one whose identifiers are used
up, begins anew. -/
def withNextId (q : TQueue) (first : FirstEventId) :
    { q : TQueue // 0 < q.tailId ∧ q.tailId + 1 < maxEventId } :=
  if h : 0 < q.tailId ∧ q.tailId + 1 < maxEventId then ⟨q, h⟩
  else ⟨started first, by
    have hlower := first.lower
    have hupper := first.upper
    refine ⟨?_, ?_⟩
    · change 0 < first.value
      omega
    · change first.value + 1 < 2000000000
      omega⟩

def push (q : TQueue) (first : FirstEventId) (data : Slice) (expiresAt extra : Int) :
    Except Status TQueue :=
  if data = [] then .error ⟨0, "Data is empty"⟩
  else if maxEventLength < data.length then .error ⟨0, "Data is too big"⟩
  else if maxQueueEvents ≤ q.events.length then .error ⟨0, "Queue is full"⟩
  else if maxTotalEventLength < q.totalEventLength + data.length then
    .error ⟨0, "Queue size is too big"⟩
  else if expiresAt ≤ 0 then .error ⟨0, "Failed to add already expired event"⟩
  else
    let q := q.withNextId first
    .ok (q.1.append q.2.1 q.2.2 data expiresAt extra)

def updates (q : TQueue) : List TQueueEvent := q.events.filter (·.data ≠ [])

def live (q : TQueue) (unixTimeNow : Int) : List TQueueEvent := q.events.filter (·.isLive unixTimeNow)

/-- Only the entry just before the tail can be a placeholder. -/
def Tidy (q : TQueue) : Prop := ∀ e ∈ q.events, e.data = [] → e.id + 1 = q.tailId

section Spec

variable {q : TQueue} {fromId now : Int} {limit : Nat} {e : TQueueEvent}

theorem mem_live : e ∈ q.live now ↔ e ∈ q.updates ∧ now ≤ e.expiresAt := by
  unfold live updates TQueueEvent.isLive
  simp only [List.mem_filter, decide_eq_true_eq, and_assoc]

theorem dropWhile_eq_filter {events : List TQueueEvent} (hsorted : (events.map (·.id)).Pairwise (· < ·))
    (fromId : Int) : events.dropWhile (·.id < fromId) = events.filter (fromId ≤ ·.id) := by
  induction events with
  | nil => rfl
  | cons e events ih =>
      obtain ⟨hhead, hrest⟩ := List.pairwise_cons.1 hsorted
      by_cases hid : e.id < fromId
      · rw [List.dropWhile_cons_of_pos (by simpa using hid), List.filter_cons_of_neg (by simpa using hid),
          ih hrest]
      · rw [List.dropWhile_cons_of_neg (by simpa using hid), List.filter_eq_self.2]
        intro e' he'
        rcases List.mem_cons.1 he' with rfl | he'
        · exact decide_eq_true (Int.not_lt.1 hid)
        · have hlt : e.id < e'.id := hhead e'.id (List.mem_map_of_mem he')
          exact decide_eq_true (by omega)

/-- `get` leaves the live events from `from_id` on. -/
theorem live_doGetForget (q : TQueue) (fromId now : Int) (limit : Nat) :
    (q.doGetForget fromId now limit).1.live now = (q.live now).filter (fromId ≤ ·.id) := by
  change (q.afterGet fromId now limit).filter _ = _
  unfold afterGet live
  rw [List.filter_append, filter_filterMap_popped, List.nil_append, filter_collect_left,
    dropWhile_eq_filter q.sorted, List.filter_filter, List.filter_filter]
  simp only [Bool.and_comm]

theorem returned_doGetForget (q : TQueue) (fromId now : Int) (limit : Nat) :
    (q.doGetForget fromId now limit).2 = ((q.live now).filter (fromId ≤ ·.id)).take limit := by
  change (collect _ _ _ _).2 = _
  unfold live
  rw [collect_returned, dropWhile_eq_filter q.sorted, List.filter_filter, List.filter_filter]
  simp only [Bool.and_comm]

/-- What `get` returns is what a webhook reads, too. -/
theorem doGetForget_eq_doGet (q : TQueue) (fromId now : Int) (limit : Nat) :
    (q.doGetForget fromId now limit).2 = q.doGet fromId now limit := by
  rw [returned_doGetForget]
  unfold live doGet TQueueEvent.isLive
  rw [List.filter_filter]
  congr 2
  funext e
  rw [Bool.eq_iff_iff]
  simp only [Bool.and_eq_true, decide_eq_true_eq]
  exact and_congr_right fun _ => And.comm

theorem isLastCleared_iff : q.isLastCleared = true ↔ ∃ c, q.events.getLast? = some c ∧ c.data = [] := by
  unfold isLastCleared
  rw [decide_eq_true_eq, Option.map_eq_some_iff]

theorem events_of_isLastCleared (hc : q.isLastCleared = true) :
    ∃ c, c.data = [] ∧ q.events = q.withoutCleared ++ [c] := by
  obtain ⟨c, hlast, hdata⟩ := isLastCleared_iff.1 hc
  obtain ⟨before, hevents⟩ := List.getLast?_eq_some_iff.1 hlast
  refine ⟨c, hdata, ?_⟩
  unfold withoutCleared
  rw [if_pos hc, hevents, List.dropLast_concat]

theorem live_length_le_size (q : TQueue) (now : Int) : (q.live now).length ≤ q.size := by
  unfold size live
  by_cases hc : q.isLastCleared = true
  · obtain ⟨c, hdata, hevents⟩ := events_of_isLastCleared hc
    have hdead : c.isLive now = false := by simp [TQueueEvent.isLive, hdata]
    have hle := List.length_filter_le (·.isLive now) q.withoutCleared
    rw [if_pos hc, hevents, List.filter_append, List.filter_singleton, hdead]
    simpa using hle
  · rw [if_neg hc]
    exact List.length_filter_le _ _

theorem tidy_absent : absent.Tidy := fun e he => by cases he

theorem tidy_started (first : FirstEventId) : (started first).Tidy := fun e he => by cases he

theorem popped_tidy {tailId : Int} {e' : TQueueEvent} (h : popped tailId e = some e') :
    e'.id + 1 = tailId ∧ e'.data = [] := by
  unfold popped at h
  split_ifs at h with hid
  obtain rfl := Option.some.inj h
  exact ⟨hid, rfl⟩

theorem mem_collect_left {tailId : Int} {events : List TQueueEvent}
    (he : e ∈ (collect tailId now limit events).1) : e ∈ events ∨ (e.id + 1 = tailId ∧ e.data = []) := by
  induction events generalizing limit with
  | nil => cases he
  | cons e₀ events ih =>
      unfold collect at he
      split_ifs at he
      · rcases List.mem_append.1 he with he | he
        · exact Or.inr (popped_tidy (Option.mem_toList.1 he))
        · exact (ih he).imp_left (List.mem_cons_of_mem _)
      · cases limit with
        | zero => exact Or.inl he
        | succ limit =>
            rcases List.mem_cons.1 he with rfl | he
            · exact Or.inl List.mem_cons_self
            · exact (ih he).imp_left (List.mem_cons_of_mem _)

/-- An entry that `get` leaves is an event from `from_id` on, or a placeholder. -/
theorem mem_doGetForget (he : e ∈ (q.doGetForget fromId now limit).1.events) :
    (e ∈ q.events ∧ fromId ≤ e.id) ∨ (e.id + 1 = q.tailId ∧ e.data = []) := by
  rcases List.mem_append.1 he with he | he
  · obtain ⟨e₀, -, hpopped⟩ := List.mem_filterMap.1 he
    exact Or.inr (popped_tidy hpopped)
  · rcases mem_collect_left he with he | he
    · rw [dropWhile_eq_filter q.sorted] at he
      exact Or.inl ⟨(List.mem_filter.1 he).1, of_decide_eq_true (List.mem_filter.1 he).2⟩
    · exact Or.inr he

theorem Tidy.doGetForget (h : q.Tidy) (fromId now : Int) (limit : Nat) :
    (q.doGetForget fromId now limit).1.Tidy := by
  intro e he hdata
  rcases mem_doGetForget he with he | he
  · exact h e he.1 hdata
  · exact he.1

theorem mem_updates : e ∈ q.updates ↔ e ∈ q.events ∧ e.data ≠ [] := by
  unfold updates
  rw [List.mem_filter, decide_eq_true_eq]

theorem updates_doGetForget (he : e ∈ (q.doGetForget fromId now limit).1.updates) :
    e ∈ q.updates ∧ fromId ≤ e.id := by
  obtain ⟨he, hdata⟩ := mem_updates.1 he
  rcases mem_doGetForget he with he | he
  · exact ⟨mem_updates.2 ⟨he.1, hdata⟩, he.2⟩
  · exact absurd he.2 hdata

theorem events_eq_nil_of_tail (h : q.tailId ≤ 0) : q.events = [] := by
  by_contra hne
  obtain ⟨e, he⟩ := List.exists_mem_of_ne_nil _ hne
  have := q.bounded e he
  omega

theorem events_eq_nil_of_head (h : q.head ≤ 0) : q.events = [] := by
  unfold head at h
  split at h
  · assumption
  · rename_i e rest hevents
    have := (q.bounded e (by rw [hevents]; exact List.mem_cons_self)).1
    omega

theorem head_le (he : e ∈ q.events) : q.head ≤ e.id := by
  have hsorted := q.sorted
  unfold head
  split
  · rename_i hevents
    rw [hevents] at he
    cases he
  · rename_i e₀ rest hevents
    rw [hevents] at he hsorted
    rcases List.mem_cons.1 he with rfl | he
    · exact Int.le_refl _
    · exact Int.le_of_lt ((List.pairwise_cons.1 hsorted).1 e.id (List.mem_map_of_mem he))

theorem Tidy.withoutCleared_eq (h : q.Tidy) : q.withoutCleared = q.updates := by
  unfold withoutCleared updates
  have hsorted := q.sorted
  split_ifs with hc
  · obtain ⟨c, hlast, hdata⟩ := isLastCleared_iff.1 hc
    obtain ⟨before, hevents⟩ := List.getLast?_eq_some_iff.1 hlast
    have hfull : ∀ e ∈ before, e.data ≠ [] := by
      intro e he hnil
      have htail := h e (by rw [hevents]; exact List.mem_append_left _ he) hnil
      have hctail := (q.bounded c (by rw [hevents]; exact List.mem_append_right _ List.mem_cons_self)).2
      rw [hevents, List.map_append, List.pairwise_append] at hsorted
      have hlt := hsorted.2.2 e.id (List.mem_map_of_mem he) c.id List.mem_cons_self
      omega
    rw [hevents, List.dropLast_concat, List.filter_append, List.filter_singleton,
      List.filter_eq_self.2 fun e he => decide_eq_true (hfull e he)]
    simp [hdata]
  · rw [List.filter_eq_self.2]
    intro e he
    by_contra hnil
    rw [decide_eq_true_eq, ne_eq, not_not] at hnil
    refine hc (isLastCleared_iff.2 ⟨e, ?_, hnil⟩)
    obtain ⟨before, after, hevents⟩ := List.append_of_mem he
    have htail := h e he hnil
    rw [hevents] at hsorted ⊢
    cases after with
    | nil => exact List.getLast?_concat
    | cons e' after =>
        rw [List.map_append, List.map_cons, List.map_cons, List.pairwise_append] at hsorted
        have hlt := (List.pairwise_cons.1 hsorted.2.1).1 e'.id List.mem_cons_self
        have hbound := (q.bounded e' (by rw [hevents]; simp)).2
        omega

theorem Tidy.size_eq (h : q.Tidy) : q.size = q.updates.length := by
  rw [← h.withoutCleared_eq]
  unfold size withoutCleared
  split_ifs
  · rw [List.length_dropLast]
  · rfl

theorem Tidy.append (h : q.Tidy) (hpos : 0 < q.tailId) (hnext : q.tailId + 1 < maxEventId)
    (data : Slice) (expiresAt extra : Int) : (q.append hpos hnext data expiresAt extra).Tidy := by
  intro e he hnil
  rcases List.mem_append.1 he with he | he
  · rw [h.withoutCleared_eq] at he
    exact absurd hnil (of_decide_eq_true (List.mem_filter.1 he).2)
  · rw [List.mem_singleton.1 he]
    rfl

/-- A pushed update is the last one. -/
theorem Tidy.updates_append (h : q.Tidy) (hpos : 0 < q.tailId) (hnext : q.tailId + 1 < maxEventId)
    {data : Slice} (hdata : data ≠ []) (expiresAt extra : Int) :
    (q.append hpos hnext data expiresAt extra).updates =
      q.updates ++ [{ id := q.tailId, expiresAt := expiresAt, data := data, extra := extra }] := by
  change (q.withoutCleared ++ [_]).filter _ = _
  rw [h.withoutCleared_eq, List.filter_append, List.filter_singleton]
  unfold updates
  simp [hdata, List.filter_filter]

theorem Tidy.clear (h : q.Tidy) {keepCount : Nat} (hkeep : 0 < keepCount) : (q.clear keepCount).Tidy := by
  unfold TQueue.clear
  rw [if_neg (by omega : ¬ keepCount = 0)]
  split_ifs
  · exact h
  · exact fun e he hnil => h e ((List.drop_sublist _ _).subset he) hnil

/-- The number of updates that `clear` keeps: a placeholder counts as one of those asked for. -/
def keptBy (q : TQueue) (keepCount : Nat) : Nat :=
  if q.isLastCleared = true ∧ keepCount < q.size then keepCount - 1 else keepCount

theorem Tidy.updates_clear (h : q.Tidy) {keepCount : Nat} (hkeep : 0 < keepCount) :
    (q.clear keepCount).updates = q.updates.drop (q.updates.length - q.keptBy keepCount) := by
  have hfull : ∀ n, (q.withoutCleared.drop n).filter (·.data ≠ []) = q.withoutCleared.drop n := by
    intro n
    rw [List.filter_eq_self]
    intro e he
    have hmem := (List.drop_sublist _ _).subset he
    rw [h.withoutCleared_eq] at hmem
    exact (List.mem_filter.1 hmem).2
  have hlength : q.withoutCleared.length = q.size := by rw [h.size_eq, h.withoutCleared_eq]
  unfold TQueue.clear keptBy
  rw [if_neg (by omega : ¬ keepCount = 0), ← h.withoutCleared_eq, hlength]
  by_cases hsize : q.size ≤ keepCount
  · rw [if_pos hsize, if_neg (by omega), Nat.sub_eq_zero_of_le hsize, h.withoutCleared_eq]
    rfl
  rw [if_neg hsize]
  change (q.events.drop _).filter _ = _
  by_cases hc : q.isLastCleared = true
  · obtain ⟨c, hdata, hevents⟩ := events_of_isLastCleared hc
    rw [if_pos ⟨hc, by omega⟩, hevents, List.length_append, hlength, List.drop_append_of_le_length (by
      rw [hlength, List.length_singleton]; omega), List.filter_append, hfull, List.filter_singleton]
    rw [List.length_singleton, show q.size + 1 - keepCount = q.size - (keepCount - 1) by omega]
    simp [hdata]
  · rw [if_neg fun hboth => hc hboth.1]
    have hevents : q.withoutCleared = q.events := if_neg hc
    rw [← hlength, hevents, ← hevents, hfull]

theorem clear_suffix (q : TQueue) {keepCount : Nat} (hkeep : 0 < keepCount) :
    ∃ before, q.events = before ++ (q.clear keepCount).events := by
  unfold clear
  rw [if_neg (by omega : ¬ keepCount = 0)]
  split_ifs
  · exact ⟨[], rfl⟩
  · exact ⟨_, (List.take_append_drop _ _).symm⟩

theorem clear_tailId (q : TQueue) (keepCount : Nat) : (q.clear keepCount).tailId = q.tailId := by
  unfold clear
  split_ifs <;> rfl

/-- What `clear` keeps is what lies behind the new head. -/
theorem live_clear (q : TQueue) {keepCount : Nat} (hkeep : 0 < keepCount) (now : Int) :
    (q.clear keepCount).live now = (q.live now).filter ((q.clear keepCount).head ≤ ·.id) := by
  obtain ⟨before, hevents⟩ := q.clear_suffix hkeep
  have hbefore : ∀ e ∈ before, ¬ (q.clear keepCount).head ≤ e.id := by
    intro e he
    have hsorted := q.sorted
    have hbound := (q.bounded e (by rw [hevents]; exact List.mem_append_left _ he)).2
    rw [hevents, List.map_append, List.pairwise_append] at hsorted
    rw [Int.not_le]
    unfold head
    split
    · rw [q.clear_tailId]
      exact hbound
    · rename_i first rest hfirst
      exact hsorted.2.2 e.id (List.mem_map_of_mem he) first.id (by rw [hfirst]; exact List.mem_cons_self)
  unfold live
  rw [hevents, List.filter_append, List.filter_append, List.filter_filter,
    List.filter_eq_nil_iff.2 fun e he h => hbefore e he (of_decide_eq_true (Bool.and_eq_true_iff.1 h).1),
    List.nil_append]
  refine (List.filter_eq_self.2 ?_).symm
  intro e he
  exact decide_eq_true (head_le (List.mem_filter.1 he).1)

end Spec

end TQueue

end TelegramBotApi
