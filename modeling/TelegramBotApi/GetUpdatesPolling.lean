import TelegramBotApi.GetUpdatesDelivery

/-!
# A bot that polls

The bot passes the identifier behind the last update that it has received. `Follows` says that no update
is lost for it, also when its calls overlap: whatever it has not seen lies behind everything that it has
seen. If no call of the bot is made while another one waits, the updates arrive in the order in which they
were added, each of them once.
-/

namespace TelegramBotApi

namespace ClientUpdates

variable {q : TQueue} {s : ClientUpdates} {x : ClientUpdates.Input} {e : TQueueEvent} {offset : Int}
  {r : List TQueueEvent} {c : ClientUpdates.Call}

def nextOffset (s : ClientUpdates) : Int :=
  match s.received.getLast? with
  | none => 0
  | some e => e.id + 1

/-- A call goes on behind the last received update. -/
def Polls (s : ClientUpdates) (x : Input) : Prop :=
  match x.event with
  | .getUpdates query => getUpdatesOffset query = s.nextOffset
  | _ => True

/-- A call is made when no other one waits. -/
def Alone (s : ClientUpdates) (x : Input) : Prop :=
  match x.event with
  | .getUpdates _ => s.longPoll = none
  | _ => True

/-- The queue has been read after the end of the update. -/
def Expired (s : ClientUpdates) (e : TQueueEvent) : Prop := ∃ time ∈ s.readTimes, e.expiresAt < time

def Unseen (s : ClientUpdates) (e : TQueueEvent) : Prop := e ∉ s.received ∧ ¬ s.Expired e

/-- The updates that the bot has not seen are still there, behind those that it has seen. -/
structure Follows (s : ClientUpdates) : Prop where
  accounted : ∀ e ∈ s.pushed, e ∈ s.received ∨ e ∈ s.tqueue.updates ∨ s.Expired e
  known : ∀ e, e ∈ s.tqueue.updates ∨ e ∈ s.received → e ∈ s.pushed
  bounded : ∀ e ∈ s.received, 0 < e.id ∧ e.id < s.tqueue.tailId
  ahead : ∀ e ∈ s.tqueue.updates, s.Unseen e → ∀ e' ∈ s.received, e'.id < e.id
  parked : ∀ l ∈ s.longPoll, 0 ≤ l.offset ∧ l.offset ≤ s.tqueue.tailId ∧
    ∀ e ∈ s.tqueue.updates, s.Unseen e → l.offset ≤ e.id

theorem follows_init : Follows {} where
  accounted e he := by cases he
  known e he := by rcases he with he | he <;> cases he
  bounded e he := by cases he
  ahead e he := by cases he
  parked l hl := by cases hl

theorem head_nonneg (h : 0 ≤ q.tailId) : 0 ≤ q.head := by
  by_contra hneg
  have hnil := TQueue.events_eq_nil_of_head (q := q) (by omega)
  have hhead : q.head = q.tailId := by
    unfold TQueue.head
    rw [hnil]
  omega

/-- An offset that is not behind the tail never makes the call return earlier updates. -/
theorem le_effectiveOffset (hnonneg : 0 ≤ q.tailId) (hoffset : 0 ≤ offset) (htail : offset ≤ q.tailId) :
    offset ≤ effectiveOffset q offset := by
  unfold effectiveOffset
  rw [clearedQueue_of_nonneg hoffset]
  split_ifs with haccepted
  · exact Int.le_refl _
  · by_cases hpos : 0 < offset
    · have hmax := q.tail_lt
      by_contra hhead
      exact haccepted ⟨hpos, by omega, by omega, by omega⟩
    · have := head_nonneg hnonneg
      omega

theorem readOffset_bounds (hnonneg : 0 ≤ q.tailId) (hoffset : 0 ≤ offset) (htail : offset ≤ q.tailId) :
    offset ≤ readOffset q offset ∧ readOffset q offset ≤ q.tailId := by
  by_cases hpos : 0 < offset
  · rw [readOffset_of_pos hpos]
    exact ⟨Int.le_refl _, htail⟩
  · rw [readOffset_of_nonpos (Int.not_lt.1 hpos)]
    have := head_nonneg hnonneg
    exact ⟨by omega, q.head_le_tail⟩

/-- What the bot receives from a step that serves a call. -/
theorem Serves.received (hs : Serves s x c r) :
    ∃ p, p <+: wanted s.tqueue c.offset x.unixTime ∧ (s.step x).received = s.received ++ p := by
  rcases hs.outcome with ⟨-, hsame, -⟩ | ⟨hanswers, -⟩
  · exact ⟨[], List.nil_prefix, by rw [hsame, List.append_nil]⟩
  · refine ⟨_, (jsonUpdates_isPrefix (2 ^ 22) r).trans ?_, ?_⟩
    · rw [hs.returned]
      exact List.take_prefix _ _
    · unfold ClientUpdates.received
      rw [hanswers, List.flatMap_append, List.flatMap_singleton]
      rfl

/-- The offset of a served call passes over no update that the bot has not seen. -/
theorem Follows.servedOffset (h : Follows s) (hinv : Inv s) (hpolls : Polls s x) (hc : s.serving x = some c) :
    0 ≤ c.offset ∧ c.offset ≤ s.tqueue.tailId ∧ ∀ e ∈ s.tqueue.updates, s.Unseen e → c.offset ≤ e.id := by
  obtain ⟨event, now, unixTime⟩ := x
  cases event with
  | addUpdate first data expiresAt extra => cases hc
  | rawEvent =>
      obtain ⟨l, hl, rfl⟩ := Option.map_eq_some_iff.1 hc
      exact h.parked l hl
  | getUpdates query =>
      cases hc
      have hnext : getUpdatesOffset query = s.nextOffset := hpolls
      dsimp only
      rw [hnext]
      unfold nextOffset
      cases hlast : s.received.getLast? with
      | none =>
          refine ⟨Int.le_refl _, hinv.nonneg, fun e he _ => ?_⟩
          exact Int.le_of_lt (s.tqueue.bounded e (TQueue.mem_updates.1 he).1).1
      | some e₀ =>
          have hmem := List.mem_of_getLast? hlast
          have hbound := h.bounded e₀ hmem
          refine ⟨by dsimp only; omega, hbound.2, fun e he hunseen => ?_⟩
          exact h.ahead e he hunseen e₀ hmem

/-- What has been seen stays seen. -/
theorem Unseen.of_serves (hs : Serves s x c r) (hunseen : (s.step x).Unseen e) : s.Unseen e := by
  obtain ⟨p, -, hreceived⟩ := hs.received
  refine ⟨fun he => hunseen.1 ?_, fun ⟨time, htime, hlt⟩ => hunseen.2 ⟨time, ?_, hlt⟩⟩
  · rw [hreceived]
    exact List.mem_append_left _ he
  · rw [hs.readTimes]
    exact List.mem_append_left _ htime

theorem Unseen.not_expired (hs : Serves s x c r) (hunseen : (s.step x).Unseen e) : x.unixTime ≤ e.expiresAt := by
  by_contra hlt
  refine hunseen.2 ⟨x.unixTime, ?_, by omega⟩
  rw [hs.readTimes]
  exact List.mem_append_right _ List.mem_cons_self

/-- What has been read and not received lies behind everything received, or has expired. -/
theorem Follows.serve (h : Follows s) (hinv : Inv s) (hs : Serves s x c r) (hnonneg : 0 ≤ c.offset)
    (htail : c.offset ≤ s.tqueue.tailId)
    (hoffset : ∀ e ∈ s.tqueue.updates, s.Unseen e → c.offset ≤ e.id) : Follows (s.step x) := by
  obtain ⟨n, hread⟩ := hs.read
  obtain ⟨p, hstart, hreceived⟩ := hs.received
  have hqueue : clearedQueue s.tqueue c.offset = s.tqueue := clearedQueue_of_nonneg hnonneg
  have hwanted : ∀ e ∈ p, e ∈ s.tqueue.updates := fun e he =>
    (TQueue.mem_live.1 (List.mem_filter.1 (hstart.subset he)).1).1
  have htailId : (s.step x).tqueue.tailId = s.tqueue.tailId := by rw [hread.tailId, hqueue]
  have hexpired : ∀ {e}, s.Expired e → (s.step x).Expired e := fun ⟨time, htime, hlt⟩ =>
    ⟨time, by rw [hs.readTimes]; exact List.mem_append_left _ htime, hlt⟩
  -- An update that was there and is still unseen has not been removed.
  have hstays : ∀ e ∈ s.tqueue.updates, (s.step x).Unseen e → e ∈ (s.step x).tqueue.updates := by
    intro e he hunseen
    refine hs.stays (by rw [hqueue]; exact he) (hunseen.not_expired hs) (effectiveOffset_le ?_ ?_)
    · rw [hqueue]
      exact he
    · intro hconfirmed
      have := hoffset e he (hunseen.of_serves hs)
      omega
  constructor
  · intro e he
    rw [hs.pushed] at he
    by_cases hunseen : (s.step x).Unseen e
    · rcases h.accounted e he with hold | hold | hold
      · exact absurd (by rw [hreceived]; exact List.mem_append_left _ hold) hunseen.1
      · exact Or.inr (Or.inl (hstays e hold hunseen))
      · exact absurd (hexpired hold) hunseen.2
    · rcases not_and_or.1 hunseen with hseen | hseen
      · exact Or.inl (not_not.1 hseen)
      · exact Or.inr (Or.inr (not_not.1 hseen))
  · rintro e (he | he)
    · rw [hs.pushed]
      exact h.known e (Or.inl (hs.mem_updates hinv.tidy he))
    · rw [hs.pushed]
      rw [hreceived] at he
      rcases List.mem_append.1 he with he | he
      · exact h.known e (Or.inr he)
      · exact h.known e (Or.inl (hwanted e he))
  · intro e he
    rw [htailId]
    rw [hreceived] at he
    rcases List.mem_append.1 he with he | he
    · exact h.bounded e he
    · exact s.tqueue.bounded e (TQueue.mem_updates.1 (hwanted e he)).1
  · intro e he hunseen e' he'
    have hold := hs.mem_updates hinv.tidy he
    rw [hreceived] at he'
    rcases List.mem_append.1 he' with he' | he'
    · exact h.ahead e hold (hunseen.of_serves hs) e' he'
    · -- The answer is a beginning of the ordered list that the update belongs to.
      obtain ⟨rest, hrest⟩ := hstart
      have hmem : e ∈ wanted s.tqueue c.offset x.unixTime := by
        rw [← hs.live]
        exact TQueue.mem_live.2 ⟨he, hunseen.not_expired hs⟩
      have hsorted := wanted_sorted s.tqueue c.offset x.unixTime
      rw [← hrest] at hmem hsorted
      rw [List.map_append, List.pairwise_append] at hsorted
      rcases List.mem_append.1 hmem with hmem | hmem
      · exact absurd (by rw [hreceived]; exact List.mem_append_right _ hmem) hunseen.1
      · exact hsorted.2.2 e'.id (List.mem_map_of_mem he') e.id (List.mem_map_of_mem hmem)
  · intro l hl
    rw [htailId]
    rcases hs.outcome with ⟨-, -, l', hl', -, hparked, -⟩ | ⟨-, hnone | ⟨-, hsame⟩⟩
    · obtain rfl := Option.some.inj (hl'.symm.trans hl)
      rw [hparked, hqueue]
      have hbounds := readOffset_bounds hinv.nonneg hnonneg htail
      refine ⟨by omega, hbounds.2, fun e he hunseen => ?_⟩
      have hold := hs.mem_updates hinv.tidy he
      by_cases hpos : 0 < c.offset
      · rw [readOffset_of_pos hpos]
        exact hoffset e hold (hunseen.of_serves hs)
      · rw [readOffset_of_nonpos (Int.not_lt.1 hpos)]
        exact TQueue.head_le (TQueue.mem_updates.1 hold).1
    · rw [hnone] at hl
      cases hl
    · rw [hsame] at hl
      obtain ⟨hl₀, hltail, hparked⟩ := h.parked l hl
      exact ⟨hl₀, hltail, fun e he hunseen => hparked e (hs.mem_updates hinv.tidy he) (hunseen.of_serves hs)⟩

theorem Quiet.received {t : ClientUpdates} (h : Quiet s t) : t.received = s.received := by
  unfold ClientUpdates.received
  rw [h.answers]

theorem Quiet.unseen {t : ClientUpdates} (h : Quiet s t) : t.Unseen e ↔ s.Unseen e := by
  unfold Unseen Expired
  rw [h.received, h.readTimes]

theorem Quiet.waitingOffset {t : ClientUpdates} (h : Quiet s t) {l : LongPoll} (hl : l ∈ t.longPoll) :
    ∃ l₀ ∈ s.longPoll, l₀.offset = l.offset := by
  have hmap := h.longPoll
  rw [hl] at hmap
  obtain ⟨l₀, hl₀, hsame⟩ := Option.map_eq_some_iff.1 hmap.symm
  exact ⟨l₀, hl₀, congrArg (·.2.1) hsame⟩

/-- A new update lies behind everything. -/
theorem Follows.extend (h : Follows s) {t : ClientUpdates} (hquiet : Quiet s t) (hext : Extends s.tqueue t.tqueue e)
    (hpushed : t.pushed = s.pushed ++ [e]) : Follows t := by
  have hreceived := hquiet.received
  have hmem : ∀ e', e' ∈ t.tqueue.updates ↔ e' ∈ s.tqueue.updates ∨ e' = e := by
    intro e'
    rw [hext.updates, List.mem_append, List.mem_singleton]
  have htail := hext.tail_le
  have htail' := hext.tailId
  constructor
  · intro e' he'
    rw [hpushed, List.mem_append, List.mem_singleton] at he'
    rw [hreceived, hmem]
    unfold Expired
    rw [hquiet.readTimes]
    rcases he' with he' | rfl
    · rcases h.accounted e' he' with hold | hold | hold
      · exact Or.inl hold
      · exact Or.inr (Or.inl (Or.inl hold))
      · exact Or.inr (Or.inr hold)
    · exact Or.inr (Or.inl (Or.inr rfl))
  · intro e' he'
    rw [hpushed, List.mem_append, List.mem_singleton]
    rw [hmem, hreceived] at he'
    rcases he' with (he' | rfl) | he'
    · exact Or.inl (h.known e' (Or.inl he'))
    · exact Or.inr rfl
    · exact Or.inl (h.known e' (Or.inr he'))
  · intro e' he'
    rw [hreceived] at he'
    have := h.bounded e' he'
    omega
  · intro e' he' hunseen e'' he''
    rw [hreceived] at he''
    rcases (hmem e').1 he' with he' | rfl
    · exact h.ahead e' he' (hquiet.unseen.1 hunseen) e'' he''
    · have := h.bounded e'' he''
      omega
  · intro l hl
    obtain ⟨l₀, hl₀, hsame⟩ := hquiet.waitingOffset hl
    obtain ⟨hnonneg, hle, hparked⟩ := h.parked l₀ hl₀
    refine ⟨by omega, by omega, fun e' he' hunseen => ?_⟩
    rcases (hmem e').1 he' with he' | rfl
    · have := hparked e' he' (hquiet.unseen.1 hunseen)
      omega
    · omega

theorem Follows.quiet (h : Follows s) {t : ClientUpdates} (hquiet : Quiet s t) (hqueue : t.tqueue = s.tqueue)
    (hpushed : t.pushed = s.pushed) : Follows t := by
  have hreceived := hquiet.received
  constructor
  · intro e he
    unfold Expired
    rw [hreceived, hqueue, hquiet.readTimes]
    exact h.accounted e (hpushed ▸ he)
  · rw [hreceived, hqueue, hpushed]
    exact h.known
  · rw [hreceived, hqueue]
    exact h.bounded
  · intro e he hunseen
    rw [hreceived]
    exact h.ahead e (hqueue ▸ he) (hquiet.unseen.1 hunseen)
  · intro l hl
    obtain ⟨l₀, hl₀, hsame⟩ := hquiet.waitingOffset hl
    rw [← hsame, hqueue]
    obtain ⟨hnonneg, hle, hparked⟩ := h.parked l₀ hl₀
    exact ⟨hnonneg, hle, fun e he hunseen => hparked e he (hquiet.unseen.1 hunseen)⟩

theorem Follows.step (h : Follows s) (hinv : Inv s) (hwrap : NoWrap s x) (hpolls : Polls s x) :
    Follows (s.step x) := by
  cases hc : s.serving x with
  | none =>
      obtain ⟨hquiet, ⟨hqueue, hpushed⟩ | ⟨e, hext, hpushed⟩⟩ :=
        step_of_not_serving hinv.crashed hinv.tidy hinv.nonneg hwrap hc
      · exact h.quiet hquiet hqueue hpushed
      · exact h.extend hquiet hext hpushed
  | some c =>
      obtain ⟨r, hs⟩ := serves hinv.crashed hc
      obtain ⟨hnonneg, htail, hoffset⟩ := h.servedOffset hinv hpolls hc
      exact h.serve hinv hs hnonneg htail hoffset

/-- The updates have arrived in order, and a waiting call asks for later ones. -/
structure InOrder (s : ClientUpdates) : Prop where
  sorted : (s.received.map (·.id)).Pairwise (· < ·)
  behind : ∀ l ∈ s.longPoll, ∀ e ∈ s.received, e.id < l.offset

theorem inOrder_init : InOrder {} where
  sorted := List.Pairwise.nil
  behind l hl := by cases hl

theorem InOrder.lt_nextOffset (h : InOrder s) (he : e ∈ s.received) : e.id < s.nextOffset := by
  unfold nextOffset
  cases hlast : s.received.getLast? with
  | none =>
      rw [List.getLast?_eq_none_iff.1 hlast] at he
      cases he
  | some e₀ =>
      obtain ⟨before, hreceived⟩ := List.getLast?_eq_some_iff.1 hlast
      have hsorted := h.sorted
      rw [hreceived, List.map_append, List.pairwise_append] at hsorted
      rw [hreceived] at he
      dsimp only
      rcases List.mem_append.1 he with he | he
      · have := hsorted.2.2 e.id (List.mem_map_of_mem he) e₀.id List.mem_cons_self
        omega
      · rw [List.mem_singleton.1 he]
        omega

/-- A served call asks for updates behind all that have arrived. -/
theorem InOrder.lt_offset (h : InOrder s) (hpolls : Polls s x) (hc : s.serving x = some c) (he : e ∈ s.received) :
    e.id < c.offset := by
  obtain ⟨event, now, unixTime⟩ := x
  cases event with
  | addUpdate first data expiresAt extra => cases hc
  | rawEvent =>
      obtain ⟨l, hl, rfl⟩ := Option.map_eq_some_iff.1 hc
      exact h.behind l hl e he
  | getUpdates query =>
      cases hc
      have hnext : getUpdatesOffset query = s.nextOffset := hpolls
      dsimp only
      rw [hnext]
      exact h.lt_nextOffset he

/-- No other call waits while one is served. -/
theorem longPoll_of_serving (halone : Alone s x) (hc : s.serving x = some c) (hevent : x.event ≠ .rawEvent) :
    s.longPoll = none := by
  obtain ⟨event, now, unixTime⟩ := x
  cases event with
  | addUpdate first data expiresAt extra => cases hc
  | rawEvent => exact absurd rfl hevent
  | getUpdates query => exact halone

theorem InOrder.step (h : InOrder s) (hfollows : Follows s) (hinv : Inv s) (hwrap : NoWrap s x)
    (hpolls : Polls s x) (halone : Alone s x) : InOrder (s.step x) := by
  cases hc : s.serving x with
  | none =>
      obtain ⟨hquiet, -⟩ := step_of_not_serving hinv.crashed hinv.tidy hinv.nonneg hwrap hc
      constructor
      · rw [hquiet.received]
        exact h.sorted
      · intro l hl e he
        rw [hquiet.received] at he
        obtain ⟨l₀, hl₀, hsame⟩ := hquiet.waitingOffset hl
        rw [← hsame]
        exact h.behind l₀ hl₀ e he
  | some c =>
      obtain ⟨r, hs⟩ := serves hinv.crashed hc
      obtain ⟨hnonneg, htail, -⟩ := hfollows.servedOffset hinv hpolls hc
      have hlt : ∀ e ∈ s.received, e.id < c.offset := fun e he => h.lt_offset hpolls hc he
      constructor
      · obtain ⟨p, hstart, hreceived⟩ := hs.received
        rw [hreceived, List.map_append, List.pairwise_append]
        refine ⟨h.sorted, (wanted_sorted _ _ _).sublist (hstart.sublist.map _), ?_⟩
        intro id hid id' hid'
        obtain ⟨e, he, rfl⟩ := List.mem_map.1 hid
        obtain ⟨e', he', rfl⟩ := List.mem_map.1 hid'
        have hold := hlt e he
        have hnew : effectiveOffset s.tqueue c.offset ≤ e'.id :=
          of_decide_eq_true (List.mem_filter.1 (hstart.subset he')).2
        have hle := le_effectiveOffset hinv.nonneg hnonneg htail
        omega
      · intro l hl e he
        rcases hs.outcome with ⟨-, hsame, l', hl', -, hparked, -⟩ | ⟨-, hnone | ⟨hevent, hsame⟩⟩
        · obtain rfl := Option.some.inj (hl'.symm.trans hl)
          rw [hsame] at he
          have hold := hlt e he
          have hle := (readOffset_bounds hinv.nonneg hnonneg htail).1
          rw [hparked, clearedQueue_of_nonneg hnonneg]
          omega
        · rw [hnone] at hl
          cases hl
        · rw [hsame, longPoll_of_serving halone hc hevent] at hl
          cases hl

theorem follows_of_run {xs : List Input} (h : Inv s ∧ Follows s) (hwrap : StepRun.AllSteps step NoWrap s xs)
    (hpolls : StepRun.AllSteps step Polls s xs) : Follows (StepRun.run step s xs) := by
  induction xs generalizing s with
  | nil => exact h.2
  | cons x xs ih =>
      exact ih ⟨h.1.step hwrap.1, h.2.step h.1 hwrap.1 hpolls.1⟩ hwrap.2 hpolls.2

theorem inOrder_of_run {xs : List Input} (h : Inv s ∧ Follows s ∧ InOrder s)
    (hwrap : StepRun.AllSteps step NoWrap s xs) (hpolls : StepRun.AllSteps step Polls s xs)
    (halone : StepRun.AllSteps step Alone s xs) : InOrder (StepRun.run step s xs) := by
  induction xs generalizing s with
  | nil => exact h.2.2
  | cons x xs ih =>
      obtain ⟨hinv, hfollows, horder⟩ := h
      exact ih ⟨hinv.step hwrap.1, hfollows.step hinv hwrap.1 hpolls.1,
        horder.step hfollows hinv hwrap.1 hpolls.1 halone.1⟩ hwrap.2 hpolls.2 halone.2

theorem sparesUpdate_of_polls (hinv : Inv s) (hfollows : Follows s) (hpolls : Polls s x) : SparesUpdate s x := by
  intro c hc hloses
  have hnonneg := (hfollows.servedOffset hinv hpolls hc).1
  have hneg := hloses.1
  omega

theorem sparesUpdate_of_run {xs : List Input} (h : Inv s ∧ Follows s)
    (hwrap : StepRun.AllSteps step NoWrap s xs) (hpolls : StepRun.AllSteps step Polls s xs) :
    StepRun.AllSteps step SparesUpdate s xs := by
  induction xs generalizing s with
  | nil => trivial
  | cons x xs ih =>
      obtain ⟨hinv, hfollows⟩ := h
      exact ⟨sparesUpdate_of_polls hinv hfollows hpolls.1,
        ih ⟨hinv.step hwrap.1, hfollows.step hinv hwrap.1 hpolls.1⟩ hwrap.2 hpolls.2⟩

/-- All calls are served well, and lose nothing, if and only if no negative offset makes a placeholder take
the place of an update. A bot that goes on behind the last received update gets every update that does not
expire before; if it has one call at a time, it gets them in order and each of them once. -/
theorem getUpdates_delivers (xs : List Input) (hwrap : StepRun.AllSteps step NoWrap {} xs) :
    (StepRun.AllSteps step Delivers {} xs ↔ StepRun.AllSteps step SparesUpdate {} xs) ∧
    (StepRun.AllSteps step Polls {} xs →
      let s := StepRun.run step {} xs
      StepRun.AllSteps step Delivers {} xs ∧
      (∀ e ∈ s.pushed, e ∈ s.received ∨ e ∈ s.tqueue.updates ∨ s.Expired e) ∧
      (∀ e ∈ s.received, e ∈ s.pushed) ∧
      (StepRun.AllSteps step Alone {} xs → (s.received.map (·.id)).Pairwise (· < ·))) := by
  have hiff := delivers_iff_of_run inv_init hwrap
  refine ⟨hiff, fun hpolls => ?_⟩
  have hfollows := follows_of_run ⟨inv_init, follows_init⟩ hwrap hpolls
  refine ⟨hiff.2 (sparesUpdate_of_run ⟨inv_init, follows_init⟩ hwrap hpolls), hfollows.accounted,
    fun e he => hfollows.known e (Or.inr he), fun halone => ?_⟩
  exact (inOrder_of_run ⟨inv_init, follows_init, inOrder_init⟩ hwrap hpolls halone).sorted

/-- Three updates, the last one for 30 seconds, and two calls a minute later. -/
def threeUpdates (offset : Slice) : List Input :=
  let first : FirstEventId := ⟨2000001, by decide, by decide⟩
  let getUpdates (args : List (Slice × Slice)) : Event :=
    .getUpdates { token := [], method := "getupdates".toList, args := args }
  [⟨.addUpdate first "a".toList 86400 0, 0, 0⟩, ⟨.addUpdate first "b".toList 86400 0, 0, 0⟩,
    ⟨.addUpdate first "c".toList 30 0, 0, 0⟩, ⟨getUpdates [], 60 * second, 60⟩,
    ⟨getUpdates [("offset".toList, offset)], 61 * second, 61⟩]

theorem getUpdates_delivers_threeUpdates :
    StepRun.AllSteps step NoWrap {} (threeUpdates "2000003".toList) ∧
      StepRun.AllSteps step Delivers {} (threeUpdates "2000003".toList) := by
  have hwrap : StepRun.AllSteps step NoWrap {} (threeUpdates "2000003".toList) := by decide
  exact ⟨hwrap, (getUpdates_delivers _ hwrap).1.2 (by decide)⟩

theorem getUpdates_loses_update :
    StepRun.AllSteps step NoWrap {} (threeUpdates "-1".toList) ∧
      ¬ StepRun.AllSteps step Delivers {} (threeUpdates "-1".toList) := by
  have hwrap : StepRun.AllSteps step NoWrap {} (threeUpdates "-1".toList) := by decide
  refine ⟨hwrap, fun hdelivers => ?_⟩
  have hspares := (delivers_iff_of_run inv_init hwrap).1 hdelivers
  revert hspares
  decide

end ClientUpdates

end TelegramBotApi
