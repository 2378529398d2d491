import TelegramBotApi.BinlogEvent
import TelegramBotApi.RewriteLog

/-!
# The events of a binlog that are alive

`BinlogEventsProcessor` keeps the events of a binlog for its next regeneration. An erased event stays as
an empty one, its identifier marked by the lowest bit, until three quarters of all events are such. What
the processor stands for is a table of events; every event that the writers of a binlog add changes it as
a record of a log does, and compaction changes nothing.
-/

namespace TelegramBotApi

open RewriteLog (Record Table)

structure BinlogEventsProcessor where
  /-- `event_id * 2 + was_deleted`. -/
  eventIds : List Nat := []
  events : List BinlogEvent := []
  totalEvents : Nat := 0
  emptyEvents : Nat := 0
  lastEventId : Nat := 0
  offset : Int := 0
  totalRawEventsSize : Int := 0

namespace BinlogEventsProcessor

/-- The empty event that an erased one leaves. -/
def emptyEvent : BinlogEvent where
  size := 0
  id := 0
  type := 0
  flags := 0
  extra := 0
  crc32 := 0
  rawEvent := []

def compactify (p : BinlogEventsProcessor) : BinlogEventsProcessor :=
  let alive := (p.eventIds.zip p.events).filter (·.1 % 2 = 0)
  { p with
    eventIds := alive.map Prod.fst
    events := alive.map Prod.snd
    totalEvents := alive.length
    emptyEvents := 0 }

/-- The last step of `do_event`. -/
def compactifyIfNeeded (p : BinlogEventsProcessor) : BinlogEventsProcessor :=
  if 10 < p.totalEvents ∧ p.totalEvents * 3 < p.emptyEvents * 4 then p.compactify else p

/-- `do_event`; `none` if it returns an error. The doubled identifier is one of 64 bits. -/
def doEvent (p : BinlogEventsProcessor) (event : BinlogEvent) : Option BinlogEventsProcessor :=
  let p := { p with offset := event.offset }
  let fixedEventId := event.id * 2 % 2 ^ 64
  if event.isRewrite ∧ p.eventIds.getLast?.any (fixedEventId ≤ ·) then
    let pos := p.eventIds.findIdx (fixedEventId ≤ ·)
    if p.eventIds[pos]? ≠ some fixedEventId then none
    else
      let size := p.totalRawEventsSize - ((p.events[pos]?.getD emptyEvent).rawEvent.length : Int)
      if event.type = BinlogEvent.typeEmpty then
        some { p with
          eventIds := p.eventIds.set pos (fixedEventId + 1)
          events := p.events.set pos emptyEvent
          emptyEvents := p.emptyEvents + 1
          totalRawEventsSize := size }.compactifyIfNeeded
      else
        some { p with
          events := p.events.set pos { event with flags := event.flags - BinlogEvent.flagRewrite }
          totalRawEventsSize := size + event.rawEvent.length }.compactifyIfNeeded
  else if event.type < 0 then some p.compactifyIfNeeded
  else if p.eventIds.getLast?.any (fixedEventId ≤ ·) then none
  else
    some { p with
      eventIds := p.eventIds ++ [fixedEventId]
      events := p.events ++ [event]
      totalEvents := p.totalEvents + 1
      lastEventId := event.id
      totalRawEventsSize := p.totalRawEventsSize + event.rawEvent.length }.compactifyIfNeeded

def unmarked (l : List (Nat × BinlogEvent)) : Table BinlogEvent :=
  (l.filter (·.1 % 2 = 0)).map fun e => (e.1 / 2, e.2)

/-- The events that `for_each` passes on. -/
def alive (p : BinlogEventsProcessor) : Table BinlogEvent := unmarked (p.eventIds.zip p.events)

/-- The record that an event is for a processor whose last identifier is `last`: a regenerated binlog
keeps the flag of the events that were rewritten, and they are the first ones there. -/
def recordOf (last : Nat) (event : BinlogEvent) : Record BinlogEvent :=
  if event.isRewrite ∧ event.id ≤ last then
    if event.type = BinlogEvent.typeEmpty then .erase event.id
    else .rewrite event.id { event with flags := event.flags - BinlogEvent.flagRewrite }
  else .add event.id event

/-- The two vectors are those of one list, in the order of the identifiers. -/
structure Sound (p : BinlogEventsProcessor) (l : List (Nat × BinlogEvent)) : Prop where
  ids : p.eventIds = l.map Prod.fst
  events : p.events = l.map Prod.snd
  sorted : (l.map (·.1 / 2)).Pairwise (· < ·)
  le_last : ∀ e ∈ l, e.1 / 2 ≤ p.lastEventId
  total : p.totalEvents = l.length
  size : p.totalRawEventsSize = (((unmarked l).map (·.2.rawEvent.length)).sum : Nat)

section

variable {p : BinlogEventsProcessor} {l l' before after : List (Nat × BinlogEvent)} {event : BinlogEvent}
  {e : Nat × BinlogEvent}

theorem sound_empty : Sound {} [] :=
  ⟨rfl, rfl, List.Pairwise.nil, fun _ he => absurd he List.not_mem_nil, rfl, rfl⟩

theorem Sound.alive_eq (h : Sound p l) : p.alive = unmarked l := by
  unfold alive
  rw [h.ids, h.events, List.zip_map', List.map_id']

theorem unmarked_append (l l' : List (Nat × BinlogEvent)) :
    unmarked (l ++ l') = unmarked l ++ unmarked l' := by
  unfold unmarked
  rw [List.filter_append, List.map_append]

theorem mem_unmarked {id : Nat} {x : BinlogEvent} : (id, x) ∈ unmarked l ↔ (id * 2, x) ∈ l := by
  unfold unmarked
  simp only [List.mem_map, List.mem_filter, decide_eq_true_eq, Prod.mk.injEq]
  constructor
  · rintro ⟨e, ⟨he, heven⟩, rfl, rfl⟩
    rwa [show e.1 / 2 * 2 = e.1 by omega]
  · intro h
    exact ⟨_, ⟨h, by omega⟩, by omega, rfl⟩

theorem unmarked_filter (l : List (Nat × BinlogEvent)) :
    unmarked (l.filter (·.1 % 2 = 0)) = unmarked l := by
  unfold unmarked
  rw [List.filter_filter]
  simp only [Bool.and_self]

theorem Sound.compactify (h : Sound p l) : Sound p.compactify (l.filter (·.1 % 2 = 0)) := by
  have hzip : p.eventIds.zip p.events = l := by rw [h.ids, h.events, List.zip_map', List.map_id']
  refine ⟨?_, ?_, ?_, ?_, ?_, ?_⟩
  · simp only [BinlogEventsProcessor.compactify, hzip]
  · simp only [BinlogEventsProcessor.compactify, hzip]
  · exact h.sorted.sublist (List.filter_sublist.map _)
  · exact fun e he => h.le_last e (List.mem_of_mem_filter he)
  · simp only [BinlogEventsProcessor.compactify, hzip]
  · rw [unmarked_filter]
    exact h.size

/-- Compaction drops only the marked events. -/
theorem Sound.compactifyIfNeeded (h : Sound p l) :
    ∃ l', Sound p.compactifyIfNeeded l' ∧ unmarked l' = unmarked l := by
  unfold BinlogEventsProcessor.compactifyIfNeeded
  split_ifs
  · exact ⟨_, h.compactify, unmarked_filter l⟩
  · exact ⟨_, h, rfl⟩

theorem lastEventId_compactifyIfNeeded (p : BinlogEventsProcessor) :
    p.compactifyIfNeeded.lastEventId = p.lastEventId := by
  unfold BinlogEventsProcessor.compactifyIfNeeded
  split_ifs <;> rfl

theorem offset_compactifyIfNeeded (p : BinlogEventsProcessor) :
    p.compactifyIfNeeded.offset = p.offset := by
  unfold BinlogEventsProcessor.compactifyIfNeeded
  split_ifs <;> rfl

/-- No event is beyond a new identifier. -/
theorem Sound.not_any (h : Sound p l) {id : Nat} (hid : p.lastEventId < id) :
    p.eventIds.getLast?.any (id * 2 ≤ ·) = false := by
  rw [h.ids]
  cases hlast : (l.map Prod.fst).getLast? with
  | none => rfl
  | some i =>
      obtain ⟨e, he, rfl⟩ := List.mem_map.1 (List.mem_of_getLast? hlast)
      have hle := h.le_last e he
      rw [Option.any_some, decide_eq_false_iff_not]
      omega

/-- An event that is alive is not beyond the last one. -/
theorem Sound.any (h : Sound p l) {id : Nat} {x : BinlogEvent} (hid : (id * 2, x) ∈ l) :
    p.eventIds.getLast?.any (id * 2 ≤ ·) = true := by
  obtain ⟨before, after, rfl⟩ := List.append_of_mem hid
  have hsorted := h.sorted
  rw [h.ids, List.map_append, List.map_cons, List.getLast?_append_of_ne_nil _ (List.cons_ne_nil _ _)]
  cases hlast : ((id * 2) :: after.map Prod.fst).getLast? with
  | none => rw [List.getLast?_eq_none_iff] at hlast; cases hlast
  | some i =>
      rw [Option.any_some, decide_eq_true_eq]
      rcases List.mem_cons.1 (List.mem_of_getLast? hlast) with rfl | hi
      · exact Nat.le_refl _
      · obtain ⟨e, he, rfl⟩ := List.mem_map.1 hi
        rw [List.map_append, List.map_cons, List.pairwise_append] at hsorted
        have hlt := (List.pairwise_cons.1 hsorted.2.1).1 (e.1 / 2) (List.mem_map_of_mem he)
        simp only at hlt
        omega

/-- Where `lower_bound` finds an identifier. -/
theorem Sound.findIdx {id : Nat} {x : BinlogEvent} (h : Sound p (before ++ (id * 2, x) :: after)) :
    p.eventIds.findIdx (id * 2 ≤ ·) = before.length := by
  have hsorted := h.sorted
  rw [List.map_append, List.map_cons, List.pairwise_append] at hsorted
  have hbefore : ∀ i ∈ before.map Prod.fst, decide (id * 2 ≤ i) = false := by
    intro i hi
    obtain ⟨e, he, rfl⟩ := List.mem_map.1 hi
    have hlt := hsorted.2.2 (e.1 / 2) (List.mem_map_of_mem he) (id * 2 / 2) List.mem_cons_self
    rw [decide_eq_false_iff_not]
    omega
  rw [h.ids, List.map_append, List.map_cons, List.findIdx_append,
    List.findIdx_eq_length.2 hbefore, if_neg (by rw [List.length_map]; exact Nat.lt_irrefl _), List.findIdx_cons]
  simp

/-- One event is replaced, or marked. -/
theorem Sound.replace {id i : Nat} {x y : BinlogEvent} (h : Sound p (before ++ (id * 2, x) :: after))
    (hi : i / 2 = id) {q : BinlogEventsProcessor} (hids : q.eventIds = p.eventIds.set before.length i)
    (hevents : q.events = p.events.set before.length y) (hlast : q.lastEventId = p.lastEventId)
    (htotal : q.totalEvents = p.totalEvents)
    (hsize : q.totalRawEventsSize =
      (((unmarked (before ++ (i, y) :: after)).map (·.2.rawEvent.length)).sum : Nat)) :
    Sound q (before ++ (i, y) :: after) := by
  refine ⟨?_, ?_, ?_, ?_, ?_, hsize⟩
  · rw [hids, h.ids, List.map_append, List.map_append, List.set_append_right _ _ (by rw [List.length_map])]
    simp
  · rw [hevents, h.events, List.map_append, List.map_append,
      List.set_append_right _ _ (by rw [List.length_map])]
    simp
  · have hsorted := h.sorted
    simp only [List.map_append, List.map_cons, Nat.mul_div_cancel id (by decide : 0 < 2)] at hsorted
    simpa only [List.map_append, List.map_cons, hi] using hsorted
  · intro e he
    rw [hlast]
    rcases List.mem_append.1 he with he | he
    · exact h.le_last e (List.mem_append_left _ he)
    · rcases List.mem_cons.1 he with rfl | he
      · have hle := h.le_last (id * 2, x) (by simp)
        simp only at hle ⊢
        omega
      · exact h.le_last e (List.mem_append_right _ (List.mem_cons_of_mem _ he))
  · rw [htotal, h.total]
    simp

theorem unmarked_even (before after : List (Nat × BinlogEvent)) (id : Nat) (x : BinlogEvent) :
    unmarked (before ++ (id * 2, x) :: after) = unmarked before ++ (id, x) :: unmarked after := by
  rw [unmarked_append]
  unfold unmarked
  rw [List.filter_cons_of_pos (by simp), List.map_cons]
  simp

theorem unmarked_odd (before after : List (Nat × BinlogEvent)) (id : Nat) (x : BinlogEvent) :
    unmarked (before ++ (id * 2 + 1, x) :: after) = unmarked before ++ unmarked after := by
  rw [unmarked_append]
  unfold unmarked
  rw [List.filter_cons_of_neg (by simp)]

theorem Sound.unmarked_sorted (h : Sound p l) : ((unmarked l).map Prod.fst).Pairwise (· < ·) := by
  unfold unmarked
  rw [List.map_map]
  exact h.sorted.sublist (List.filter_sublist.map _)

theorem Sound.ordered (h : Sound p l) : RewriteLog.Ordered (unmarked l) p.lastEventId := by
  refine ⟨h.unmarked_sorted, fun e he => ?_⟩
  obtain ⟨id, x⟩ := e
  have hle := h.le_last _ (mem_unmarked.1 he)
  simp only at hle
  omega

/-- What `do_event` makes of a processor. -/
structure Does (p : BinlogEventsProcessor) (l : List (Nat × BinlogEvent)) (event : BinlogEvent)
    (r : Record BinlogEvent) (p' : BinlogEventsProcessor) (l' : List (Nat × BinlogEvent)) : Prop where
  done : p.doEvent event = some p'
  sound : Sound p' l'
  alive : unmarked l' = RewriteLog.apply (unmarked l) r
  last : p'.lastEventId = RewriteLog.lastAfter p.lastEventId r
  offset : p'.offset = event.offset

/-- Identifiers below `2 ^ 63` do not wrap when they are doubled. -/
theorem key_eq {id : Nat} (hid : id < 2 ^ 63) : id * 2 % 2 ^ 64 = id * 2 := Nat.mod_eq_of_lt (by omega)

theorem Sound.doEvent_add (h : Sound p l) (hbound : event.id < 2 ^ 63) (hid : p.lastEventId < event.id)
    (htype : 0 ≤ event.type) : ∃ p' l', Does p l event (.add event.id event) p' l' := by
  have hany := h.not_any hid
  have hsound : Sound { p with
      offset := event.offset
      eventIds := p.eventIds ++ [event.id * 2]
      events := p.events ++ [event]
      totalEvents := p.totalEvents + 1
      lastEventId := event.id
      totalRawEventsSize := p.totalRawEventsSize + event.rawEvent.length } (l ++ [(event.id * 2, event)]) := by
    refine ⟨by simp [h.ids], by simp [h.events], ?_, ?_, by simp [h.total], ?_⟩
    · rw [List.map_append, List.pairwise_append]
      refine ⟨h.sorted, List.pairwise_singleton _ _, ?_⟩
      intro a ha b hb
      obtain ⟨e, he, rfl⟩ := List.mem_map.1 ha
      have hle := h.le_last e he
      rw [List.map_singleton, List.mem_singleton] at hb
      subst hb
      simp only
      omega
    · intro e he
      rcases List.mem_append.1 he with he | he
      · exact Nat.le_of_lt (Nat.lt_of_le_of_lt (h.le_last e he) hid)
      · rw [List.mem_singleton.1 he]
        simp
    · rw [unmarked_even]
      simp [h.size, unmarked]
  obtain ⟨l', hsound', halive⟩ := hsound.compactifyIfNeeded
  refine ⟨_, l', ?_, hsound', ?_, lastEventId_compactifyIfNeeded _, offset_compactifyIfNeeded _⟩
  · unfold doEvent
    simp only [key_eq hbound, hany, Bool.false_eq_true, and_false, if_false]
    rw [if_neg (by omega)]
  · rw [halive, unmarked_even]
    rfl

/-- The place of an event that is alive. -/
theorem Sound.found {id : Nat} {x : BinlogEvent} (h : Sound p (before ++ (id * 2, x) :: after)) :
    p.eventIds[before.length]? = some (id * 2) ∧ p.events[before.length]? = some x := by
  have hplace : ∀ (β : Type) (f : Nat × BinlogEvent → β),
      ((before ++ (id * 2, x) :: after).map f)[before.length]? = some (f (id * 2, x)) := by
    intro β f
    rw [List.getElem?_map, List.getElem?_append_right (Nat.le_refl _), Nat.sub_self]
    rfl
  rw [h.ids, h.events]
  exact ⟨hplace _ _, hplace _ _⟩

theorem Sound.doEvent_erase {x : BinlogEvent} (h : Sound p l) (hbound : event.id < 2 ^ 63)
    (hmem : (event.id, x) ∈ unmarked l) (hrewrite : event.isRewrite = true) (htype : event.type = BinlogEvent.typeEmpty) :
    ∃ p' l', Does p l event (.erase event.id) p' l' := by
  have hany := h.any (mem_unmarked.1 hmem)
  have hsorted := h.unmarked_sorted
  obtain ⟨before, after, rfl⟩ := List.append_of_mem (mem_unmarked.1 hmem)
  obtain ⟨hid, hevent⟩ := h.found
  rw [unmarked_even] at hsorted
  have hsound : Sound { p with
      offset := event.offset
      eventIds := p.eventIds.set before.length (event.id * 2 + 1)
      events := p.events.set before.length emptyEvent
      emptyEvents := p.emptyEvents + 1
      totalRawEventsSize := p.totalRawEventsSize - (x.rawEvent.length : Int) }
        (before ++ (event.id * 2 + 1, emptyEvent) :: after) := by
    refine h.replace (by omega) rfl rfl rfl rfl ?_
    change p.totalRawEventsSize - _ = _
    rw [h.size, unmarked_even, unmarked_odd]
    simp only [List.map_append, List.map_cons, List.sum_append, List.sum_cons]
    omega
  obtain ⟨l', hsound', halive⟩ := hsound.compactifyIfNeeded
  refine ⟨_, l', ?_, hsound', ?_, lastEventId_compactifyIfNeeded _, offset_compactifyIfNeeded _⟩
  · unfold doEvent
    simp only [key_eq hbound, hrewrite, hany, and_self, if_true, h.findIdx, hid, hevent, htype, ne_eq,
      not_true_eq_false, if_false, Option.getD_some]
  · rw [halive, unmarked_odd, unmarked_even, RewriteLog.apply_erase_split hsorted]

theorem Sound.doEvent_rewrite {x : BinlogEvent} (h : Sound p l) (hbound : event.id < 2 ^ 63)
    (hmem : (event.id, x) ∈ unmarked l) (hrewrite : event.isRewrite = true) (htype : event.type ≠ BinlogEvent.typeEmpty) :
    ∃ p' l', Does p l event
      (.rewrite event.id { event with flags := event.flags - BinlogEvent.flagRewrite }) p' l' := by
  have hany := h.any (mem_unmarked.1 hmem)
  have hsorted := h.unmarked_sorted
  obtain ⟨before, after, rfl⟩ := List.append_of_mem (mem_unmarked.1 hmem)
  obtain ⟨hid, hevent⟩ := h.found
  rw [unmarked_even] at hsorted
  have hsound : Sound { p with
      offset := event.offset
      events := p.events.set before.length { event with flags := event.flags - BinlogEvent.flagRewrite }
      totalRawEventsSize := p.totalRawEventsSize - (x.rawEvent.length : Int) + event.rawEvent.length }
        (before ++ (event.id * 2, { event with flags := event.flags - BinlogEvent.flagRewrite }) :: after) := by
    refine h.replace (by omega) ?_ rfl rfl rfl ?_
    · obtain ⟨hlt, hget⟩ := List.getElem?_eq_some_iff.1 hid
      change p.eventIds = _
      rw [← hget, List.set_getElem_self]
    · change p.totalRawEventsSize - _ + _ = _
      rw [h.size, unmarked_even, unmarked_even]
      simp only [List.map_append, List.map_cons, List.sum_append, List.sum_cons]
      omega
  obtain ⟨l', hsound', halive⟩ := hsound.compactifyIfNeeded
  refine ⟨_, l', ?_, hsound', ?_, lastEventId_compactifyIfNeeded _, offset_compactifyIfNeeded _⟩
  · unfold doEvent
    simp only [key_eq hbound, hrewrite, hany, and_self, if_true, h.findIdx, hid, hevent, htype, ne_eq,
      not_true_eq_false, if_false, Option.getD_some]
  · rw [halive, unmarked_even, unmarked_even, RewriteLog.apply_rewrite_split hsorted]

/-- The event is a legal record, and one that is not about an older event is no service event. -/
structure Follows (t : Table BinlogEvent) (last : Nat) (event : BinlogEvent) : Prop where
  id_lt : event.id < 2 ^ 63
  legal : RewriteLog.Legal t last (recordOf last event)
  type_nonneg : ¬ (event.isRewrite = true ∧ event.id ≤ last) → 0 ≤ event.type

/-- An event that follows is taken as the record that it is. -/
theorem Sound.doEvent (h : Sound p l) (hf : Follows (unmarked l) p.lastEventId event) :
    ∃ p' l', Does p l event (recordOf p.lastEventId event) p' l' := by
  have hlegal := hf.legal
  unfold recordOf at hlegal ⊢
  split_ifs at hlegal ⊢ with hold htype
  · obtain ⟨⟨id, x⟩, hmem, rfl⟩ := List.mem_map.1 hlegal
    exact h.doEvent_erase hf.id_lt hmem hold.1 htype
  · obtain ⟨⟨id, x⟩, hmem, hid⟩ := List.mem_map.1 hlegal
    obtain rfl : id = event.id := hid
    exact h.doEvent_rewrite hf.id_lt hmem hold.1 htype
  · exact h.doEvent_add hf.id_lt hlegal (hf.type_nonneg hold)

end

end BinlogEventsProcessor

end TelegramBotApi
