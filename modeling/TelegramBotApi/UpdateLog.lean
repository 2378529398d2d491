import TelegramBotApi.UpdateStore
import TelegramBotApi.BinlogTable
import Mathlib.Algebra.Order.BigOperators.Group.List
import Mathlib.Algebra.Order.Group.Nat

/-!
# The log of the update storage

An event of a queue is stored in the binlog as one log event. The table of the log has, in the order of
the identifiers, the events of all queues; the part of one queue is `eventsOf`. A table can be restored
when every part of it could be a queue, and the records that only take events away keep it so.
-/

namespace TelegramBotApi

open RewriteLog (Record Table)
open TlStorer TlParser

namespace LogEvent

def rawEvent (logEventId : Nat) (event : LogEvent) : RawEvent where
  logEventId := logEventId
  eventId := event.eventId
  expiresAt := event.expiresAt
  data := event.data
  extra := event.extra

def store (event : LogEvent) : Bytes :=
  storeLong event.queueId.toInt ++ (storeInt event.eventId ++ (storeInt event.expiresAt.toInt ++
    (storeString event.data ++ if event.extra ≠ 0 then storeLong event.extra.toInt else [])))

def parse (hasExtra : Int) (data : Bytes) : Option (LogEvent × Bytes) := do
  let queueId ← fetchLong data
  let eventId ← fetchInt queueId.2
  let expiresAt ← fetchInt eventId.2
  let str ← fetchString expiresAt.2
  let event : LogEvent :=
    { queueId := Int64.ofInt queueId.1, eventId := eventId.1, expiresAt := Int32.ofInt expiresAt.1,
      data := str.1, extra := 0 }
  if hasExtra = 0 then some (event, str.2)
  else do
    let extra ← fetchLong str.2
    some ({ event with extra := Int64.ofInt extra.1 }, extra.2)

def binlogEventType : Int := 2314

/-- The magic and the data that `push` gives to the binlog. -/
def content (event : LogEvent) : Content :=
  (binlogEventType + (if event.extra ≠ 0 then 1 else 0), event.store)

/-- What `replay` reads in an event of the binlog. -/
def ofContent (content : Content) : Option LogEvent :=
  let hasExtra := content.1 - binlogEventType
  if hasExtra ≠ 0 ∧ hasExtra ≠ 1 then none
  else do
    let r ← parse hasExtra content.2
    fetchEnd r.2
    -- `EventId::from_int32`
    if 0 ≤ r.1.eventId ∧ r.1.eventId < maxEventId then some r.1 else none

def cleared (event : LogEvent) : LogEvent := { event with data := [] }

/-- The event has the numbers of one that was pushed. -/
structure Valid (event : LogEvent) : Prop where
  queueId : event.queueId ≠ 0
  eventId : isValidEventId event.eventId
  next : event.eventId + 1 < maxEventId
  expiresAt : 0 < event.expiresAt.toInt
  length_le : event.data.length ≤ TQueue.maxEventLength

variable {event : LogEvent} {id : Nat}

theorem Valid.cleared (h : event.Valid) : event.cleared.Valid :=
  ⟨h.queueId, h.eventId, h.next, h.expiresAt, Nat.zero_le _⟩

theorem parse_store (h : event.Valid) :
    parse (if event.extra ≠ 0 then 1 else 0) event.store = some (event, []) := by
  obtain ⟨queueId, eventId, expiresAt, data, extra⟩ := event
  have hlength : data.length < 2 ^ 32 := Nat.lt_of_le_of_lt h.length_le (by decide)
  have hnext := h.next
  have hpos := h.eventId.1
  have heventId : IsInt32 eventId := by
    simp only [maxEventId] at hnext hpos
    unfold IsInt32
    omega
  unfold parse store
  simp only [Option.bind_eq_bind]
  rw [fetchLong_storeLong ⟨queueId.le_toInt, queueId.toInt_lt⟩, Option.bind_some, fetchInt_storeInt heventId,
    Option.bind_some, fetchInt_storeInt ⟨expiresAt.le_toInt, expiresAt.toInt_lt⟩, Option.bind_some,
    fetchString_storeString hlength, Option.bind_some]
  simp only [Int64.ofInt_toInt, Int32.ofInt_toInt]
  by_cases hextra : extra = 0
  · subst hextra
    rfl
  · rw [if_pos hextra, if_neg Int.one_ne_zero, if_pos hextra, ← List.append_nil (storeLong extra.toInt),
      fetchLong_storeLong ⟨extra.le_toInt, extra.toInt_lt⟩, Option.bind_some]
    simp only [Int64.ofInt_toInt]

/-- What is pushed is replayed. -/
theorem ofContent_content (h : event.Valid) : ofContent event.content = some event := by
  have hid := h.eventId
  have hextra : event.content.1 - binlogEventType = if event.extra ≠ 0 then 1 else 0 := by
    unfold content
    dsimp only
    omega
  unfold ofContent
  dsimp only
  rw [hextra, if_neg (by split_ifs <;> decide)]
  change (parse _ event.store).bind _ = _
  rw [parse_store h]
  change (if 0 ≤ event.eventId ∧ event.eventId < maxEventId then some event else none) = _
  rw [if_pos ⟨Int.le_of_lt hid.1, hid.2⟩]

theorem storable_content (h : event.Valid) (hid : id < 2 ^ 63) : Storable id event.content := by
  have hstring := length_storeString event.data
  have hlength : event.store.length = 16 + (storeString event.data).length +
      if event.extra ≠ 0 then 8 else 0 := by
    unfold store
    simp only [List.length_append, storeLong, storeInt, LittleEndian.length_encodeInt]
    split_ifs <;> simp only [LittleEndian.length_encodeInt, List.length_nil] <;> omega
  have hle : (storeString event.data).length ≤ event.data.length + 11 := by
    unfold storeString stringLength stringPadding
    simp only [List.length_append, List.length_replicate]
    split_ifs <;> simp only [List.length_cons, List.length_append, LittleEndian.length_encode, List.length_nil] <;> omega
  have hdata := h.length_le
  refine ⟨hid, ?_, ?_, ?_, ?_⟩
  · unfold content binlogEventType
    dsimp only
    split_ifs <;> decide
  · unfold content binlogEventType
    dsimp only
    split_ifs <;> decide
  · change event.store.length + _ ≤ _
    rw [hlength]
    unfold TQueue.maxEventLength at hdata
    simp only [BinlogEvent.minSize, BinlogEvent.maxSize, BinlogEvent.headerSize, BinlogEvent.tailSize]
    split_ifs <;> omega
  · change event.store.length % 4 = 0
    rw [hlength]
    split_ifs <;> omega

end LogEvent

/-- The events of a queue that a log has. -/
def eventsOf (t : Table LogEvent) (queueId : Int64) : List RawEvent :=
  (t.filter (·.2.queueId = queueId)).map fun e => e.2.rawEvent e.1

/-- Those that are no placeholders. -/
def updatesOf (t : Table LogEvent) (queueId : Int64) : List RawEvent :=
  (eventsOf t queueId).filter (·.data ≠ [])

/-- The events could be those of a queue. -/
structure OneQueue (events : List RawEvent) : Prop where
  sorted : (events.map (·.eventId)).Pairwise (· < ·)
  /-- Only the last one may be a placeholder. -/
  full : ∀ e ∈ events, ∀ e' ∈ events, e.eventId < e'.eventId → e.data ≠ []
  length_le : events.length ≤ TQueue.maxQueueEvents
  total_le : (events.map (·.data.length)).sum ≤ TQueue.maxTotalEventLength

/-- The table can be replayed. -/
structure Restorable (t : Table LogEvent) : Prop where
  valid : ∀ e ∈ t, e.2.Valid
  queue : ∀ queueId, OneQueue (eventsOf t queueId)

/-- The record takes an event away: it is erased, or the last one of its queue loses its data. -/
inductive Takes (t : Table LogEvent) : Record LogEvent → Prop where
  | erase {id : Nat} (h : id ∈ t.map Prod.fst) : Takes t (.erase id)
  | clear {id : Nat} {x : LogEvent} (h : (id, x) ∈ t)
      (hlast : ∀ e ∈ eventsOf t x.queueId, e.eventId ≤ x.eventId) : Takes t (.rewrite id x.cleared)

def TakesAll : Table LogEvent → List (Record LogEvent) → Prop
  | _, [] => True
  | t, r :: rs => Takes t r ∧ TakesAll (RewriteLog.apply t r) rs

section

variable {t : Table LogEvent} {queueId : Int64} {id last : Nat} {x : LogEvent} {r : Record LogEvent}
  {rs : List (Record LogEvent)} {t' : Table LogEvent} {events events' : List RawEvent}
  {e : RawEvent}

@[simp] theorem eventsOf_nil (queueId : Int64) : eventsOf [] queueId = [] := rfl

theorem eventsOf_append (t t' : Table LogEvent) (queueId : Int64) :
    eventsOf (t ++ t') queueId = eventsOf t queueId ++ eventsOf t' queueId := by
  unfold eventsOf
  rw [List.filter_append, List.map_append]

theorem eventsOf_cons_self (h : x.queueId = queueId) (t : Table LogEvent) :
    eventsOf ((id, x) :: t) queueId = x.rawEvent id :: eventsOf t queueId := by
  unfold eventsOf
  rw [List.filter_cons_of_pos (by simpa using h), List.map_cons]

theorem eventsOf_cons_of_ne (h : x.queueId ≠ queueId) (t : Table LogEvent) :
    eventsOf ((id, x) :: t) queueId = eventsOf t queueId := by
  unfold eventsOf
  rw [List.filter_cons_of_neg (by simpa using h)]

theorem mem_eventsOf : e ∈ eventsOf t queueId ↔ (e.logEventId, e.toLogEvent queueId) ∈ t := by
  unfold eventsOf
  simp only [List.mem_map, List.mem_filter, decide_eq_true_eq]
  constructor
  · rintro ⟨⟨id, x⟩, ⟨hmem, rfl⟩, rfl⟩
    exact hmem
  · intro hmem
    exact ⟨_, ⟨hmem, rfl⟩, rfl⟩

/-- An event of a queue is an entry of the table. -/
theorem eventsOf_split {pre post : List RawEvent} (h : eventsOf t queueId = pre ++ e :: post) :
    ∃ before after, t = before ++ (e.logEventId, e.toLogEvent queueId) :: after ∧
      eventsOf before queueId = pre ∧ eventsOf after queueId = post := by
  unfold eventsOf at h
  obtain ⟨l₁, l₂, hfilter, hpre, hrest⟩ := List.map_eq_append_iff.1 h
  obtain ⟨entry, l₃, rfl, hentry, hpost⟩ := List.map_eq_cons_iff.1 hrest
  obtain ⟨t₁, t₂, rfl, ht₁, ht₂⟩ := List.filter_eq_append_iff.1 hfilter
  obtain ⟨skipped, t₃, rfl, hskipped, hqueue, ht₃⟩ := List.filter_eq_cons_iff.1 ht₂
  have hqueue := of_decide_eq_true hqueue
  have hnil : eventsOf skipped queueId = [] := by
    unfold eventsOf
    rw [List.filter_eq_nil_iff.2 hskipped, List.map_nil]
  refine ⟨t₁ ++ skipped, t₃, ?_, ?_, ?_⟩
  · subst hentry hqueue
    rw [List.append_assoc]
    rfl
  · rw [eventsOf_append, hnil, List.append_nil]
    unfold eventsOf
    rw [ht₁, hpre]
  · unfold eventsOf
    rw [ht₃, hpost]

theorem OneQueue.sublist (h : OneQueue events) (hsub : events'.Sublist events) : OneQueue events' where
  sorted := h.sorted.sublist (hsub.map _)
  full e he e' he' := h.full e (hsub.subset he) e' (hsub.subset he')
  length_le := Nat.le_trans hsub.length_le h.length_le
  total_le := Nat.le_trans ((hsub.map _).sum_le_sum fun _ _ => Nat.zero_le _) h.total_le

/-- The last event loses its data. -/
theorem OneQueue.clear {pre : List RawEvent} (h : OneQueue (pre ++ [e])) :
    OneQueue (pre ++ [e.cleared]) := by
  have hids : (pre ++ [e.cleared]).map (·.eventId) = (pre ++ [e]).map (·.eventId) := by
    rw [List.map_append, List.map_append]
    rfl
  refine ⟨hids ▸ h.sorted, ?_, ?_, ?_⟩
  · have hsorted := h.sorted
    rw [List.map_append, List.pairwise_append] at hsorted
    have hlt : ∀ e' ∈ pre, e'.eventId < e.eventId := fun e' he' =>
      hsorted.2.2 e'.eventId (List.mem_map_of_mem he') e.eventId List.mem_cons_self
    have hlast : e ∈ pre ++ [e] := List.mem_append_right _ List.mem_cons_self
    intro e₁ he₁ e₂ he₂ hid
    rcases List.mem_append.1 he₁ with he₁ | he₁
    · exact h.full e₁ (List.mem_append_left _ he₁) e hlast (hlt e₁ he₁)
    · rw [List.mem_singleton.1 he₁] at hid
      rcases List.mem_append.1 he₂ with he₂ | he₂
      · exact absurd hid (Int.not_lt.2 (Int.le_of_lt (hlt e₂ he₂)))
      · rw [List.mem_singleton.1 he₂] at hid
        exact absurd hid (Int.lt_irrefl _)
  · have hlength := h.length_le
    rwa [List.length_append] at hlength ⊢
  · have htotal := h.total_le
    rw [List.map_append, List.sum_append] at htotal ⊢
    exact Nat.le_trans (Nat.add_le_add_left (Nat.zero_le _) _) htotal

/-- A new event follows full ones. -/
theorem OneQueue.concat (h : OneQueue events) (hfull : ∀ e' ∈ events, e'.data ≠ [])
    (hlt : ∀ e' ∈ events, e'.eventId < e.eventId) (hlength : events.length < TQueue.maxQueueEvents)
    (htotal : (events.map (·.data.length)).sum + e.data.length ≤ TQueue.maxTotalEventLength) :
    OneQueue (events ++ [e]) where
  sorted := by
    rw [List.map_append, List.pairwise_append]
    refine ⟨h.sorted, List.pairwise_singleton _ _, fun id hid id' hid' => ?_⟩
    obtain ⟨e', he', rfl⟩ := List.mem_map.1 hid
    rw [List.mem_singleton.1 hid']
    exact hlt e' he'
  full e₁ he₁ e₂ he₂ hid := by
    rcases List.mem_append.1 he₁ with he₁ | he₁
    · exact hfull e₁ he₁
    · rw [List.mem_singleton.1 he₁] at hid
      rcases List.mem_append.1 he₂ with he₂ | he₂
      · exact absurd hid (Int.not_lt.2 (Int.le_of_lt (hlt e₂ he₂)))
      · rw [List.mem_singleton.1 he₂] at hid
        exact absurd hid (Int.lt_irrefl _)
  length_le := by
    rw [List.length_append]
    exact hlength
  total_le := by
    rw [List.map_append, List.sum_append, List.map_singleton, List.sum_singleton]
    exact htotal

/-- What an event that follows others says about them. -/
theorem OneQueue.before (h : OneQueue (events ++ [e])) :
    (∀ e' ∈ events, e'.eventId < e.eventId ∧ e'.data ≠ []) ∧ events.length < TQueue.maxQueueEvents ∧
      (events.map (·.data.length)).sum + e.data.length ≤ TQueue.maxTotalEventLength := by
  have hsorted := h.sorted
  have hlength := h.length_le
  have htotal := h.total_le
  rw [List.map_append, List.pairwise_append] at hsorted
  rw [List.length_append] at hlength
  rw [List.map_append, List.sum_append, List.map_singleton, List.sum_singleton] at htotal
  refine ⟨fun e' he' => ?_, hlength, htotal⟩
  have hlt := hsorted.2.2 e'.eventId (List.mem_map_of_mem he') e.eventId List.mem_cons_self
  exact ⟨hlt, h.full e' (List.mem_append_left _ he') e (List.mem_append_right _ List.mem_cons_self) hlt⟩

theorem Restorable.sublist (h : Restorable t) (hsub : t'.Sublist t) : Restorable t' where
  valid e he := h.valid e (hsub.subset he)
  queue queueId := (h.queue queueId).sublist ((hsub.filter _).map _)

/-- An event of a queue is erased. -/
theorem eventsOf_erase {pre post : List RawEvent} (hordered : RewriteLog.Ordered t last)
    (h : eventsOf t queueId = pre ++ e :: post) :
    eventsOf (RewriteLog.apply t (.erase e.logEventId)) queueId = pre ++ post ∧
      ∀ other ≠ queueId, eventsOf (RewriteLog.apply t (.erase e.logEventId)) other = eventsOf t other := by
  obtain ⟨before, after, rfl, hpre, hpost⟩ := eventsOf_split h
  rw [RewriteLog.apply_erase_split hordered.sorted]
  refine ⟨by rw [eventsOf_append, hpre, hpost], fun other hother => ?_⟩
  rw [eventsOf_append, eventsOf_append, eventsOf_cons_of_ne (Ne.symm hother)]

/-- An event of a queue loses its data. -/
theorem eventsOf_clear {pre post : List RawEvent} (hordered : RewriteLog.Ordered t last)
    (h : eventsOf t queueId = pre ++ e :: post) :
    eventsOf (RewriteLog.apply t (.rewrite e.logEventId (e.toLogEvent queueId).cleared)) queueId =
        pre ++ e.cleared :: post ∧
      ∀ other ≠ queueId, eventsOf (RewriteLog.apply t (.rewrite e.logEventId (e.toLogEvent queueId).cleared)) other =
        eventsOf t other := by
  obtain ⟨before, after, rfl, hpre, hpost⟩ := eventsOf_split h
  rw [RewriteLog.apply_rewrite_split hordered.sorted]
  refine ⟨?_, fun other hother => ?_⟩
  · have hqueue : (e.toLogEvent queueId).cleared.queueId = queueId := rfl
    rw [eventsOf_append, eventsOf_cons_self hqueue, hpre, hpost]
    rfl
  · rw [eventsOf_append, eventsOf_append, eventsOf_cons_of_ne (Ne.symm hother),
      eventsOf_cons_of_ne (Ne.symm hother)]

theorem eventsOf_add (h : x.queueId = queueId) (t : Table LogEvent) (id : Nat) :
    eventsOf (RewriteLog.apply t (.add id x)) queueId = eventsOf t queueId ++ [x.rawEvent id] ∧
      ∀ other ≠ queueId, eventsOf (RewriteLog.apply t (.add id x)) other = eventsOf t other := by
  refine ⟨?_, fun other hother => ?_⟩
  · exact (eventsOf_append t [(id, x)] _).trans (congrArg _ (eventsOf_cons_self h []))
  · refine (eventsOf_append t [(id, x)] _).trans ?_
    rw [eventsOf_cons_of_ne (h ▸ Ne.symm hother), eventsOf_nil, List.append_nil]

/-- What is left of a queue when something was taken. -/
theorem Takes.left (h : Takes t r) (hordered : RewriteLog.Ordered t last) (ht : Restorable t)
    (queueId : Int64) :
    (eventsOf (RewriteLog.apply t r) queueId).Sublist (eventsOf t queueId) ∨
      ∃ pre e, eventsOf t queueId = pre ++ [e] ∧ eventsOf (RewriteLog.apply t r) queueId = pre ++ [e.cleared] := by
  cases h with
  | erase hid =>
      left
      exact (List.filter_sublist.filter _).map _
  | @clear id x hmem hlast =>
      by_cases hqueue : queueId = x.queueId
      · subst hqueue
        have he : x.rawEvent id ∈ eventsOf t x.queueId := mem_eventsOf.2 hmem
        obtain ⟨pre, post, hevents⟩ := List.append_of_mem he
        have hpost : post = [] := by
          have hsorted := (ht.queue x.queueId).sorted
          rw [hevents, List.map_append, List.map_cons, List.pairwise_append] at hsorted
          refine List.eq_nil_iff_forall_not_mem.2 fun e' he' => ?_
          have hlt := (List.pairwise_cons.1 hsorted.2.1).1 e'.eventId (List.mem_map_of_mem he')
          have hle := hlast e' (by rw [hevents]; simp [he'])
          exact absurd hlt (Int.not_lt.2 hle)
        subst hpost
        exact Or.inr ⟨pre, _, hevents, (eventsOf_clear hordered hevents).1⟩
      · left
        have he : x.rawEvent id ∈ eventsOf t x.queueId := mem_eventsOf.2 hmem
        obtain ⟨pre, post, hevents⟩ := List.append_of_mem he
        have hother := (eventsOf_clear hordered hevents).2 queueId hqueue
        rw [show x.cleared = ((x.rawEvent id).toLogEvent x.queueId).cleared from rfl]
        exact hother ▸ List.Sublist.refl _

theorem Takes.legal (h : Takes t r) : RewriteLog.Legal t last r ∧ RewriteLog.lastAfter last r = last := by
  cases h with
  | erase hid => exact ⟨hid, rfl⟩
  | clear hmem hlast => exact ⟨List.mem_map_of_mem hmem, rfl⟩

theorem Takes.ordered (h : Takes t r) (hordered : RewriteLog.Ordered t last) :
    RewriteLog.Ordered (RewriteLog.apply t r) last := by
  have hnext := hordered.apply h.legal.1
  rwa [h.legal.2] at hnext

theorem Takes.restorable (h : Takes t r) (hordered : RewriteLog.Ordered t last) (ht : Restorable t) :
    Restorable (RewriteLog.apply t r) := by
  refine ⟨fun e he => ?_, fun queueId => ?_⟩
  · cases h with
    | erase hid => exact ht.valid e (RewriteLog.mem_erase.1 he).1
    | clear hmem hlast =>
        rcases RewriteLog.mem_rewrite.1 he with he | ⟨rfl, -⟩
        · exact ht.valid e he.1
        · exact (ht.valid _ hmem).cleared
  · rcases h.left hordered ht queueId with hsub | ⟨pre, e, hevents, hleft⟩
    · exact (ht.queue queueId).sublist hsub
    · rw [hleft]
      have hqueue := ht.queue queueId
      rw [hevents] at hqueue
      exact hqueue.clear

/-- Nothing comes back. -/
theorem Takes.updates (h : Takes t r) (hordered : RewriteLog.Ordered t last) (ht : Restorable t)
    (queueId : Int64) : (updatesOf (RewriteLog.apply t r) queueId).Sublist (updatesOf t queueId) := by
  unfold updatesOf
  rcases h.left hordered ht queueId with hsub | ⟨pre, e, hevents, hleft⟩
  · exact hsub.filter _
  · rw [hevents, hleft, List.filter_append, List.filter_append]
    refine (List.Sublist.refl _).append ?_
    rw [List.filter_singleton]
    exact List.nil_sublist _

theorem takesAll_append (t : Table LogEvent) (rs rs' : List (Record LogEvent)) :
    TakesAll t (rs ++ rs') ↔ TakesAll t rs ∧ TakesAll (RewriteLog.replay t rs) rs' := by
  induction rs generalizing t with
  | nil => exact (and_iff_right trivial).symm
  | cons r rs ih =>
      rw [List.cons_append, TakesAll, TakesAll, ih, and_assoc]
      rfl

/-- What holds while records take events away. -/
structure TakenFrom (t t' : Table LogEvent) (last : Nat) : Prop where
  ordered : RewriteLog.Ordered t' last
  restorable : Restorable t'
  updates : ∀ queueId, (updatesOf t' queueId).Sublist (updatesOf t queueId)

theorem TakesAll.taken (h : TakesAll t rs) (hordered : RewriteLog.Ordered t last) (ht : Restorable t) :
    TakenFrom t (RewriteLog.replay t rs) last := by
  induction rs generalizing t with
  | nil => exact ⟨hordered, ht, fun _ => List.Sublist.refl _⟩
  | cons r rs ih =>
      obtain ⟨hordered', ht', hsub⟩ := ih h.2 (h.1.ordered hordered) (h.1.restorable hordered ht)
      exact ⟨hordered', ht', fun queueId => (hsub queueId).trans (h.1.updates hordered ht queueId)⟩

end

end TelegramBotApi
