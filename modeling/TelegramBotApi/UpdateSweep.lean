import TelegramBotApi.UpdateReplay

/-!
# Popping events

Every loop that pops events goes through a queue once, keeps or pops what it meets, and may stop. Each
of them is a sweep, and a sweep takes away from the log what it takes away from the queue.
-/

namespace TelegramBotApi

open RewriteLog (Record Table)

namespace TQueueCallback

variable {c : TQueueCallback} {t : Table LogEvent} {rs rs' : List (Record LogEvent)}

def logs (c : TQueueCallback) (rs : List (Record LogEvent)) : TQueueCallback where
  nextEventId := c.nextEventId + rs.length
  log := c.log ++ rs

@[simp] theorem logs_nil (c : TQueueCallback) : c.logs [] = c := by
  unfold logs
  rw [List.append_nil]
  rfl

theorem logs_logs (c : TQueueCallback) (rs rs' : List (Record LogEvent)) :
    (c.logs rs).logs rs' = c.logs (rs ++ rs') := by
  unfold logs
  simp only [List.length_append, List.append_assoc, Nat.add_assoc]

theorem push_of_ne {c : TQueueCallback} (queueId : Int64) (event : RawEvent) (h : event.logEventId ≠ 0) :
    c.push queueId event = (c.logs [.rewrite event.logEventId (event.toLogEvent queueId)], event.logEventId) :=
  if_neg h

theorem popBatch_eq (c : TQueueCallback) (ids : List Nat) : c.popBatch ids = c.logs (ids.map .erase) := by
  unfold popBatch
  induction ids generalizing c with
  | nil => exact c.logs_nil.symm
  | cons id ids ih =>
      rw [List.foldl_cons, ih]
      exact logs_logs c [.erase id] (ids.map .erase)

/-- The binlog has the table, and identifiers for more. -/
structure Keeps (c : TQueueCallback) (t : Table LogEvent) : Prop where
  sorted : (t.map Prod.fst).Pairwise (· < ·)
  bounds : ∀ e ∈ t, 0 < e.1 ∧ e.1 < c.nextEventId
  next_pos : 0 < c.nextEventId
  restorable : Restorable t

theorem Keeps.ordered (h : c.Keeps t) : RewriteLog.Ordered t (c.nextEventId - 1) :=
  ⟨h.sorted, fun e he => Nat.le_sub_one_of_lt (h.bounds e he).2⟩

/-- A record that takes something away is about an entry of the table. -/
theorem mem_of_takes {r : Record LogEvent} (hr : Takes t r) {e : Nat × LogEvent}
    (he : e ∈ RewriteLog.apply t r) : ∃ e' ∈ t, e'.1 = e.1 := by
  cases hr with
  | erase hid => exact ⟨e, (RewriteLog.mem_erase.1 he).1, rfl⟩
  | clear hmem hlast =>
      rcases RewriteLog.mem_rewrite.1 he with he | ⟨rfl, -⟩
      · exact ⟨e, he.1, rfl⟩
      · exact ⟨_, hmem, rfl⟩

theorem Keeps.takes (h : c.Keeps t) {r : Record LogEvent} (hr : Takes t r) :
    (c.logs [r]).Keeps (RewriteLog.apply t r) where
  sorted := (hr.ordered h.ordered).sorted
  bounds e he := by
    obtain ⟨e', he', hid⟩ := mem_of_takes hr he
    have hbounds := h.bounds e' he'
    rw [hid] at hbounds
    exact ⟨hbounds.1, Nat.lt_succ_of_lt hbounds.2⟩
  next_pos := Nat.succ_pos _
  restorable := hr.restorable h.ordered h.restorable

/-- An event is added. -/
theorem Keeps.add (h : c.Keeps t) {x : LogEvent}
    (hrestorable : Restorable (RewriteLog.apply t (.add c.nextEventId x))) :
    (c.logs [.add c.nextEventId x]).Keeps (RewriteLog.apply t (.add c.nextEventId x)) where
  sorted := by
    have hlegal : RewriteLog.Legal t (c.nextEventId - 1) (.add c.nextEventId x) := Nat.sub_one_lt_of_lt h.next_pos
    exact (h.ordered.apply hlegal).sorted
  bounds e he := by
    rcases RewriteLog.mem_add.1 he with he | rfl
    · exact ⟨(h.bounds e he).1, Nat.lt_succ_of_lt (h.bounds e he).2⟩
    · exact ⟨h.next_pos, Nat.lt_succ_self _⟩
  next_pos := Nat.succ_pos _
  restorable := hrestorable

theorem Keeps.takesAll (h : c.Keeps t) (hrs : TakesAll t rs) : (c.logs rs).Keeps (RewriteLog.replay t rs) := by
  induction rs generalizing c t with
  | nil => rwa [logs_nil]
  | cons r rs ih =>
      have hnext := ih (h.takes hrs.1) hrs.2
      rwa [logs_logs] at hnext

end TQueueCallback

namespace Popping

/-- The queue has the events `l` while they are popped. -/
structure At (p : Popping) (queueId : Int64) (c : TQueueCallback) (t : Table LogEvent) (l : List RawEvent) :
    Prop where
  callback : p.callback = some c
  keeps : c.Keeps t
  events : eventsOf t queueId = l
  total : p.totalEventLength = (l.map (·.data.length)).sum
  intact : p.crashed = false

/-- From there the queue comes to have the events `l'`, and no other queue changes. -/
def Leads (queueId : Int64) (c : TQueueCallback) (t : Table LogEvent) (p' : Popping) (l' : List RawEvent) : Prop :=
  ∃ rs, TakesAll t rs ∧ p'.At queueId (c.logs rs) (RewriteLog.replay t rs) l' ∧
    ∀ other ≠ queueId, eventsOf (RewriteLog.replay t rs) other = eventsOf t other

/-- What a loop that pops does to the events that it has before it. -/
inductive Sweeps (queueId : Int64) (tailId : Int) :
    Popping → List RawEvent → Popping → List RawEvent → Prop where
  | stop (p : Popping) (l : List RawEvent) : Sweeps queueId tailId p l p l
  | keep {p p' : Popping} {l l' : List RawEvent} (e : RawEvent) :
      Sweeps queueId tailId p l p' l' → Sweeps queueId tailId p (e :: l) p' (e :: l')
  | pop {p p' : Popping} {l l' : List RawEvent} (e : RawEvent) :
      Sweeps queueId tailId (p.pop queueId tailId e).2 l p' l' →
        Sweeps queueId tailId p (e :: l) p' ((p.pop queueId tailId e).1 ++ l')

section

variable {p p' p'' : Popping} {queueId : Int64} {tailId : Int} {c : TQueueCallback} {t : Table LogEvent}
  {pre post l l' l₂ l₂' : List RawEvent} {e : RawEvent}

theorem Sweeps.append (h : Sweeps queueId tailId p l p' l') (h₂ : Sweeps queueId tailId p' l₂ p'' l₂') :
    Sweeps queueId tailId p (l ++ l₂) p'' (l' ++ l₂') := by
  induction h with
  | stop p l =>
      induction l with
      | nil => exact h₂
      | cons e l ih => exact .keep e ih
  | keep e _ ih => exact .keep e (ih h₂)
  | pop e _ ih =>
      rw [List.append_assoc]
      exact .pop e (ih h₂)

theorem popAll_sweeps (p : Popping) (l : List RawEvent) :
    Sweeps queueId tailId p l (popAll queueId tailId p l).2 (popAll queueId tailId p l).1 := by
  induction l generalizing p with
  | nil => exact .stop p []
  | cons e l ih => exact .pop e (ih _)

theorem collect_sweeps (now : Int32) (limit : Nat) (p : Popping) (l : List RawEvent) :
    Sweeps queueId tailId p l (collect queueId tailId now limit p l).1.2 (collect queueId tailId now limit p l).1.1 := by
  induction l generalizing p limit with
  | nil => cases limit <;> exact .stop p []
  | cons e l ih =>
      unfold collect
      split_ifs with hpop
      · exact .pop e (ih _ _)
      · cases limit with
        | zero => exact .stop p (e :: l)
        | succ limit => exact .keep e (ih _ _)

theorem gcEvents_sweeps (now : Int32) (p : Popping) (clock : GcClock) (newGcAt : Int32) (l : List RawEvent) :
    Sweeps queueId tailId p l (gcEvents queueId tailId now p clock newGcAt l).popping
      (gcEvents queueId tailId now p clock newGcAt l).events := by
  induction l generalizing p clock newGcAt with
  | nil => exact .stop p []
  | cons e l ih =>
      unfold gcEvents
      dsimp only
      split_ifs
      all_goals first
        | exact .stop p (e :: l)
        | exact .pop e (ih _ _ _)
        | exact .keep e (ih _ _ _)

/-- An event of the queue has an identifier that has a next one. -/
theorem At.check (h : p.At queueId c t l) (he : e ∈ l) :
    p.check (decide (e.eventId + 1 < maxEventId)) = p := by
  have hnext : e.eventId + 1 < maxEventId :=
    (h.keeps.restorable.valid _ (mem_eventsOf.1 (h.events ▸ he : e ∈ eventsOf t queueId))).next
  unfold Popping.check
  rw [decide_eq_true hnext, Bool.not_true, Bool.or_false]

/-- An event is popped: the log loses it, or its data. -/
theorem At.pop (h : p.At queueId c t (pre ++ e :: post)) (htail : e.eventId + 1 = tailId → post = []) :
    Leads queueId c t (p.pop queueId tailId e).2 (pre ++ ((p.pop queueId tailId e).1 ++ post)) := by
  have hid : e.logEventId ≠ 0 := by
    have hmem : e ∈ eventsOf t queueId := h.events ▸ List.mem_append_right _ List.mem_cons_self
    exact Nat.ne_of_gt (h.keeps.bounds _ (mem_eventsOf.1 hmem)).1
  have hmem : (e.logEventId, e.toLogEvent queueId) ∈ t :=
    mem_eventsOf.1 (h.events ▸ List.mem_append_right _ List.mem_cons_self)
  have htotal := h.total
  rw [List.map_append, List.map_cons, List.sum_append, List.sum_cons] at htotal
  unfold Popping.pop
  rw [h.callback]
  dsimp only
  rw [if_neg hid, h.check (List.mem_append_right _ List.mem_cons_self)]
  split_ifs with hlast hdata
  · obtain rfl := htail hlast
    have hcleared := eventsOf_clear h.keeps.ordered h.events
    have htakes : Takes t (.rewrite e.logEventId (e.toLogEvent queueId).cleared) := by
      refine .clear hmem fun e' he' => ?_
      have hsorted := (h.keeps.restorable.queue queueId).sorted
      change e' ∈ eventsOf t queueId at he'
      rw [h.events] at hsorted he'
      rw [List.map_append, List.pairwise_append] at hsorted
      rcases List.mem_append.1 he' with he' | he'
      · exact Int.le_of_lt (hsorted.2.2 _ (List.mem_map_of_mem he') _ List.mem_cons_self)
      · rw [List.mem_singleton.1 he']
        exact Int.le_refl _
    refine ⟨[.rewrite e.logEventId (e.toLogEvent queueId).cleared], ⟨htakes, trivial⟩, ⟨?_, ?_, ?_, ?_, h.intact⟩,
      hcleared.2⟩
    · exact congrArg some (congrArg Prod.fst (TQueueCallback.push_of_ne queueId e.cleared hid))
    · exact h.keeps.takes htakes
    · exact hcleared.1
    · simp only [List.append_nil, List.map_append, List.sum_append, List.map_singleton, List.sum_singleton]
      change p.totalEventLength - e.data.length = _ + 0
      rw [htotal, List.map_nil, List.sum_nil]
      omega
  · exact ⟨[], trivial, ⟨h.callback.trans (congrArg some c.logs_nil.symm), c.logs_nil.symm ▸ h.keeps, h.events, h.total,
      h.intact⟩, fun _ _ => rfl⟩
  · have herased := eventsOf_erase h.keeps.ordered h.events
    have htakes : Takes t (.erase e.logEventId) := .erase (List.mem_map_of_mem hmem)
    refine ⟨[.erase e.logEventId], ⟨htakes, trivial⟩, ⟨rfl, h.keeps.takes htakes, herased.1, ?_, h.intact⟩, herased.2⟩
    dsimp only
    rw [htotal, List.nil_append, List.map_append, List.sum_append]
    omega

/-- A sweep over the last events of a queue. -/
theorem Sweeps.leads (h : Sweeps queueId tailId p l p' l') (hat : p.At queueId c t (pre ++ l))
    (htail : ∀ e ∈ l, tailId = 0 ∨ e.eventId < tailId) : Leads queueId c t p' (pre ++ l') := by
  induction h generalizing pre c t with
  | stop p l => exact ⟨[], trivial, c.logs_nil.symm ▸ hat, fun _ _ => rfl⟩
  | @keep p p' l l' e _ ih =>
      have hnext := ih (show p.At queueId c t ((pre ++ [e]) ++ l) by rwa [List.append_assoc])
        fun e' he' => htail e' (List.mem_cons_of_mem _ he')
      rwa [List.append_assoc] at hnext
  | @pop p p' l l' e _ ih =>
      have hlast : e.eventId + 1 = tailId → l = [] := by
        intro heq
        have hvalid := hat.keeps.restorable.valid _ (mem_eventsOf.1
          (hat.events ▸ List.mem_append_right _ List.mem_cons_self : e ∈ eventsOf t queueId))
        have hpos : 0 < e.eventId := hvalid.eventId.1
        have hsorted := (hat.keeps.restorable.queue queueId).sorted
        rw [hat.events, List.map_append, List.map_cons, List.pairwise_append] at hsorted
        refine List.eq_nil_iff_forall_not_mem.2 fun e' he' => ?_
        have hlt := (List.pairwise_cons.1 hsorted.2.1).1 e'.eventId (List.mem_map_of_mem he')
        rcases htail e' (List.mem_cons_of_mem _ he') with hzero | hbelow
        · omega
        · omega
      obtain ⟨rs, htakes, hat', hothers⟩ := hat.pop hlast
      rw [← List.append_assoc] at hat'
      obtain ⟨rs', htakes', hat'', hothers'⟩ := ih hat' fun e' he' => htail e' (List.mem_cons_of_mem _ he')
      refine ⟨rs ++ rs', (takesAll_append t rs rs').2 ⟨htakes, htakes'⟩, ?_, fun other hother => ?_⟩
      · rw [TQueueCallback.logs_logs, ← RewriteLog.replay_append, List.append_assoc] at hat''
        exact hat''
      · rw [RewriteLog.replay_append, hothers' other hother, hothers other hother]

/-- What is left of a popped event has no data. -/
theorem pop_data (p : Popping) (queueId : Int64) (tailId : Int) (e : RawEvent) :
    (p.pop queueId tailId e).1.filter (·.data ≠ []) = [] := by
  unfold Popping.pop
  split
  · rfl
  · split_ifs with _ _ hdata
    · rfl
    · rfl
    · rw [not_not] at hdata
      exact List.filter_cons_of_neg (by simp [hdata])
    · rfl

/-- No update comes back in a sweep. -/
theorem Sweeps.updates (h : Sweeps queueId tailId p l p' l') :
    (l'.filter (·.data ≠ [])).Sublist (l.filter (·.data ≠ [])) := by
  induction h with
  | stop p l => exact List.Sublist.refl _
  | @keep p p' l l' e _ ih =>
      rw [List.filter_cons, List.filter_cons]
      split_ifs
      · exact ih.cons_cons e
      · exact ih
  | @pop p p' l l' e _ ih =>
      rw [List.filter_append, pop_data, List.nil_append]
      exact ih.trans ((List.sublist_cons_self e l).filter _)

end

end Popping

end TelegramBotApi
