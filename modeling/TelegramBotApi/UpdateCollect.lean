import TelegramBotApi.UpdateOperations

/-!
# Garbage collection

`run_gc` takes the queues in the order of their schedule, removes what has expired at their heads, and
gives each of them a new time. It stops at the first queue whose time has not come, or when its own time is
up, and no update that has not expired is lost.
-/

namespace TelegramBotApi

open RewriteLog (Record Table)

def RawEvent.isLive (unixTimeNow : Int32) (event : RawEvent) : Bool :=
  event.data ≠ [] ∧ unixTimeNow.toInt ≤ event.expiresAt.toInt

theorem StoredQueue.size_eq {q : StoredQueue} (h : OneQueue q.events) :
    q.size = (q.events.filter (·.data ≠ [])).length := by
  unfold StoredQueue.size StoredQueue.isLastCleared
  cases hlast : q.events.getLast? with
  | none =>
      rw [List.getLast?_eq_none_iff.1 hlast]
      rfl
  | some last =>
      obtain ⟨before, hevents⟩ := List.getLast?_eq_some_iff.1 hlast
      rw [hevents] at h
      have hbefore : before.filter (·.data ≠ []) = before :=
        List.filter_eq_self.2 fun e he => decide_eq_true (h.before.1 e he).2
      rw [hevents, List.filter_append, hbefore, List.length_append, List.length_append, List.filter_singleton]
      by_cases hdata : last.data = [] <;> simp [hdata]

section

variable {queueId : Int64} {tailId : Int} {now : Int32} {p : Popping} {clock : GcClock} {newGcAt : Int32}
  {l : List RawEvent} {e : RawEvent}

theorem not_isLive_iff : e.isLive now = false ↔ e.expiresAt.toInt < now.toInt ∨ e.data = [] := by
  unfold RawEvent.isLive
  rw [decide_eq_false_iff_not, not_and_or, not_not, Int.not_le]
  exact or_comm

/-- What the inner loop does with one event. -/
inductive GcStep (queueId : Int64) (tailId : Int) (now : Int32) (p : Popping) (newGcAt : Int32) (e : RawEvent)
    (l : List RawEvent) : GcPass → Prop where
  | up {clock : GcClock} (hup : clock.isUp = true) :
      GcStep queueId tailId now p newGcAt e l ⟨e :: l, p, clock, if newGcAt = 0 then e.expiresAt else newGcAt⟩
  | pop (clock : GcClock) (hdead : e.isLive now = false) :
      GcStep queueId tailId now p newGcAt e l
        { gcEvents queueId tailId now (p.pop queueId tailId e).2 clock newGcAt l with
          events := (p.pop queueId tailId e).1 ++
            (gcEvents queueId tailId now (p.pop queueId tailId e).2 clock newGcAt l).events }
  | stop (clock : GcClock) (hlive : e.isLive now = true) (hgcAt : newGcAt ≠ 0) :
      GcStep queueId tailId now p newGcAt e l ⟨e :: l, p, clock, newGcAt⟩
  | keep (clock : GcClock) (hlive : e.isLive now = true) (hgcAt : newGcAt = 0) :
      GcStep queueId tailId now p newGcAt e l
        { gcEvents queueId tailId now p clock e.expiresAt l with
          events := e :: (gcEvents queueId tailId now p clock e.expiresAt l).events }

theorem gcEvents_cons (queueId : Int64) (tailId : Int) (now : Int32) (p : Popping) (clock : GcClock)
    (newGcAt : Int32) (e : RawEvent) (l : List RawEvent) :
    GcStep queueId tailId now p newGcAt e l (gcEvents queueId tailId now p clock newGcAt (e :: l)) := by
  rw [gcEvents]
  dsimp only
  by_cases hup : clock.count.counter &&& 128 = 0 ∧ clock.count.isUp = true
  · rw [if_pos hup]
    refine .up ?_
    have hdeadline := of_decide_eq_true hup.2
    exact decide_eq_true (Nat.le_succ_of_le hdeadline)
  rw [if_neg hup]
  generalize (if clock.count.counter &&& 128 = 0 then clock.count.read else clock.count) = clock'
  by_cases hdead : e.expiresAt.toInt < now.toInt ∨ e.data = []
  · rw [if_pos hdead]
    exact .pop clock' (not_isLive_iff.2 hdead)
  rw [if_neg hdead]
  have hlive : e.isLive now = true := by
    rw [← Bool.not_eq_false, not_isLive_iff]
    exact hdead
  by_cases hgcAt : newGcAt = 0
  · rw [if_neg (not_not_intro hgcAt)]
    exact .keep clock' hlive hgcAt
  · rw [if_pos hgcAt]
    exact .stop clock' hlive hgcAt

theorem pop_isLive (p : Popping) (queueId : Int64) (tailId : Int) (e : RawEvent) :
    (p.pop queueId tailId e).1.filter (·.isLive now) = [] := by
  have hnone := Popping.pop_data p queueId tailId e
  rw [List.filter_eq_nil_iff] at hnone ⊢
  intro e' he' hlive
  exact hnone e' he' (decide_eq_true (of_decide_eq_true hlive).1)

/-- Only what has expired is popped. -/
theorem gcEvents_live (p : Popping) (clock : GcClock) (newGcAt : Int32) (l : List RawEvent) :
    (gcEvents queueId tailId now p clock newGcAt l).events.filter (·.isLive now) = l.filter (·.isLive now) := by
  induction l generalizing p clock newGcAt with
  | nil => rfl
  | cons e l ih =>
      have hstep := gcEvents_cons queueId tailId now p clock newGcAt e l
      generalize gcEvents queueId tailId now p clock newGcAt (e :: l) = pass at hstep ⊢
      cases hstep with
      | up hup => rfl
      | pop clock' hdead =>
          rw [List.filter_append, pop_isLive, ih, List.filter_cons_of_neg (by rw [hdead]; exact Bool.false_ne_true)]
          rfl
      | stop clock' hlive hgcAt => rfl
      | keep clock' hlive hgcAt => rw [List.filter_cons_of_pos hlive, List.filter_cons_of_pos hlive, ih]

/-- A time that is found is the one of an event that has not expired, unless the time is up. -/
theorem gcEvents_newGcAt (p : Popping) (clock : GcClock) (newGcAt : Int32) (l : List RawEvent) :
    (gcEvents queueId tailId now p clock newGcAt l).newGcAt = newGcAt ∨
      now.toInt ≤ (gcEvents queueId tailId now p clock newGcAt l).newGcAt.toInt ∨
      (gcEvents queueId tailId now p clock newGcAt l).clock.isUp = true := by
  induction l generalizing p clock newGcAt with
  | nil => exact Or.inl rfl
  | cons e l ih =>
      have hstep := gcEvents_cons queueId tailId now p clock newGcAt e l
      generalize gcEvents queueId tailId now p clock newGcAt (e :: l) = pass at hstep ⊢
      cases hstep with
      | up hup => exact Or.inr (Or.inr hup)
      | pop clock' hdead => exact ih _ _ _
      | stop clock' hlive hgcAt => exact Or.inl rfl
      | keep clock' hlive hgcAt =>
          have hfound := ih p clock' e.expiresAt
          rcases hfound with hfound | hfound
          · refine Or.inr (Or.inl ?_)
            dsimp only
            rw [hfound]
            exact (of_decide_eq_true hlive).2
          · exact Or.inr hfound

/-- A queue that keeps an update gets a time. -/
theorem gcEvents_due (hexpires : ∀ e ∈ l, e.expiresAt ≠ 0) (p : Popping) (clock : GcClock) (newGcAt : Int32)
    (h : newGcAt ≠ 0 ∨ ∃ e ∈ (gcEvents queueId tailId now p clock newGcAt l).events, e.data ≠ []) :
    (gcEvents queueId tailId now p clock newGcAt l).newGcAt ≠ 0 := by
  induction l generalizing p clock newGcAt with
  | nil =>
      rcases h with h | ⟨e, he, -⟩
      · exact h
      · exact absurd he List.not_mem_nil
  | cons e l ih =>
      have ih := ih fun e' he' => hexpires e' (List.mem_cons_of_mem _ he')
      have hstep := gcEvents_cons queueId tailId now p clock newGcAt e l
      generalize gcEvents queueId tailId now p clock newGcAt (e :: l) = pass at hstep h ⊢
      cases hstep with
      | up hup =>
          dsimp only
          split_ifs with hgcAt
          · exact hexpires e List.mem_cons_self
          · exact hgcAt
      | pop clock' hdead =>
          refine ih _ _ _ (h.imp_right ?_)
          rintro ⟨e', he', hdata⟩
          rcases List.mem_append.1 he' with he' | he'
          · have hnone := Popping.pop_data p queueId tailId e
            exact absurd (decide_eq_true hdata) (List.filter_eq_nil_iff.1 hnone e' he')
          · exact ⟨e', he', hdata⟩
      | stop clock' hlive hgcAt => exact hgcAt
      | keep clock' hlive hgcAt => exact ih _ _ _ (Or.inl (hexpires e List.mem_cons_self))

end

namespace UpdateStore

section

variable {s : UpdateStore} {c : TQueueCallback} {t : Table LogEvent} {queueId : Int64} {gcAt now : Int32}
  {clock : GcClock}

/-- The entries after a queue was scheduled. -/
theorem scheduleQueueGc_perm (s : UpdateStore) (queueId : Int64) (q : StoredQueue) (hq : q.gcAt ≠ 0) (time : Int32) :
    (s.scheduleQueueGc queueId q time).1.queueGcAt.Perm
      ((if time ≠ 0 then [(time, queueId)] else []) ++ s.queueGcAt.erase (q.gcAt, queueId)) := by
  unfold scheduleQueueGc
  dsimp only
  rw [if_pos hq]
  split_ifs
  · exact List.perm_orderedInsert gcBefore _ _
  · exact List.Perm.refl _

/-- The events that are alive stay, and so do the tails of the queues. -/
structure Collects (s : UpdateStore) (c : TQueueCallback) (t : Table LogEvent) (now : Int32) (s' : UpdateStore)
    (rs : List (Record LogEvent)) : Prop where
  takes : TakesAll t rs
  runs : s'.Runs (c.logs rs) (RewriteLog.replay t rs)
  live : ∀ queueId, (eventsOf (RewriteLog.replay t rs) queueId).filter (·.isLive now) =
    (eventsOf t queueId).filter (·.isLive now)
  tailId : ∀ queueId, (s'.queue queueId).tailId = (s.queue queueId).tailId

def dueCount (s : UpdateStore) (now : Int32) : Nat := s.queueGcAt.countP (·.1.toInt < now.toInt)

theorem gcQueue_spec (h : s.Runs c t) (hentry : (gcAt, queueId) ∈ s.queueGcAt) (hdue : gcAt.toInt < now.toInt)
    (clock : GcClock) :
    ∃ rs, s.Collects c t now (s.gcQueue gcAt queueId now clock).1 rs ∧
      ((s.gcQueue gcAt queueId now clock).2.1.isUp = true ∨
        (s.gcQueue gcAt queueId now clock).1.dueCount now < s.dueCount now) := by
  obtain ⟨hgcAt, hscheduled⟩ := (h.stores.schedules.mem_iff _).1 hentry
  have hscheduled : (s.queue queueId).gcAt = gcAt := hscheduled
  have hholds := h.stores.holds queueId
  have hone := h.keeps.restorable.queue queueId
  have hexpires : ∀ e ∈ (s.queue queueId).events, e.expiresAt ≠ 0 := by
    intro e he
    rw [hholds.events] at he
    exact ne_zero_of_toInt_pos (h.keeps.restorable.valid _ (mem_eventsOf.1 he)).expiresAt
  have hsweep : Popping.Sweeps queueId (s.queue queueId).tailId _ _ (s.gcPass queueId now clock).popping
      (s.gcPass queueId now clock).events := Popping.gcEvents_sweeps _ _ _ _ _
  have hlive : (s.gcPass queueId now clock).events.filter (·.isLive now) =
    (s.queue queueId).events.filter (·.isLive now) := gcEvents_live _ _ _ _
  have htime : (s.gcPass queueId now clock).newGcAt = 0 ∨ now.toInt ≤ (s.gcPass queueId now clock).newGcAt.toInt ∨
    (s.gcPass queueId now clock).clock.isUp = true := gcEvents_newGcAt _ _ _ _
  have hnewDue : (∃ e ∈ (s.gcPass queueId now clock).events, e.data ≠ []) →
    (s.gcPass queueId now clock).newGcAt ≠ 0 := fun hupdate => gcEvents_due hexpires _ _ _ (Or.inr hupdate)
  unfold gcQueue
  dsimp only
  generalize s.gcPass queueId now clock = pass at *
  have hbelow : ∀ e ∈ (s.queue queueId).events, (s.queue queueId).tailId = 0 ∨
      e.eventId < (s.queue queueId).tailId := by
    intro e he
    rw [hholds.events] at he
    exact Or.inr (lt_tailId hone hholds e he)
  obtain ⟨rs, htakes, hat, -⟩ := hsweep.leads
    (show Popping.At _ queueId c t ([] ++ (s.queue queueId).events) from h.at queueId) hbelow
  have hone' : OneQueue pass.events := by
    have hqueue := hat.keeps.restorable.queue queueId
    rwa [hat.events] at hqueue
  have hsize : ((s.queue queueId).afterGc pass).size ≤ (s.queue queueId).size := by
    rw [StoredQueue.size_eq (hone' : OneQueue ((s.queue queueId).afterGc pass).events),
      StoredQueue.size_eq (hholds.events ▸ hone)]
    exact hsweep.updates.length_le
  rw [check_of_pos (decide_eq_true hscheduled), check_of_pos (decide_eq_true hsize)]
  have hsame : s.gcAts queueId = ((s.queue queueId).afterGc pass).gcAt := rfl
  obtain ⟨entries, hschedule, hentries⟩ := scheduleQueueGc_spec (s := s.popped pass.popping)
    h.stores.schedules hsame pass.newGcAt
  have hne : ((s.queue queueId).afterGc pass).gcAt ≠ 0 := hscheduled ▸ hgcAt
  have hperm := scheduleQueueGc_perm (s.popped pass.popping) queueId _ hne pass.newGcAt
  rw [hschedule] at hperm ⊢
  have hqueue := queue_setQueue { s.popped pass.popping with queueGcAt := entries } queueId
    { (s.queue queueId).afterGc pass with gcAt := pass.newGcAt }
  obtain ⟨rs, htakes, hruns, hevents, hothers⟩ := h.sweep hsweep hqueue rfl rfl rfl rfl hentries hnewDue id
  refine ⟨rs, ⟨htakes, hruns, fun other => ?_, fun other => ?_⟩, ?_⟩
  · by_cases hother : other = queueId
    · subst hother
      rw [hevents, hlive, hholds.events]
    · rw [hothers other hother]
  · rw [hqueue]
    by_cases hother : other = queueId
    · subst hother
      rw [Function.update_self]
      rfl
    · rw [Function.update_of_ne hother]
      rfl
  · by_cases hup : pass.clock.isUp = true
    · exact Or.inl hup
    right
    have hlater : pass.newGcAt = 0 ∨ now.toInt ≤ pass.newGcAt.toInt := by
      rcases htime with htime | htime | htime
      · exact Or.inl htime
      · exact Or.inr htime
      · exact absurd htime hup
    have hnone : (if pass.newGcAt ≠ 0 then [(pass.newGcAt, queueId)] else []).countP
        (fun entry : Int32 × Int64 => entry.1.toInt < now.toInt) = 0 := by
      rw [List.countP_eq_zero]
      intro entry hentry
      split_ifs at hentry with hzero
      · rw [List.mem_singleton.1 hentry, decide_eq_true_eq]
        have := hlater.resolve_left hzero
        dsimp only
        omega
      · exact absurd hentry List.not_mem_nil
    have hold : s.queueGcAt.countP (fun entry => decide (entry.1.toInt < now.toInt)) =
        (s.queueGcAt.erase (gcAt, queueId)).countP (fun entry => decide (entry.1.toInt < now.toInt)) + 1 := by
      rw [(List.perm_cons_erase hentry).countP_eq, List.countP_cons_of_pos]
      exact decide_eq_true hdue
    unfold dueCount
    change entries.countP _ < _
    rw [hperm.countP_eq, List.countP_append, hnone, Nat.zero_add, hold]
    change (s.queueGcAt.erase ((s.queue queueId).gcAt, queueId)).countP _ < _
    rw [hscheduled]
    exact Nat.lt_succ_self _

/-- The loop, with as many rounds as there are times that have come. -/
theorem runGcLoop_spec {fuel : Nat} (h : s.Runs c t) (clock : GcClock) (deletedEvents : Nat)
    (hfuel : s.dueCount now < fuel) :
    ∃ rs, s.Collects c t now (runGcLoop now fuel s clock deletedEvents).1 rs ∧
      ((runGcLoop now fuel s clock deletedEvents).2.2 = true →
        ∀ entry ∈ (runGcLoop now fuel s clock deletedEvents).1.queueGcAt, now.toInt ≤ entry.1.toInt) := by
  induction fuel generalizing s c t clock deletedEvents with
  | zero => exact absurd hfuel (Nat.not_lt_zero _)
  | succ fuel ih =>
      have htakes : TakesAll t [] := trivial
      have hsame : s.Collects c t now s [] := ⟨htakes, c.logs_nil.symm ▸ h, fun _ => rfl, fun _ => rfl⟩
      unfold runGcLoop
      split
      · rename_i hnil
        exact ⟨[], hsame, fun _ entry hentry => absurd (hnil ▸ hentry) List.not_mem_nil⟩
      rename_i entry entries hentries
      by_cases hlater : now.toInt ≤ entry.1.toInt
      · rw [if_pos hlater]
        refine ⟨[], hsame, fun _ entry' hentry' => ?_⟩
        have hsorted := h.stores.schedules.sorted
        rw [hentries] at hsorted hentry'
        rcases List.mem_cons.1 hentry' with rfl | hentry'
        · exact hlater
        · rcases (List.pairwise_cons.1 hsorted).1 entry' hentry' with hlt | ⟨heq, -⟩
          · omega
          · exact heq ▸ hlater
      rw [if_neg hlater]
      have hmem : (entry.1, entry.2) ∈ s.queueGcAt := hentries ▸ List.mem_cons_self
      obtain ⟨rs, hcollects, hclock⟩ := gcQueue_spec h hmem (Int.not_le.1 hlater) clock
      dsimp only
      by_cases hup : (s.gcQueue entry.1 entry.2 now clock).2.1.isUp = true
      · rw [if_pos hup]
        exact ⟨rs, hcollects, fun hfalse => absurd hfalse Bool.false_ne_true⟩
      · rw [if_neg hup]
        have hfewer := hclock.resolve_left hup
        obtain ⟨rs', hcollects', hdone⟩ := ih hcollects.runs (s.gcQueue entry.1 entry.2 now clock).2.1.read
          (deletedEvents + (s.gcQueue entry.1 entry.2 now clock).2.2) (by omega)
        refine ⟨rs ++ rs', ⟨(takesAll_append t rs rs').2 ⟨hcollects.takes, hcollects'.takes⟩, ?_, fun queueId => ?_,
          fun queueId => (hcollects'.tailId queueId).trans (hcollects.tailId queueId)⟩, hdone⟩
        · rw [← TQueueCallback.logs_logs, RewriteLog.replay_append]
          exact hcollects'.runs
        · rw [RewriteLog.replay_append, hcollects'.live, hcollects.live]

end

/-- A garbage collection loses no update that has not expired, and one that was completed leaves no queue
whose time has come. -/
theorem runGc_spec {s : UpdateStore} {c : TQueueCallback} {t : Table LogEvent} (h : s.Runs c t) (now : Int32)
    (deadline : Nat) :
    ∃ rs, s.Collects c t now (s.runGc now deadline).1 rs ∧
      ((s.runGc now deadline).2.2 = true →
        ∀ entry ∈ (s.runGc now deadline).1.queueGcAt, now.toInt ≤ entry.1.toInt) :=
  runGcLoop_spec h _ _ (Nat.lt_succ_of_le List.countP_le_length)

end UpdateStore

end TelegramBotApi
