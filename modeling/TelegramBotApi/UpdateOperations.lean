import TelegramBotApi.UpdateRecords

/-!
# The operations of the update storage

The bots push, read, forget and clear the updates of their own queues. Each operation is an instance of a
sweep, or of an event that is added behind a sweep.
-/

namespace TelegramBotApi

open RewriteLog (Record Table)

namespace UpdateStore

section

variable {s s' : UpdateStore} {c : TQueueCallback} {t : Table LogEvent} {queueId : Int64} {q : StoredQueue}
  {l l' : List RawEvent} {e : RawEvent} {rs : List (Record LogEvent)}

theorem queue_of_some (h : s.queues queueId = some q) : s.queue queueId = q := by
  unfold queue
  rw [h]
  rfl

/-- A sweep of one queue that keeps its schedule. -/
theorem Runs.sweepQueue (h : s.Runs c t) (hq : s.queues queueId = some q) {p' : Popping}
    (hsweep : Popping.Sweeps queueId q.tailId (s.popping q) q.events p' l') :
    ∃ rs, TakesAll t rs ∧
      ((s.popped p').setQueue queueId { q with
        events := l', totalEventLength := p'.totalEventLength }).Runs (c.logs rs) (RewriteLog.replay t rs) := by
  obtain rfl := queue_of_some hq
  have hqueue := queue_setQueue (s.popped p') queueId
    { s.queue queueId with events := l', totalEventLength := p'.totalEventLength }
  have hschedules : Schedules s.queueGcAt (Function.update s.gcAts queueId (s.queue queueId).gcAt) := by
    have hsame : Function.update s.gcAts queueId (s.queue queueId).gcAt = s.gcAts := Function.update_eq_self _ _
    rw [hsame]
    exact h.stores.schedules
  have hdue : (∃ e ∈ l', e.data ≠ []) → (s.queue queueId).gcAt ≠ 0 := by
    rintro ⟨e, he, hdata⟩
    have hupdate := hsweep.updates.subset (List.mem_filter.2 ⟨he, decide_eq_true hdata⟩)
    rw [(h.stores.holds queueId).events] at hupdate
    exact h.stores.due queueId (List.ne_nil_of_mem hupdate)
  obtain ⟨rs, htakes, hruns, -, -⟩ := h.sweep hsweep hqueue rfl rfl rfl rfl hschedules hdue id
  exact ⟨rs, htakes, hruns⟩

theorem get_writes (h : s.Runs c t) (queueId : Int64) (fromId : Int) (forgetPrevious : Bool) (now : Int32)
    (limit : Nat) : ∃ rs, TakesAll t rs ∧
      (s.get queueId fromId forgetPrevious now limit).1.Runs (c.logs rs) (RewriteLog.replay t rs) := by
  have hsame : ∃ rs, TakesAll t rs ∧ s.Runs (c.logs rs) (RewriteLog.replay t rs) :=
    ⟨[], trivial, c.logs_nil.symm ▸ h⟩
  unfold get
  split
  · exact hsame
  · rename_i q hq
    split_ifs
    · exact hsame
    · exact hsame
    · refine h.sweepQueue hq ?_
      have hsplit : q.events = q.events.takeWhile (·.eventId < fromId) ++ q.events.dropWhile (·.eventId < fromId) :=
        List.takeWhile_append_dropWhile.symm
      conv => enter [4]; rw [hsplit]
      refine Popping.Sweeps.append ?_ (Popping.collect_sweeps now limit _ _)
      split_ifs
      · exact Popping.popAll_sweeps _ _
      · exact .stop _ _

theorem forget_writes (h : s.Runs c t) (queueId : Int64) (eventId : Int) :
    ∃ rs, TakesAll t rs ∧ (s.forget queueId eventId).Runs (c.logs rs) (RewriteLog.replay t rs) := by
  have hsame : ∃ rs, TakesAll t rs ∧ s.Runs (c.logs rs) (RewriteLog.replay t rs) :=
    ⟨[], trivial, c.logs_nil.symm ▸ h⟩
  unfold forget
  split
  · exact hsame
  · rename_i q hq
    split
    · exact hsame
    · rename_i event hevent
      refine h.sweepQueue hq ?_
      have hholds := h.stores.holds queueId
      rw [queue_of_some hq] at hholds
      have hsorted := (h.keeps.restorable.queue queueId).sorted
      rw [← hholds.events] at hsorted
      obtain ⟨hid, pre, post, hsplit, hpre⟩ := List.find?_eq_some_iff_append.1 hevent
      have hid : event.eventId = eventId := of_decide_eq_true hid
      rw [hsplit, List.map_append, List.map_cons, List.pairwise_append] at hsorted
      have hpost : ∀ e ∈ post, e.eventId ≠ eventId := fun e he =>
        hid ▸ Int.ne_of_gt ((List.pairwise_cons.1 hsorted.2.1).1 e.eventId (List.mem_map_of_mem he))
      have hkeep : ∀ l : List RawEvent, (∀ e ∈ l, e.eventId ≠ eventId) → ∀ left : List RawEvent,
          (l.flatMap fun (e : RawEvent) => if e.eventId = eventId then left else [e]) = l := by
        intro l hl left
        induction l with
        | nil => rfl
        | cons e l ih =>
            rw [List.flatMap_cons, if_neg (hl e List.mem_cons_self), ih fun e he => hl e (List.mem_cons_of_mem _ he)]
            rfl
      rw [hsplit, List.flatMap_append, List.flatMap_cons, if_pos hid, hkeep post hpost,
        hkeep pre fun e he => by simpa using hpre e he]
      exact Popping.Sweeps.append (.stop _ pre) (.pop event (.stop _ post))

/-- The first events of a queue are erased. -/
theorem takesAll_erase {deleted kept : List RawEvent} (hkeeps : c.Keeps t)
    (h : eventsOf t queueId = deleted ++ kept) :
    TakesAll t (deleted.map fun e => .erase e.logEventId) ∧
      eventsOf (RewriteLog.replay t (deleted.map fun e => .erase e.logEventId)) queueId = kept ∧
      ∀ other ≠ queueId,
        eventsOf (RewriteLog.replay t (deleted.map fun e => .erase e.logEventId)) other = eventsOf t other := by
  induction deleted generalizing c t with
  | nil => exact ⟨trivial, h, fun _ _ => rfl⟩
  | cons e deleted ih =>
      have hmem : (e.logEventId, e.toLogEvent queueId) ∈ t := mem_eventsOf.1 (h ▸ List.mem_cons_self)
      have htakes : Takes t (.erase e.logEventId) := .erase (List.mem_map_of_mem hmem)
      have herase := eventsOf_erase hkeeps.ordered (show eventsOf t queueId = [] ++ e :: (deleted ++ kept) from h)
      obtain ⟨hrest, hkept, hothers⟩ := ih (hkeeps.takes htakes) herase.1
      exact ⟨⟨htakes, hrest⟩, hkept, fun other hother => (hothers other hother).trans (herase.2 other hother)⟩

/-- All but the last events of a queue are erased, after `rs` has cleared the last one or not. -/
theorem Runs.eraseFirst (h : s.Runs c t) (hq : s.queues queueId = some q) (htakes : TakesAll t rs)
    {deleted kept : List RawEvent} (hevents : eventsOf (RewriteLog.replay t rs) queueId = deleted ++ kept)
    (hothers : ∀ other ≠ queueId, eventsOf (RewriteLog.replay t rs) other = eventsOf t other)
    (hlast : nextEventId kept = q.tailId) {total : Nat} (htotal : total = (kept.map (·.data.length)).sum)
    {c' : TQueueCallback} (hc : c' = c.logs rs) :
    ∃ rs', TakesAll t rs' ∧
      ({ s with callback := some (c'.popBatch
          (List.map RawEvent.logEventId (deleted.filter (·.logEventId ≠ 0)))) }.setQueue queueId { q with
        events := kept, totalEventLength := total }).Runs (c.logs rs') (RewriteLog.replay t rs') := by
  obtain rfl := queue_of_some hq
  have hkeeps := h.keeps.takesAll htakes
  obtain ⟨herases, hkept, hothers'⟩ := takesAll_erase hkeeps hevents
  have hids : deleted.filter (·.logEventId ≠ 0) = deleted := by
    refine List.filter_eq_self.2 fun e he => decide_eq_true ?_
    have hmem : e ∈ eventsOf (RewriteLog.replay t rs) queueId := hevents ▸ List.mem_append_left _ he
    exact Nat.ne_of_gt (hkeeps.bounds _ (mem_eventsOf.1 hmem)).1
  have hall := (takesAll_append t rs _).2 ⟨htakes, herases⟩
  refine ⟨rs ++ deleted.map fun e => .erase e.logEventId, hall, ?_, ?_, h.keeps.takesAll hall⟩
  · change some _ = some _
    rw [hids, hc, TQueueCallback.popBatch_eq, TQueueCallback.logs_logs, List.map_map]
    rfl
  · rw [RewriteLog.replay_append]
    refine h.stores.change (queue_setQueue _ _ _) ⟨hkept.symm, ?_, ?_⟩ (fun other hother => ?_) ?_ (fun hupdates => ?_)
      h.stores.intact
    · rw [hkept]
      exact hlast.symm
    · rw [hkept]
      exact htotal
    · rw [hothers' other hother, hothers other hother]
    · have hsame : Function.update s.gcAts queueId (s.queue queueId).gcAt = s.gcAts := Function.update_eq_self _ _
      change Schedules s.queueGcAt (Function.update s.gcAts queueId (s.queue queueId).gcAt)
      rw [hsame]
      exact h.stores.schedules
    · have hsub := (hall.taken h.keeps.ordered h.keeps.restorable).updates queueId
      rw [RewriteLog.replay_append] at hsub
      refine h.stores.due queueId fun hnone => hupdates ?_
      rw [hnone] at hsub
      exact List.sublist_nil.1 hsub

theorem nextEventId_append (l : List RawEvent) (h : l' ≠ []) : nextEventId (l ++ l') = nextEventId l' := by
  unfold nextEventId
  rw [List.getLast?_append]
  cases hlast : l'.getLast? with
  | none => exact absurd (List.getLast?_eq_none_iff.1 hlast) h
  | some last => rfl

theorem clear_writes (h : s.Runs c t) (queueId : Int64) (keepCount : Nat) :
    ∃ rs, TakesAll t rs ∧ (s.clear queueId keepCount).1.Runs (c.logs rs) (RewriteLog.replay t rs) := by
  have htakes : TakesAll t [] := trivial
  have hsame : ∃ rs, TakesAll t rs ∧ s.Runs (c.logs rs) (RewriteLog.replay t rs) :=
    ⟨[], htakes, c.logs_nil.symm ▸ h⟩
  unfold clear
  split
  · exact hsame
  rename_i q hq
  dsimp only
  by_cases hsize : q.size ≤ keepCount
  · rw [if_pos hsize]
    exact hsame
  rw [if_neg hsize]
  have hholds := h.stores.holds queueId
  rw [queue_of_some hq] at hholds
  have hlength : keepCount < q.events.length := by
    unfold StoredQueue.size at hsize
    omega
  have hids : ∀ e ∈ q.events, e.logEventId ≠ 0 := hholds.events.symm ▸ logEventId_ne h
  by_cases hzero : keepCount = 0
  · -- the last entry is kept, without its data
    subst hzero
    obtain ⟨before, last, hevents⟩ : ∃ before last, q.events = before ++ [last] :=
      ⟨_, _, (List.dropLast_append_getLast (List.ne_nil_of_length_pos hlength)).symm⟩
    have hlast : last.logEventId ≠ 0 := hids last (hevents ▸ List.mem_append_right _ List.mem_cons_self)
    have htail : q.tailId = last.eventId + 1 := by
      rw [hholds.tailId, ← hholds.events, hevents, nextEventId_concat]
    have htable : eventsOf t queueId = before ++ [last] := hholds.events.symm.trans hevents
    have htake : ∀ e : RawEvent, q.events.take (q.events.length - [e].length) = before := by
      intro e
      rw [hevents, List.length_append, List.length_singleton, List.length_singleton, Nat.add_sub_cancel, List.take_left]
    simp only [if_true, Nat.not_lt_zero, if_false]
    unfold clearLast
    rw [h.callback, hevents, List.getLast?_concat]
    dsimp only
    rw [if_neg hlast]
    by_cases hdata : last.data = []
    · rw [if_neg (not_not_intro hdata), ← hevents]
      dsimp only [Option.map, Option.toList]
      rw [htake last]
      exact h.eraseFirst hq htakes htable (fun _ _ => rfl) (by rw [htail]; rfl) rfl c.logs_nil.symm
    · rw [if_pos hdata, ← hevents]
      dsimp only [Option.map, Option.toList]
      rw [htake last.cleared]
      have hcleared := eventsOf_clear h.keeps.ordered htable
      have hclear : TakesAll t [.rewrite last.logEventId (last.toLogEvent queueId).cleared] := by
        refine ⟨.clear (mem_eventsOf.1 (htable ▸ List.mem_append_right _ List.mem_cons_self)) fun e he => ?_, trivial⟩
        have hbelow := lt_tailId (h.keeps.restorable.queue queueId) hholds e he
        rw [htail] at hbelow
        exact Int.lt_add_one_iff.1 hbelow
      exact h.eraseFirst hq hclear hcleared.1 hcleared.2 (by rw [htail]; rfl) rfl
        (congrArg Prod.fst (TQueueCallback.push_of_ne queueId last.cleared hlast))
  · have hdrop : (q.events.drop (q.events.length - keepCount)).length = keepCount := by
      rw [List.length_drop]
      omega
    have hkept : q.events.drop (q.events.length - keepCount) ≠ [] := by
      intro hnil
      rw [hnil] at hdrop
      exact hzero hdrop.symm
    simp only [if_neg hzero, h.callback, Option.map_some, hdrop]
    refine h.eraseFirst hq htakes ?_ (fun _ _ => rfl) ?_ ?_ c.logs_nil.symm
    · rw [List.take_append_drop]
      exact hholds.events.symm
    · rw [hholds.tailId, ← hholds.events]
      conv => rhs; rw [← List.take_append_drop (q.events.length - keepCount) q.events]
      exact (nextEventId_append _ hkept).symm
    · split_ifs
      · have hsum : (q.events.map (·.data.length)).sum =
            ((q.events.take (q.events.length - keepCount)).map (·.data.length)).sum +
              ((q.events.drop (q.events.length - keepCount)).map (·.data.length)).sum := by
          rw [← List.sum_append, ← List.map_append, List.take_append_drop]
        rw [hholds.total, ← hholds.events, hsum]
        exact Nat.add_sub_cancel_left _ _
      · rfl

/-- The queue is ready for an event with the identifier of its tail: only the tail may be another one than
in the table. -/
structure Ready (s : UpdateStore) (c : TQueueCallback) (t : Table LogEvent) (queueId : Int64) : Prop where
  callback : s.callback = some c
  keeps : c.Keeps t
  events : (s.queue queueId).events = eventsOf t queueId
  total : (s.queue queueId).totalEventLength = ((eventsOf t queueId).map (·.data.length)).sum
  below : ∀ e ∈ eventsOf t queueId, e.eventId < (s.queue queueId).tailId
  others : ∀ other ≠ queueId, (s.queue other).Holds (eventsOf t other)
  schedules : Schedules s.queueGcAt s.gcAts
  due : ∀ other, updatesOf t other ≠ [] → s.gcAts other ≠ 0
  intact : s.crashed = false

/-- The placeholder at the end goes away. -/
theorem Ready.withoutPlaceholder_spec (h : Ready s c t queueId) :
    ∃ taken, TakesAll t taken ∧
      (withoutPlaceholder s.callback (s.queue queueId)).1.events =
        eventsOf (RewriteLog.replay t taken) queueId ∧
      (∀ other ≠ queueId, eventsOf (RewriteLog.replay t taken) other = eventsOf t other) ∧
      (withoutPlaceholder s.callback (s.queue queueId)).2 = some (c.logs taken) ∧
      (eventsOf (RewriteLog.replay t taken) queueId).Sublist (eventsOf t queueId) ∧
      (∀ e ∈ eventsOf (RewriteLog.replay t taken) queueId, e.data ≠ []) ∧
      ((eventsOf (RewriteLog.replay t taken) queueId).map (·.data.length)).sum =
        ((eventsOf t queueId).map (·.data.length)).sum := by
  have hone := h.keeps.restorable.queue queueId
  have htakes : TakesAll t [] := trivial
  unfold withoutPlaceholder
  split
  · rename_i hnone
    rw [List.getLast?_eq_none_iff] at hnone
    have hempty : eventsOf t queueId = [] := h.events.symm.trans hnone
    refine ⟨[], htakes, h.events, fun _ _ => rfl, h.callback.trans (congrArg some c.logs_nil.symm),
      List.Sublist.refl _, ?_, rfl⟩
    intro e he
    change e ∈ eventsOf t queueId at he
    rw [hempty] at he
    exact absurd he List.not_mem_nil
  · rename_i last hlast
    obtain ⟨before, hevents⟩ := List.getLast?_eq_some_iff.1 hlast
    have htable : eventsOf t queueId = before ++ [last] := h.events.symm.trans hevents
    have hbefore : ∀ e ∈ before, e.data ≠ [] := fun e he => ((htable ▸ hone).before.1 e he).2
    have hmem : (last.logEventId, last.toLogEvent queueId) ∈ t :=
      mem_eventsOf.1 (htable ▸ List.mem_append_right _ List.mem_cons_self)
    by_cases hdata : last.data = []
    · rw [if_pos hdata]
      have herase := eventsOf_erase h.keeps.ordered htable
      rw [List.append_nil] at herase
      have htake : TakesAll t [.erase last.logEventId] := ⟨.erase (List.mem_map_of_mem hmem), trivial⟩
      refine ⟨[.erase last.logEventId], htake, ?_, herase.2, ?_, ?_, fun e he => ?_, ?_⟩
      · change (s.queue queueId).events.dropLast = _
        rw [hevents, List.dropLast_concat]
        exact herase.1.symm
      · dsimp only
        have hid : last.logEventId ≠ 0 := Nat.ne_of_gt (h.keeps.bounds _ hmem).1
        rw [if_pos hid, h.callback]
        rfl
      · exact (List.filter_sublist.filter _).map _
      · exact hbefore e (herase.1 ▸ he)
      · have herased : eventsOf (RewriteLog.replay t [.erase last.logEventId]) queueId = before := herase.1
        rw [herased, htable, List.map_append, List.sum_append, List.map_singleton, hdata]
        rfl
    · rw [if_neg hdata]
      refine ⟨[], htakes, h.events, fun _ _ => rfl, h.callback.trans (congrArg some c.logs_nil.symm),
        List.Sublist.refl _, fun e he => ?_, rfl⟩
      change e ∈ eventsOf t queueId at he
      rw [htable] at he
      rcases List.mem_append.1 he with he | he
      · exact hbefore e he
      · rw [List.mem_singleton.1 he]
        exact hdata

theorem logged_new (h : e.logEventId = 0) (c : TQueueCallback) (queueId : Int64) :
    logged (some c) queueId e = (some (c.logs [.add c.nextEventId (e.toLogEvent queueId)]),
      (e.toLogEvent queueId).rawEvent c.nextEventId) := by
  unfold logged TQueueCallback.push
  simp only [if_pos h]
  rfl

/-- An event is added behind the others. -/
theorem Ready.doPush (h : Ready s c t queueId) (hpushes : s.Pushes queueId e)
    (hid : e.eventId = (s.queue queueId).tailId) (hlog : e.logEventId = 0) (hdata : e.data ≠ []) :
    ∃ s' taken id, s.doPush queueId e = (s', true) ∧ TakesAll t taken ∧ id = c.nextEventId + taken.length ∧
      s'.Runs (c.logs (taken ++ [.add id (e.toLogEvent queueId)]))
        (RewriteLog.replay t (taken ++ [.add id (e.toLogEvent queueId)])) := by
  obtain ⟨taken, htakes, hevents, hothers, hcallback, hsub, hfull, hsum⟩ := h.withoutPlaceholder_spec
  obtain ⟨s', q', hpush, hs', htail, hevents', htotal', hgcAt, hcallback', hschedules, hcrashed⟩ :=
    doPush_spec hpushes h.schedules
  have hkeeps := h.keeps.takesAll htakes
  rw [hcallback, logged_new hlog] at hevents' hcallback'
  rw [hevents] at hevents' hgcAt
  generalize ht₁ : RewriteLog.replay t taken = t₁ at *
  generalize hnext : (c.logs taken).nextEventId = id at *
  have hqueueId : (e.toLogEvent queueId).queueId = queueId := rfl
  obtain ⟨hself, hother⟩ := eventsOf_add hqueueId t₁ id
  have hrestorable : Restorable (RewriteLog.apply t₁ (.add id (e.toLogEvent queueId))) := by
    refine ⟨fun entry hentry => ?_, fun other => ?_⟩
    · rcases RewriteLog.mem_add.1 hentry with hentry | rfl
      · exact hkeeps.restorable.valid entry hentry
      · exact ⟨hpushes.queueId_ne, hpushes.valid, hpushes.next, hpushes.expiresAt, hpushes.data_le⟩
    · by_cases hsame : other = queueId
      · subst hsame
        rw [hself]
        refine (hkeeps.restorable.queue other).concat hfull (fun e' he' => ?_) ?_ ?_
        · change e'.eventId < e.eventId
          rw [hid]
          exact h.below e' (hsub.subset he')
        · exact Nat.lt_of_le_of_lt hsub.length_le (h.events ▸ hpushes.length_lt)
        · change ((eventsOf t₁ other).map _).sum + e.data.length ≤ _
          rw [hsum, ← h.total]
          exact hpushes.total_le
      · rw [hother other hsame]
        exact hkeeps.restorable.queue other
  have hkeeps' : ((c.logs taken).logs [.add id (e.toLogEvent queueId)]).Keeps
      (RewriteLog.apply t₁ (.add id (e.toLogEvent queueId))) := by
    subst hnext
    exact hkeeps.add hrestorable
  have hreplay : RewriteLog.replay t (taken ++ [.add id (e.toLogEvent queueId)]) =
      RewriteLog.apply t₁ (.add id (e.toLogEvent queueId)) := by
    rw [RewriteLog.replay_append, ht₁]
    rfl
  refine ⟨s', taken, id, hpush, htakes, hnext.symm, ?_⟩
  rw [← TQueueCallback.logs_logs, hreplay]
  refine ⟨hcallback', ⟨fun other => ?_, ?_, fun other hupdates => ?_, hcrashed.trans h.intact⟩, hkeeps'⟩
  · rw [hs']
    by_cases hsame : other = queueId
    · subst hsame
      rw [Function.update_self, hself]
      refine ⟨hevents', ?_, ?_⟩
      · rw [htail, nextEventId_concat]
        rfl
      · rw [htotal', List.map_append, List.sum_append, List.map_singleton, List.sum_singleton, h.total, ← hsum]
        rfl
    · rw [Function.update_of_ne hsame, hother other hsame, hothers other hsame]
      exact h.others other hsame
  · rw [gcAts_eq hs']
    exact hschedules
  · rw [gcAts_eq hs']
    by_cases hsame : other = queueId
    · subst hsame
      rw [Function.update_self, hgcAt]
      split_ifs with hfirst
      · exact ne_zero_of_toInt_pos hpushes.expiresAt
      · have hne : eventsOf t₁ other ≠ [] := fun hnil => hfirst ⟨hnil, hdata⟩
        obtain ⟨e', he'⟩ := List.exists_mem_of_ne_nil _ hne
        exact h.due other (List.ne_nil_of_mem (List.mem_filter.2
          ⟨hsub.subset he', decide_eq_true (hfull e' he')⟩))
    · rw [Function.update_of_ne hsame]
      unfold updatesOf at hupdates
      rw [hother other hsame, hothers other hsame] at hupdates
      exact h.due other hupdates

/-- A queue that gets a tail for the next event, after records that take events away. -/
theorem Runs.ready (h : s.Runs c t) (htakes : TakesAll t rs)
    (hqueue : s'.queue = Function.update s.queue queueId q) (hcallback : s'.callback = some (c.logs rs))
    (hevents : q.events = eventsOf (RewriteLog.replay t rs) queueId)
    (htotal : q.totalEventLength = (q.events.map (·.data.length)).sum)
    (hbelow : ∀ e ∈ q.events, e.eventId < q.tailId) (hgcAt : q.gcAt = (s.queue queueId).gcAt)
    (hothers : ∀ other ≠ queueId, eventsOf (RewriteLog.replay t rs) other = eventsOf t other)
    (hqueueGcAt : s'.queueGcAt = s.queueGcAt) (hcrashed : s'.crashed = s.crashed) :
    s'.Ready (c.logs rs) (RewriteLog.replay t rs) queueId := by
  have hself : s'.queue queueId = q := by rw [hqueue, Function.update_self]
  have hgcAts : s'.gcAts = s.gcAts := by
    rw [gcAts_eq hqueue, hgcAt]
    exact Function.update_eq_self _ _
  refine ⟨hcallback, h.keeps.takesAll htakes, hself ▸ hevents, ?_, ?_, fun other hother => ?_, ?_,
    fun other hupdates => ?_, hcrashed.trans h.stores.intact⟩
  · rw [hself, htotal, hevents]
  · rw [hself, ← hevents]
    exact hbelow
  · rw [hqueue, Function.update_of_ne hother, hothers other hother]
    exact h.stores.holds other
  · rw [hqueueGcAt, hgcAts]
    exact h.stores.schedules
  · rw [hgcAts]
    have hsub := (htakes.taken h.keeps.ordered h.keeps.restorable).updates other
    refine h.stores.due other fun hnone => hupdates ?_
    rw [hnone] at hsub
    exact List.sublist_nil.1 hsub

/-- Nothing stays when no event is just before the tail. -/
theorem popAll_zero (queueId : Int64) (p : Popping) (l : List RawEvent) (h : ∀ e ∈ l, 0 < e.eventId) :
    (Popping.popAll queueId 0 p l).1 = [] := by
  induction l generalizing p with
  | nil => rfl
  | cons e l ih =>
      have hpop : (p.pop queueId 0 e).1 = [] := by
        have hpos := h e List.mem_cons_self
        unfold Popping.pop
        split
        · rfl
        · rw [if_neg (by omega : ¬ e.eventId + 1 = 0)]
          split_ifs <;> rfl
      unfold Popping.popAll
      dsimp only
      rw [hpop, ih _ fun e' he' => h e' (List.mem_cons_of_mem _ he')]
      rfl

theorem Runs.eventId_pos (h : s.Runs c t) (queueId : Int64) : ∀ e ∈ (s.queue queueId).events, 0 < e.eventId := by
  intro e he
  rw [(h.stores.holds queueId).events] at he
  exact (h.keeps.restorable.valid _ (mem_eventsOf.1 he)).eventId.1

theorem Runs.tailId_nonneg (h : s.Runs c t) (queueId : Int64) : 0 ≤ (s.queue queueId).tailId := by
  have hholds := h.stores.holds queueId
  rw [hholds.tailId, ← hholds.events]
  unfold nextEventId
  cases hlast : (s.queue queueId).events.getLast? with
  | none => exact Int.le_refl 0
  | some last =>
      have hpos := h.eventId_pos queueId last (List.mem_of_getLast? hlast)
      exact Int.le_of_lt (Int.lt_add_one_of_le (Int.le_of_lt hpos))

/-- The queue from which the next event gets its identifier. -/
theorem Runs.withNextId_ready (h : s.Runs c t) (queueId : Int64) (first : FirstEventId) :
    ∃ rs, TakesAll t rs ∧
      ((s.withNextId queueId (s.queue queueId) first).1.setQueue queueId
        (s.withNextId queueId (s.queue queueId) first).2).Ready (c.logs rs) (RewriteLog.replay t rs) queueId ∧
      0 < (s.withNextId queueId (s.queue queueId) first).2.tailId ∧
      (s.withNextId queueId (s.queue queueId) first).2.tailId + 1 < maxEventId ∧
      (s.withNextId queueId (s.queue queueId) first).2.events.length ≤ (s.queue queueId).events.length ∧
      (s.withNextId queueId (s.queue queueId) first).2.totalEventLength ≤ (s.queue queueId).totalEventLength := by
  have hholds := h.stores.holds queueId
  have hbelow := lt_tailId (h.keeps.restorable.queue queueId) hholds
  rw [← hholds.events] at hbelow
  have hpos := h.eventId_pos queueId
  have htail := h.tailId_nonneg queueId
  have hlower := first.lower
  have hupper := first.upper
  unfold withNextId
  by_cases hnext : (if (s.queue queueId).tailId = 0 then first.value else (s.queue queueId).tailId) + 1 < maxEventId
  · dsimp only
    rw [if_pos hnext]
    have htakes : TakesAll t [] := trivial
    refine ⟨[], htakes, ?_, ?_, hnext, Nat.le_refl _, Nat.le_refl _⟩
    · refine h.ready htakes (queue_setQueue _ _ _) (h.callback.trans (congrArg some c.logs_nil.symm)) hholds.events ?_ ?_
        rfl (fun _ _ => rfl) rfl rfl
      · change (s.queue queueId).totalEventLength = _
        rw [hholds.total, ← hholds.events]
      · intro e he
        have hlt := hbelow e he
        have hid := hpos e he
        dsimp only
        rw [if_neg (by omega)]
        exact hlt
    · dsimp only
      split_ifs with hzero
      · omega
      · omega
  · dsimp only
    rw [if_neg hnext]
    have hsweep : Popping.Sweeps queueId 0 _ _ _ _ :=
      Popping.popAll_sweeps (s.popping (s.queue queueId)) (s.queue queueId).events
    obtain ⟨rs, htakes, hat, hothers⟩ := hsweep.leads
      (show Popping.At _ queueId c t ([] ++ (s.queue queueId).events) from h.at queueId) fun _ _ => Or.inl rfl
    have hnone := popAll_zero queueId (s.popping (s.queue queueId)) _ hpos
    rw [hnone] at hat ⊢
    have hzero := hat.total
    refine ⟨rs, htakes, ?_, ?_, ?_, Nat.zero_le _, hzero.trans_le (Nat.zero_le _)⟩
    · exact h.ready htakes (queue_setQueue _ _ _) hat.callback hat.events.symm hzero
        (fun e he => absurd he List.not_mem_nil) rfl hothers rfl (hat.intact.trans h.stores.intact.symm)
    · dsimp only
      omega
    · dsimp only
      unfold maxEventId
      omega

/-- The checks of `push`. -/
structure Accepts (s : UpdateStore) (queueId : Int64) (data : Bytes) (expiresAt : Int32) : Prop where
  data_ne : data ≠ []
  data_le : data.length ≤ TQueue.maxEventLength
  queueId_ne : queueId ≠ 0
  length_lt : (s.queue queueId).events.length < TQueue.maxQueueEvents
  total_le : (s.queue queueId).totalEventLength + data.length ≤ TQueue.maxTotalEventLength
  expiresAt : 0 < expiresAt.toInt

/-- The storage in which the queue has a tail for the next event. -/
def withTail (s : UpdateStore) (queueId : Int64) (first : FirstEventId) : UpdateStore :=
  let r := (s.setQueue queueId (s.queue queueId)).withNextId queueId (s.queue queueId) first
  r.1.setQueue queueId r.2

theorem queue_withTail (s : UpdateStore) (queueId : Int64) (first : FirstEventId) :
    (s.withTail queueId first).queue queueId =
      ((s.setQueue queueId (s.queue queueId)).withNextId queueId (s.queue queueId) first).2 := by
  unfold withTail
  rw [queue_setQueue, Function.update_self]

/-- An event that passes the checks is added with the tail for its identifier. -/
theorem Runs.accepted (h : s.Runs c t) {data : Bytes} {expiresAt : Int32} (haccepts : s.Accepts queueId data expiresAt)
    (first : FirstEventId) (extra : Int64) :
    ∃ rs, TakesAll t rs ∧ (s.withTail queueId first).Ready (c.logs rs) (RewriteLog.replay t rs) queueId ∧
      (s.withTail queueId first).Pushes queueId
        { eventId := ((s.withTail queueId first).queue queueId).tailId, expiresAt, data, extra } ∧
      s.push queueId first data expiresAt extra =
        let pushed := (s.withTail queueId first).doPush queueId
          { eventId := ((s.withTail queueId first).queue queueId).tailId, expiresAt, data, extra }
        (pushed.1.check pushed.2, .ok ((s.withTail queueId first).queue queueId).tailId) := by
  have hqueue : (s.setQueue queueId (s.queue queueId)).queue queueId = s.queue queueId := by
    rw [queue_setQueue, Function.update_self]
  obtain ⟨rs, htakes, hready, hpos, hnext, hevents, htotals⟩ := (h.created queueId).withNextId_ready queueId first
  rw [hqueue] at hready hpos hnext hevents htotals
  rw [← queue_withTail] at hpos hnext hevents htotals
  refine ⟨rs, htakes, hready, ⟨⟨hpos, Int.lt_trans (Int.lt_succ _) hnext⟩, hnext, haccepts.queueId_ne,
    haccepts.data_le, Nat.lt_of_le_of_lt hevents haccepts.length_lt, ?_, haccepts.expiresAt, Int.le_refl _⟩, ?_⟩
  · exact Nat.le_trans (Nat.add_le_add_right htotals _) haccepts.total_le
  · unfold push
    rw [if_neg haccepts.data_ne, if_neg (Nat.not_lt.2 haccepts.data_le), if_neg haccepts.queueId_ne]
    dsimp only
    rw [if_neg (Nat.not_le.2 haccepts.length_lt), if_neg (Nat.not_lt.2 haccepts.total_le),
      if_neg (Int.not_le.2 haccepts.expiresAt), queue_withTail]
    rfl

/-- Otherwise nothing is pushed. -/
theorem Runs.refused (h : s.Runs c t) {data : Bytes} {expiresAt : Int32} (hrefused : ¬ s.Accepts queueId data expiresAt)
    (first : FirstEventId) (extra : Int64) :
    (s.push queueId first data expiresAt extra).1.Runs c t ∧
      (s.push queueId first data expiresAt extra).1.queue = s.queue := by
  have hcreated : (s.setQueue queueId (s.queue queueId)).queue = s.queue := by
    rw [queue_setQueue, Function.update_eq_self]
  unfold push
  dsimp only
  split_ifs with hdata hlength hqueueId hfull htotal hexpired
  · exact ⟨h, rfl⟩
  · exact ⟨h, rfl⟩
  · exact ⟨h, rfl⟩
  · exact ⟨h.created queueId, hcreated⟩
  · exact ⟨h.created queueId, hcreated⟩
  · exact ⟨h.created queueId, hcreated⟩
  · exact absurd ⟨hdata, Nat.not_lt.1 hlength, hqueueId, Nat.not_le.1 hfull, Nat.not_lt.1 htotal,
      Int.not_le.1 hexpired⟩ hrefused

theorem push_writes (h : s.Runs c t) (queueId : Int64) (first : FirstEventId) (data : Bytes) (expiresAt : Int32)
    (extra : Int64) : Writes c t (s.push queueId first data expiresAt extra).1 := by
  by_cases haccepts : s.Accepts queueId data expiresAt
  · obtain ⟨rs, htakes, hready, hpushes, hpush⟩ := h.accepted haccepts first extra
    obtain ⟨s', taken, id, hdoPush, htaken, rfl, hruns⟩ := hready.doPush hpushes rfl rfl haccepts.data_ne
    rw [hpush, hdoPush]
    dsimp only
    rw [check_of_pos rfl]
    have hall := (takesAll_append t rs taken).2 ⟨htakes, htaken⟩
    have hid : (c.logs rs).nextEventId + taken.length = c.nextEventId + (rs ++ taken).length := by
      rw [List.length_append, ← Nat.add_assoc]
      rfl
    rw [TQueueCallback.logs_logs, ← RewriteLog.replay_append, ← List.append_assoc, hid] at hruns
    exact ⟨_, .adds hall hruns.keeps.restorable, hruns⟩
  · exact (h.refused haccepts first extra).1.same

end

end UpdateStore

end TelegramBotApi
