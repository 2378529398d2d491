import TelegramBotApi.UpdateDatabase

/-!
# Crashes of the update storage

Whatever a crash leaves of the file behind its last synchronization, the next start restores a storage that
stands between two neighbouring states of the run, and drops nothing. What both states have is there, and
no other update is.
-/

namespace TelegramBotApi

open RewriteLog (Record Table)
open LogEvent (content)

namespace UpdateDb

variable {crc32 : Bytes → UInt32} {c₀ : TQueueCallback} {t₀ t : Table LogEvent} {db db' db₀ : UpdateDb}
  {actions : List DbAction}

/-- What the storage has sent since its start from the table `t₀`. -/
structure Sends (c₀ : TQueueCallback) (t₀ : Table LogEvent) (db : UpdateDb) : Prop where
  fresh : c₀.log = []
  keeps : c₀.Keeps t₀
  runs : db.store.Runs (c₀.logs db.log) (RewriteLog.replay t₀ db.log)
  sendable : LogEvent.format.AllSendable t₀ c₀.nextEventId db.log

/-- What the binlog has added of it, and what of that is synchronized. -/
abbrev Adds (crc32 : Bytes → UInt32) (c₀ : TQueueCallback) (t₀ : Table LogEvent) (db : UpdateDb) : Prop :=
  LogEvent.format.Follows crc32 c₀.nextEventId t₀ db.log db.file db.written db.synced

/-- The storage and its binlog are as a start leaves them. -/
structure Started (crc32 : Bytes → UInt32) (db : UpdateDb) : Prop where
  sends : ∃ c t, Sends c t db ∧ Adds crc32 c t db
  log : db.log = []

theorem Sends.op (h : Sends c₀ t₀ db) (op : UpdateOp) :
    ∃ rs, Sends c₀ t₀ { db with store := db.store.step op } ∧
      UpdateStore.Group (c₀.logs db.log) (RewriteLog.replay t₀ db.log) rs ∧
      ({ db with store := db.store.step op } : UpdateDb).log = db.log ++ rs := by
  obtain ⟨rs, hgroup, hruns⟩ := h.runs.step op
  rw [TQueueCallback.logs_logs, ← RewriteLog.replay_append] at hruns
  have hlog : ({ db with store := db.store.step op } : UpdateDb).log = db.log ++ rs := by
    change ((db.store.step op).callback.map (·.log)).getD [] = _
    rw [hruns.callback]
    change c₀.log ++ (db.log ++ rs) = _
    rw [h.fresh, List.nil_append]
  refine ⟨rs, ⟨h.fresh, h.keeps, ?_, ?_⟩, hgroup, hlog⟩
  · rw [hlog]
    exact hruns
  · rw [hlog, LogFormat.allSendable_append]
    exact ⟨h.sendable, hgroup.sendable h.runs.keeps⟩

/-- No step takes back what was sent. -/
theorem Sends.act (h : Sends c₀ t₀ db) {a : DbAction} (hact : db.act crc32 a = some db') :
    ∃ rs, Sends c₀ t₀ db' ∧ UpdateStore.Group (c₀.logs db.log) (RewriteLog.replay t₀ db.log) rs ∧
      db'.log = db.log ++ rs := by
  have hsame : UpdateStore.Group (c₀.logs db.log) (RewriteLog.replay t₀ db.log) [] :=
    .takes (trivial : TakesAll _ [])
  cases a with
  | op op =>
      obtain rfl := Option.some.inj hact
      exact h.op op
  | write =>
      obtain ⟨r, -, rfl⟩ := Option.map_eq_some_iff.1 hact
      exact ⟨[], ⟨h.fresh, h.keeps, h.runs, h.sendable⟩, hsame, (List.append_nil _).symm⟩
  | flush =>
      obtain rfl := Option.some.inj hact
      exact ⟨[], ⟨h.fresh, h.keeps, h.runs, h.sendable⟩, hsame, (List.append_nil _).symm⟩
  | sync =>
      obtain rfl := Option.some.inj hact
      exact ⟨[], ⟨h.fresh, h.keeps, h.runs, h.sendable⟩, hsame, (List.append_nil _).symm⟩

/-- The process never stops, and the binlog follows the storage. -/
theorem Adds.act (h : Adds crc32 c₀ t₀ db) (hs : Sends c₀ t₀ db) (hids : c₀.nextEventId + db.log.length ≤ 2 ^ 63)
    (a : DbAction) : ∃ db', db.act crc32 a = some db' ∧ Adds crc32 c₀ t₀ db' := by
  cases a with
  | op op =>
      obtain ⟨rs, -, -, hlog⟩ := hs.op op
      refine ⟨_, rfl, ?_⟩
      have hsend := h.send rs
      rwa [← hlog] at hsend
  | write =>
      obtain ⟨file, written, hwrite, hfollows⟩ := h.write hs.sendable hids
      exact ⟨{ db with file := file, written := written }, congrArg (Option.map _) hwrite, hfollows⟩
  | flush => exact ⟨_, rfl, h.flush⟩
  | sync => exact ⟨_, rfl, h.sync⟩

theorem Sends.run (h : Sends c₀ t₀ db₀) (hrun : run crc32 db₀ actions = some db) : Sends c₀ t₀ db := by
  refine LogRun.run_invariant (fun db a db' hs hact => ?_) h hrun
  obtain ⟨-, hs', -⟩ := hs.act hact
  exact hs'

theorem Adds.run (h : Adds crc32 c₀ t₀ db₀) (hs : Sends c₀ t₀ db₀) (hrun : UpdateDb.run crc32 db₀ actions = some db)
    (hids : c₀.nextEventId + db.log.length ≤ 2 ^ 63) : Adds crc32 c₀ t₀ db := by
  refine LogRun.run_invariant_while (I := Sends c₀ t₀) (J := Adds crc32 c₀ t₀)
    (B := fun db => c₀.nextEventId + db.log.length ≤ 2 ^ 63) (fun db a db' hs hact => ?_)
    (fun db a db' hs hids hadds hact => ?_) hs h hrun hids
  · obtain ⟨rs, hs', -, hlog⟩ := hs.act hact
    refine ⟨hs', fun hids' => ?_⟩
    rw [hlog, List.length_append] at hids'
    omega
  · obtain ⟨db'', hact', hadds'⟩ := hadds.act hs hids a
    obtain rfl := Option.some.inj (hact.symm.trans hact')
    exact hadds'

theorem Between.refl {c : TQueueCallback} (hkeeps : c.Keeps t) : Between t t t :=
  ⟨hkeeps.restorable, ⟨_, hkeeps.ordered⟩, fun _ _ he _ => he, fun _ _ he => Or.inl he⟩

/-- Wherever the log is cut, its table lies between those of two neighbouring states of the run. -/
theorem Sends.cut (h : Sends c₀ t₀ db₀) (hlog₀ : db₀.log = []) (hrun : UpdateDb.run crc32 db₀ actions = some db)
    {m : Nat} (hm : m ≤ db.log.length) :
    ∃ i u v, LogRun.CutAt (UpdateDb.act crc32) UpdateDb.log db₀ actions m i u v ∧
      Between (RewriteLog.replay t₀ u.log) (RewriteLog.replay t₀ (db.log.take m)) (RewriteLog.replay t₀ v.log) := by
  have hstep : ∀ db a db', Sends c₀ t₀ db → db.act crc32 a = some db' → Sends c₀ t₀ db' ∧ db.log <+: db'.log := by
    intro db a db' hs hact
    obtain ⟨rs, hs', -, hlog⟩ := hs.act hact
    exact ⟨hs', hlog ▸ List.prefix_append _ _⟩
  obtain ⟨i, u, v, hcut, hv⟩ := LogRun.exists_cut UpdateDb.log hstep h hrun (hlog₀ ▸ Nat.zero_le m) hm
  have hu := h.run hcut.before
  refine ⟨i, u, v, hcut, ?_⟩
  rcases hcut.step with rfl | ⟨a, hact⟩
  · rw [hcut.take UpdateDb.log hv (List.append_nil _).symm, List.take_nil, List.append_nil]
    exact Between.refl hu.runs.keeps
  · obtain ⟨rs, hs', hgroup, hlog⟩ := hu.act hact
    have hkeeps := hs'.runs.keeps
    rw [hlog, ← TQueueCallback.logs_logs, RewriteLog.replay_append] at hkeeps
    rw [hcut.take UpdateDb.log hv hlog, hlog, RewriteLog.replay_append, RewriteLog.replay_append]
    exact hgroup.cut hu.runs.keeps hkeeps _

theorem Sends.updates (h : Sends c₀ t₀ db) (queueId : Int64) :
    db.store.updates queueId = updatesOf (RewriteLog.replay t₀ db.log) queueId := by
  unfold UpdateStore.updates updatesOf
  rw [(h.runs.stores.holds queueId).events]

/-- A binlog that was loaded is replayed, and the storage runs on it. -/
theorem restart_of_load {bytes file : Bytes} {b : Binlog} (hload : Binlog.load crc32 bytes = some (.ok (b, file)))
    (hrunning : Running crc32 (.opened b file) (RewriteLog.mapTable content t) []) (ht : Restorable t)
    (hlast : b.processor.lastEventId = b.lastEventId) :
    ∃ db, restart crc32 bytes = some (db, []) ∧ Started crc32 db ∧ db.store.Stores t := by
  have hcontents : RewriteLog.mapTable BinlogEvent.content b.processor.alive = RewriteLog.mapTable content t :=
    hrunning.represents.contents
  have hordered := hrunning.represents.ordered
  obtain ⟨s, hreplay, hstores, -⟩ := UpdateStore.replayAll_restores ht
  have hstores' : ∀ callback, (s.setCallback callback).Stores t := fun _ =>
    ⟨hstores.holds, hstores.schedules, hstores.due, hstores.intact⟩
  have hfst : ∀ e ∈ t, ∃ e' ∈ RewriteLog.mapTable content t, e'.1 = e.1 := fun e he =>
    ⟨_, List.mem_map_of_mem he, rfl⟩
  have hkeeps : TQueueCallback.Keeps { nextEventId := b.lastEventId + 1 } t := by
    refine ⟨?_, fun e he => ?_, Nat.succ_pos _, ht⟩
    · have hsorted := hordered.sorted
      rwa [RewriteLog.replay_nil, RewriteLog.mapTable_fst] at hsorted
    · obtain ⟨e', he', hid⟩ := hfst e he
      rw [← hid]
      refine ⟨hrunning.positive e' he', Nat.lt_succ_of_le ?_⟩
      rw [← hlast]
      exact hordered.le_last e' he'
  refine ⟨{ store := s.setCallback { nextEventId := b.lastEventId + 1 }, file := .opened b file }, ?_, ⟨⟨_, t,
    ⟨rfl, hkeeps, ⟨rfl, hstores' _, hkeeps⟩, trivial⟩, ⟨Nat.le_refl _, ⟨0, Nat.le_refl _, Nat.le_refl _, hrunning⟩,
      ?_⟩⟩, rfl⟩, hstores' _⟩
  · unfold restart
    rw [hload]
    dsimp only
    rw [hcontents, hreplay]
    rfl
  · change b.processor.lastEventId < b.lastEventId + 1 + 0
    rw [hlast]
    exact Nat.lt_succ_self _

/-- The database of a server that has no binlog yet. -/
def fresh : UpdateDb where
  store := { callback := some { nextEventId := 1 } }
  file := .opened {} []

theorem started_fresh (crc32 : Bytes → UInt32) : Started crc32 fresh := by
  have hrestorable : Restorable [] :=
    ⟨fun _ he => absurd he List.not_mem_nil, fun _ =>
      ⟨List.Pairwise.nil, fun _ he => absurd he List.not_mem_nil, Nat.zero_le _, Nat.zero_le _⟩⟩
  have hkeeps : TQueueCallback.Keeps { nextEventId := 1 } [] :=
    ⟨List.Pairwise.nil, fun _ he => absurd he List.not_mem_nil, Nat.one_pos, hrestorable⟩
  have hstores : fresh.store.Stores [] :=
    ⟨UpdateStore.stores_nil.holds, UpdateStore.stores_nil.schedules, UpdateStore.stores_nil.due, rfl⟩
  exact ⟨⟨{ nextEventId := 1 }, [], ⟨rfl, hkeeps, ⟨rfl, hstores, hkeeps⟩, trivial⟩,
    ⟨Nat.le_refl _, ⟨0, Nat.le_refl _, Nat.le_refl _, running_empty crc32⟩, Nat.one_pos⟩⟩, rfl⟩

example (crc32 : Bytes → UInt32) : restart crc32 [] = some (fresh, []) := rfl

def nextEventId (db : UpdateDb) : Nat := (db.store.callback.map (·.nextEventId)).getD 0

theorem Sends.nextEventId (h : Sends c₀ t₀ db) : db.nextEventId = c₀.nextEventId + db.log.length := by
  unfold UpdateDb.nextEventId
  rw [h.runs.callback]
  rfl

end UpdateDb

/-- The storage is one that a crash between two states may leave. -/
structure UpdateStore.Between (u s v : UpdateStore) : Prop where
  kept : ∀ queueId, ∀ e ∈ u.updates queueId, e ∈ v.updates queueId → e ∈ s.updates queueId
  known : ∀ queueId, ∀ e ∈ s.updates queueId, e ∈ u.updates queueId ∨ e ∈ v.updates queueId

/-- The process never stops: while the identifiers of the records are below `2 ^ 63`, no `CHECK` of the storage
fails, and the binlog takes every record that it is sent. -/
theorem update_db_alive {crc32 : Bytes → UInt32} {db₀ db : UpdateDb} {actions : List DbAction}
    (h : UpdateDb.Started crc32 db₀) (hrun : UpdateDb.run crc32 db₀ actions = some db)
    (hids : db.nextEventId ≤ 2 ^ 63) :
    db.store.crashed = false ∧ ∀ a, ∃ db', db.act crc32 a = some db' ∧ db'.store.crashed = false := by
  obtain ⟨⟨c, t, hsends, hadds⟩, -⟩ := h
  have hsends' := hsends.run hrun
  rw [hsends'.nextEventId] at hids
  refine ⟨hsends'.runs.stores.intact, fun a => ?_⟩
  obtain ⟨db', hact, -⟩ := (hadds.run hsends hrun hids).act hsends' hids a
  obtain ⟨-, hsends'', -, -⟩ := hsends'.act hact
  exact ⟨db', hact, hsends''.runs.stores.intact⟩

/-- One update was pushed and is synchronized; another one was pushed. -/
def twoPushes : List DbAction :=
  [.op (.push 5 ⟨2000002, by decide, by decide⟩ [1] 100 0), .write, .sync,
    .op (.push 5 ⟨2000002, by decide, by decide⟩ [2] 100 0)]

theorem update_db_alive_twoPushes :
    ∃ db, UpdateDb.run (fun _ => 0) .fresh twoPushes = some db ∧ db.store.crashed = false :=
  ⟨_, rfl, (update_db_alive (UpdateDb.started_fresh fun _ => 0)
    (rfl : UpdateDb.run (fun _ => 0) .fresh twoPushes = some _) (by decide)).1⟩

/-- Durability: whatever a crash leaves of the file, the next start drops no event, and restores a storage
between two neighbouring states of the run; everything that was synchronized lies before the first of them. -/
theorem update_db_crash {crc32 : Bytes → UInt32} {db₀ db : UpdateDb} {actions : List DbAction}
    (h : UpdateDb.Started crc32 db₀) (hrun : UpdateDb.run crc32 db₀ actions = some db)
    (hids : db.nextEventId ≤ 2 ^ 63) {n : Nat} (hn : db.file.synced ≤ n) :
    ∃ db', UpdateDb.restart crc32 ((db.file.disk ++ db.file.buffer).take n) = some (db', []) ∧
      UpdateDb.Started crc32 db' ∧
      ∃ i u v, i ≤ actions.length ∧ UpdateDb.run crc32 db₀ (actions.take i) = some u ∧
        UpdateDb.run crc32 db₀ (actions.take (i + 1)) = some v ∧
        UpdateStore.Between u.store db'.store v.store ∧
        ∀ j ≤ actions.length, ∀ w, UpdateDb.run crc32 db₀ (actions.take j) = some w →
          w.log.length ≤ db.synced → j ≤ i := by
  obtain ⟨⟨c, t, hsends, hadds⟩, hlog⟩ := h
  have hsends' := hsends.run hrun
  rw [hsends'.nextEventId] at hids
  have hadds' := hadds.run hsends hrun hids
  obtain ⟨m, b, file, hsynced, hm, hload, hloaded, hlast, -⟩ := hadds'.crash hn
  obtain ⟨i, u, v, hcut, hbetween⟩ := hsends.cut hlog hrun (Nat.le_trans hm hadds'.written_le)
  obtain ⟨db', hrestart, hstarted, hstores⟩ := UpdateDb.restart_of_load hload hloaded hbetween.restorable hlast
  have hu := hsends.run hcut.before
  have hv := hsends.run hcut.after
  have hupdates : ∀ queueId, db'.store.updates queueId =
      updatesOf (RewriteLog.replay t (db.log.take m)) queueId := by
    intro queueId
    unfold UpdateStore.updates updatesOf
    rw [(hstores.holds queueId).events]
  refine ⟨db', hrestart, hstarted, i, u, v, hcut.le, hcut.before, hcut.after, ⟨fun queueId => ?_, fun queueId => ?_⟩, ?_⟩
  · rw [hu.updates, hv.updates, hupdates]
    exact hbetween.kept queueId
  · rw [hu.updates, hv.updates, hupdates]
    exact hbetween.known queueId
  · intro j' hj' w hw hle
    exact hcut.last j' hj' w hw (Nat.le_trans hle hsynced)

theorem update_db_crash_twoPushes :
    ∃ db db', UpdateDb.run (fun _ => 0) .fresh twoPushes = some db ∧
      UpdateDb.restart (fun _ => 0) ((db.file.disk ++ db.file.buffer).take db.file.synced) = some (db', []) ∧
      UpdateDb.Started (fun _ => 0) db' := by
  obtain ⟨db, hrun, hids⟩ : ∃ db, UpdateDb.run (fun _ => 0) .fresh twoPushes = some db ∧
      db.nextEventId ≤ 2 ^ 63 := ⟨_, rfl, by decide⟩
  obtain ⟨db', hrestart, hstarted, -⟩ :=
    update_db_crash (UpdateDb.started_fresh fun _ => 0) hrun hids (Nat.le_refl db.file.synced)
  exact ⟨db, db', hrun, hrestart, hstarted⟩

/-- A restart behind a log that was added in full is no step at all: every queue is what it was, up to its place
in the schedule of the garbage collection. -/
theorem update_db_restart {crc32 : Bytes → UInt32} {db₀ db : UpdateDb} {actions : List DbAction}
    (h : UpdateDb.Started crc32 db₀) (hrun : UpdateDb.run crc32 db₀ actions = some db)
    (hids : db.nextEventId ≤ 2 ^ 63) (hwritten : db.written = db.log.length) :
    ∃ db', UpdateDb.restart crc32 (db.file.disk ++ db.file.buffer) = some (db', []) ∧ UpdateDb.Started crc32 db' ∧
      ∀ queueId, { db'.store.queue queueId with gcAt := (db.store.queue queueId).gcAt } = db.store.queue queueId := by
  obtain ⟨⟨c, t, hsends, hadds⟩, -⟩ := h
  have hsends' := hsends.run hrun
  rw [hsends'.nextEventId] at hids
  have hadds' := hadds.run hsends hrun hids
  have hle : db.file.synced ≤ (db.file.disk ++ db.file.buffer).length := by
    obtain ⟨k, -, -, hrunning⟩ := hadds'.running
    rw [List.length_append]
    exact Nat.le_add_right_of_le hrunning.synced_le
  obtain ⟨m, b, file, -, -, hload, hloaded, hlast, hwhole⟩ := hadds'.crash hle
  rw [List.take_length] at hload
  rw [hwhole (Nat.le_refl _), hwritten, List.take_length] at hloaded
  obtain ⟨db', hrestart, hstarted, hstores⟩ :=
    UpdateDb.restart_of_load hload hloaded hsends'.runs.keeps.restorable hlast
  refine ⟨db', hrestart, hstarted, fun queueId => ?_⟩
  have hold := hsends'.runs.stores.holds queueId
  have hnew := hstores.holds queueId
  generalize db'.store.queue queueId = q' at hnew
  generalize db.store.queue queueId = q at hold
  obtain ⟨tailId', events', total', gcAt'⟩ := q'
  obtain ⟨tailId, events, total, gcAt⟩ := q
  have htail : tailId' = tailId := hnew.tailId.trans hold.tailId.symm
  have hevents : events' = events := hnew.events.trans hold.events.symm
  have htotal : total' = total := hnew.total.trans hold.total.symm
  subst htail hevents htotal
  rfl

theorem update_db_restart_twoPushes :
    ∃ db db', UpdateDb.run (fun _ => 0) .fresh (twoPushes ++ [.write]) = some db ∧
      UpdateDb.restart (fun _ => 0) (db.file.disk ++ db.file.buffer) = some (db', []) ∧
      (db'.store.queue 5).tailId = (db.store.queue 5).tailId := by
  obtain ⟨db, hrun, hids, hwritten⟩ : ∃ db, UpdateDb.run (fun _ => 0) .fresh (twoPushes ++ [.write]) = some db ∧
      db.nextEventId ≤ 2 ^ 63 ∧ db.written = db.log.length := ⟨_, rfl, by decide, rfl⟩
  obtain ⟨db', hrestart, -, hqueues⟩ := update_db_restart (UpdateDb.started_fresh fun _ => 0) hrun hids hwritten
  have htail := congrArg StoredQueue.tailId (hqueues 5)
  exact ⟨db, db', hrun, hrestart, htail⟩

end TelegramBotApi
