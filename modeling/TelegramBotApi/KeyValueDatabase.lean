import TelegramBotApi.BinlogKeyValue
import TelegramBotApi.LogRun

/-!
# Crashes of a string database

The database sends its records to the binlog, whose actor adds them in their order at some later time, and
flushes and synchronizes its file now and then. Whatever a crash leaves of the file behind its last
synchronization, the next start finds every key as it was in one of two neighbouring states of the run.
-/

namespace TelegramBotApi

open RewriteLog (Record Table)
open KeyValueEvent (Keeps Group format)
open KeyValueMap (Holds)

structure KeyValueDb where
  kv : BinlogKeyValue
  file : BinlogFile
  /-- The number of records that the binlog has added. -/
  written : Nat := 0
  /-- The number of them at the last synchronization. -/
  synced : Nat := 0

inductive KeyValueAction where
  | op (op : KeyValueOp)
  /-- The actor of the binlog adds the next record. -/
  | write
  | flush
  | sync

/-- Nothing but an operation does anything to the values. -/
def KeyValueAction.effect (values : Bytes → Option Bytes) : KeyValueAction → Bytes → Option Bytes
  | .op change => change.effect values
  | .write => values
  | .flush => values
  | .sync => values

namespace KeyValueDb

def log (db : KeyValueDb) : List (Record KeyValueEvent) := db.kv.log

/-- The result is `none` if the process stops. -/
def act (crc32 : Bytes → UInt32) (db : KeyValueDb) : KeyValueAction → Option KeyValueDb
  | .op op => (db.kv.step op).map fun kv => { db with kv := kv }
  | .write => (format.writeNext crc32 db.log db.file db.written).map fun r => { db with file := r.1, written := r.2 }
  | .flush => some { db with file := db.file.flush }
  | .sync => some { db with file := db.file.sync, synced := db.written }

def run (crc32 : Bytes → UInt32) (db : KeyValueDb) (actions : List KeyValueAction) : Option KeyValueDb :=
  LogRun.run (act crc32) db actions

/-- `init` of the next start. -/
def restart (crc32 : Bytes → UInt32) (bytes : Bytes) : Option KeyValueDb :=
  match Binlog.load crc32 bytes with
  | some (.ok r) =>
    (BinlogKeyValue.init (RewriteLog.mapTable BinlogEvent.content r.1.processor.alive)).map fun map =>
      { kv := { map := map, nextEventId := r.1.lastEventId + 1 }, file := .opened r.1 r.2 }
  | _ => none

variable {crc32 : Bytes → UInt32} {next : Nat} {t : Table KeyValueEvent} {db db' db₀ : KeyValueDb}
  {actions : List KeyValueAction}

/-- What the database has sent since its start from the table `t`. -/
structure Sends (next : Nat) (t : Table KeyValueEvent) (db : KeyValueDb) : Prop where
  nextEventId : db.kv.nextEventId = next + db.log.length
  holds : Holds db.kv.map (RewriteLog.replay t db.log)
  keeps : Keeps db.kv.nextEventId (RewriteLog.replay t db.log)
  sendable : format.AllSendable t next db.log

/-- What the binlog has added of it, and what of that is synchronized. -/
abbrev Adds (crc32 : Bytes → UInt32) (next : Nat) (t : Table KeyValueEvent) (db : KeyValueDb) : Prop :=
  format.Follows crc32 next t db.log db.file db.written db.synced

/-- The database and its binlog are as a start leaves them. -/
structure Started (crc32 : Bytes → UInt32) (db : KeyValueDb) : Prop where
  sends : ∃ next t, Sends next t db ∧ Adds crc32 next t db
  log : db.log = []

structure Moves (t : Table KeyValueEvent) (db : KeyValueDb) (a : KeyValueAction) (db' : KeyValueDb)
    (rs : List (Record KeyValueEvent)) : Prop where
  log : db'.log = db.log ++ rs
  group : Group (RewriteLog.replay t db.log) db.kv.nextEventId rs
  values : KeyValueMap.values db'.kv.map = a.effect (KeyValueMap.values db.kv.map)

theorem Sends.op (h : Sends next t db) {op : KeyValueOp} {kv : BinlogKeyValue} (hstep : db.kv.step op = some kv) :
    ∃ rs, Sends next t { db with kv := kv } ∧ Moves t db (.op op) { db with kv := kv } rs := by
  obtain ⟨rs, hsends⟩ := BinlogKeyValue.step_sends h.holds h.keeps hstep
  have hlog : ({ db with kv := kv } : KeyValueDb).log = db.log ++ rs := congrArg BinlogKeyValue.log hsends.sent
  have hnext : kv.nextEventId = db.kv.nextEventId + rs.length := congrArg BinlogKeyValue.nextEventId hsends.sent
  refine ⟨rs, ⟨?_, ?_, ?_, ?_⟩, hlog, hsends.group, hsends.values⟩
  · rw [hlog, List.length_append, ← Nat.add_assoc, ← h.nextEventId]
    exact hnext
  · rw [hlog, RewriteLog.replay_append]
    exact hsends.holds
  · rw [hlog, RewriteLog.replay_append]
    change Keeps kv.nextEventId _
    rw [hnext]
    exact hsends.group.keeps h.keeps
  · rw [hlog, LogFormat.allSendable_append, ← h.nextEventId]
    exact ⟨h.sendable, hsends.group.sendable⟩

/-- No step takes back what was sent. -/
theorem Sends.act (h : Sends next t db) {a : KeyValueAction} (hact : db.act crc32 a = some db') :
    ∃ rs, Sends next t db' ∧ Moves t db a db' rs := by
  have hsame : Group (RewriteLog.replay t db.log) db.kv.nextEventId [] :=
    .erases List.nodup_nil fun _ hid => absurd hid List.not_mem_nil
  cases a with
  | op op =>
      obtain ⟨kv, hstep, rfl⟩ := Option.map_eq_some_iff.1 hact
      exact h.op hstep
  | write =>
      obtain ⟨r, -, rfl⟩ := Option.map_eq_some_iff.1 hact
      exact ⟨[], ⟨h.nextEventId, h.holds, h.keeps, h.sendable⟩, (List.append_nil _).symm, hsame, rfl⟩
  | flush =>
      obtain rfl := Option.some.inj hact
      exact ⟨[], ⟨h.nextEventId, h.holds, h.keeps, h.sendable⟩, (List.append_nil _).symm, hsame, rfl⟩
  | sync =>
      obtain rfl := Option.some.inj hact
      exact ⟨[], ⟨h.nextEventId, h.holds, h.keeps, h.sendable⟩, (List.append_nil _).symm, hsame, rfl⟩

/-- The binlog follows the database, and takes every record that it is sent. -/
theorem Adds.act (h : Adds crc32 next t db) (hs : Sends next t db) (hids : db.kv.nextEventId ≤ 2 ^ 63)
    (a : KeyValueAction) :
    (∃ db', db.act crc32 a = some db' ∧ Adds crc32 next t db') ∨ ∃ op, a = .op op ∧ db.kv.step op = none := by
  cases a with
  | op op =>
      cases hstep : db.kv.step op with
      | none => exact Or.inr ⟨op, rfl, hstep⟩
      | some kv =>
          obtain ⟨rs, -, hmoves⟩ := hs.op hstep
          have hsend := h.send rs
          rw [← hmoves.log] at hsend
          exact Or.inl ⟨_, congrArg (Option.map _) hstep, hsend⟩
  | write =>
      rw [hs.nextEventId] at hids
      obtain ⟨file, written, hwrite, hfollows⟩ := h.write hs.sendable hids
      exact Or.inl ⟨{ db with file := file, written := written }, congrArg (Option.map _) hwrite, hfollows⟩
  | flush => exact Or.inl ⟨_, rfl, h.flush⟩
  | sync => exact Or.inl ⟨_, rfl, h.sync⟩

theorem Sends.run (h : Sends next t db₀) (hrun : run crc32 db₀ actions = some db) : Sends next t db := by
  refine LogRun.run_invariant (fun db a db' hs hact => ?_) h hrun
  obtain ⟨-, hs', -⟩ := hs.act hact
  exact hs'

theorem Adds.run (h : Adds crc32 next t db₀) (hs : Sends next t db₀) (hrun : run crc32 db₀ actions = some db)
    (hids : db.kv.nextEventId ≤ 2 ^ 63) : Adds crc32 next t db := by
  refine LogRun.run_invariant_while (I := Sends next t) (J := Adds crc32 next t)
    (B := fun db => db.kv.nextEventId ≤ 2 ^ 63) (fun db a db' hs hact => ?_) (fun db a db' hs hids hadds hact => ?_)
    hs h hrun hids
  · obtain ⟨rs, hs', hmoves⟩ := hs.act hact
    refine ⟨hs', fun hids' => ?_⟩
    rw [hs'.nextEventId, hmoves.log, List.length_append] at hids'
    rw [hs.nextEventId]
    omega
  · rcases hadds.act hs hids a with ⟨db'', hact', hadds'⟩ | ⟨op, rfl, hnone⟩
    · obtain rfl := Option.some.inj (hact.symm.trans hact')
      exact hadds'
    · have hstopped : db.act crc32 (.op op) = none := congrArg (Option.map _) hnone
      exact absurd (hact.symm.trans hstopped) nofun

/-- A run does to the values what its actions do, one after the other. -/
theorem Sends.values (h : Sends next t db₀) (hrun : KeyValueDb.run crc32 db₀ actions = some db) :
    KeyValueMap.values db.kv.map = actions.foldl KeyValueAction.effect (KeyValueMap.values db₀.kv.map) := by
  induction actions using List.reverseRecOn generalizing db with
  | nil =>
      obtain rfl := Option.some.inj hrun
      rfl
  | append_singleton actions a ih =>
      unfold KeyValueDb.run at hrun
      rw [LogRun.run_concat, Option.bind_eq_some_iff] at hrun
      obtain ⟨db', hrun', hact⟩ := hrun
      obtain ⟨_, -, hmoves⟩ := (h.run hrun').act hact
      rw [List.foldl_append, ← ih hrun']
      exact hmoves.values

/-- Wherever the log is cut, every key of its map is as in one of two neighbouring states of the run. -/
theorem Sends.cut (h : Sends next t db₀) (hlog₀ : db₀.log = []) (hrun : KeyValueDb.run crc32 db₀ actions = some db)
    {m : Nat} (hm : m ≤ db.log.length) :
    ∃ i u v, LogRun.CutAt (KeyValueDb.act crc32) KeyValueDb.log db₀ actions m i u v ∧
      (∃ next', Keeps next' (RewriteLog.replay t (db.log.take m))) ∧
      ∀ map, Holds map (RewriteLog.replay t (db.log.take m)) → ∀ key,
        map.lookup key = u.kv.map.lookup key ∨ map.lookup key = v.kv.map.lookup key := by
  have hstep : ∀ db a db', Sends next t db → db.act crc32 a = some db' → Sends next t db' ∧ db.log <+: db'.log := by
    intro db a db' hs hact
    obtain ⟨rs, hs', hmoves⟩ := hs.act hact
    exact ⟨hs', hmoves.log ▸ List.prefix_append _ _⟩
  obtain ⟨i, u, v, hcut, hv⟩ := LogRun.exists_cut KeyValueDb.log hstep h hrun (hlog₀ ▸ Nat.zero_le m) hm
  have hu := h.run hcut.before
  refine ⟨i, u, v, hcut, ?_⟩
  rcases hcut.step with rfl | ⟨a, hact⟩
  · rw [hcut.take log hv (List.append_nil _).symm, List.take_nil, List.append_nil]
    exact ⟨⟨_, hu.keeps⟩, fun map hmap key => Or.inl (hmap.lookup_eq hu.holds fun _ _ => Iff.rfl)⟩
  · obtain ⟨rs, hs', hmoves⟩ := hu.act hact
    have hholds := hs'.holds
    rw [hmoves.log, RewriteLog.replay_append] at hholds
    rw [hcut.take log hv hmoves.log, RewriteLog.replay_append]
    exact ⟨⟨_, (hmoves.group.take _).keeps hu.keeps⟩, fun map hmap => hu.holds.cut hmoves.group _ hmap hholds⟩

/-- A binlog that was loaded is read into a map, and the database runs on it. -/
theorem restart_of_load {bytes file : Bytes} {b : Binlog} (hload : Binlog.load crc32 bytes = some (.ok (b, file)))
    (hrunning : Running crc32 (.opened b file) (RewriteLog.mapTable KeyValueEvent.content t) []) (hkeeps : Keeps next t)
    (hlast : b.processor.lastEventId = b.lastEventId) :
    ∃ db, restart crc32 bytes = some db ∧ Started crc32 db ∧ Holds db.kv.map t := by
  have hcontents : RewriteLog.mapTable BinlogEvent.content b.processor.alive =
      RewriteLog.mapTable KeyValueEvent.content t := hrunning.represents.contents
  obtain ⟨map, hinit, hholds⟩ := BinlogKeyValue.init_holds hkeeps.valid hkeeps.keys
  have hbounds : ∀ e ∈ t, 0 < e.1 ∧ e.1 < b.lastEventId + 1 := by
    intro e he
    have hle := hrunning.represents.ordered.le_last (e.1, e.2.content) (List.mem_map_of_mem he)
    rw [← hlast]
    exact ⟨(hkeeps.bounds e he).1, Nat.lt_succ_of_le hle⟩
  refine ⟨{ kv := { map := map, nextEventId := b.lastEventId + 1 }, file := .opened b file }, ?_,
    ⟨⟨b.lastEventId + 1, t, ⟨rfl, hholds, ⟨hkeeps.sorted, hbounds, Nat.succ_pos _, hkeeps.valid, hkeeps.keys⟩, trivial⟩,
      ⟨Nat.le_refl _, ⟨0, Nat.le_refl _, Nat.le_refl _, hrunning⟩, ?_⟩⟩, rfl⟩, hholds⟩
  · unfold restart
    rw [hload]
    dsimp only
    rw [hcontents, hinit]
    rfl
  · change b.processor.lastEventId < b.lastEventId + 1 + 0
    rw [hlast]
    exact Nat.lt_succ_self _

/-- The database of a server that has no binlog yet. -/
def fresh : KeyValueDb where
  kv := { nextEventId := 1 }
  file := .opened {} []

theorem started_fresh (crc32 : Bytes → UInt32) : Started crc32 fresh := by
  have hkeeps : Keeps 1 [] :=
    ⟨List.Pairwise.nil, fun _ he => absurd he List.not_mem_nil, Nat.one_pos, fun _ he => absurd he List.not_mem_nil,
      List.nodup_nil⟩
  exact ⟨⟨1, [], ⟨rfl, ⟨iff_of_false nofun List.not_mem_nil⟩, hkeeps, trivial⟩,
    ⟨Nat.le_refl _, ⟨0, Nat.le_refl _, Nat.le_refl _, running_empty crc32⟩, Nat.one_pos⟩⟩, rfl⟩

example (crc32 : Bytes → UInt32) : restart crc32 [] = some fresh := rfl

end KeyValueDb

/-- The database is the function from keys to values that its operations make of it: this is what its readers see,
and nothing but an empty key stops the process, while the identifiers of the records are below `2 ^ 63` and there
are fewer than `2 ^ 31` keys. -/
theorem key_value_refines {crc32 : Bytes → UInt32} {db₀ db : KeyValueDb} {actions : List KeyValueAction}
    (h : KeyValueDb.Started crc32 db₀) (hrun : KeyValueDb.run crc32 db₀ actions = some db)
    (hids : db.kv.nextEventId ≤ 2 ^ 63) :
    db.kv.Shows (actions.foldl KeyValueAction.effect (KeyValueMap.values db₀.kv.map)) ∧
      (db.kv.map.keys.length < 2 ^ 31 → ∀ a,
        db.act crc32 a = none ↔ ∃ value fits, a = .op (.set ⟨[], value⟩ fits)) := by
  obtain ⟨⟨next, t, hsends, hadds⟩, -⟩ := h
  have hsends' := hsends.run hrun
  have hadds' := hadds.run hsends hrun hids
  refine ⟨hsends.values hrun ▸ db.kv.shows_values, fun hkeys a => ⟨fun hnone => ?_, ?_⟩⟩
  · rcases hadds'.act hsends' hids a with ⟨db', hact, -⟩ | ⟨op, rfl, hstep⟩
    · exact absurd (hnone.symm.trans hact) nofun
    · obtain ⟨value, fits, rfl⟩ := (BinlogKeyValue.step_eq_none_iff hkeys op).1 hstep
      exact ⟨value, fits, rfl⟩
  · rintro ⟨value, fits, rfl⟩
    have hstep := (BinlogKeyValue.step_eq_none_iff hkeys (.set ⟨[], value⟩ fits)).2 ⟨value, fits, rfl⟩
    unfold KeyValueDb.act
    dsimp only
    rw [hstep]
    rfl

/-- A webhook is set and synchronized, and then set again and deleted. -/
def setTwice : List KeyValueAction :=
  [.op (.set ⟨[49], [97]⟩ (by decide)), .write, .sync, .op (.set ⟨[49], [98]⟩ (by decide)), .op (.erase [49])]

theorem key_value_refines_setTwice :
    ∃ db, KeyValueDb.run (fun _ => 0) .fresh setTwice = some db ∧ db.kv.get [49] = [] := by
  obtain ⟨db, hrun, hids⟩ : ∃ db, KeyValueDb.run (fun _ => 0) .fresh setTwice = some db ∧
      db.kv.nextEventId ≤ 2 ^ 63 := ⟨_, rfl, by decide⟩
  obtain ⟨hshows, -⟩ := key_value_refines (KeyValueDb.started_fresh fun _ => 0) hrun hids
  exact ⟨db, hrun, hshows.get [49]⟩

/-- Durability: whatever a crash leaves of the file, the next start succeeds, and finds every key with its value and
its identifier as in one of two neighbouring states of the run; everything that was synchronized lies before the
first of them. -/
theorem key_value_crash {crc32 : Bytes → UInt32} {db₀ db : KeyValueDb} {actions : List KeyValueAction}
    (h : KeyValueDb.Started crc32 db₀) (hrun : KeyValueDb.run crc32 db₀ actions = some db)
    (hids : db.kv.nextEventId ≤ 2 ^ 63) {n : Nat} (hn : db.file.synced ≤ n) :
    ∃ db', KeyValueDb.restart crc32 ((db.file.disk ++ db.file.buffer).take n) = some db' ∧
      KeyValueDb.Started crc32 db' ∧
      ∃ i u v, i ≤ actions.length ∧ KeyValueDb.run crc32 db₀ (actions.take i) = some u ∧
        KeyValueDb.run crc32 db₀ (actions.take (i + 1)) = some v ∧
        (∀ key, db'.kv.map.lookup key = u.kv.map.lookup key ∨ db'.kv.map.lookup key = v.kv.map.lookup key) ∧
        ∀ j ≤ actions.length, ∀ w, KeyValueDb.run crc32 db₀ (actions.take j) = some w →
          w.log.length ≤ db.synced → j ≤ i := by
  obtain ⟨⟨next, t, hsends, hadds⟩, hlog⟩ := h
  have hadds' := hadds.run hsends hrun hids
  obtain ⟨m, b, file, hsynced, hm, hload, hloaded, hlast, -⟩ := hadds'.crash hn
  obtain ⟨i, u, v, hcut, ⟨next', hkeeps⟩, hbetween⟩ := hsends.cut hlog hrun (Nat.le_trans hm hadds'.written_le)
  obtain ⟨db', hrestart, hstarted, hholds⟩ := KeyValueDb.restart_of_load hload hloaded hkeeps hlast
  refine ⟨db', hrestart, hstarted, i, u, v, hcut.le, hcut.before, hcut.after, hbetween _ hholds, ?_⟩
  intro j hj w hw hle
  exact hcut.last j hj w hw (Nat.le_trans hle hsynced)

theorem key_value_crash_setTwice :
    ∃ db db', KeyValueDb.run (fun _ => 0) .fresh setTwice = some db ∧
      KeyValueDb.restart (fun _ => 0) ((db.file.disk ++ db.file.buffer).take db.file.synced) = some db' ∧
      KeyValueDb.Started (fun _ => 0) db' ∧ db'.kv.get [49] = [97] := by
  obtain ⟨db, hrun, hids, hget⟩ : ∃ db, KeyValueDb.run (fun _ => 0) .fresh setTwice = some db ∧
      db.kv.nextEventId ≤ 2 ^ 63 ∧
        (KeyValueDb.restart (fun _ => 0) ((db.file.disk ++ db.file.buffer).take db.file.synced)).map
          (·.kv.get [49]) = some [97] := ⟨_, rfl, by decide, by decide⟩
  obtain ⟨db', hrestart, hstarted, -⟩ :=
    key_value_crash (KeyValueDb.started_fresh fun _ => 0) hrun hids (Nat.le_refl db.file.synced)
  rw [hrestart] at hget
  exact ⟨db, db', hrun, hrestart, hstarted, Option.some.inj hget⟩

end TelegramBotApi
