import TelegramBotApi.BinlogTable

/-!
# A running binlog

While a binlog runs, its file and its buffer hold the raw events of one log, whose table is the one of the
processor. The log is split where the file was last synchronized, so that a crash keeps the first part and
any number of the records behind it; regeneration starts a new log of the events that are alive, and a
crash in the middle of it finds the old log or the new one.
-/

namespace TelegramBotApi

open BinlogEvent (createRaw)
open BinlogEventsProcessor (Sound)
open RewriteLog (Record Table)

/-- The binlog runs on a file: `base` is the table of what is synchronized, `since` what was added later. -/
structure Running (crc32 : Bytes → UInt32) (f : BinlogFile) (base : Table Content)
    (since : List (Record Content)) : Prop where
  represents : Represents crc32 f.binlog.processor (RewriteLog.replay base since)
  pending : f.binlog.pendingEvents = []
  size : f.binlog.fdSize = (f.disk ++ f.buffer).length
  synced_le : f.synced ≤ f.disk.length
  file : ∃ raws raws' rs, f.disk ++ f.buffer = (raws ++ raws').flatten ∧ raws.flatten.length = f.synced ∧
    Writings crc32 0 (raws ++ raws') (rs ++ since) ∧ raws.length = rs.length ∧
    RewriteLog.LegalRun [] 0 (rs ++ since) ∧ RewriteLog.replay [] rs = base ∧
    RewriteLog.lastOf 0 (rs ++ since) ≤ f.binlog.processor.lastEventId

section

variable {crc32 : Bytes → UInt32} {f : BinlogFile} {base : Table Content} {since : List (Record Content)}
  {raw : Bytes} {r : Record Content} {event : BinlogEvent}

theorem Running.flush (h : Running crc32 f base since) : Running crc32 f.flush base since := by
  have hbytes : f.flush.disk ++ f.flush.buffer = f.disk ++ f.buffer := List.append_nil _
  refine ⟨h.represents, h.pending, hbytes ▸ h.size, Nat.le_trans h.synced_le ?_, ?_⟩
  · change f.disk.length ≤ (f.disk ++ f.buffer).length
    rw [List.length_append]
    exact Nat.le_add_right _ _
  · rw [hbytes]
    exact h.file

/-- What is synchronized is kept whatever happens. -/
theorem Running.sync (h : Running crc32 f base since) :
    Running crc32 f.sync (RewriteLog.replay base since) [] := by
  obtain ⟨raws, raws', rs, hfile, -, hwritings, -, hlegal, rfl, hlast⟩ := h.file
  have hbytes : f.sync.disk ++ f.sync.buffer = f.disk ++ f.buffer := List.append_nil _
  refine ⟨h.represents, h.pending, hbytes ▸ h.size, Nat.le_refl _, raws ++ raws', [], rs ++ since, ?_, ?_, ?_,
    hwritings.length, ?_, ?_, ?_⟩
  · rw [hbytes, hfile, List.append_nil]
  · exact congrArg List.length hfile.symm
  · rwa [List.append_nil, List.append_nil]
  · rwa [List.append_nil]
  · exact RewriteLog.replay_append _ _ _
  · rwa [List.append_nil]

/-- A record about an entry of a log is not beyond the last identifier of the log. -/
theorem Writes.of_legal {last last' : Nat} {t : Table Content} (h : Writes crc32 last raw r)
    (hordered : RewriteLog.Ordered t last') (hlegal : RewriteLog.Legal t last r) (hle : last' ≤ last) :
    Writes crc32 last' raw r ∧ RewriteLog.Legal t last' r := by
  cases r with
  | add id x => exact ⟨⟨Nat.lt_of_le_of_lt hle h.1, h.2⟩, Nat.lt_of_le_of_lt hle hlegal⟩
  | rewrite id x =>
      obtain ⟨e, he, rfl⟩ := List.mem_map.1 hlegal
      exact ⟨⟨hordered.le_last e he, h.2⟩, hlegal⟩
  | erase id =>
      obtain ⟨e, he, rfl⟩ := List.mem_map.1 hlegal
      exact ⟨⟨hordered.le_last e he, h.2⟩, hlegal⟩

/-- An event is added to the log. -/
theorem Running.append (h : Running crc32 f base since)
    (hwrites : Writes crc32 f.binlog.processor.lastEventId raw r)
    (hlegal : RewriteLog.Legal (RewriteLog.replay base since) f.binlog.processor.lastEventId r) :
    ∃ p, f.binlog.processor.doEvent (BinlogEvent.init raw) = some p ∧
      p.lastEventId = RewriteLog.lastAfter f.binlog.processor.lastEventId r ∧
      Running crc32 { f with
        binlog := { f.binlog with processor := p, fdSize := f.binlog.fdSize + raw.length }
        buffer := f.buffer ++ raw } base (since ++ [r]) := by
  obtain ⟨p, hdone, hp, hlast, -⟩ := 
    h.represents.doEvent hwrites hlegal (⟨rfl, rfl, rfl, rfl⟩ : ReadFrom (BinlogEvent.init raw) raw)
  obtain ⟨raws, raws', rs, hfile, hsynced, hwritings, hlength, hrun, hbase, hle⟩ := h.file
  have hreplay : RewriteLog.replay [] (rs ++ since) = RewriteLog.replay base since := by
    rw [RewriteLog.replay_append, hbase]
  have hordered := (RewriteLog.ordered_nil 0).replay hrun
  rw [hreplay] at hordered
  obtain ⟨hwrites', hlegal'⟩ := hwrites.of_legal hordered hlegal hle
  refine ⟨p, hdone, hlast, ?_, h.pending, ?_, h.synced_le, raws, raws' ++ [raw], rs, ?_, hsynced, ?_, hlength, ?_,
    hbase, ?_⟩
  · rw [RewriteLog.replay_append]
    exact hp
  · change f.binlog.fdSize + raw.length = _
    rw [h.size, List.length_append, List.length_append, List.length_append, Nat.add_assoc]
  · rw [← List.append_assoc, hfile]
    simp only [List.flatten_append, List.flatten_singleton, List.append_assoc]
  · rw [← List.append_assoc, ← List.append_assoc]
    exact hwritings.concat hwrites'
  · rw [← List.append_assoc, RewriteLog.legalRun_append, hreplay]
    exact ⟨hrun, hlegal', trivial⟩
  · change _ ≤ p.lastEventId
    rw [hlast, ← List.append_assoc]
    unfold RewriteLog.lastOf
    rw [List.foldl_append]
    change RewriteLog.lastAfter (RewriteLog.lastOf 0 (rs ++ since)) r ≤ _
    cases r with
    | add id x => exact Nat.le_refl _
    | rewrite id x => exact hle
    | erase id => exact hle

theorem Running.lazyFlush (h : Running crc32 f base since) : Running crc32 f.lazyFlush base since := by
  unfold BinlogFile.lazyFlush
  split_ifs
  · exact h.flush
  · exact h

/-- The events that are alive are written as the records that add them. -/
theorem writings_adds {t : Table BinlogEvent} (hkept : ∀ e ∈ t, Kept crc32 e.1 e.2)
    {last : Nat} (hsorted : (t.map Prod.fst).Pairwise (· < ·))
    (hlast : ∀ e ∈ t, last < e.1) :
    Writings crc32 last (t.map (·.2.rawEvent)) (RewriteLog.adds (RewriteLog.mapTable BinlogEvent.content t)) := by
  induction t generalizing last with
  | nil => trivial
  | cons e t ih =>
      obtain ⟨hhead, hrest⟩ := List.pairwise_cons.1 hsorted
      obtain ⟨hstorable, flags, hflags, hraw⟩ := hkept e List.mem_cons_self
      refine ⟨⟨hlast e List.mem_cons_self, hstorable, flags, hflags, hraw⟩, ?_⟩
      exact ih (fun e' h => hkept e' (List.mem_cons_of_mem _ h)) hrest
        fun e' h => hhead e'.1 (List.mem_map_of_mem h)

theorem Running.positive (h : Running crc32 f base since) : ∀ e ∈ RewriteLog.replay base since, 0 < e.1 := by
  obtain ⟨raws, raws', rs, -, -, -, -, hrun, hbase, -⟩ := h.file
  rw [← hbase, ← RewriteLog.replay_append]
  exact RewriteLog.lt_of_mem_replay (fun _ he => absurd he List.not_mem_nil) (Nat.le_refl 0) hrun

theorem Running.alive_sorted (h : Running crc32 f base since) :
    (f.binlog.processor.alive.map Prod.fst).Pairwise (· < ·) ∧
      (∀ e ∈ f.binlog.processor.alive, 0 < e.1 ∧ e.1 ≤ f.binlog.processor.lastEventId) := by
  have hordered := h.represents.ordered
  have hfst := h.represents.fst
  refine ⟨hfst ▸ hordered.sorted, fun e he => ?_⟩
  have hid := List.mem_map_of_mem (f := Prod.fst) he
  rw [hfst] at hid
  obtain ⟨e', he', hid⟩ := List.mem_map.1 hid
  rw [← hid]
  exact ⟨h.positive e' he', hordered.le_last e' he'⟩

/-- The regenerated file is a log of the same table, and synchronized. -/
theorem Running.doReindex (h : Running crc32 f base since) (hdisk : f.disk ≠ []) :
    Running crc32 f.doReindex (RewriteLog.replay base since) [] := by
  obtain ⟨hsorted, hids⟩ := h.alive_sorted
  have hcontents := h.represents.contents
  have hwritings := writings_adds h.represents.kept hsorted fun e he => (hids e he).1
  have hordered := h.represents.ordered
  have hpositive := h.positive
  rw [hcontents] at hwritings
  have hsynced : f.doReindex.synced = f.regenerated.length := if_neg hdisk
  refine ⟨h.represents, h.pending, ?_, Nat.le_of_eq hsynced,
    List.map (fun e : Nat × BinlogEvent => e.2.rawEvent) f.binlog.processor.alive, [],
    RewriteLog.adds (RewriteLog.replay base since), ?_, hsynced.symm, ?_, hwritings.length, ?_,
    RewriteLog.replay_adds [] _, ?_⟩
  · change f.regenerated.length = (f.regenerated ++ []).length
    rw [List.append_nil]
  · rw [List.append_nil]
    exact List.append_nil _
  · rwa [List.append_nil, List.append_nil]
  · rw [List.append_nil]
    exact RewriteLog.legalRun_adds hordered.sorted [] hpositive
  · rw [List.append_nil]
    exact RewriteLog.lastOf_adds_le hordered.le_last (Nat.zero_le _)

/-- Enough is written before a regeneration begins. -/
theorem Running.disk_ne_nil (h : Running crc32 f base since) (hbuffer : f.buffer.length ≤ 2 ^ 14)
    (hsize : 50000 < f.binlog.fdSize) : f.disk ≠ [] := by
  have hlength := h.size
  rw [List.length_append] at hlength
  intro hnil
  rw [hnil, List.length_nil] at hlength
  omega

theorem length_buffer_lazyFlush (f : BinlogFile) : f.lazyFlush.buffer.length ≤ 2 ^ 14 := by
  unfold BinlogFile.lazyFlush
  split_ifs with hsize
  · exact Nat.zero_le _
  · exact Nat.not_lt.1 hsize

/-- A regeneration changes what is synchronized, and not the table. -/
theorem Running.reindexIfNeeded (h : Running crc32 f base since) (hbuffer : f.buffer.length ≤ 2 ^ 14) :
    Running crc32 f.reindexIfNeeded base since ∨
      Running crc32 f.reindexIfNeeded (RewriteLog.replay base since) [] := by
  unfold BinlogFile.reindexIfNeeded
  split_ifs with hneed
  · refine Or.inr (h.doReindex (h.disk_ne_nil hbuffer ?_))
    simp only [BinlogFile.needReindex, Bool.or_eq_true, decide_eq_true_eq] at hneed
    omega
  · exact Or.inl h

theorem lastEventId_reindexIfNeeded (f : BinlogFile) :
    f.lazyFlush.reindexIfNeeded.binlog.processor = f.binlog.processor ∧
      f.lazyFlush.reindexIfNeeded.binlog.lastEventId = f.binlog.lastEventId := by
  unfold BinlogFile.reindexIfNeeded BinlogFile.lazyFlush
  split_ifs <;> exact ⟨rfl, rfl⟩

/-- A raw event of the server is added, and the process goes on. -/
theorem Running.addRawEvent (h : Running crc32 f base since)
    (hwrites : Writes crc32 f.binlog.processor.lastEventId raw r)
    (hlegal : RewriteLog.Legal (RewriteLog.replay base since) f.binlog.processor.lastEventId r) :
    ∃ f', f.addRawEvent crc32 raw = .ok f' ∧
      f'.binlog.processor.lastEventId = RewriteLog.lastAfter f.binlog.processor.lastEventId r ∧
      (Running crc32 f' base (since ++ [r]) ∨
        Running crc32 f' (RewriteLog.replay base (since ++ [r])) []) := by
  obtain ⟨p, hdone, hlast, hrunning⟩ := h.append hwrites hlegal
  have hraw := hwrites.isRaw
  have hevent : f.doEvent crc32 (BinlogEvent.init raw) = .ok { f with
      binlog := { f.binlog with processor := p, fdSize := f.binlog.fdSize + raw.length }
      buffer := f.buffer ++ raw } := by
    unfold BinlogFile.doEvent
    simp only [hraw.validate, if_neg hraw.type_ne, hdone]
    rfl
  have hadd : Binlog.doAddEvent (BinlogFile.doEvent crc32) f.binlog.pendingEvents f (BinlogEvent.init raw) =
      .ok ([], { f with
        binlog := { f.binlog with processor := p, fdSize := f.binlog.fdSize + raw.length }
        buffer := f.buffer ++ raw }) := by
    unfold Binlog.doAddEvent
    rw [if_neg (by rw [hraw.not_isPartial]; decide), h.pending, List.foldlM_nil]
    change (f.doEvent crc32 (BinlogEvent.init raw)).bind _ = _
    rw [hevent]
    rfl
  have hsize : ¬ (BinlogEvent.init raw).size % 4 ≠ 0 := by
    change ¬ LittleEndian.decode (raw.take 4) % 4 ≠ 0
    rw [hraw.size]
    exact not_not_intro hraw.length.2.2
  have hrunning' : Running crc32 { f with
      binlog := { f.binlog with processor := p, fdSize := f.binlog.fdSize + raw.length, pendingEvents := [] }
      buffer := f.buffer ++ raw } base (since ++ [r]) :=
    ⟨hrunning.represents, rfl, hrunning.size, hrunning.synced_le, hrunning.file⟩
  refine ⟨_, ?_, ?_, hrunning'.lazyFlush.reindexIfNeeded (length_buffer_lazyFlush _)⟩
  · unfold BinlogFile.addRawEvent BinlogFile.addEvent
    rw [if_neg hsize, hadd]
    rfl
  · rw [(lastEventId_reindexIfNeeded _).1]
    exact hlast

/-- After a crash the binlog is loaded with everything that was synchronized and with the first of the
other records; nothing is lost if the file is whole. -/
theorem Running.crash (h : Running crc32 f base since) {n : Nat} (hn : f.synced ≤ n) :
    ∃ j b file, j ≤ since.length ∧
      Binlog.load crc32 ((f.disk ++ f.buffer).take n) = some (.ok (b, file)) ∧
      Running crc32 (.opened b file) (RewriteLog.replay base (since.take j)) [] ∧
      b.processor.lastEventId = b.lastEventId ∧
      ((f.disk ++ f.buffer).length ≤ n → j = since.length) := by
  obtain ⟨raws, raws', rs, hfile, hsynced, hwritings, hlength, hrun, hbase, -⟩ := h.file
  obtain ⟨b, hload, hloaded, hlast, hlast'⟩ := binlog_load_cut hwritings hrun n
  have htotal : raws.length + raws'.length = rs.length + since.length := by
    rw [← List.length_append, ← List.length_append]
    exact hwritings.length
  have hk : raws.length ≤ wholeParts (raws ++ raws') n := by
    refine le_wholeParts (by rw [List.length_append]; exact Nat.le_add_right _ _) ?_
    rw [List.take_left, hsynced]
    exact hn
  have hle := wholeParts_le (raws ++ raws') n
  rw [List.length_append] at hle
  obtain ⟨j, hj⟩ : ∃ j, wholeParts (raws ++ raws') n = rs.length + j :=
    ⟨_, (Nat.add_sub_of_le (hlength ▸ hk)).symm⟩
  have htake : (rs ++ since).take (rs.length + j) = rs ++ since.take j := by
    rw [List.take_append, List.take_of_length_le (Nat.le_add_right _ _), Nat.add_sub_cancel_left]
  have hwritings' := hwritings.take (wholeParts (raws ++ raws') n)
  have hreplay : RewriteLog.replay [] ((rs ++ since).take (rs.length + j)) =
      RewriteLog.replay base (since.take j) := by
    rw [htake, RewriteLog.replay_append, hbase]
  rw [hj] at hwritings' hload hloaded hlast
  rw [hreplay] at hloaded
  refine ⟨j, b, _, by omega, hfile ▸ hload, ?_, hlast', ?_⟩
  · refine ⟨hloaded.represents, hloaded.pending, ?_, Nat.le_refl _, (raws ++ raws').take (rs.length + j), [],
      (rs ++ since).take (rs.length + j), ?_, rfl, ?_, hwritings'.length, ?_, hreplay, ?_⟩
    · change b.fdSize = _
      rw [hloaded.size]
      exact congrArg List.length (List.append_nil _).symm
    · rw [List.append_nil]
      exact List.append_nil _
    · rwa [List.append_nil, List.append_nil]
    · rw [List.append_nil]
      rw [← List.take_append_drop (rs.length + j) (rs ++ since), RewriteLog.legalRun_append] at hrun
      exact hrun.1
    · rw [List.append_nil, ← hlast, ← hlast']
      exact Nat.le_refl _
  · intro hwhole
    have hall : (raws ++ raws').length ≤ wholeParts (raws ++ raws') n := by
      refine le_wholeParts (Nat.le_refl _) ?_
      rw [List.take_length, ← hfile]
      exact hwhole
    rw [List.length_append] at hall
    omega

end

namespace BinlogFiles

theorem main_of_writes (files : BinlogFiles) (parts : List Bytes) :
    (parts.map FileOp.writeNew).foldl apply files = { files with new := files.new.map (· ++ parts.flatten) } := by
  induction parts generalizing files with
  | nil =>
      cases hnew : files.new <;> simp [← hnew]
  | cons part parts ih =>
      rw [List.map_cons, List.foldl_cons, ih]
      cases hnew : files.new <;> simp [apply, hnew]

/-- The files while a binlog is regenerated: the old one is there until the new one is complete. -/
theorem opened_reindexOps (parts : List Bytes) (main : Bytes) (new : Option Bytes) (m : Nat) :
    (((reindexOps parts).take m).foldl apply ⟨some main, new⟩).opened = main ∨
      (((reindexOps parts).take m).foldl apply ⟨some main, new⟩).opened = parts.flatten := by
  cases m with
  | zero => exact Or.inl rfl
  | succ m =>
      unfold reindexOps
      rw [List.take_succ_cons, List.foldl_cons, List.take_append, List.foldl_append, ← List.map_take,
        main_of_writes, List.length_map]
      by_cases hm : m ≤ parts.length
      · rw [Nat.sub_eq_zero_of_le hm, List.take_zero]
        exact Or.inl rfl
      · refine Or.inr ?_
        rw [List.take_of_length_le (Nat.le_of_not_le hm)]
        obtain ⟨i, hi⟩ : ∃ i, m - parts.length = i + 1 := ⟨m - parts.length - 1, by omega⟩
        rw [hi, List.take_succ_cons]
        cases i with
        | zero => rfl
        | succ i =>
            rw [List.take_succ_cons, List.take_nil]
            rfl

end BinlogFiles

/-- Regeneration is safe: a crash after any of its steps, whatever parts the new file is written in and
whatever another crash has left in its place, finds the synchronized records and the first of the others. -/
theorem binlog_reindex_crash {crc32 : Bytes → UInt32} {f : BinlogFile} {base : Table Content}
    {since : List (Record Content)} (h : Running crc32 f base since) (hdisk : f.disk ≠ []) {parts : List Bytes}
    (hparts : parts.flatten = f.regenerated) {n : Nat} (hn : f.synced ≤ n) (hn' : n ≤ f.disk.length)
    (stale : Option Bytes) (m : Nat) :
    ∃ j b file, j ≤ since.length ∧
      Binlog.load crc32
        (((BinlogFiles.reindexOps parts).take m).foldl BinlogFiles.apply ⟨some (f.disk.take n), stale⟩).opened =
        some (.ok (b, file)) ∧
      Running crc32 (.opened b file) (RewriteLog.replay base (since.take j)) [] := by
  rcases BinlogFiles.opened_reindexOps parts (f.disk.take n) stale m with hopened | hopened
  · obtain ⟨j, b, file, hj, hload, hrunning, -, -⟩ := h.crash hn
    rw [List.take_append_of_le_length hn'] at hload
    refine ⟨j, b, file, hj, ?_, hrunning⟩
    rw [hopened]
    exact hload
  · obtain ⟨j, b, file, -, hload, hrunning, -, -⟩ := (h.doReindex hdisk).crash (Nat.le_refl _)
    have hsynced : f.doReindex.synced = f.regenerated.length := if_neg hdisk
    have hbytes : f.doReindex.disk ++ f.doReindex.buffer = f.regenerated := List.append_nil _
    rw [hsynced, hbytes, List.take_length, ← hparts] at hload
    rw [List.take_nil] at hrunning
    refine ⟨since.length, b, file, Nat.le_refl _, ?_, ?_⟩
    · rw [hopened]
      exact hload
    · rw [List.take_length]
      exact hrunning

theorem running_empty (crc32 : Bytes → UInt32) : Running crc32 (.opened {} []) [] [] :=
  ⟨represents_empty, rfl, rfl, Nat.le_refl _, [], [], [], rfl, rfl, trivial, rfl, trivial, rfl, Nat.le_refl _⟩

/-- An event was added; the new file is written in one part, and not renamed yet. -/
theorem binlog_reindex_crash_one :
    ∃ f b file, (BinlogFile.opened {} []).addRawEvent (fun _ => 0) (createRaw (fun _ => 0) 1 7 0 [1, 2, 3, 4]) = .ok f ∧
      Binlog.load (fun _ => 0) (((BinlogFiles.reindexOps [f.flush.regenerated]).take 2).foldl BinlogFiles.apply
        ⟨some (f.flush.disk.take 36), none⟩).opened = some (.ok (b, file)) := by
  have hwrites : Writes (fun _ => 0) 0 (createRaw (fun _ => 0) 1 7 0 [1, 2, 3, 4]) (.add 1 (7, [1, 2, 3, 4])) :=
    ⟨by decide, ⟨by decide, by decide, by decide, by decide, by decide⟩, 0, by decide, rfl⟩
  obtain ⟨f, hadd, hdisk, hle, hsynced⟩ : ∃ f,
      (BinlogFile.opened {} []).addRawEvent (fun _ => 0) (createRaw (fun _ => 0) 1 7 0 [1, 2, 3, 4]) = .ok f ∧
      f.flush.disk ≠ [] ∧ 36 ≤ f.flush.disk.length ∧ f.flush.synced ≤ 36 := ⟨_, rfl, by decide, by decide, by decide⟩
  obtain ⟨f', hadd', -, hrunning⟩ := (running_empty fun _ => 0).addRawEvent hwrites Nat.one_pos
  obtain rfl := Except.ok.inj (hadd.symm.trans hadd')
  rcases hrunning with hrunning | hrunning
  · obtain ⟨-, b, file, -, hload, -⟩ :=
      binlog_reindex_crash hrunning.flush hdisk List.flatten_singleton hsynced hle none 2
    exact ⟨f, b, file, hadd, hload⟩
  · obtain ⟨-, b, file, -, hload, -⟩ :=
      binlog_reindex_crash hrunning.flush hdisk List.flatten_singleton hsynced hle none 2
    exact ⟨f, b, file, hadd, hload⟩

end TelegramBotApi
