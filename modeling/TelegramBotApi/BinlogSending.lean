import TelegramBotApi.BinlogRun

/-!
# Records that are sent to a binlog

A store sends its records to a binlog, whose actor adds them in their order at some later time, and flushes
and synchronizes its file now and then. What the file says is always a beginning of what was sent, and a
crash leaves at least what was synchronized of it.
-/

namespace TelegramBotApi

open RewriteLog (Record Table)

structure LogFormat (ε : Type*) where
  content : ε → Content
  Valid : ε → Prop
  storable : ∀ {x : ε} {id : Nat}, Valid x → id < 2 ^ 63 → Storable id (content x)

namespace LogFormat

variable {ε : Type*} (F : LogFormat ε) (crc32 : Bytes → UInt32)

def raw : Record ε → Bytes
  | .add id x => BinlogEvent.createRaw crc32 id (F.content x).1 0 (F.content x).2
  | .rewrite id x => BinlogEvent.createRaw crc32 id (F.content x).1 BinlogEvent.flagRewrite (F.content x).2
  | .erase id => BinlogEvent.createRaw crc32 id BinlogEvent.typeEmpty BinlogEvent.flagRewrite []

/-- The actor of the binlog adds the next record, if there is one; `none` if the process stops. -/
def writeNext (log : List (Record ε)) (file : BinlogFile) (written : Nat) : Option (BinlogFile × Nat) :=
  match log[written]? with
  | none => some (file, written)
  | some r =>
    match file.addRawEvent crc32 (F.raw crc32 r) with
    | .error _ => none
    | .ok file => some (file, written + 1)

/-- The record may be sent after a log with the table, under the next identifier. -/
def Sendable (t : Table ε) (next : Nat) : Record ε → Prop
  | .add id x => id = next ∧ F.Valid x
  | .rewrite id x => id ∈ t.map Prod.fst ∧ F.Valid x
  | .erase id => id ∈ t.map Prod.fst

def AllSendable : Table ε → Nat → List (Record ε) → Prop
  | _, _, [] => True
  | t, next, r :: rs => F.Sendable t next r ∧ AllSendable (RewriteLog.apply t r) (next + 1) rs

variable {F crc32} {t t₀ : Table ε} {next i written synced : Nat} {r : Record ε} {rs rs' log : List (Record ε)}
  {file : BinlogFile}

theorem allSendable_append (t : Table ε) (next : Nat) (rs rs' : List (Record ε)) :
    F.AllSendable t next (rs ++ rs') ↔
      F.AllSendable t next rs ∧ F.AllSendable (RewriteLog.replay t rs) (next + rs.length) rs' := by
  induction rs generalizing t next with
  | nil => exact (and_iff_right trivial).symm
  | cons r rs ih =>
      rw [List.cons_append, AllSendable, AllSendable, ih, and_assoc, List.length_cons,
        Nat.add_right_comm next 1, Nat.add_assoc next]
      rfl

theorem AllSendable.get (h : F.AllSendable t next rs) (hget : rs[i]? = some r) :
    F.Sendable (RewriteLog.replay t (rs.take i)) (next + i) r := by
  induction rs generalizing t next i with
  | nil => cases hget
  | cons r' rs ih =>
      cases i with
      | zero =>
          obtain rfl := Option.some.inj hget
          exact h.1
      | succ i =>
          have hrest := ih h.2 hget
          rw [Nat.add_right_comm, Nat.add_assoc] at hrest
          exact hrest

/-- The raw event of a record is one that the binlog takes. -/
theorem writes_raw (crc32 : Bytes → UInt32) {last : Nat} (h : F.Sendable t next r)
    (hordered : RewriteLog.Ordered (RewriteLog.mapTable F.content t) last) (hlast : last < next)
    (hnext : next < 2 ^ 63) :
    Writes crc32 last (F.raw crc32 r) (r.map F.content) ∧
      RewriteLog.Legal (RewriteLog.mapTable F.content t) last (r.map F.content) := by
  have hold : ∀ id ∈ t.map Prod.fst, id ≤ last ∧ id < 2 ^ 63 := by
    intro id hid
    rw [← RewriteLog.mapTable_fst F.content] at hid
    obtain ⟨e, he, rfl⟩ := List.mem_map.1 hid
    have hle := hordered.le_last e he
    exact ⟨hle, by omega⟩
  cases r with
  | add id x =>
      obtain ⟨rfl, hvalid⟩ := h
      exact ⟨⟨hlast, F.storable hvalid hnext, 0, by decide, rfl⟩, hlast⟩
  | rewrite id x =>
      obtain ⟨hid, hvalid⟩ := h
      obtain ⟨hle, hlt⟩ := hold id hid
      refine ⟨⟨hle, F.storable hvalid hlt, rfl⟩, ?_⟩
      change id ∈ (RewriteLog.mapTable F.content t).map Prod.fst
      rwa [RewriteLog.mapTable_fst]
  | erase id =>
      obtain ⟨hle, hlt⟩ := hold id h
      refine ⟨⟨hle, hlt, rfl⟩, ?_⟩
      change id ∈ (RewriteLog.mapTable F.content t).map Prod.fst
      rwa [RewriteLog.mapTable_fst]

/-- The table of what was added, from what is synchronized and the rest. -/
theorem table_written (content : ε → Content) (t : Table ε) (rs : List (Record ε)) {k written : Nat}
    (hk : k ≤ written) :
    RewriteLog.replay (RewriteLog.mapTable content (RewriteLog.replay t (rs.take k)))
      (((rs.take written).drop k).map (Record.map content)) =
        RewriteLog.mapTable content (RewriteLog.replay t (rs.take written)) := by
  have hfirst : rs.take k = (rs.take written).take k := by rw [List.take_take, Nat.min_eq_left hk]
  rw [← RewriteLog.mapTable_replay, ← RewriteLog.replay_append, hfirst, List.take_append_drop]

/-- The binlog has added the first `written` records of the log that began at the table `t₀`, and `synced` of
them before its last synchronization. -/
structure Follows (F : LogFormat ε) (crc32 : Bytes → UInt32) (next : Nat) (t₀ : Table ε) (log : List (Record ε))
    (file : BinlogFile) (written synced : Nat) : Prop where
  written_le : written ≤ log.length
  running : ∃ k, synced ≤ k ∧ k ≤ written ∧
    Running crc32 file (RewriteLog.mapTable F.content (RewriteLog.replay t₀ (log.take k)))
      (((log.take written).drop k).map (Record.map F.content))
  last_lt : file.binlog.processor.lastEventId < next + written

/-- More is sent. -/
theorem Follows.send (h : F.Follows crc32 next t₀ log file written synced) (rs : List (Record ε)) :
    F.Follows crc32 next t₀ (log ++ rs) file written synced := by
  obtain ⟨k, hsynced, hk, hrunning⟩ := h.running
  have htake : ∀ m ≤ log.length, (log ++ rs).take m = log.take m := fun _ hm => List.take_append_of_le_length hm
  refine ⟨?_, ⟨k, hsynced, hk, ?_⟩, h.last_lt⟩
  · rw [List.length_append]
    exact Nat.le_add_right_of_le h.written_le
  · rw [htake k (Nat.le_trans hk h.written_le), htake written h.written_le]
    exact hrunning

/-- The next record is added. -/
theorem Follows.write (h : F.Follows crc32 next t₀ log file written synced) (hlog : F.AllSendable t₀ next log)
    (hids : next + log.length ≤ 2 ^ 63) :
    ∃ file' written', F.writeNext crc32 log file written = some (file', written') ∧
      F.Follows crc32 next t₀ log file' written' synced := by
  unfold writeNext
  cases hget : log[written]? with
  | none => exact ⟨file, written, rfl, h⟩
  | some r =>
      obtain ⟨hlt, rfl⟩ := List.getElem?_eq_some_iff.1 hget
      obtain ⟨k, hsynced, hk, hrunning⟩ := h.running
      have hsendable := hlog.get hget
      have htable := table_written F.content t₀ log hk
      have hordered := hrunning.represents.ordered
      rw [htable] at hordered
      obtain ⟨hwrites, hlegal⟩ := writes_raw crc32 hsendable hordered h.last_lt (by omega)
      obtain ⟨f, hadd, hlast, hrunning'⟩ := hrunning.addRawEvent hwrites (htable ▸ hlegal)
      have htake : log.take (written + 1) = log.take written ++ [log[written]] := (List.take_append_getElem hlt).symm
      dsimp only
      rw [hadd]
      refine ⟨_, _, rfl, hlt, ?_, ?_⟩
      · rcases hrunning' with hrunning' | hrunning'
        · refine ⟨k, hsynced, Nat.le_succ_of_le hk, ?_⟩
          rw [htake, List.drop_append_of_le_length (by rw [List.length_take]; omega), List.map_append]
          exact hrunning'
        · refine ⟨written + 1, Nat.le_trans hsynced (Nat.le_succ_of_le hk), Nat.le_refl _, ?_⟩
          rw [RewriteLog.replay_append, htable] at hrunning'
          rw [htake, RewriteLog.replay_append, List.drop_of_length_le (by rw [← htake]; exact List.length_take_le _ _)]
          change Running crc32 f (RewriteLog.mapTable F.content (RewriteLog.apply _ _)) []
          rw [RewriteLog.mapTable_apply]
          exact hrunning'
      · rw [hlast, RewriteLog.lastAfter_map]
        have hlt' := h.last_lt
        generalize log[written] = r at hsendable
        cases r with
        | add id x =>
            obtain ⟨rfl, -⟩ := hsendable
            exact Nat.lt_succ_self _
        | rewrite id x => exact Nat.lt_succ_of_lt hlt'
        | erase id => exact Nat.lt_succ_of_lt hlt'

theorem Follows.flush (h : F.Follows crc32 next t₀ log file written synced) :
    F.Follows crc32 next t₀ log file.flush written synced := by
  obtain ⟨k, hsynced, hk, hrunning⟩ := h.running
  exact ⟨h.written_le, ⟨k, hsynced, hk, hrunning.flush⟩, h.last_lt⟩

/-- All that was added is synchronized. -/
theorem Follows.sync (h : F.Follows crc32 next t₀ log file written synced) :
    F.Follows crc32 next t₀ log file.sync written written := by
  obtain ⟨k, hsynced, hk, hrunning⟩ := h.running
  refine ⟨h.written_le, ⟨written, Nat.le_refl _, Nat.le_refl _, ?_⟩, h.last_lt⟩
  have hsync := hrunning.sync
  rw [table_written F.content t₀ log hk] at hsync
  rw [List.drop_of_length_le (List.length_take_le _ _)]
  exact hsync

/-- A crash leaves a beginning of what was sent, with everything that was synchronized; nothing that was added is
lost if the file is whole. -/
theorem Follows.crash (h : F.Follows crc32 next t₀ log file written synced) {n : Nat} (hn : file.synced ≤ n) :
    ∃ m b file', synced ≤ m ∧ m ≤ written ∧
      Binlog.load crc32 ((file.disk ++ file.buffer).take n) = some (.ok (b, file')) ∧
      Running crc32 (.opened b file') (RewriteLog.mapTable F.content (RewriteLog.replay t₀ (log.take m))) [] ∧
      b.processor.lastEventId = b.lastEventId ∧ ((file.disk ++ file.buffer).length ≤ n → m = written) := by
  obtain ⟨k, hsynced, hk, hrunning⟩ := h.running
  obtain ⟨j, b, file', hj, hload, hloaded, hlast, hwhole⟩ := hrunning.crash hn
  have hwritten := h.written_le
  have hlength : (((log.take written).drop k).map (Record.map F.content)).length = written - k := by
    rw [List.length_map, List.length_drop, List.length_take, Nat.min_eq_left hwritten]
  rw [hlength] at hj hwhole
  have htable : RewriteLog.replay (RewriteLog.mapTable F.content (RewriteLog.replay t₀ (log.take k)))
      ((((log.take written).drop k).map (Record.map F.content)).take j) =
        RewriteLog.mapTable F.content (RewriteLog.replay t₀ (log.take (k + j))) := by
    rw [← table_written F.content t₀ log (Nat.le_add_right k j), ← List.map_take, List.drop_take, List.take_take,
      List.drop_take, Nat.add_sub_cancel_left, Nat.min_eq_left (by omega)]
  rw [htable] at hloaded
  refine ⟨k + j, b, file', by omega, by omega, hload, hloaded, hlast, fun hle => ?_⟩
  have := hwhole hle
  omega

end LogFormat

end TelegramBotApi
