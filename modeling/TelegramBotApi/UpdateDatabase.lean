import TelegramBotApi.BinlogSending
import TelegramBotApi.LogRun
import TelegramBotApi.UpdateCollect

/-!
# The update storage and its binlog

The storage sends its records to the binlog, whose actor adds them in their order at some later time, and
flushes and synchronizes its file now and then. A restart loads what a crash has left of the file, and
replays it into a new storage.
-/

namespace TelegramBotApi

open RewriteLog (Record Table)

/-- What the server does with the update storage. -/
inductive UpdateOp where
  | push (queueId : Int64) (first : FirstEventId) (data : Bytes) (expiresAt : Int32) (extra : Int64)
  | get (queueId : Int64) (fromId : Int) (forgetPrevious : Bool) (unixTimeNow : Int32) (limit : Nat)
  | forget (queueId : Int64) (eventId : Int)
  | clear (queueId : Int64) (keepCount : Nat)
  | runGc (unixTimeNow : Int32) (deadline : Nat)

namespace UpdateStore

def step (s : UpdateStore) : UpdateOp → UpdateStore
  | .push queueId first data expiresAt extra => (s.push queueId first data expiresAt extra).1
  | .get queueId fromId forgetPrevious unixTimeNow limit => (s.get queueId fromId forgetPrevious unixTimeNow limit).1
  | .forget queueId eventId => s.forget queueId eventId
  | .clear queueId keepCount => (s.clear queueId keepCount).1
  | .runGc unixTimeNow deadline => (s.runGc unixTimeNow deadline).1

def updates (s : UpdateStore) (queueId : Int64) : List RawEvent :=
  (s.queue queueId).events.filter (·.data ≠ [])

end UpdateStore

def LogEvent.format : LogFormat LogEvent where
  content := LogEvent.content
  Valid := LogEvent.Valid
  storable := LogEvent.storable_content

structure UpdateDb where
  store : UpdateStore
  file : BinlogFile
  /-- The number of records that the binlog has added. -/
  written : Nat := 0
  /-- The number of them at the last synchronization. -/
  synced : Nat := 0

inductive DbAction where
  | op (op : UpdateOp)
  /-- The actor of the binlog adds the next record. -/
  | write
  | flush
  | sync

namespace UpdateDb

def log (db : UpdateDb) : List (Record LogEvent) := (db.store.callback.map (·.log)).getD []

/-- The result is `none` if the process stops. -/
def act (crc32 : Bytes → UInt32) (db : UpdateDb) : DbAction → Option UpdateDb
  | .op op => some { db with store := db.store.step op }
  | .write =>
    (LogEvent.format.writeNext crc32 db.log db.file db.written).map fun r => { db with file := r.1, written := r.2 }
  | .flush => some { db with file := db.file.flush }
  | .sync => some { db with file := db.file.sync, synced := db.written }

def run (crc32 : Bytes → UInt32) (db : UpdateDb) (actions : List DbAction) : Option UpdateDb :=
  LogRun.run (act crc32) db actions

/-- `start_up`: the events that are not replayed are erased from the binlog. -/
def restart (crc32 : Bytes → UInt32) (bytes : Bytes) : Option (UpdateDb × List Nat) :=
  match Binlog.load crc32 bytes with
  | some (.ok r) =>
    let r' := UpdateStore.replayAll (RewriteLog.mapTable BinlogEvent.content r.1.processor.alive)
    match r'.2.foldlM (fun file id => file.addRawEvent crc32 (LogEvent.format.raw crc32 (.erase id))) (BinlogFile.opened r.1 r.2) with
    | .error _ => none
    | .ok file =>
      some ({ store := r'.1.setCallback { nextEventId := r.1.lastEventId + 1 + r'.2.length }, file := file }, r'.2)
  | _ => none

end UpdateDb

section

variable {t : Table LogEvent} {r : Record LogEvent} {rs : List (Record LogEvent)} {c : TQueueCallback}
  {s : UpdateStore}

theorem Takes.sendable (h : Takes t r) (ht : Restorable t) (next : Nat) : LogEvent.format.Sendable t next r := by
  cases h with
  | erase hid => exact hid
  | clear hmem hlast => exact ⟨List.mem_map_of_mem hmem, (ht.valid _ hmem).cleared⟩

theorem TakesAll.sendable (h : TakesAll t rs) (hkeeps : c.Keeps t) :
    LogEvent.format.AllSendable t c.nextEventId rs := by
  induction rs generalizing c t with
  | nil => trivial
  | cons r rs ih => exact ⟨h.1.sendable hkeeps.restorable _, ih h.2 (hkeeps.takes h.1)⟩

theorem UpdateStore.Group.sendable (h : UpdateStore.Group c t rs) (hkeeps : c.Keeps t) :
    LogEvent.format.AllSendable t c.nextEventId rs := by
  cases h with
  | takes htakes => exact htakes.sendable hkeeps
  | @adds taken x htakes hrestorable =>
      refine (LogFormat.allSendable_append _ _ _ _).2 ⟨htakes.sendable hkeeps, ⟨rfl, ?_⟩, trivial⟩
      rw [RewriteLog.replay_append] at hrestorable
      exact hrestorable.valid (_, x) (RewriteLog.mem_add.2 (Or.inr rfl))

/-- Every operation writes one group of records, and keeps the storage what its log says. -/
theorem UpdateStore.Runs.step (h : s.Runs c t) (op : UpdateOp) : UpdateStore.Writes c t (s.step op) := by
  cases op with
  | push queueId first data expiresAt extra => exact UpdateStore.push_writes h queueId first data expiresAt extra
  | get queueId fromId forgetPrevious now limit =>
      obtain ⟨rs, htakes, hruns⟩ := UpdateStore.get_writes h queueId fromId forgetPrevious now limit
      exact ⟨rs, .takes htakes, hruns⟩
  | forget queueId eventId =>
      obtain ⟨rs, htakes, hruns⟩ := UpdateStore.forget_writes h queueId eventId
      exact ⟨rs, .takes htakes, hruns⟩
  | clear queueId keepCount =>
      obtain ⟨rs, htakes, hruns⟩ := UpdateStore.clear_writes h queueId keepCount
      exact ⟨rs, .takes htakes, hruns⟩
  | runGc now deadline =>
      obtain ⟨rs, hcollects, -⟩ := UpdateStore.runGc_spec h now deadline
      exact ⟨rs, .takes hcollects.takes, hcollects.runs⟩

/-- A table between two others: what both have is there, and nothing else is. -/
structure Between (t u t' : Table LogEvent) : Prop where
  restorable : Restorable u
  ordered : ∃ last, RewriteLog.Ordered u last
  kept : ∀ queueId, ∀ e ∈ updatesOf t queueId, e ∈ updatesOf t' queueId → e ∈ updatesOf u queueId
  known : ∀ queueId, ∀ e ∈ updatesOf u queueId, e ∈ updatesOf t queueId ∨ e ∈ updatesOf t' queueId

/-- A group that is cut has taken away some of the updates, or is complete. -/
theorem UpdateStore.Group.cut (h : UpdateStore.Group c t rs) (hkeeps : c.Keeps t)
    (hkeeps' : (c.logs rs).Keeps (RewriteLog.replay t rs)) (k : Nat) :
    Between t (RewriteLog.replay t (rs.take k)) (RewriteLog.replay t rs) := by
  have htaken : ∀ {taken : List (Record LogEvent)}, TakesAll t taken → ∀ k,
      Between t (RewriteLog.replay t (taken.take k)) (RewriteLog.replay t taken) := by
    intro taken htakes k
    rw [← List.take_append_drop k taken, takesAll_append] at htakes
    have hfirst := htakes.1.taken hkeeps.ordered hkeeps.restorable
    have hrest := htakes.2.taken hfirst.ordered hfirst.restorable
    rw [← RewriteLog.replay_append, List.take_append_drop] at hrest
    exact ⟨hfirst.restorable, ⟨_, hfirst.ordered⟩, fun queueId e _ he => (hrest.updates queueId).subset he,
      fun queueId e he => Or.inl ((hfirst.updates queueId).subset he)⟩
  cases h with
  | takes htakes => exact htaken htakes k
  | @adds taken x htakes hrestorable =>
      by_cases hk : taken.length < k
      · rw [List.take_of_length_le (by rw [List.length_append]; exact hk)]
        exact ⟨hrestorable, ⟨_, hkeeps'.ordered⟩, fun _ _ _ he => he, fun _ _ he => Or.inr he⟩
      · rw [List.take_append_of_le_length (Nat.le_of_not_lt hk)]
        have hcut := htaken htakes k
        refine ⟨hcut.restorable, hcut.ordered, fun queueId e he he' => ?_, fun queueId e he => ?_⟩
        · refine hcut.kept queueId e he ?_
          rw [RewriteLog.replay_append] at he'
          obtain ⟨he', hdata⟩ := List.mem_filter.1 he'
          refine List.mem_filter.2 ⟨?_, hdata⟩
          rw [mem_eventsOf] at he' ⊢
          rcases RewriteLog.mem_add.1 he' with he' | hnew
          · exact he'
          · have hold := (hkeeps.bounds _ (mem_eventsOf.1 (List.mem_filter.1 he).1)).2
            have hid : e.logEventId = c.nextEventId + taken.length := congrArg Prod.fst hnew
            exact absurd hold (by dsimp only; omega)
        · left
          rw [← List.take_append_drop k taken, takesAll_append] at htakes
          exact ((htakes.1.taken hkeeps.ordered hkeeps.restorable).updates queueId).subset he

end

end TelegramBotApi
