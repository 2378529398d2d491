import TelegramBotApi.HttpConnectionBase
import Mathlib.Data.List.TakeWhile

/-!
# Promises for written bytes

What a handler writes goes to one buffer of the connection, and a promise that comes with it is kept until
the socket has taken all that was written up to it. The connection counts the bytes that it is given and
those that the socket takes, over all the queries that it reads. The record also has the bytes that are
really in the buffer and on the socket: the answer to a query that cannot be read is not counted, nor is
what the socket takes before it fails. A connection does not live long enough for 64-bit counters to wrap.
-/

namespace TelegramBotApi

/-- What became of `flush_write`, with the bytes that the socket took. -/
inductive FlushWrite where
  /-- The socket cannot be written. -/
  | idle
  | written (bytes : Nat)
  | failed (bytes : Nat)
  deriving DecidableEq

/-- What the socket reports during one call of `loop`; `errorSize` is the size of the answer to a query that
cannot be read. -/
structure SocketReport where
  readError : Bool := false
  readNext : ReadNext := .wantRead
  errorSize : Nat := 0
  flush : FlushWrite := .idle
  pendingError : Bool := false
  canClose : Bool := false
  deriving DecidableEq

/-- `HttpConnectionBase::WritePromise`, with the end of its bytes among all that was put into the buffer, and
whether it came before an answer to a query that cannot be read. -/
structure QueuedPromise where
  id : Nat
  offset : Nat
  position : Nat
  isNormal : Bool

/-- A promise with its result, and the bytes that were on the socket then. -/
structure ResolvedPromise extends QueuedPromise where
  success : Bool
  sent : Nat

structure ConnectionWrites extends HttpConnectionBase where
  queuedOffset : Nat := 0
  writtenOffset : Nat := 0
  writePromises : List QueuedPromise := []
  /-- The number of promises so far. -/
  registered : Nat := 0
  resolved : List ResolvedPromise := []
  /-- The bytes that were put into the buffer, and those of them that the socket took. -/
  appended : Nat := 0
  sent : Nat := 0

inductive WriteEvent where
  | writeNextNoflush (size : Nat)
  | writeNext (size : Nat) (io : SocketReport)
  | writeNextWithPromise (size : Nat) (io : SocketReport)
  | writeOk (io : SocketReport)
  | writeError (io : SocketReport)
  | loop (io : SocketReport)
  | timeoutExpired
  | hangup

def WriteEvent.report : WriteEvent → Option SocketReport
  | .writeNext _ io | .writeNextWithPromise _ io | .writeOk io | .writeError io | .loop io => some io
  | _ => none

/-- The reader finds a query that it cannot read. -/
def WriteEvent.IsMalformed (e : WriteEvent) : Prop := ∃ io, e.report = some io ∧ io.readNext = .failed

namespace ConnectionWrites

variable (w : ConnectionWrites)

def isDue (isError : Bool) (p : QueuedPromise) : Bool := isError || p.offset ≤ w.writtenOffset

/-- `fulfill_write_promises`; the loop goes on while the first promise is due. -/
def fulfillWritePromises (isError : Bool) : ConnectionWrites :=
  { w with
    writePromises := w.writePromises.dropWhile (w.isDue isError)
    resolved := w.resolved ++
      (w.writePromises.takeWhile (w.isDue isError)).map fun p => ⟨p, !isError, w.sent⟩ }

/-- `stop`, and `tear_down` with it. -/
def stop : ConnectionWrites := { w.fulfillWritePromises true with stopped := true }

def unsent : Nat := w.appended - w.sent

def readNext (io : SocketReport) : ConnectionWrites :=
  if w.state = .read then
    match io.readNext with
    | .failed => { w with state := .write, closeAfterWrite := true, appended := w.appended + io.errorSize }
    | .query => { w with state := .write }
    | _ => w
  else w

def flushWrite (io : SocketReport) : ConnectionWrites :=
  match io.flush with
  | .idle => w
  | .written bytes =>
    { w with sent := w.sent + min bytes w.unsent, writtenOffset := w.writtenOffset + min bytes w.unsent }
      |>.fulfillWritePromises false
  | .failed bytes => { w with sent := w.sent + min bytes w.unsent }.fulfillWritePromises true

def closeAtEnd (io : SocketReport) : ConnectionWrites :=
  if w.closeAfterWrite ∧ io.flush ≠ .idle ∧ w.unsent = 0 then w.stop
  else
    let w := if io.pendingError ∨ io.canClose then { w with state := .close } else w
    if w.state = .close then w.stop else w

def loop (io : SocketReport) : ConnectionWrites :=
  if io.readError then w.stop
  else if w.state = .read ∧ io.readNext = .slow then w
  else ((w.readNext io).flushWrite io).closeAtEnd io

/-- `CHECK(state_ == State::Write)`. -/
def checkWrite (next : ConnectionWrites) : ConnectionWrites :=
  if w.state = .write then next else { w with crashed := true }

def append (size : Nat) : ConnectionWrites :=
  { w with queuedOffset := w.queuedOffset + size, appended := w.appended + size }

def pushPromise : ConnectionWrites :=
  { w with
    writePromises := w.writePromises ++ [⟨w.registered, w.queuedOffset, w.appended, !w.closeAfterWrite⟩]
    registered := w.registered + 1 }

def step (e : WriteEvent) : ConnectionWrites :=
  if w.stopped ∨ w.crashed then w
  else match e with
    | .writeNextNoflush size => w.checkWrite (w.append size)
    | .writeNext size io => w.checkWrite ((w.append size).loop io)
    | .writeNextWithPromise size io => w.checkWrite ((w.append size).pushPromise.loop io)
    | .writeOk io => w.checkWrite ({ w with state := .read }.loop io)
    | .writeError io => w.checkWrite ({ w.fulfillWritePromises true with state := .close }.loop io)
    | .loop io => w.loop io
    | .timeoutExpired => w.stop
    | .hangup => w.stop

/-- The connection keeps the promise that comes with `e`. -/
def accepts : WriteEvent → Bool
  | .writeNextWithPromise .. => !w.stopped && !w.crashed && w.state = .write
  | _ => false

/-- The number of the promises that the connection keeps while it handles `events`. -/
def accepted : ConnectionWrites → List WriteEvent → Nat
  | _, [] => 0
  | w, e :: events => (w.accepts e).toNat + accepted (w.step e) events

/-- An inbound connection begins with reading. -/
def run (events : List WriteEvent) : ConnectionWrites := StepRun.run step { state := .read } events

variable {w} {io : SocketReport} {isError : Bool}

/-- The promises are resolved in their order, and the counters are right about what they count. -/
structure Faithful (w : ConnectionWrites) : Prop where
  order : w.resolved.map (·.id) ++ w.writePromises.map (·.id) = List.range w.registered
  written_le : w.writtenOffset ≤ w.sent
  sent_le : w.sent ≤ w.appended
  queued : w.closeAfterWrite = false → w.appended = w.queuedOffset
  pending : ∀ p ∈ w.writePromises, p.isNormal = true → p.position ≤ p.offset
  success : ∀ r ∈ w.resolved, r.success = true → r.isNormal = true → r.position ≤ r.sent
  stopped : w.stopped = true → w.writePromises = []
  normal : w.closeAfterWrite = false → (∀ p ∈ w.writePromises, p.isNormal = true) ∧ ∀ r ∈ w.resolved, r.isNormal = true
  sorted : w.writePromises.Pairwise fun p q => p.offset ≤ q.offset
  offset_le : ∀ p ∈ w.writePromises, p.offset ≤ w.queuedOffset

theorem faithful_init : Faithful { state := .read } where
  order := rfl
  written_le := le_rfl
  sent_le := le_rfl
  queued _ := rfl
  pending _ hp := absurd hp List.not_mem_nil
  success _ hr := absurd hr List.not_mem_nil
  stopped _ := rfl
  normal _ := ⟨fun _ hp => absurd hp List.not_mem_nil, fun _ hr => absurd hr List.not_mem_nil⟩
  sorted := .nil
  offset_le _ hp := absurd hp List.not_mem_nil

theorem Faithful.fulfillWritePromises (h : Faithful w) (isError : Bool) :
    Faithful (w.fulfillWritePromises isError) where
  order := by
    have hsplit := List.takeWhile_append_dropWhile (p := w.isDue isError) (l := w.writePromises)
    have hids : (w.fulfillWritePromises isError).resolved.map (·.id) =
        w.resolved.map (·.id) ++ (w.writePromises.takeWhile (w.isDue isError)).map (·.id) := by
      unfold ConnectionWrites.fulfillWritePromises
      rw [List.map_append, List.map_map]
      rfl
    rw [hids, List.append_assoc]
    refine Eq.trans ?_ h.order
    rw [List.append_cancel_left_eq]
    conv_rhs => rw [← hsplit, List.map_append]
    rfl
  written_le := h.written_le
  sent_le := h.sent_le
  queued := h.queued
  pending p hp := h.pending p ((List.dropWhile_sublist _).mem hp)
  success r hr hsuccess hnormal := by
    rcases List.mem_append.1 hr with hr | hr
    · exact h.success r hr hsuccess hnormal
    · obtain ⟨p, hp, rfl⟩ := List.mem_map.1 hr
      have hdue := List.mem_takeWhile_imp hp
      have hposition := h.pending p ((List.takeWhile_sublist _).mem hp) hnormal
      simp only [Bool.not_eq_true'] at hsuccess
      rw [isDue, hsuccess, Bool.false_or, decide_eq_true_eq] at hdue
      exact hposition.trans (hdue.trans h.written_le)
  stopped hstopped := by
    have hnil := h.stopped hstopped
    unfold ConnectionWrites.fulfillWritePromises
    rw [hnil]
    rfl
  normal hnormal := by
    obtain ⟨hpending, hresolved⟩ := h.normal hnormal
    refine ⟨fun p hp => hpending p ((List.dropWhile_sublist _).mem hp), fun r hr => ?_⟩
    rcases List.mem_append.1 hr with hr | hr
    · exact hresolved r hr
    · obtain ⟨p, hp, rfl⟩ := List.mem_map.1 hr
      exact hpending p ((List.takeWhile_sublist _).mem hp)
  sorted := h.sorted.sublist (List.dropWhile_sublist _)
  offset_le p hp := h.offset_le p ((List.dropWhile_sublist _).mem hp)

theorem writePromises_fail (w : ConnectionWrites) : (w.fulfillWritePromises true).writePromises = [] :=
  List.dropWhile_eq_nil_iff.2 fun _ _ => rfl

theorem Faithful.stop (h : Faithful w) : Faithful w.stop :=
  have hfailed := h.fulfillWritePromises true
  ⟨hfailed.order, hfailed.written_le, hfailed.sent_le, hfailed.queued, hfailed.pending, hfailed.success,
    fun _ => writePromises_fail w, hfailed.normal, hfailed.sorted, hfailed.offset_le⟩

theorem Faithful.setState (h : Faithful w) (state : ConnectionState) : Faithful { w with state := state } :=
  ⟨h.order, h.written_le, h.sent_le, h.queued, h.pending, h.success, h.stopped, h.normal, h.sorted, h.offset_le⟩

theorem Faithful.readNext (h : Faithful w) (io : SocketReport) : Faithful (w.readNext io) := by
  unfold ConnectionWrites.readNext
  split_ifs
  · split
    · exact ⟨h.order, h.written_le, Nat.le_add_right_of_le h.sent_le, fun hnormal => (by cases hnormal), h.pending,
        h.success, h.stopped, fun hnormal => (by cases hnormal), h.sorted, h.offset_le⟩
    · exact h.setState .write
    · exact h
  · exact h

theorem Faithful.flushWrite (h : Faithful w) (io : SocketReport) : Faithful (w.flushWrite io) := by
  have hwritten := h.written_le
  have hsent := h.sent_le
  have hfits (bytes : Nat) : w.sent + min bytes w.unsent ≤ w.appended := by
    unfold unsent
    omega
  unfold ConnectionWrites.flushWrite
  split
  · exact h
  · rename_i bytes _
    apply Faithful.fulfillWritePromises
    exact ⟨h.order, Nat.add_le_add_right hwritten _, hfits bytes, h.queued, h.pending, h.success, h.stopped, h.normal,
      h.sorted, h.offset_le⟩
  · rename_i bytes _
    apply Faithful.fulfillWritePromises
    exact ⟨h.order, Nat.le_add_right_of_le hwritten, hfits bytes, h.queued, h.pending, h.success, h.stopped, h.normal,
      h.sorted, h.offset_le⟩

theorem Faithful.closeAtEnd (h : Faithful w) (io : SocketReport) : Faithful (w.closeAtEnd io) := by
  have hlast (v : ConnectionWrites) (hv : Faithful v) : Faithful (if v.state = .close then v.stop else v) := by
    split_ifs
    · exact hv.stop
    · exact hv
  unfold ConnectionWrites.closeAtEnd
  by_cases hdone : w.closeAfterWrite = true ∧ io.flush ≠ .idle ∧ w.unsent = 0
  · rw [if_pos hdone]
    exact h.stop
  · rw [if_neg hdone]
    apply hlast
    split_ifs
    · exact h.setState .close
    · exact h

theorem Faithful.loop (h : Faithful w) (io : SocketReport) : Faithful (w.loop io) := by
  unfold ConnectionWrites.loop
  split_ifs
  · exact h.stop
  · exact h
  · exact ((h.readNext io).flushWrite io).closeAtEnd io

theorem Faithful.append (h : Faithful w) (size : Nat) : Faithful (w.append size) :=
  ⟨h.order, h.written_le, Nat.le_add_right_of_le h.sent_le,
    fun hnormal => congrArg (· + size) (h.queued hnormal), h.pending, h.success, h.stopped, h.normal, h.sorted,
    fun p hp => Nat.le_add_right_of_le (h.offset_le p hp)⟩

theorem Faithful.pushPromise (h : Faithful w) (hlive : w.stopped = false) : Faithful w.pushPromise where
  order := by
    unfold ConnectionWrites.pushPromise
    rw [List.map_append, ← List.append_assoc, h.order, List.range_succ]
    rfl
  written_le := h.written_le
  sent_le := h.sent_le
  queued := h.queued
  pending p hp hnormal := by
    rcases List.mem_append.1 hp with hp | hp
    · exact h.pending p hp hnormal
    · rw [List.mem_singleton.1 hp] at hnormal ⊢
      exact (h.queued (by simpa using hnormal)).le
  success := h.success
  stopped hstopped := by
    have := hlive.symm.trans hstopped
    cases this
  normal hnormal := by
    obtain ⟨hpending, hresolved⟩ := h.normal hnormal
    refine ⟨fun p hp => ?_, hresolved⟩
    rcases List.mem_append.1 hp with hp | hp
    · exact hpending p hp
    · rw [List.mem_singleton.1 hp]
      exact (Bool.not_eq_true' _).mpr hnormal
  sorted := List.pairwise_append.2 ⟨h.sorted, List.pairwise_singleton _ _, fun p hp q hq => by
    rw [List.mem_singleton.1 hq]
    exact h.offset_le p hp⟩
  offset_le p hp := by
    rcases List.mem_append.1 hp with hp | hp
    · exact h.offset_le p hp
    · rw [List.mem_singleton.1 hp]
      exact le_rfl

theorem Faithful.checkWrite (h : Faithful w) {next : ConnectionWrites} (hnext : Faithful next) :
    Faithful (w.checkWrite next) := by
  unfold ConnectionWrites.checkWrite
  split_ifs
  · exact hnext
  · exact ⟨h.order, h.written_le, h.sent_le, h.queued, h.pending, h.success, h.stopped, h.normal, h.sorted, h.offset_le⟩

theorem Faithful.step (h : Faithful w) (e : WriteEvent) : Faithful (w.step e) := by
  unfold ConnectionWrites.step
  by_cases hended : w.stopped = true ∨ w.crashed = true
  · rw [if_pos hended]
    exact h
  rw [if_neg hended]
  obtain ⟨hlive, -⟩ := not_or.1 hended
  cases e with
  | writeNextNoflush size => exact h.checkWrite (h.append size)
  | writeNext size io => exact h.checkWrite ((h.append size).loop io)
  | writeNextWithPromise size io =>
      exact h.checkWrite (((h.append size).pushPromise (eq_false_of_ne_true hlive)).loop io)
  | writeOk io => exact h.checkWrite ((h.setState .read).loop io)
  | writeError io => exact h.checkWrite (((h.fulfillWritePromises true).setState .close).loop io)
  | loop io => exact h.loop io
  | timeoutExpired => exact h.stop
  | hangup => exact h.stop

/-! ### What ends normal operation, and what ends the promises -/

theorem closeAfterWrite_flushWrite (w : ConnectionWrites) (io : SocketReport) :
    (w.flushWrite io).closeAfterWrite = w.closeAfterWrite := by
  unfold flushWrite
  split <;> rfl

theorem closeAfterWrite_closeAtEnd (w : ConnectionWrites) (io : SocketReport) :
    (w.closeAtEnd io).closeAfterWrite = w.closeAfterWrite := by
  unfold closeAtEnd
  dsimp only
  split_ifs <;> rfl

theorem closeAfterWrite_readNext (hread : io.readNext ≠ .failed) :
    (w.readNext io).closeAfterWrite = w.closeAfterWrite := by
  unfold readNext
  split_ifs
  · split
    · contradiction
    · rfl
    · rfl
  · rfl

theorem closeAfterWrite_loop (hread : io.readNext ≠ .failed) : (w.loop io).closeAfterWrite = w.closeAfterWrite := by
  unfold ConnectionWrites.loop
  split_ifs
  · rfl
  · rfl
  · rw [closeAfterWrite_closeAtEnd, closeAfterWrite_flushWrite, closeAfterWrite_readNext hread]

/-- Only a query that cannot be read ends the normal operation. -/
theorem closeAfterWrite_step {e : WriteEvent} (hread : ¬ e.IsMalformed) :
    (w.step e).closeAfterWrite = w.closeAfterWrite := by
  have hcheck (next : ConnectionWrites) (hnext : next.closeAfterWrite = w.closeAfterWrite) :
      (w.checkWrite next).closeAfterWrite = w.closeAfterWrite := by
    unfold ConnectionWrites.checkWrite
    split_ifs
    · exact hnext
    · rfl
  unfold ConnectionWrites.step
  split_ifs
  · rfl
  cases e with
  | writeNextNoflush size => exact hcheck _ rfl
  | writeNext size io => exact hcheck _ (closeAfterWrite_loop fun h => hread ⟨io, rfl, h⟩)
  | writeNextWithPromise size io => exact hcheck _ (closeAfterWrite_loop fun h => hread ⟨io, rfl, h⟩)
  | writeOk io => exact hcheck _ (closeAfterWrite_loop fun h => hread ⟨io, rfl, h⟩)
  | writeError io => exact hcheck _ (closeAfterWrite_loop fun h => hread ⟨io, rfl, h⟩)
  | loop io => exact closeAfterWrite_loop fun h => hread ⟨io, rfl, h⟩
  | timeoutExpired => rfl
  | hangup => rfl

theorem writePromises_closeAtEnd (h : w.writePromises = []) (io : SocketReport) :
    (w.closeAtEnd io).writePromises = [] := by
  unfold closeAtEnd
  dsimp only
  split_ifs
  · exact writePromises_fail _
  · exact writePromises_fail _
  · exact h
  · exact writePromises_fail _
  · exact h

theorem writePromises_readNext (w : ConnectionWrites) (io : SocketReport) :
    (w.readNext io).writePromises = w.writePromises := by
  unfold readNext
  split_ifs
  · split <;> rfl
  · rfl

theorem writePromises_flushWrite (h : w.writePromises = []) (io : SocketReport) :
    (w.flushWrite io).writePromises = [] := by
  unfold flushWrite fulfillWritePromises
  split
  · exact h
  · dsimp only
    rw [h]
    rfl
  · exact writePromises_fail _

theorem writePromises_loop (h : w.writePromises = []) (io : SocketReport) : (w.loop io).writePromises = [] := by
  unfold ConnectionWrites.loop
  split_ifs
  · exact writePromises_fail w
  · exact h
  · exact writePromises_closeAtEnd (writePromises_flushWrite ((writePromises_readNext w io).trans h) io) io

theorem writePromises_loop_failed {bytes : Nat} (hflush : io.flush = .failed bytes) (hslow : io.readNext ≠ .slow) :
    (w.loop io).writePromises = [] := by
  unfold ConnectionWrites.loop
  rw [if_neg fun hread : w.state = .read ∧ io.readNext = .slow => hslow hread.2]
  split_ifs
  · exact writePromises_fail w
  · refine writePromises_closeAtEnd ?_ io
    unfold flushWrite
    rw [hflush]
    exact writePromises_fail _

/-- The handler gives up the query, the socket fails while it is written, or the connection is torn down. -/
def Fails : WriteEvent → Prop
  | .writeError _ | .timeoutExpired | .hangup => True
  | e => ∃ io bytes, e.report = some io ∧ io.flush = .failed bytes ∧ io.readNext ≠ .slow

theorem Faithful.writePromises_step (h : Faithful w) {e : WriteEvent} (hfails : Fails e)
    (hcrashed : (w.step e).crashed = false) : (w.step e).writePromises = [] := by
  have hcheck (next : ConnectionWrites) (hnext : next.writePromises = [])
      (hpassed : (w.checkWrite next).crashed = false) : (w.checkWrite next).writePromises = [] := by
    unfold ConnectionWrites.checkWrite at hpassed ⊢
    split_ifs at hpassed ⊢
    exact hnext
  unfold ConnectionWrites.step at hcrashed ⊢
  by_cases hended : w.stopped = true ∨ w.crashed = true
  · rw [if_pos hended] at hcrashed ⊢
    rcases hended with hstopped | hcrash
    · exact h.stopped hstopped
    · rw [hcrash] at hcrashed
      cases hcrashed
  rw [if_neg hended] at hcrashed ⊢
  cases e with
  | writeNextNoflush size =>
      obtain ⟨io, -, hreport, -⟩ := hfails
      cases hreport
  | writeNext size io =>
      obtain ⟨_, bytes, hreport, hflush, hslow⟩ := hfails
      cases hreport
      exact hcheck _ (writePromises_loop_failed hflush hslow) hcrashed
  | writeNextWithPromise size io =>
      obtain ⟨_, bytes, hreport, hflush, hslow⟩ := hfails
      cases hreport
      exact hcheck _ (writePromises_loop_failed hflush hslow) hcrashed
  | writeOk io =>
      obtain ⟨_, bytes, hreport, hflush, hslow⟩ := hfails
      cases hreport
      exact hcheck _ (writePromises_loop_failed hflush hslow) hcrashed
  | writeError io =>
      exact hcheck _ (writePromises_loop (w := { w.fulfillWritePromises true with state := .close })
        (writePromises_fail w) io) hcrashed
  | loop io =>
      obtain ⟨_, bytes, hreport, hflush, hslow⟩ := hfails
      cases hreport
      exact writePromises_loop_failed hflush hslow
  | timeoutExpired => exact writePromises_fail w
  | hangup => exact writePromises_fail w

/-! ### What a flush that succeeds resolves -/

/-- The socket takes bytes while `e` is processed: no slow reader makes the loop return before the flush. -/
def Flushes (e : WriteEvent) : Prop :=
  ∃ io bytes, e.report = some io ∧ io.flush = .written bytes ∧ io.readNext ≠ .slow

/-- Every promise whose bytes are written is resolved, and all that `next` has resolved since `w` succeeded. -/
structure Flushed (w next : ConnectionWrites) : Prop where
  pending : ∀ p ∈ next.writePromises, next.writtenOffset < p.offset
  resolved : ∃ done, next.resolved = w.resolved ++ done ∧ ∀ r ∈ done, r.success = true

/-- The loop of `fulfill_write_promises` stops at the first promise that is not due, and the later ones are not
due either. -/
theorem lt_offset_of_mem_dropWhile {l : List QueuedPromise} (hl : l.Pairwise fun p q => p.offset ≤ q.offset)
    {bound : Nat} {p : QueuedPromise} (hp : p ∈ l.dropWhile fun q => q.offset ≤ bound) : bound < p.offset := by
  induction l with
  | nil => cases hp
  | cons q l ih =>
      rw [List.dropWhile_cons] at hp
      obtain ⟨hfirst, hrest⟩ := List.pairwise_cons.1 hl
      split at hp
      · exact ih hrest hp
      · rename_i hdue
        rw [decide_eq_true_eq, not_le] at hdue
        rcases List.mem_cons.1 hp with rfl | hmem
        · exact hdue
        · exact hdue.trans_le (hfirst p hmem)

theorem Flushed.of_resolved {v next : ConnectionWrites} (h : Flushed v next) (hresolved : v.resolved = w.resolved) :
    Flushed w next where
  pending := h.pending
  resolved := hresolved ▸ h.resolved

theorem flushed_fulfillWritePromises (hsorted : w.writePromises.Pairwise fun p q => p.offset ≤ q.offset) :
    Flushed w (w.fulfillWritePromises false) where
  pending p hp := by
    apply lt_offset_of_mem_dropWhile hsorted
    exact hp
  resolved := by
    refine ⟨_, rfl, fun r hr => ?_⟩
    obtain ⟨p, -, rfl⟩ := List.mem_map.1 hr
    rfl

theorem Faithful.flushed_flushWrite (h : Faithful w) {bytes : Nat} (hflush : io.flush = .written bytes) :
    Flushed w (w.flushWrite io) := by
  unfold ConnectionWrites.flushWrite
  rw [hflush]
  exact Flushed.of_resolved (flushed_fulfillWritePromises h.sorted) rfl

theorem Flushed.closeAtEnd {v : ConnectionWrites} (h : Flushed w v) (hlive : (v.closeAtEnd io).stopped = false) :
    Flushed w (v.closeAtEnd io) := by
  unfold ConnectionWrites.closeAtEnd at hlive ⊢
  dsimp only at hlive ⊢
  split_ifs at hlive ⊢
  · cases hlive
  · cases hlive
  · exact ⟨h.pending, h.resolved⟩
  · cases hlive
  · exact h

theorem resolved_readNext (w : ConnectionWrites) (io : SocketReport) : (w.readNext io).resolved = w.resolved := by
  unfold readNext
  split_ifs
  · split <;> rfl
  · rfl

theorem Faithful.flushed_loop (h : Faithful w) {bytes : Nat} (hflush : io.flush = .written bytes)
    (hslow : io.readNext ≠ .slow) (hlive : (w.loop io).stopped = false) : Flushed w (w.loop io) := by
  unfold ConnectionWrites.loop at hlive ⊢
  rw [if_neg fun hread : w.state = .read ∧ io.readNext = .slow => hslow hread.2] at hlive ⊢
  split_ifs at hlive ⊢
  · cases hlive
  · exact (((h.readNext io).flushed_flushWrite hflush).closeAtEnd hlive).of_resolved (resolved_readNext w io)

theorem stopped_closeAtEnd (hclose : w.state = .close) (io : SocketReport) : (w.closeAtEnd io).stopped = true := by
  have hend (v : ConnectionWrites) (hv : v.state = .close) :
      (if v.state = .close then v.stop else v).stopped = true := by
    rw [if_pos hv]
    rfl
  unfold ConnectionWrites.closeAtEnd
  split_ifs
  · rfl
  · exact hend _ rfl
  · exact hend w hclose

/-- A connection that is to be closed is closed by the loop. -/
theorem stopped_loop_close (hclose : w.state = .close) (io : SocketReport) : (w.loop io).stopped = true := by
  have hread : w.state ≠ .read := by
    rw [hclose]
    exact ConnectionState.noConfusion
  have hstate : (w.flushWrite io).state = .close := by
    unfold flushWrite
    split <;> exact hclose
  unfold ConnectionWrites.loop readNext
  rw [if_neg fun h : w.state = .read ∧ io.readNext = .slow => hread h.1, if_neg hread]
  split_ifs
  · rfl
  · exact stopped_closeAtEnd hstate io

theorem Faithful.flushed_step (h : Faithful w) {e : WriteEvent} (hflushes : Flushes e)
    (hpassed : (w.step e).crashed = false) (hlive : (w.step e).stopped = false) : Flushed w (w.step e) := by
  have hcheck {next : ConnectionWrites} (hnext : next.stopped = false → Flushed w next)
      (hpassed : (w.checkWrite next).crashed = false) (hlive : (w.checkWrite next).stopped = false) :
      Flushed w (w.checkWrite next) := by
    unfold ConnectionWrites.checkWrite at hpassed hlive ⊢
    split_ifs at hpassed hlive ⊢
    exact hnext hlive
  obtain ⟨io, bytes, hreport, hflush, hslow⟩ := hflushes
  unfold ConnectionWrites.step at hpassed hlive ⊢
  by_cases hended : w.stopped = true ∨ w.crashed = true
  · rw [if_pos hended] at hpassed hlive
    rcases hended with hstopped | hcrashed
    · cases hstopped.symm.trans hlive
    · cases hcrashed.symm.trans hpassed
  rw [if_neg hended] at hpassed hlive ⊢
  obtain ⟨hrunning, -⟩ := not_or.1 hended
  cases e with
  | writeNextNoflush size => cases hreport
  | writeNext size io =>
      cases hreport
      exact hcheck (fun hnext => ((h.append size).flushed_loop hflush hslow hnext).of_resolved rfl) hpassed hlive
  | writeNextWithPromise size io =>
      cases hreport
      have hpushed := (h.append size).pushPromise (eq_false_of_ne_true hrunning)
      exact hcheck (fun hnext => (hpushed.flushed_loop hflush hslow hnext).of_resolved rfl) hpassed hlive
  | writeOk io =>
      cases hreport
      exact hcheck (fun hnext => ((h.setState .read).flushed_loop hflush hslow hnext).of_resolved rfl) hpassed hlive
  | writeError io =>
      have hstopped := stopped_loop_close (w := { w.fulfillWritePromises true with state := .close }) rfl io
      exact hcheck (fun hnext => absurd (hstopped.symm.trans hnext) Bool.noConfusion) hpassed hlive
  | loop io =>
      cases hreport
      exact h.flushed_loop hflush hslow hlive
  | timeoutExpired => cases hreport
  | hangup => cases hreport

/-! ### The promises that the connection keeps -/

theorem registered_closeAtEnd (w : ConnectionWrites) (io : SocketReport) :
    (w.closeAtEnd io).registered = w.registered := by
  unfold closeAtEnd
  dsimp only
  split_ifs <;> rfl

theorem registered_flushWrite (w : ConnectionWrites) (io : SocketReport) :
    (w.flushWrite io).registered = w.registered := by
  unfold flushWrite
  split <;> rfl

theorem registered_readNext (w : ConnectionWrites) (io : SocketReport) :
    (w.readNext io).registered = w.registered := by
  unfold readNext
  split_ifs
  · split <;> rfl
  · rfl

theorem registered_loop (w : ConnectionWrites) (io : SocketReport) : (w.loop io).registered = w.registered := by
  unfold ConnectionWrites.loop
  split_ifs
  · rfl
  · rfl
  · rw [registered_closeAtEnd, registered_flushWrite, registered_readNext]

theorem registered_step (w : ConnectionWrites) (e : WriteEvent) :
    (w.step e).registered = w.registered + (w.accepts e).toNat := by
  have hcheck (next : ConnectionWrites) (hnext : next.registered = w.registered) :
      (w.checkWrite next).registered = w.registered := by
    unfold ConnectionWrites.checkWrite
    split_ifs
    · exact hnext
    · rfl
  unfold ConnectionWrites.step
  by_cases hended : w.stopped = true ∨ w.crashed = true
  · rw [if_pos hended]
    have hrefused : w.accepts e = false := by
      unfold accepts
      split
      · rcases hended with hstopped | hcrashed
        · rw [hstopped]
          rfl
        · rw [hcrashed, Bool.not_true, Bool.and_false, Bool.false_and]
      · rfl
    rw [hrefused]
    rfl
  rw [if_neg hended]
  obtain ⟨hrunning, hsound⟩ := not_or.1 hended
  cases e with
  | writeNextNoflush size => exact hcheck _ rfl
  | writeNext size io => exact hcheck _ (registered_loop _ io)
  | writeNextWithPromise size io =>
      have haccepts : w.accepts (.writeNextWithPromise size io) = decide (w.state = .write) := by
        unfold accepts
        rw [eq_false_of_ne_true hrunning, eq_false_of_ne_true hsound]
        rfl
      rw [haccepts]
      unfold ConnectionWrites.checkWrite
      split_ifs with hwrite
      · rw [registered_loop, decide_eq_true hwrite]
        rfl
      · rw [decide_eq_false hwrite]
        rfl
  | writeOk io => exact hcheck _ (registered_loop _ io)
  | writeError io => exact hcheck _ (registered_loop _ io)
  | loop io => exact registered_loop w io
  | timeoutExpired => rfl
  | hangup => rfl

theorem registered_run (w : ConnectionWrites) (events : List WriteEvent) :
    (StepRun.run step w events).registered = w.registered + accepted w events := by
  induction events generalizing w with
  | nil => rfl
  | cons e events ih => rw [StepRun.run_cons, ih, registered_step, Nat.add_assoc, accepted]

theorem toHttpConnectionBase_flushWrite (w : ConnectionWrites) (io : SocketReport) :
    (w.flushWrite io).toHttpConnectionBase = w.toHttpConnectionBase := by
  unfold flushWrite
  split <;> rfl

theorem toHttpConnectionBase_closeAtEnd (w : ConnectionWrites) (io : SocketReport) {poll : SocketPoll}
    (hflushed : poll.flushed = decide (io.flush ≠ .idle ∧ w.unsent = 0)) (herror : poll.pendingError = io.pendingError)
    (hclose : poll.canClose = io.canClose) :
    (w.closeAtEnd io).toHttpConnectionBase = w.toHttpConnectionBase.flushAndClose poll := by
  unfold closeAtEnd HttpConnectionBase.flushAndClose
  simp only [hflushed, herror, hclose, decide_eq_true_eq]
  split_ifs <;> rfl

/-- The state machine of the connection without its promises. -/
theorem toHttpConnectionBase_loop (w : ConnectionWrites) (io : SocketReport) :
    (w.loop io).toHttpConnectionBase = w.toHttpConnectionBase.loop {
      readError := io.readError, readNext := io.readNext, pendingError := io.pendingError, canClose := io.canClose
      flushed := io.flush ≠ .idle ∧ ((w.readNext io).flushWrite io).unsent = 0 } := by
  unfold ConnectionWrites.loop HttpConnectionBase.loop
  by_cases herror : io.readError = true
  · rw [if_pos herror, if_pos herror]
    rfl
  rw [if_neg herror, if_neg herror]
  have hclose := toHttpConnectionBase_closeAtEnd ((w.readNext io).flushWrite io) io
    (rfl : ({
      readError := io.readError, readNext := io.readNext, pendingError := io.pendingError, canClose := io.canClose
      flushed := io.flush ≠ .idle ∧ ((w.readNext io).flushWrite io).unsent = 0 } : SocketPoll).flushed = _) rfl rfl
  rw [toHttpConnectionBase_flushWrite] at hclose
  by_cases hstate : w.state = .read
  · rw [if_pos hstate]
    unfold readNext at hclose ⊢
    rw [if_pos hstate] at hclose ⊢
    cases hread : io.readNext with
    | slow => rw [if_pos ⟨hstate, rfl⟩]
    | failed =>
        rw [if_neg fun h => by cases h.2]
        simp only [hread] at hclose ⊢
        exact hclose
    | query =>
        rw [if_neg fun h => by cases h.2]
        simp only [hread] at hclose ⊢
        exact hclose
    | wantRead =>
        rw [if_neg fun h => by cases h.2]
        simp only [hread] at hclose ⊢
        exact hclose
  · rw [if_neg fun h => hstate h.1, if_neg hstate]
    unfold readNext at hclose ⊢
    rw [if_neg hstate] at hclose ⊢
    exact hclose

theorem closeAfterWrite_run {events : List WriteEvent} (h : ∀ e ∈ events, ¬ e.IsMalformed) (w : ConnectionWrites) :
    (StepRun.run step w events).closeAfterWrite = w.closeAfterWrite := by
  induction events generalizing w with
  | nil => rfl
  | cons e events ih =>
      obtain ⟨hfirst, hrest⟩ := List.forall_mem_cons.1 h
      rw [StepRun.run_cons, ih hrest, closeAfterWrite_step hfirst]

theorem write_promises_resolved (events : List WriteEvent) :
    let w := run events
    w.resolved.map (·.id) ++ w.writePromises.map (·.id) = List.range w.registered ∧
    w.registered = accepted { state := .read } events ∧
    (∀ e, Flushes e → (w.step e).crashed = false → (w.step e).stopped = false → Flushed w (w.step e)) ∧
    (w.stopped = true → w.writePromises = []) ∧
    (∀ e, Fails e → (w.step e).crashed = false → (w.step e).writePromises = []) ∧
    (∀ r ∈ w.resolved, r.success = true → r.isNormal = true → r.position ≤ r.sent) ∧
    (w.closeAfterWrite = false → w.writtenOffset ≤ w.queuedOffset ∧ w.queuedOffset = w.appended ∧
      ∀ r ∈ w.resolved, r.isNormal = true) ∧
    ((∀ e ∈ events, ¬ e.IsMalformed) → w.closeAfterWrite = false) := by
  intro w
  have h : Faithful w := StepRun.run_invariant_always (fun _ e hs => hs.step e) faithful_init events
  have hregistered := registered_run { state := .read } events
  rw [Nat.zero_add] at hregistered
  refine ⟨h.order, hregistered, fun e hflushes => h.flushed_step hflushes, h.stopped,
    fun e hfails hcrashed => h.writePromises_step hfails hcrashed, h.success, ?_, ?_⟩
  · intro hnormal
    have hqueued := h.queued hnormal
    exact ⟨(h.written_le.trans h.sent_le).trans hqueued.le, hqueued.symm, (h.normal hnormal).2⟩
  · exact fun hread => closeAfterWrite_run hread _

end ConnectionWrites

end TelegramBotApi
