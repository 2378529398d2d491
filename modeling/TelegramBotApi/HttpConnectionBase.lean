import TelegramBotApi.FileStreamExchange

/-!
# The HTTP connection under a stream

`HttpConnectionBase` reads a query, hands it to a handler and then takes the messages of that handler
until the exchange ends. Every message that writes asserts `state_ == State::Write`, and a failed
assertion ends the process. The socket is an input: each event comes with what the poll, the reader and
the flush report while it is processed. The buffers and the write promises are left out here, since the
assertion does not depend on them.
-/

namespace TelegramBotApi

inductive ConnectionState where
  | read
  | write
  | close
  deriving DecidableEq

inductive ReadNext where
  | slow
  | failed
  | query
  | wantRead
  deriving DecidableEq

/-- What the socket reports during one call of `loop`. -/
structure SocketPoll where
  readError : Bool := false
  readNext : ReadNext := .wantRead
  /-- `flush_write` was called and nothing is left to write. -/
  flushed : Bool := false
  pendingError : Bool := false
  canClose : Bool := false
  deriving DecidableEq

structure HttpConnectionBase where
  state : ConnectionState := .write
  closeAfterWrite : Bool := false
  stopped : Bool := false
  /-- A `CHECK` has failed. -/
  crashed : Bool := false
  deriving DecidableEq

inductive ConnectionEvent where
  | message (m : StreamMessage) (io : SocketPoll)
  | loop (io : SocketPoll)
  | timeoutExpired
  deriving DecidableEq

def ConnectionEvent.received : ConnectionEvent → Option StreamMessage
  | .message m _ => some m
  | _ => none

namespace HttpConnectionBase

def stop (c : HttpConnectionBase) : HttpConnectionBase := { c with stopped := true }

/-- The end of `loop`: flush, then look for a reason to close. -/
def flushAndClose (c : HttpConnectionBase) (io : SocketPoll) : HttpConnectionBase :=
  if c.closeAfterWrite ∧ io.flushed then c.stop
  else
    let c := if io.pendingError ∨ io.canClose then { c with state := .close } else c
    if c.state = .close then c.stop else c

def loop (c : HttpConnectionBase) (io : SocketPoll) : HttpConnectionBase :=
  if io.readError then c.stop
  else if c.state = .read then
    match io.readNext with
    | .slow => c
    | .failed => { c with state := .write, closeAfterWrite := true }.flushAndClose io
    | .query => { c with state := .write }.flushAndClose io
    | .wantRead => c.flushAndClose io
  else c.flushAndClose io

/-- `CHECK(state_ == State::Write)`. -/
def checkWrite (c : HttpConnectionBase) (next : HttpConnectionBase) : HttpConnectionBase :=
  if c.state = .write then next else { c with crashed := true }

def receive (c : HttpConnectionBase) (io : SocketPoll) : StreamMessage → HttpConnectionBase
  | .writeNextNoflush _ => c.checkWrite c
  | .writeNextWithPromise .. => c.checkWrite (c.loop io)
  | .writeOk => c.checkWrite ({ c with state := .read }.loop io)
  | .writeError _ => c.checkWrite ({ c with state := .close }.loop io)
  | _ => c

def step (c : HttpConnectionBase) (e : ConnectionEvent) : HttpConnectionBase :=
  if c.stopped ∨ c.crashed then c
  else match e with
    | .message m io => c.receive io m
    | .loop io => c.loop io
    | .timeoutExpired => c.stop

/-- A connection that has just given its query to a handler. -/
def run (events : List ConnectionEvent) : HttpConnectionBase := StepRun.run step {} events

variable {c : HttpConnectionBase} {io : SocketPoll}

theorem flushAndClose_crashed (c : HttpConnectionBase) (io : SocketPoll) :
    (c.flushAndClose io).crashed = c.crashed := by
  unfold flushAndClose stop
  simp only
  split_ifs <;> rfl

theorem loop_crashed (c : HttpConnectionBase) (io : SocketPoll) :
    (c.loop io).crashed = c.crashed := by
  unfold loop stop
  by_cases hread : io.readError = true
  · rw [if_pos hread]
  rw [if_neg hread]
  by_cases hstate : c.state = .read
  · rw [if_pos hstate]
    cases io.readNext
    · rfl
    · exact flushAndClose_crashed _ io
    · exact flushAndClose_crashed _ io
    · exact flushAndClose_crashed _ io
  · rw [if_neg hstate]
    exact flushAndClose_crashed _ io

/-- The connection of a handler that has not ended the exchange. -/
def Writable (c : HttpConnectionBase) : Prop := c.stopped = true ∨ c.state = .write

theorem loop_writable (hc : c.state = .write) (io : SocketPoll) : (c.loop io).Writable := by
  unfold loop flushAndClose
  rw [hc]
  simp only [reduceCtorEq, if_false]
  by_cases hread : io.readError = true
  · rw [if_pos hread]
    exact Or.inl rfl
  rw [if_neg hread]
  by_cases hflush : c.closeAfterWrite = true ∧ io.flushed = true
  · rw [if_pos hflush]
    exact Or.inl rfl
  rw [if_neg hflush]
  by_cases hclose : io.pendingError = true ∨ io.canClose = true
  · rw [if_pos hclose, if_pos rfl]
    exact Or.inl rfl
  · rw [if_neg hclose, if_neg (by simp [hc])]
    exact Or.inr hc

theorem checkWrite_eq (hc : c.state = .write) (next : HttpConnectionBase) :
    c.checkWrite next = next := if_pos hc

theorem receive_crashed (hc : c.state = .write) (io : SocketPoll) (m : StreamMessage) :
    (c.receive io m).crashed = c.crashed := by
  unfold receive
  simp only [checkWrite_eq hc]
  split
  · rfl
  · exact loop_crashed c io
  · exact loop_crashed _ io
  · exact loop_crashed _ io
  · rfl

theorem receive_writable (hc : c.state = .write) {m : StreamMessage} (hm : m.isEnding = false)
    (io : SocketPoll) : (c.receive io m).Writable := by
  unfold receive
  simp only [checkWrite_eq hc]
  split
  · exact Or.inr hc
  · exact loop_writable hc io
  · cases hm
  · cases hm
  · exact Or.inr hc

end HttpConnectionBase

/-- A list of messages in which nothing follows one that ends the exchange. -/
def EndsOnce (l : List StreamMessage) : Prop :=
  ∀ before m after, l = before ++ m :: after → m.isEnding = true → after = []

theorem EndsOnce.of_prefix {k l : List StreamMessage} (hl : EndsOnce l) (hk : k <+: l) :
    EndsOnce k := by
  obtain ⟨rest, rfl⟩ := hk
  intro before m after hsplit hm
  have hafter := hl before m (after ++ rest) (by rw [hsplit, List.append_assoc, List.cons_append]) hm
  exact (List.append_eq_nil_iff.1 hafter).1

/-- Before the last message of such a list nothing has ended the exchange. -/
theorem EndsOnce.unended {k : List StreamMessage} {m : StreamMessage} (h : EndsOnce (k ++ [m])) :
    ∀ x ∈ k, x.isEnding = false := by
  intro x hx
  by_contra hne
  obtain ⟨before, after, rfl⟩ := List.append_of_mem hx
  have hnil := h before x (after ++ [m]) (by rw [List.append_assoc, List.cons_append])
    (by simpa using hne)
  simp at hnil

theorem Over.endsOnce {l : List StreamMessage} (hl : Over l) : EndsOnce l := by
  obtain ⟨body, last, rfl, -, hbody⟩ := hl
  intro before m after hsplit hm
  rcases List.append_eq_append_iff.1 hsplit with ⟨k, rfl, hk⟩ | ⟨k, rfl, hk⟩
  · cases k with
    | nil => exact (List.cons.inj hk).2.symm
    | cons a k =>
        have hlen := congrArg List.length hk
        simp at hlen
  · cases k with
    | nil => exact (List.cons.inj hk).2
    | cons a k =>
        obtain ⟨rfl, -⟩ := List.cons.inj hk
        have hno := hbody m (by simp)
        cases hno.symm.trans hm

theorem endsOnce_of_unended {l : List StreamMessage} (hl : ∀ m ∈ l, m.isEnding = false) :
    EndsOnce l := by
  rintro before m after rfl hm
  cases (hl m (by simp)).symm.trans hm

namespace HttpConnectionBase

theorem step_kept {c : HttpConnectionBase} {e : ConnectionEvent} (hc : c.crashed = false)
    (hw : c.Writable) : (c.step e).crashed = false ∧
      ((∀ m ∈ e.received, m.isEnding = false) → (c.step e).Writable) := by
  unfold step
  by_cases hstop : c.stopped = true
  · rw [if_pos (Or.inl hstop)]
    exact ⟨hc, fun _ => Or.inl hstop⟩
  have hstate : c.state = .write := hw.resolve_left hstop
  rw [if_neg (by simp [hstop, hc])]
  cases e with
  | message m io =>
      exact ⟨(receive_crashed hstate io m).trans hc,
        fun hm => receive_writable hstate (hm m rfl) io⟩
  | loop io => exact ⟨(loop_crashed c io).trans hc, fun _ => loop_writable hstate io⟩
  | timeoutExpired => exact ⟨hc, fun _ => Or.inl rfl⟩

/-- After the exchange only the connection's own events are left. -/
theorem step_own_crashed {c : HttpConnectionBase} {e : ConnectionEvent} (hc : c.crashed = false)
    (he : e.received = none) : (c.step e).crashed = false := by
  unfold step
  split_ifs
  · exact hc
  · cases e with
    | message m io => cases he
    | loop io => exact (loop_crashed c io).trans hc
    | timeoutExpired => exact hc

/-- The assertion holds as long as nothing is delivered after the message that ends the exchange. -/
theorem run_kept (events : List ConnectionEvent)
    (h : EndsOnce (events.filterMap ConnectionEvent.received)) :
    (run events).crashed = false ∧
      ((∀ m ∈ events.filterMap ConnectionEvent.received, m.isEnding = false) →
        (run events).Writable) := by
  induction events using List.reverseRecOn with
  | nil => exact ⟨rfl, fun _ => Or.inr rfl⟩
  | append_singleton events e ih =>
      rw [List.filterMap_append] at h ⊢
      have hih := ih (h.of_prefix (List.prefix_append _ _))
      unfold run at hih ⊢
      rw [StepRun.run_concat]
      cases he : e.received with
      | none =>
          refine ⟨step_own_crashed hih.1 he, fun hno => ?_⟩
          have hw := hih.2 fun m hm => hno m (List.mem_append_left _ hm)
          exact (step_kept hih.1 hw).2 (by simp [he])
      | some m =>
          have hm : [e].filterMap ConnectionEvent.received = [m] := by simp [he]
          rw [hm] at h ⊢
          have hw := hih.2 h.unended
          refine ⟨(step_kept hih.1 hw).1, fun hno => (step_kept hih.1 hw).2 fun x hx => ?_⟩
          rw [he] at hx
          exact hno x (by rw [Option.some.inj hx]; simp)

end HttpConnectionBase

end TelegramBotApi
