import TelegramBotApi.HttpConnectionBase

/-!
# Failures before the response header

A stream that fails before it has sent the header of a success answers with a JSON error. The header of
that answer always fits the buffer of the header creator, so the answer is complete. `Responds` says
that a handler of a waiting stream has either announced a success or sent such an answer.
-/

namespace TelegramBotApi

open StreamHistory (announced)
open StreamMessage (isForConnection isEnding isStatusLine)

theorem jsonOneChar_length (c : Nat) : (jsonOneChar c).length = 6 := rfl

theorem jsonEscape_length (c : Char) : (jsonEscape c).length ≤ 12 := by
  unfold jsonEscape jsonChar
  split_ifs <;> simp [jsonOneChar_length]

theorem jsonString_length (str : String) : (jsonString str).length ≤ 12 * str.toList.length + 2 := by
  unfold jsonString
  have h : ∀ l : List Char, (l.flatMap jsonEscape).length ≤ 12 * l.length := by
    intro l
    induction l with
    | nil => exact le_rfl
    | cons c l ih =>
        have hc := jsonEscape_length c
        rw [List.flatMap_cons, List.length_append, List.length_cons]
        omega
  have hs := h str.toList
  simp only [List.cons_append, List.length_cons, List.length_append, List.length_nil]
  omega

/-- A text whose JSON encoding fits the address space. -/
def Representable (message : String) : Prop := message.toList.length < 2 ^ 59

instance (message : String) : Decidable (Representable message) :=
  inferInstanceAs (Decidable (_ < _))

theorem jsonQueryError_length {code : Int} {message : String} (hlo : 400 ≤ code) (hhi : code ≤ 599)
    (hm : Representable message) : (jsonQueryError code message).length < 10 ^ 20 := by
  have hcode : (toString code).toList.length ≤ 3 := intText_length (by omega) (by omega) (by omega)
  have hstr := jsonString_length message
  have hopen : ("\x7b\"ok\":false,\"error_code\":".toList).length = 25 := rfl
  have hkey : (",\"description\":".toList).length = 15 := rfl
  have hclose : ("\x7d".toList).length = 1 := rfl
  unfold Representable at hm
  unfold jsonQueryError
  simp only [List.length_append]
  omega

namespace FileStreamConnection

variable {S : FileStreamSetup} {io : FileAccess} {s t u : FileStreamConnection}

theorem errorHeader_contentLength (s : FileStreamConnection) (code : Int) (content : Slice) :
    (s.errorHeader code content).contentLength = some (toString content.length) := by
  unfold errorHeader HttpHeaderCreator.contentLength
  simp only
  split_ifs <;> rfl

open HttpHeaderCreator in
theorem errorHeader_finish {code : Int} {content : Slice} (hlo : 400 ≤ code) (hhi : code ≤ 599)
    (hcontent : content.length < 10 ^ 20) (hsize : s.cursor.totalSize < 2 ^ 63) :
    ∃ text, (s.errorHeader code content).finish = .ok text := by
  have hcode : (toString code).toList.length ≤ 3 := intText_length (by omega) (by omega) (by omega)
  have hlen : (toString content.length).toList.length ≤ 20 := natText_length (by omega) hcontent
  have htype : "Content-Type".toList.length = 12 := rfl
  have hjson : "application/json".toList.length = 16 := rfl
  have hkey : "Content-Length".toList.length = 14 := rfl
  have hrange : "Content-Range".toList.length = 13 := rfl
  have hbytes : "bytes */".toList.length = 8 := rfl
  by_cases hc : code = 416 ∧ 0 ≤ s.cursor.totalSize
  · have htotal : (toString s.cursor.totalSize).toList.length ≤ 19 :=
      intText_length (by omega) hc.2 (by omega)
    refine finish_ok (k := 3) (by rw [errorHeader_status]; exact hcode) ?_
    unfold errorHeader
    simp only
    rw [if_pos hc]
    simp only [initStatusLine, setContentType, setContentSize, addHeader, List.nil_append,
      List.cons_append, List.map_cons, List.map_nil, List.sum_cons, List.sum_nil, fieldSize,
      String.toList_append, List.length_append]
    omega
  · refine finish_ok (k := 3) (by rw [errorHeader_status]; exact hcode) ?_
    unfold errorHeader
    simp only
    rw [if_neg hc]
    simp only [initStatusLine, setContentType, setContentSize, addHeader, List.nil_append,
      List.cons_append, List.map_cons, List.map_nil, List.sum_cons, List.sum_nil, fieldSize]
    omega

/-- A handler of a stream that has answered nothing yet: it has announced a success, or it has ended
the exchange with a complete error. -/
def Responds (S : FileStreamSetup) (s t : FileStreamConnection) : Prop :=
  ∃ k, t.out = s.out ++ k ∧
    ((∃ a ∈ k, (StreamEntry.action a).successHeader ≠ none) ∨
      (t.stopped = true ∧ t.finished = true ∧ ErrorResponse S (connectionActions k)))

theorem responds_fail (hs : s.Open) (hh : s.headersSent = false) {code : Int} {message : String}
    (hlo : 400 ≤ code) (hhi : code ≤ 599) (hm : Representable message)
    (hsize : s.cursor.totalSize < 2 ^ 63) : Responds S s (s.fail S code message) := by
  obtain ⟨text, htext⟩ := errorHeader_finish (s := s) hlo hhi (jsonQueryError_length hlo hhi hm) hsize
  have hstatus := errorHeader_status s code (jsonQueryError code message)
  have hlength := errorHeader_contentLength s code (jsonQueryError code message)
  unfold fail
  rw [if_neg (by simp [hs.finished]), if_neg (by simp [hh])]
  simp only
  rw [htext]
  simp only
  cases hr : S.route.headOnly with
  | false =>
      refine ⟨[.send (.writeNextNoflush (.header (s.errorHeader code (jsonQueryError code message)))),
        .send (.writeNextNoflush (.content (jsonQueryError code message))), .send .writeOk], ?_,
        Or.inr ⟨rfl, rfl, code, message, _, hstatus, hlength, ⟨text, htext⟩, ?_⟩⟩
      · simp [send, emit, sendLast, stop]
      · rw [hr]
        rfl
  | true =>
      refine ⟨[.send (.writeNextNoflush (.header (s.errorHeader code (jsonQueryError code message)))),
        .send .writeOk], ?_, Or.inr ⟨rfl, rfl, code, message, _, hstatus, hlength, ⟨text, htext⟩, ?_⟩⟩
      · simp [send, emit, sendLast, stop]
      · rw [hr]
        rfl

/-- Actions that do not concern the connection come first. -/
theorem Responds.of_silent {k : List StreamAction} (ht : t.out = s.out ++ k)
    (hk : connectionActions k = []) (h : Responds S t u) : Responds S s u := by
  obtain ⟨l, hl, h⟩ := h
  refine ⟨k ++ l, by rw [hl, ht, List.append_assoc], ?_⟩
  rcases h with ⟨a, ha, hne⟩ | ⟨hstop, hfin, herror⟩
  · exact Or.inl ⟨a, List.mem_append_right _ ha, hne⟩
  · refine Or.inr ⟨hstop, hfin, ?_⟩
    rwa [connectionActions_append, hk, List.nil_append]

/-- More actions follow an announced success; an error ends the handler. -/
theorem Responds.append {k : List StreamAction} (h : Responds S s t) (hu : u.out = t.out ++ k)
    (hdone : t.finished = true → u = t) : Responds S s u := by
  obtain ⟨l, hl, ⟨a, ha, hne⟩ | herror⟩ := h
  · exact ⟨l ++ k, by rw [hu, hl, List.append_assoc], Or.inl ⟨a, List.mem_append_left _ ha, hne⟩⟩
  · rw [hdone herror.2.1]
    exact ⟨l, hl, Or.inr herror⟩

/-- A stream that waits for `on_file_ready`. -/
structure Waits (s : FileStreamConnection) : Prop where
  isOpen : s.Open
  headersSent : s.headersSent = false
  unsized : s.cursor.totalSize < 0

theorem responds_sendHeaders (hs : s.Open) (hh : s.headersSent = false)
    (hsize : s.cursor.totalSize < 2 ^ 63) : Responds S s (s.sendHeaders S) := by
  unfold sendHeaders
  rw [if_neg (by simp [hh])]
  split
  · exact responds_fail hs hh (by omega) (by omega) (by decide) hsize
  · refine ⟨_, rfl, Or.inl ⟨_, List.mem_singleton_self _, ?_⟩⟩
    unfold StreamEntry.successHeader responseHeader
    cases s.partialResponse <;> simp [StreamEntry.buffer, StreamMessage.buffer,
      HttpHeaderCreator.initStatusLine, HttpHeaderCreator.setKeepAlive,
      HttpHeaderCreator.setContentType, HttpHeaderCreator.setContentSize, HttpHeaderCreator.addHeader]

theorem sendHeaders_kept (hs : s.Open) : (s.sendHeaders S).Open ∨ (s.sendHeaders S).finished = true := by
  obtain ⟨k, -, h | h⟩ := exchanged_sendHeaders (S := S) hs
  · exact Or.inl h.1
  · exact Or.inr h.2.1

theorem responds_respond (io : FileAccess) (hs : s.Open) (hh : s.headersSent = false)
    (hsize : s.cursor.totalSize < 2 ^ 63) : Responds S s (s.respond S io) := by
  have hsend := responds_sendHeaders (S := S) hs hh hsize
  unfold respond
  split_ifs
  · exact responds_fail hs hh (by omega) (by omega) (by decide) hsize
  · exact hsend
  · have hidle : (s.sendHeaders S).finished = true →
        (s.sendHeaders S).tryRead S io = s.sendHeaders S := by
      intro h
      unfold tryRead
      rw [if_pos (Or.inl h)]
    rcases sendHeaders_kept (S := S) hs with ht | hf
    · obtain ⟨k, hk, -⟩ := exchanged_tryRead (S := S) io ht
      exact hsend.append hk hidle
    · rw [hidle hf]
      exact hsend

theorem responds_beginDownload (io : FileAccess) (hs : s.Open) (hh : s.headersSent = false)
    (hsize : s.cursor.totalSize < 2 ^ 63) (progress : FileProgress) :
    Responds S s (s.beginDownload S io progress) := by
  unfold beginDownload
  split
  · rename_i status hstatus
    refine responds_fail hs hh (by omega) (by omega) ?_ hsize
    unfold FileStreamCursor.updateProgress at hstatus
    split_ifs at hstatus
    rw [← Except.error.inj hstatus]
    decide
  · rename_i cursor hcursor
    obtain ⟨-, rfl⟩ := FileStreamCursor.updateProgress_ok hcursor
    refine Responds.of_silent (k := []) ?_ rfl (responds_respond io ?_ ?_ ?_)
    · exact (List.append_nil _).symm
    · exact ⟨hs.connection, hs.readInFlight, hs.finished, hs.stopped⟩
    · exact hh
    · exact hsize

theorem responds_selectRange (io : FileAccess) (hs : s.Open) (hh : s.headersSent = false)
    (hsize : s.cursor.totalSize < 2 ^ 63) (totalSize : Int) (progress : FileProgress) :
    Responds S s (s.selectRange S io totalSize progress) := by
  unfold selectRange
  split
  · exact responds_fail hs hh (by omega) (by omega) (by decide) hsize
  · refine Responds.of_silent (k := []) ?_ rfl (responds_beginDownload io ?_ ?_ ?_ progress)
    · exact (List.append_nil _).symm
    · exact ⟨hs.connection, hs.readInFlight, hs.finished, hs.stopped⟩
    · exact hh
    · exact hsize

theorem responds_acceptSize (io : FileAccess) (hs : s.Waits) {totalSize : Int}
    (hsize : totalSize < 2 ^ 63) (progress : FileProgress) :
    Responds S s (s.acceptSize S io totalSize progress) := by
  have hbound : s.cursor.totalSize < 2 ^ 63 := by
    have := hs.unsized
    omega
  unfold acceptSize
  split_ifs
  · exact responds_fail hs.isOpen hs.headersSent (by omega) (by omega) (by decide) hbound
  · exact responds_fail hs.isOpen hs.headersSent (by omega) (by omega) (by decide) hbound
  · refine Responds.of_silent (k := []) ?_ rfl (responds_selectRange io ?_ ?_ ?_ totalSize progress)
    · exact (List.append_nil _).symm
    · exact ⟨hs.isOpen.connection, hs.isOpen.readInFlight, hs.isOpen.finished, hs.isOpen.stopped⟩
    · exact hs.headersSent
    · exact hsize

theorem responds_onFileReady (io : FileAccess) (hs : s.Waits) (fileId : Int) {totalSize : Int}
    (hsize : totalSize < 2 ^ 63) (progress : FileProgress) :
    Responds S s (s.onFileReady S io fileId totalSize progress) := by
  have hopen := hs.isOpen
  unfold onFileReady
  rw [if_neg (by simp [hopen.finished])]
  by_cases hbad : fileId ≤ 0 ∨ totalSize < 0
  · rw [if_pos hbad]
    have := hs.unsized
    exact responds_fail hopen hs.headersSent (by omega) (by omega) (by decide) (by omega)
  rw [if_neg hbad]
  simp only
  by_cases hpath : progress.localPath ≠ [] ∧ s.localPath ≠ progress.localPath
  · rw [if_pos hpath, setLocalPath_eq]
    refine Responds.of_silent (k := pathActions S { s with fileId := fileId } progress.localPath) ?_
      (connectionActions_pathActions _ _) (responds_acceptSize io ?_ hsize progress)
    · rfl
    · exact ⟨⟨hopen.connection, hopen.readInFlight, hopen.finished, hopen.stopped⟩, hs.headersSent,
        hs.unsized⟩
  · rw [if_neg hpath]
    refine Responds.of_silent (k := []) ?_ rfl (responds_acceptSize io ?_ hsize progress)
    · exact (List.append_nil _).symm
    · exact ⟨⟨hopen.connection, hopen.readInFlight, hopen.finished, hopen.stopped⟩, hs.headersSent,
        hs.unsized⟩

theorem responds_onFileError (hs : s.Waits) {error : Status} (hm : Representable error.message) :
    Responds S s (s.onFileError S error) := by
  have hunsized := hs.unsized
  unfold onFileError
  rw [if_neg (by simp [hs.isOpen.finished])]
  simp only
  rw [if_pos (by simp [hs.headersSent])]
  refine responds_fail hs.isOpen hs.headersSent ?_ ?_ hm (by omega) <;> split_ifs <;> omega

theorem responds_settle (h : Responds S s t) : Responds S s (t.settle S) := by
  unfold settle
  split_ifs with hstop
  · rw [tearDown_eq]
    obtain ⟨k, hk, h⟩ := h
    refine ⟨k ++ tearDownActions S t, by rw [← List.append_assoc, ← hk], ?_⟩
    rcases h with ⟨a, ha, hne⟩ | ⟨-, hfin, herror⟩
    · exact Or.inl ⟨a, List.mem_append_left _ ha, hne⟩
    · refine Or.inr ⟨hstop, hfin, ?_⟩
      rwa [connectionActions_append, connectionActions_tearDownActions, List.append_nil]
  · exact h

theorem stopped_of_timeout (hs : s.Open) (io : FileAccess) :
    (s.step S ⟨.timeoutExpired, io⟩).stopped = true := by
  have ht : Open { s with out := [] } := ⟨hs.connection, hs.readInFlight, hs.finished, hs.stopped⟩
  have hended : ({ s with out := [] }.timeoutExpired S).stopped = true := by
    unfold timeoutExpired
    rcases onFileError_cases (S := S) ht _ with ⟨-, he⟩ | ⟨code, k, -, -, he, -⟩ <;> rw [he] <;> rfl
  rw [step_of_open hs]
  change (({ s with out := [] }.timeoutExpired S).settle S).stopped = true
  unfold settle
  rw [if_pos hended, tearDown_eq]
  exact hended

end FileStreamConnection

def StreamMessage.promise : StreamMessage → Option WritePromise
  | .writeNextWithPromise _ promise => some promise
  | _ => none

def Requested (h : List StreamEntry) (promise : WritePromise) : Prop :=
  ∃ m ∈ connectionMessages h, m.promise = some promise

/-- Events that a stream with this history can get: a promise is answered only if it was given to the
connection, sizes are `int64` values and texts fit the address space. -/
def Admissible (h : List StreamEntry) : StreamEvent → Prop
  | .onFileReady _ totalSize _ => totalSize < 2 ^ 63
  | .onFileError error => Representable error.message
  | .onHeadersFlushed _ => Requested h .onHeadersFlushed
  | .onChunkFlushed _ => Requested h .onChunkFlushed
  | _ => True

instance (h : List StreamEntry) (promise : WritePromise) : Decidable (Requested h promise) :=
  inferInstanceAs (Decidable (∃ m ∈ _, _))

instance (h : List StreamEntry) : ∀ e, Decidable (Admissible h e)
  | .onFileReady .. => inferInstanceAs (Decidable (_ < _))
  | .onFileError _ => inferInstanceAs (Decidable (Representable _))
  | .onHeadersFlushed _ => inferInstanceAs (Decidable (Requested _ _))
  | .onChunkFlushed _ => inferInstanceAs (Decidable (Requested _ _))
  | .setClient => inferInstanceAs (Decidable True)
  | .onFileProgress .. => inferInstanceAs (Decidable True)
  | .timeoutExpired => inferInstanceAs (Decidable True)

open FileStreamConnection

namespace StreamRecord

variable {S : FileStreamSetup} {r : StreamRecord} {x : StreamInput}

/-- How far the answer of a recorded stream has got. -/
def Stage (S : FileStreamSetup) (r : StreamRecord) : Prop :=
  (r.state.Waits ∧ connectionMessages r.history = []) ∨ announced r.history ≠ none ∨
    (r.state.stopped = true ∧ ErrorResponse S (connectionMessages r.history))

theorem stage_start : Stage S (start S) :=
  Or.inl ⟨⟨⟨rfl, rfl, rfl, rfl⟩, rfl, (by decide : (-1 : Int) < 0)⟩, rfl⟩

theorem not_requested {h : List StreamEntry} (hh : connectionMessages h = [])
    (promise : WritePromise) : ¬ Requested h promise := by
  rintro ⟨m, hm, -⟩
  rw [hh] at hm
  cases hm

/-- A waiting stream that goes on waiting. -/
theorem stage_of_waits {s : FileStreamConnection} (hs : s.Waits) (hout : s.out = [])
    (hstep : r.state.step S x = s) (hh : connectionMessages r.history = []) : Stage S (r.step S x) := by
  refine Or.inl ⟨?_, ?_⟩
  · change (r.state.step S x).Waits
    rwa [hstep]
  · rw [connectionMessages_step, hh, hstep, hout]
    rfl

theorem stage_of_responds (h : Responds S { r.state with out := [] } (r.state.step S x))
    (hh : connectionMessages r.history = []) : Stage S (r.step S x) := by
  obtain ⟨k, hk, ⟨a, ha, hne⟩ | ⟨hstop, -, herror⟩⟩ := h
  · refine Or.inr (Or.inl fun hnone => hne ?_)
    refine List.findSome?_eq_none_iff.1 hnone _ ?_
    change _ ∈ r.history ++ .event x.event :: (r.state.step S x).out.map .action
    rw [hk]
    exact List.mem_append_right _ (List.mem_cons_of_mem _ (List.mem_map_of_mem ha))
  · refine Or.inr (Or.inr ⟨hstop, ?_⟩)
    rw [connectionMessages_step, hh, hk]
    exact herror

theorem stage_waiting (hs : r.state.Waits) (hh : connectionMessages r.history = [])
    (hx : Admissible r.history x.event) : Stage S (r.step S x) := by
  have hopen := hs.isOpen
  have ht : Waits { r.state with out := [] } :=
    ⟨⟨hopen.connection, hopen.readInFlight, hopen.finished, hopen.stopped⟩, hs.headersSent, hs.unsized⟩
  have hstep := FileStreamConnection.step_of_open (S := S) (x := x) hopen
  have hidle : ∀ {u : FileStreamConnection}, u.Waits → u.out = [] →
      { r.state with out := [] }.handle S x.io x.event = u → Stage S (r.step S x) := by
    intro u hu hout hhandle
    refine stage_of_waits hu hout ?_ hh
    rw [hstep, hhandle]
    unfold settle
    rw [if_neg (by simp [hu.isOpen.stopped])]
  have hanswer : Responds S { r.state with out := [] }
      ({ r.state with out := [] }.handle S x.io x.event) → Stage S (r.step S x) := by
    intro hr
    refine stage_of_responds ?_ hh
    rw [hstep]
    exact responds_settle hr
  obtain ⟨e, io⟩ := x
  cases e with
  | setClient =>
      exact hidle (u := { r.state with out := [], client := true })
        ⟨⟨hopen.connection, hopen.readInFlight, hopen.finished, hopen.stopped⟩, hs.headersSent,
          hs.unsized⟩ rfl rfl
  | onFileReady fileId totalSize progress => exact hanswer (responds_onFileReady io ht fileId hx progress)
  | onFileProgress size progress =>
      refine hidle ht rfl ?_
      change onFileProgress S io { r.state with out := [] } size progress = _
      unfold onFileProgress
      rw [if_pos (Or.inr hs.unsized)]
  | onHeadersFlushed result => exact absurd hx (not_requested hh _)
  | onChunkFlushed result => exact absurd hx (not_requested hh _)
  | onFileError error => exact hanswer (responds_onFileError ht hx)
  | timeoutExpired =>
      refine hanswer (responds_onFileError ht ?_)
      simp only
      split_ifs <;> decide

theorem stage_step (hr : Stage S r) (hx : Admissible r.history x.event) : Stage S (r.step S x) := by
  rcases hr with ⟨hs, hh⟩ | hannounced | ⟨hstop, herror⟩
  · exact stage_waiting hs hh hx
  · refine Or.inr (Or.inl ?_)
    unfold step
    simp only
    rw [StreamHistory.announced_append]
    obtain ⟨hc, hsome⟩ := Option.ne_none_iff_exists'.1 hannounced
    simp [hsome]
  · refine Or.inr (Or.inr ⟨?_, ?_⟩)
    · change (r.state.step S x).stopped = true
      rw [step_of_stopped hstop]
      exact hstop
    · rw [connectionMessages_step, step_of_stopped hstop]
      simpa [connectionActions] using herror

end StreamRecord

/-- A stream ends its exchange once. It sends at most one status line; until it stops nothing has ended
the exchange, and then its last message has; the timer stops every stream. A stream that stops without
having announced a success has answered with one complete error. Whatever part of its messages the
connection has taken, and whatever happened on the socket meanwhile, no assertion has failed. -/
theorem stream_exchange_once (S : FileStreamSetup) (inputs : List StreamInput) :
    let r := StreamRecord.run S inputs
    let l := connectionMessages r.history
    l.countP isStatusLine ≤ 1 ∧
      (r.state.stopped = true → Over l) ∧
      (r.state.stopped = false → (∀ m ∈ l, m.isEnding = false) ∧
        ∀ io, (StreamRecord.run S (inputs ++ [⟨.timeoutExpired, io⟩])).state.stopped = true) ∧
      (StepRun.AllSteps (StreamRecord.step S) (fun r x => Admissible r.history x.event)
          (StreamRecord.start S) inputs →
        r.state.stopped = true → announced r.history = none → ErrorResponse S l) ∧
      ∀ events : List ConnectionEvent, events.filterMap ConnectionEvent.received <+: l →
        (HttpConnectionBase.run events).crashed = false := by
  intro r l
  have hkept : StreamRecord.ExchangeKept r := StreamRecord.exchangeKept_run S inputs
  have honce : EndsOnce l := by
    rcases hkept with ⟨-, hno, -⟩ | ⟨-, hover, -⟩
    · exact endsOnce_of_unended hno
    · exact hover.endsOnce
  refine ⟨?_, fun hstop => ?_, fun hrun => ?_, fun hadm hstop hnone => ?_, fun events hstart => ?_⟩
  · rcases hkept with ⟨-, -, hcount⟩ | ⟨-, -, hcount⟩
    · exact hcount.trans_le r.state.headerCount_le
    · exact hcount
  · rcases hkept with ⟨hopen, -, -⟩ | ⟨-, hover, -⟩
    · cases hopen.stopped.symm.trans hstop
    · exact hover
  · rcases hkept with ⟨hopen, hno, -⟩ | ⟨hstop, -, -⟩
    · refine ⟨hno, fun io => ?_⟩
      unfold StreamRecord.run
      rw [StepRun.run_concat]
      exact stopped_of_timeout hopen io
    · cases hstop.symm.trans hrun
  · have hstage : StreamRecord.Stage S r := StepRun.run_invariant
      (fun _ _ hr hx => StreamRecord.stage_step hr hx) StreamRecord.stage_start hadm
    rcases hstage with ⟨hs, -⟩ | hannounced | ⟨-, herror⟩
    · cases hs.isOpen.stopped.symm.trans hstop
    · exact absurd hnone hannounced
    · exact herror
  · exact (HttpConnectionBase.run_kept events (honce.of_prefix hstart)).1

/-- A request for a file that does not exist is answered with status 404. -/
theorem stream_exchange_not_found :
    let S : FileStreamSetup := { streamId := 1, route := { token := [], fileId := [] } }
    let r := StreamRecord.run S
      [⟨.setClient, .ofBytes []⟩, ⟨.onFileError ⟨404, "Not Found"⟩, .ofBytes []⟩]
    r.state.stopped = true ∧ announced r.history = none ∧
      ErrorResponse S (connectionMessages r.history) := by
  intro S r
  have hstop : r.state.stopped = true := by decide +kernel
  have hnone : announced r.history = none := by decide +kernel
  exact ⟨hstop, hnone, (stream_exchange_once S _).2.2.2.1 (by decide +kernel) hstop hnone⟩

end TelegramBotApi
