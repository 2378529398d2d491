import TelegramBotApi.FileStreamExactRun

/-!
# Every run of a GET stream is byte exact

The handlers are put together into one step of the actor, and the step into whole runs. The only
assumption on the order of events is that a file becomes ready at most once.
-/

namespace TelegramBotApi

open StreamEntry StreamHistory

namespace FileStreamConnection

variable {S : FileStreamSetup} {R : Int → List UInt8 → Prop} {h : List StreamEntry}
  {s : FileStreamConnection} {io : FileAccess} {r : FileStreamRange}

theorem Awaiting.append_neutral {k : List StreamEntry} (hs : Awaiting h s)
    (hk : ∀ x ∈ k, x.Neutral) : Awaiting (h ++ k) s where
  toSilent := hs.toSilent.append fun x hx => ⟨(hk x hx).1, (hk x hx).2.1, (hk x hx).2.2.1⟩
  unready := by
    rw [List.findSome?_append, hs.unready, Option.none_or, List.findSome?_eq_none_iff]
    exact fun x hx => (hk x hx).2.2.2
  unsized := hs.unsized
  undownloaded := hs.undownloaded

/-- The phases in which a stream still handles events. -/
def Active (S : FileStreamSetup) (h : List StreamEntry) (s : FileStreamConnection) : Prop :=
  Awaiting h s ∨ ∃ r, Sending S r h s

namespace Active

theorem isOpen (ha : Active S h s) : s.Open := by
  rcases ha with hs | ⟨r, hs⟩
  · exact hs.isOpen
  · exact hs.isOpen

theorem endings (ha : Active S h s) : StreamHistory.endings h = [] := by
  rcases ha with hs | ⟨r, hs⟩
  · exact hs.endings
  · exact hs.endings

theorem announced_eq_none (ha : Active S h s) (hh : s.headersSent = false) :
    announced h = none := by
  rcases ha with hs | ⟨r, hs⟩
  · exact hs.announced
  · rw [hs.headersSent] at hh
    cases hh

theorem append_neutral {k : List StreamEntry} (ha : Active S h s) (hk : ∀ x ∈ k, x.Neutral) :
    Active S (h ++ k) s := by
  rcases ha with hs | ⟨r, hs⟩
  · exact Or.inl (hs.append_neutral hk)
  · exact Or.inr ⟨r, hs.append_neutral hk⟩

theorem setClient (ha : Active S h s) (client : Bool) (out : List StreamAction) :
    Active S h { s with client := client, out := out } := by
  obtain ⟨hconn, hread, hfin, hstop⟩ := ha.isOpen
  rcases ha with hs | ⟨r, hs⟩
  · exact Or.inl { hs with isOpen := ⟨hconn, hread, hfin, hstop⟩ }
  · exact Or.inr ⟨r, { hs with isOpen := ⟨hconn, hread, hfin, hstop⟩ }⟩

theorem good (hx : Exact S R h) (ha : Active S h s) : Good S R h s := by
  rcases ha with hs | hs
  · exact ⟨hx, Or.inl hs⟩
  · exact ⟨hx, Or.inr (Or.inl hs)⟩

end Active

theorem good_onFileError (hx : Exact S R (hist h s)) (ha : Active S (hist h s) s)
    (error : Status) : Good S R (hist h (s.onFileError S error)) (s.onFileError S error) := by
  have hopen := ha.isOpen
  rcases onFileError_cases (S := S) hopen error with ⟨-, he⟩ | ⟨code, actions, hcode, hh, he, hf⟩
  · rw [he, ← abort_eq hopen]
    exact good_abort hopen hx ha.endings error
  · rw [he]
    exact good_failActions hcode hf hx ha.endings (ha.announced_eq_none hh)

theorem good_onHeadersFlushed (hget : S.route.headOnly = false) (hx : Exact S R (hist h s))
    (ha : Active S (hist h s) s) (result : Except Status Unit) :
    Good S R (hist h (s.onHeadersFlushed S result)) (s.onHeadersFlushed S result) := by
  have hopen := ha.isOpen
  unfold onHeadersFlushed
  rw [if_neg (by simp [hopen.finished])]
  cases result with
  | error error => exact good_abort hopen hx ha.endings error
  | ok _ =>
      simp only
      rw [if_neg (by simp [hget])]
      exact ha.good hx

/-- A flush result for a block that was never handed out ends the stream. -/
theorem good_onChunkFlushed_of_awaiting (hx : Exact S R h) (hs : Awaiting h s) (hout : s.out = [])
    (result : Except Status Unit) :
    Good S R (hist (h ++ [.event (.onChunkFlushed result)]) (s.onChunkFlushed S io result))
      (s.onChunkFlushed S io result) := by
  have hx₁ := hx.append_event (.onChunkFlushed result) (by simp [readySize])
  have hopen := hs.isOpen
  have habort : ∀ (t : FileStreamConnection) (error : Status), t.Open → t.out = [] →
      Good S R (hist (h ++ [.event (.onChunkFlushed result)]) (t.abort error)) (t.abort error) := by
    intro t error ht hto
    apply good_abort ht
    · simpa [hist, hto] using hx₁
    · simpa [hist, hto] using hs.endings
  unfold onChunkFlushed
  simp only
  rw [if_neg (by simp [hopen.finished])]
  cases result with
  | error error =>
      exact habort _ error ⟨hopen.connection, hopen.readInFlight, hopen.finished, hopen.stopped⟩ hout
  | ok _ =>
      have hcommit : s.cursor.commit s.pendingWriteOffset s.pendingWriteSize =
          .error FileStreamCursor.commitError := by
        unfold FileStreamCursor.commit
        rw [hs.pending, if_pos (by omega)]
      simp only
      rw [hcommit]
      exact habort _ _ ⟨hopen.connection, hopen.readInFlight, hopen.finished, hopen.stopped⟩ hout

theorem good_handle (hget : S.route.headOnly = false) (hx : Exact S R h) (ha : Active S h s)
    (hout : s.out = []) (e : StreamEvent)
    (hone : ((StreamEntry.event e).readySize).isSome → h.findSome? readySize = none)
    (hio : ∀ path o n b, io.pread path o n = .ok b → (b.length : Int) = n → R o b) :
    Good S R (hist (h ++ [.event e]) (s.handle S io e)) (s.handle S io e) := by
  have hx₁ := hx.append_event e hone
  have hhist : hist (h ++ [.event e]) s = h ++ [.event e] := by simp [hist, hout]
  have hneutral : (StreamEntry.event e).Neutral → Active S (h ++ [.event e]) s := by
    intro hn
    exact ha.append_neutral fun x hx => by rwa [List.mem_singleton.1 hx]
  cases e with
  | setClient =>
      have ha₁ := (hneutral ⟨rfl, rfl, rfl, rfl⟩).setClient true s.out
      change Good S R (hist _ s) { s with client := true }
      rw [hhist]
      exact ha₁.good hx₁
  | onFileReady fileId totalSize progress =>
      have hunready := hone rfl
      rcases ha with hs | ⟨r, hs⟩
      · exact good_onFileReady hget hx hs hout fileId totalSize progress hio
      · have hreq := hs.requested
        rw [requestedRange, hunready] at hreq
        cases hreq
  | onFileProgress size progress =>
      have ha₁ := hneutral ⟨rfl, rfl, rfl, rfl⟩
      rw [← hhist] at hx₁ ha₁
      rcases ha₁ with hs | ⟨r, hs⟩
      · have hsame : s.onFileProgress S io size progress = s := by
          unfold onFileProgress
          rw [if_pos (Or.inr hs.unsized)]
        simp only [handle, hsame]
        exact ⟨hx₁, Or.inl hs⟩
      · exact good_onFileProgress hx₁ hs size progress hio
  | onHeadersFlushed result =>
      have ha₁ := hneutral ⟨rfl, rfl, rfl, rfl⟩
      rw [← hhist] at hx₁ ha₁
      exact good_onHeadersFlushed hget hx₁ ha₁ result
  | onChunkFlushed result =>
      rcases ha with hs | ⟨r, hs⟩
      · exact good_onChunkFlushed_of_awaiting hx hs hout result
      · exact good_onChunkFlushed hx hs hout result hio
  | onFileError error =>
      have ha₁ := hneutral ⟨rfl, rfl, rfl, rfl⟩
      rw [← hhist] at hx₁ ha₁
      exact good_onFileError hx₁ ha₁ error
  | timeoutExpired =>
      have ha₁ := hneutral ⟨rfl, rfl, rfl, rfl⟩
      rw [← hhist] at hx₁ ha₁
      exact good_onFileError hx₁ ha₁ _

theorem good_settle (hg : Good S R (hist h s) s) :
    Good S R (hist h (s.settle S)) (s.settle S) := by
  obtain ⟨hx, hph⟩ := hg
  unfold settle
  rcases hph with hs | ⟨r, hs⟩ | hs
  · rw [if_neg (by simp [hs.isOpen.stopped])]
    exact ⟨hx, Or.inl hs⟩
  · rw [if_neg (by simp [hs.isOpen.stopped])]
    exact ⟨hx, Or.inr (Or.inl ⟨r, hs⟩)⟩
  · have hneutral := tearDownActions_neutral (S := S) s
    rw [if_pos hs.stopped, tearDown_eq]
    rw [hist_append (s := s) (k := tearDownActions S s) rfl]
    refine ⟨hx.append_neutral hneutral, Or.inr (Or.inr ⟨hs.finished, hs.stopped, ?_⟩)⟩
    rw [endings_append, endings_eq_nil (fun x hx => (hneutral x hx).2.1), List.append_nil]
    exact hs.endings

end FileStreamConnection

open FileStreamConnection

namespace StreamRecord

variable {S : FileStreamSetup} {R : Int → List UInt8 → Prop} {x : StreamInput}

theorem good_step {r : StreamRecord} (hget : S.route.headOnly = false)
    (hg : Good S R r.history r.state)
    (hone : ((StreamEntry.event x.event).readySize).isSome → r.history.findSome? readySize = none)
    (hio : ∀ path o n b, x.io.pread path o n = .ok b → (b.length : Int) = n → R o b) :
    Good S R (r.step S x).history (r.step S x).state := by
  rw [step_history]
  obtain ⟨hx, hph⟩ := hg
  have hactive : Active S r.history r.state → Good S R
      (hist (r.history ++ [.event x.event]) (r.state.step S x)) (r.state.step S x) := by
    intro ha
    rw [step_of_open ha.isOpen]
    exact good_settle (good_handle hget hx (ha.setClient r.state.client []) rfl x.event hone hio)
  rcases hph with hs | hs | hs
  · exact hactive (Or.inl hs)
  · exact hactive (Or.inr hs)
  · change Good S R (hist (r.history ++ [.event x.event]) (r.state.step S x)) (r.state.step S x)
    rw [step_of_stopped hs.stopped]
    have hhist : hist (r.history ++ [.event x.event]) { r.state with out := [] } =
        r.history ++ [.event x.event] := by simp [hist]
    rw [hhist]
    exact ⟨hx.append_event x.event hone,
      Or.inr (Or.inr ⟨hs.finished, hs.stopped, by simpa using hs.endings⟩)⟩

theorem good_start : Good S R (start S).history (start S).state := by
  refine ⟨⟨rfl, by simp [start, startUp, send, emit, bodies, body, buffer, StreamMessage.buffer],
    ?_, ?_⟩, Or.inl ?_⟩
  · simp [start, startUp, send, emit, AckedBefore, body, buffer, StreamMessage.buffer]
  · simp [start, startUp, send, emit, CompleteBefore, ending]
  · exact {
      isOpen := ⟨rfl, rfl, rfl, rfl⟩
      headersSent := rfl
      idle := rfl
      pending := rfl
      bodies := rfl
      acks := rfl
      announced := rfl
      endings := rfl
      unready := rfl
      unsized := (by decide : (-1 : Int) < 0)
      undownloaded := rfl }

def isReady (x : StreamInput) : Bool := ((StreamEntry.event x.event).readySize).isSome

theorem readySize_action (actions : List StreamAction) :
    (actions.map StreamEntry.action).findSome? readySize = none := by
  rw [List.findSome?_eq_none_iff]
  intro y hy
  obtain ⟨a, -, rfl⟩ := List.mem_map.1 hy
  rfl

/-- The file is ready in the record exactly when some input said so. -/
theorem unready_run (S : FileStreamSetup) {inputs : List StreamInput}
    (h0 : inputs.countP isReady = 0) : (run S inputs).history.findSome? readySize = none := by
  induction inputs using List.reverseRecOn with
  | nil => exact readySize_action _
  | append_singleton inputs x ih =>
      rw [List.countP_append, List.countP_singleton] at h0
      have hx : isReady x = false := by
        by_contra hc
        simp [hc] at h0
      have hrest : inputs.countP isReady = 0 := by omega
      have hstep : (run S (inputs ++ [x])).history = (run S inputs).history ++
          .event x.event :: ((run S inputs).state.step S x).out.map .action := by
        rw [run, StepRun.run_concat]
        rfl
      rw [hstep, List.findSome?_append, ih hrest, Option.none_or, List.findSome?_cons]
      unfold isReady at hx
      rw [Option.isSome_eq_false_iff, Option.isNone_iff_eq_none] at hx
      rw [hx]
      exact readySize_action _

theorem good_run (hget : S.route.headOnly = false) {inputs : List StreamInput}
    (hone : inputs.countP isReady ≤ 1)
    (hio : ∀ x ∈ inputs, ∀ path o n b, x.io.pread path o n = .ok b → (b.length : Int) = n → R o b) :
    Good S R (run S inputs).history (run S inputs).state := by
  induction inputs using List.reverseRecOn with
  | nil => exact good_start
  | append_singleton inputs x ih =>
      rw [List.countP_append, List.countP_singleton] at hone
      have hg := ih (by omega) fun y hy => hio y (by simp [hy])
      rw [run, StepRun.run_concat]
      refine good_step hget hg ?_ (hio x (by simp))
      intro hready
      apply unready_run
      have hx : isReady x = true := hready
      simp only [hx, if_true] at hone
      omega

end StreamRecord

/-- The bytes `[offset, offset + count)` of a file. -/
def slice (content : Int → UInt8) (offset : Int) (count : Nat) : List UInt8 :=
  (List.range count).map fun i : Nat => content (offset + i)

/-- Byte-exact streaming of a GET request, for every order of events: the body blocks are reads at
consecutive offsets inside the requested range, each one handed out after the previous one was
acknowledged; `write_ok` after a success header means that the acknowledged blocks add up to the
announced length; a stream that ends sends exactly one of `write_ok` and `write_error`; and if all
reads come from one file, the response body is the corresponding part of it. -/
theorem fileStream_byteExact (S : FileStreamSetup) (hget : S.route.headOnly = false)
    (inputs : List StreamInput) (hone : inputs.countP StreamRecord.isReady ≤ 1) :
    let h := (StreamRecord.run S inputs).history
    InRange S h ∧
    (∀ b ∈ bodies h, ∃ x ∈ inputs, ∃ path, x.io.pread path b.1 b.2.length = .ok b.2) ∧
    History.Each AckedBefore [] h ∧
    History.Each CompleteBefore [] h ∧
    (if (StreamRecord.run S inputs).state.finished then
      ∃ m, endings h = [m] ∧ (m = .writeOk ∨ ∃ error, m = .writeError error)
    else endings h = []) ∧
    (∀ content : Int → UInt8,
      (∀ x ∈ inputs, ∀ path o (n : Nat) b, x.io.pread path o n = .ok b → b.length = n →
        b = slice content o n) →
      ∀ range, requestedRange S h = some range →
        (bodies h).flatMap (fun b => b.2) = slice content range.start (bodySize h)) := by
  have hg := StreamRecord.good_run (S := S)
    (R := fun o b => ∃ x ∈ inputs, ∃ path, x.io.pread path o b.length = .ok b) hget hone (by
      intro x hx path o n b hread hlen
      exact ⟨x, hx, path, hlen.symm ▸ hread⟩)
  obtain ⟨hx, hph⟩ := hg
  refine ⟨hx.inRange, hx.reads, hx.acked, hx.complete, ?_, ?_⟩
  · rcases hph with hs | ⟨r, hs⟩ | hs
    · rw [if_neg (by simp [hs.isOpen.finished])]
      exact hs.endings
    · rw [if_neg (by simp [hs.isOpen.finished])]
      exact hs.endings
    · rw [if_pos hs.finished]
      obtain ⟨m, hm⟩ := hs.endings
      exact ⟨m, hm, endings_mem (hm ▸ List.mem_singleton_self m)⟩
  · intro content hfile range hrange
    have hin := hx.inRange
    unfold InRange at hin
    rw [hrange] at hin
    obtain ⟨hi, hblocks, -⟩ := hin
    apply hblocks.flatMap_eq
    intro b hb
    obtain ⟨x, hxin, path, hread⟩ := hx.reads b hb
    exact hfile x hxin path b.1 b.2.length b.2 hread rfl

/-- A four-byte file that is complete when the stream starts, sent in blocks of two bytes. -/
theorem fileStream_byteExact_twoBlocks :
    let S : FileStreamSetup :=
      { streamId := 1, route := { token := [], fileId := [] }, config := { chunkSize := 2 } }
    let io := FileAccess.ofBytes [10, 20, 30, 40]
    let inputs : List StreamInput := [⟨.setClient, io⟩,
      ⟨.onFileReady 7 4 { localPath := ['f'], downloadedPrefixSize := 4, isCompleted := true }, io⟩,
      ⟨.onHeadersFlushed (.ok ()), io⟩, ⟨.onChunkFlushed (.ok ()), io⟩, ⟨.onChunkFlushed (.ok ()), io⟩]
    let h := (StreamRecord.run S inputs).history
    bodies h = [(0, [10, 20]), (2, [30, 40])] ∧ endings h = [.writeOk] ∧
      InRange S h ∧ History.Each AckedBefore [] h ∧ History.Each CompleteBefore [] h := by
  intro S io inputs h
  obtain ⟨hrange, -, hacked, hcomplete, -⟩ := fileStream_byteExact S rfl inputs (by decide)
  exact ⟨by decide +kernel, by decide +kernel, hrange, hacked, hcomplete⟩

end TelegramBotApi
