import TelegramBotApi.FileStreamHistory

/-!
# Byte-exact streaming

A GET stream hands out the requested range of the file block by block, each block only after the
previous one was acknowledged, and ends with `write_ok` only when the acknowledged blocks add up to
the announced length. The invariant distinguishes a stream that waits for its file, a stream that is
sending, and a stream that has ended; every handler moves between these phases.
-/

namespace TelegramBotApi

open StreamEntry StreamHistory

/-- Every earlier block was acknowledged when a block is handed out. -/
def AckedBefore (past : List StreamEntry) (x : StreamEntry) : Prop :=
  x.body.isSome → acks past = (bodies past).length

/-- `write_ok` after a success header comes when all announced bytes were acknowledged. -/
def CompleteBefore (past : List StreamEntry) (x : StreamEntry) : Prop :=
  x.ending = some .writeOk → ∀ hc, announced past = some hc →
    hc.contentLength = some (toString (bodySize past)) ∧ acks past = (bodies past).length

/-- The body blocks are consecutive reads that start at the requested range and stay inside it. -/
def InRange (S : FileStreamSetup) (h : List StreamEntry) : Prop :=
  match requestedRange S h with
  | none => bodies h = []
  | some r => ∃ hi, Blocks r.start (bodies h) hi ∧ hi ≤ r.stop + 1

/-- What a history of a GET stream satisfies; `R offset bytes` holds of every successful read. -/
structure Exact (S : FileStreamSetup) (R : Int → List UInt8 → Prop) (h : List StreamEntry) :
    Prop where
  inRange : InRange S h
  reads : ∀ b ∈ bodies h, R b.1 b.2
  acked : History.Each AckedBefore [] h
  complete : History.Each CompleteBefore [] h

namespace Exact

variable {S : FileStreamSetup} {R : Int → List UInt8 → Prop} {h k : List StreamEntry}

theorem append_of_no_body (hx : Exact S R h) (hbody : ∀ x ∈ k, x.body = none)
    (hready : ∀ x ∈ k, x.readySize = none)
    (hcomplete : History.Each CompleteBefore h k) : Exact S R (h ++ k) := by
  have hb : bodies (h ++ k) = bodies h := by rw [bodies_append, bodies_eq_nil hbody, List.append_nil]
  refine ⟨?_, ?_, ?_, ?_⟩
  · unfold InRange
    rw [requestedRange_append_of_none hready, hb]
    exact hx.inRange
  · rw [hb]
    exact hx.reads
  · apply History.each_append_of_forall hx.acked
    intro x hk past hsome
    rw [hbody x hk] at hsome
    cases hsome
  · rw [History.each_append]
    exact ⟨hx.complete, by simpa using hcomplete⟩

theorem append_neutral (hx : Exact S R h) (hk : ∀ x ∈ k, x.Neutral) : Exact S R (h ++ k) := by
  apply hx.append_of_no_body (fun x hx => (hk x hx).body) (fun x hx => (hk x hx).2.2.2)
  have hnone : History.Each CompleteBefore h (([] : List StreamEntry) ++ k) := by
    apply History.each_append_of_forall (History.each_nil h)
    intro x hx past hok
    rw [(hk x hx).2.1] at hok
    cases hok
  simpa using hnone

theorem append_event (hx : Exact S R h) (e : StreamEvent)
    (hone : ((StreamEntry.event e).readySize).isSome → h.findSome? readySize = none) :
    Exact S R (h ++ [.event e]) := by
  refine ⟨?_, by simpa using hx.reads, ?_, ?_⟩
  · unfold InRange
    rw [bodies_append_event]
    cases hr : (StreamEntry.event e).readySize with
    | none =>
        rw [requestedRange_append_of_none (by simpa using hr)]
        exact hx.inRange
    | some totalSize =>
        have hnone := hone (by simp [hr])
        have hbodies : bodies h = [] := by
          have := hx.inRange
          simpa only [InRange, requestedRange, hnone, Option.bind_none] using this
        rw [hbodies]
        cases hq : requestedRange S (h ++ [.event e]) with
        | none => rfl
        | some range =>
            obtain ⟨_, hwf⟩ := requestedRange_wellFormed hq
            exact ⟨range.start, rfl, hwf.2.2.1⟩
  · apply History.each_append_of_forall hx.acked
    intro x hmem past hsome
    rw [List.mem_singleton.1 hmem] at hsome
    cases hsome
  · apply History.each_append_of_forall hx.complete
    intro x hmem past hok
    rw [List.mem_singleton.1 hmem] at hok
    cases hok

end Exact

namespace FileStreamConnection

variable {S : FileStreamSetup} {R : Int → List UInt8 → Prop} {h : List StreamEntry}
  {s : FileStreamConnection} {io : FileAccess}

structure Silent (h : List StreamEntry) (s : FileStreamConnection) : Prop where
  isOpen : s.Open
  headersSent : s.headersSent = false
  idle : s.writeInFlight = false
  pending : s.pendingWriteSize = 0
  bodies : bodies h = []
  acks : acks h = 0
  announced : announced h = none
  endings : endings h = []

structure Awaiting (h : List StreamEntry) (s : FileStreamConnection) : Prop extends
    Silent h s where
  unready : h.findSome? readySize = none
  unsized : s.cursor.totalSize < 0
  undownloaded : s.cursor.contiguousEnd = 0

structure Sending (S : FileStreamSetup) (r : FileStreamRange) (h : List StreamEntry)
    (s : FileStreamConnection) : Prop where
  isOpen : s.Open
  headersSent : s.headersSent = true
  requested : requestedRange S h = some r
  wellFormed : r.WellFormed s.cursor.totalSize
  start : s.cursor.startOffset = r.start
  stop : s.cursor.endOffset = r.stop
  downloaded : s.cursor.contiguousEnd ≤ s.cursor.totalSize
  announced : ∃ hc, announced h = some hc ∧ hc.contentLength = some (toString s.contentSize.toNat)
  blocks : Blocks r.start (bodies h) (s.cursor.nextOffset + s.pendingWriteSize)
  bounded : s.cursor.nextOffset + s.pendingWriteSize ≤ r.stop + 1
  acks : acks h + (if s.writeInFlight then 1 else 0) = (bodies h).length
  pending : s.writeInFlight = true → s.pendingWriteOffset = s.cursor.nextOffset ∧
    0 < s.pendingWriteSize ∧ s.cursor.nextOffset + s.pendingWriteSize ≤ s.cursor.contiguousEnd
  idle : s.writeInFlight = false → s.pendingWriteSize = 0
  endings : endings h = []

structure Ended (h : List StreamEntry) (s : FileStreamConnection) : Prop where
  finished : s.finished = true
  stopped : s.stopped = true
  endings : ∃ m, endings h = [m]

def Phase (S : FileStreamSetup) (h : List StreamEntry) (s : FileStreamConnection) : Prop :=
  Awaiting h s ∨ (∃ r, Sending S r h s) ∨ Ended h s

def Good (S : FileStreamSetup) (R : Int → List UInt8 → Prop) (h : List StreamEntry)
    (s : FileStreamConnection) : Prop := Exact S R h ∧ Phase S h s

theorem good_ended (hx : Exact S R (hist h s)) (hend : endings (hist h s) = [])
    {k : List StreamAction} (hbody : ∀ a ∈ k, (StreamEntry.action a).body = none)
    (hone : ∃ m, endings (k.map StreamEntry.action) = [m])
    (hcomplete : History.Each CompleteBefore (hist h s) (k.map .action)) :
    Exact S R (hist h (s.ended k)) ∧ Ended (hist h (s.ended k)) (s.ended k) := by
  rw [hist_append (s := s) (t := s.ended k) rfl]
  constructor
  · apply hx.append_of_no_body
    · intro x hx
      obtain ⟨a, ha, rfl⟩ := List.mem_map.1 hx
      exact hbody a ha
    · intro x hx
      obtain ⟨a, ha, rfl⟩ := List.mem_map.1 hx
      rfl
    · exact hcomplete
  · refine ⟨rfl, rfl, ?_⟩
    rw [endings_append, hend]
    simpa using hone

theorem good_abort (hs : s.Open) (hx : Exact S R (hist h s)) (hend : endings (hist h s) = [])
    (error : Status) : Good S R (hist h (s.abort error)) (s.abort error) := by
  rw [abort_eq hs]
  obtain ⟨hx', he⟩ := good_ended (R := R) hx hend (k := [.send (.writeError error)])
    (by simp [body, buffer, StreamMessage.buffer]) ⟨_, rfl⟩ (by simp [CompleteBefore, ending])
  exact ⟨hx', Or.inr (Or.inr he)⟩

/-- An error response is never mistaken for an announced transfer. -/
theorem good_failActions {code : Int} (hcode : 400 ≤ code) {actions : List StreamAction}
    (hf : FailActions S code actions) (hx : Exact S R (hist h s))
    (hend : endings (hist h s) = []) (hann : announced (hist h s) = none) :
    Good S R (hist h (s.ended actions)) (s.ended actions) := by
  have hheader : ∀ hc : HttpHeaderCreator, hc.status = code → announced (hist h s ++
      [StreamEntry.action (.send (.writeNextNoflush (.header hc)))]) = none := by
    intro hc hstatus
    rw [announced_append, hann]
    simp only [announced, List.findSome?_cons, successHeader, buffer, StreamMessage.buffer]
    rw [if_neg (by omega)]
    rfl
  have hcontent : ∀ (hc : HttpHeaderCreator) (text : Slice), hc.status = code →
      announced (hist h s ++ [StreamEntry.action (.send (.writeNextNoflush (.header hc)))] ++
        [StreamEntry.action (.send (.writeNextNoflush (.content text)))]) = none := by
    intro hc text hstatus
    rw [announced_append, hheader hc hstatus]
    rfl
  have hpair : Exact S R (hist h (s.ended actions)) ∧
      Ended (hist h (s.ended actions)) (s.ended actions) := by
    cases hf with
    | refused error =>
        exact good_ended hx hend (by simp [body, buffer, StreamMessage.buffer]) ⟨_, rfl⟩
          (by simp [CompleteBefore, ending])
    | headOnly hc hstatus _ =>
        refine good_ended hx hend (by simp [body, buffer, StreamMessage.buffer]) ⟨_, rfl⟩ ?_
        simp only [List.map_cons, List.map_nil, History.each_cons, History.each_nil, and_true]
        refine ⟨by simp [CompleteBefore, ending], ?_⟩
        intro _ hc' hc'some
        rw [hheader hc hstatus] at hc'some
        cases hc'some
    | full hc text hstatus _ =>
        refine good_ended hx hend (by simp [body, buffer, StreamMessage.buffer]) ⟨_, rfl⟩ ?_
        simp only [List.map_cons, List.map_nil, History.each_cons, History.each_nil, and_true]
        refine ⟨by simp [CompleteBefore, ending], by simp [CompleteBefore, ending], ?_⟩
        intro _ hc' hc'some
        rw [hcontent hc text hstatus] at hc'some
        cases hc'some
  exact ⟨hpair.1, Or.inr (Or.inr hpair.2)⟩

theorem good_fail (hs : s.Open) (hh : s.headersSent = false) {code : Int} (hcode : 400 ≤ code)
    (message : String) (hx : Exact S R (hist h s)) (hend : endings (hist h s) = [])
    (hann : announced (hist h s) = none) :
    Good S R (hist h (s.fail S code message)) (s.fail S code message) := by
  obtain ⟨actions, heq, hf⟩ := fail_cases (S := S) hs hh code message
  rw [heq]
  exact good_failActions hcode hf hx hend hann

theorem Sending.append_neutral {r : FileStreamRange} {k : List StreamEntry}
    (hs : Sending S r h s) (hk : ∀ x ∈ k, x.Neutral) : Sending S r (h ++ k) s := by
  have hb : StreamHistory.bodies (h ++ k) = StreamHistory.bodies h := by
    rw [bodies_append, bodies_eq_nil (fun x hx => (hk x hx).body), List.append_nil]
  have ha : StreamHistory.acks (h ++ k) = StreamHistory.acks h := by
    rw [acks_append, acks_eq_zero (fun x hx => (hk x hx).2.2.1), Nat.add_zero]
  have hn : StreamHistory.announced (h ++ k) = StreamHistory.announced h := by
    rw [announced_append, announced_eq_none (fun x hx => (hk x hx).successHeader), Option.or_none]
  have he : StreamHistory.endings (h ++ k) = StreamHistory.endings h := by
    rw [endings_append, endings_eq_nil (fun x hx => (hk x hx).2.1), List.append_nil]
  exact { hs with
    requested := (requestedRange_append_of_none fun x hx => (hk x hx).2.2.2).trans hs.requested
    announced := hn.symm ▸ hs.announced
    blocks := hb.symm ▸ hs.blocks
    acks := by rw [hb, ha]; exact hs.acks
    endings := he.trans hs.endings }

/-- A complete cursor has sent exactly the announced number of bytes. -/
theorem Sending.bodySize_eq {r : FileStreamRange} (hs : Sending S r h s)
    (hc : s.cursor.isComplete = true) (hw : s.writeInFlight = false) :
    bodySize h = s.contentSize.toNat := by
  have hlen := hs.blocks.length_eq
  have hpend := hs.idle hw
  have hbound := hs.bounded
  obtain ⟨h0, hstart, hle, hlt, hempty, -⟩ := hs.wellFormed
  have hst := hs.start
  have hsp := hs.stop
  change (bodySize h : Int) = _ at hlen
  unfold contentSize
  split_ifs with hz
  · have hr := hempty hz
    have hs0 : r.start = 0 := by rw [hr]
    have hs1 : r.stop = -1 := by rw [hr]
    omega
  · simp only [FileStreamCursor.isComplete, hz, false_or, decide_eq_true_eq] at hc
    omega

theorem action_neutral_pread (path : Slice) (offset count : Int) :
    (StreamEntry.action (.pread path offset count)).Neutral := ⟨rfl, rfl, rfl, rfl⟩

theorem Sending.good_block {r : FileStreamRange} (hx : Exact S R (hist h s))
    (hs : Sending S r (hist h s) s) {path : Slice} {data : List UInt8}
    (hb : ReadsBlock S io s path data) (hR : R s.cursor.nextOffset data) :
    Good S R (hist h (blockSent S s path data)) (blockSent S s path data) := by
  have hpend := hs.idle hb.idle
  have hack := hs.acks
  have hpos := FileStreamCursor.nextReadSize_pos hb.available
  have hlen := hb.length
  have havail := hb.available
  have hstop := hs.stop
  have hne : data ≠ [] := by
    rintro rfl
    rw [List.length_nil] at hlen
    omega
  let entry : StreamEntry :=
    .action (.send (.writeNextWithPromise (.data s.cursor.nextOffset data) .onChunkFlushed))
  have hread : ∀ x ∈ [StreamEntry.action (preadNext S s path)], x.Neutral := by
    intro x hx
    rw [List.mem_singleton.1 hx]
    exact action_neutral_pread _ _ _
  have hx₁ := hx.append_neutral hread
  have hs₁ := hs.append_neutral hread
  have hhist : hist h (blockSent S s path data) =
      hist h s ++ [StreamEntry.action (preadNext S s path)] ++ [entry] := by
    simp [hist, blockSent, entry]
  rw [hhist]
  rw [if_neg (by simp [hb.idle]), Nat.add_zero] at hack
  generalize hist h s ++ [StreamEntry.action (preadNext S s path)] = g at hx₁ hs₁ ⊢
  have hack₁ := hs₁.acks
  rw [if_neg (by simp [hb.idle]), Nat.add_zero] at hack₁
  have hbodies : StreamHistory.bodies (g ++ [entry]) =
      StreamHistory.bodies g ++ [(s.cursor.nextOffset, data)] := by rw [bodies_append]; rfl
  have hrange : requestedRange S (g ++ [entry]) = requestedRange S g :=
    requestedRange_append_of_none (by simp [entry, readySize])
  have hblocks : Blocks r.start (StreamHistory.bodies (g ++ [entry]))
      (s.cursor.nextOffset + data.length) := by
    rw [hbodies]
    have := hs₁.blocks
    rw [hpend, Int.add_zero] at this
    exact this.concat hne
  constructor
  · refine ⟨?_, ?_, ?_, ?_⟩
    · unfold InRange
      rw [hrange, hs₁.requested]
      exact ⟨_, hblocks, by omega⟩
    · rw [hbodies]
      intro b hmem
      rcases List.mem_append.1 hmem with hold | hnew
      · exact hx₁.reads b hold
      · rw [List.mem_singleton.1 hnew]
        exact hR
    · rw [History.each_append]
      refine ⟨hx₁.acked, ?_, trivial⟩
      intro _
      simpa using hack₁
    · rw [History.each_append]
      refine ⟨hx₁.complete, ?_, trivial⟩
      intro hok
      cases hok
  · refine Or.inr (Or.inl ⟨r, ?_⟩)
    exact { hs₁ with
      isOpen := ⟨hs.isOpen.connection, hs.isOpen.readInFlight, hs.isOpen.finished, hs.isOpen.stopped⟩
      requested := hrange.trans hs₁.requested
      announced := by
        obtain ⟨hc, hann, hcl⟩ := hs₁.announced
        exact ⟨hc, by rw [announced_append, hann, Option.some_or], hcl⟩
      blocks := hblocks
      bounded := by change s.cursor.nextOffset + (data.length : Int) ≤ _; omega
      acks := by
        rw [acks_append, hbodies, List.length_append]
        change StreamHistory.acks g + 0 + 1 = _
        rw [hack₁]
        rfl
      pending := fun _ => ⟨rfl, by change 0 < (data.length : Int); omega, by
        change s.cursor.nextOffset + (data.length : Int) ≤ s.cursor.contiguousEnd
        omega⟩
      idle := fun hw => by cases hw
      endings := by rw [endings_append, hs₁.endings]; rfl }

/-- `try_read` keeps a sending stream exact. -/
theorem Sending.good_tryRead {r : FileStreamRange} (hx : Exact S R (hist h s))
    (hs : Sending S r (hist h s) s)
    (hio : ∀ path o n b, io.pread path o n = .ok b → (b.length : Int) = n → R o b) :
    Good S R (hist h (s.tryRead S io)) (s.tryRead S io) := by
  have hout := tryRead_outcome (S := S) io hs.isOpen
  generalize s.tryRead S io = t at hout ⊢
  cases hout with
  | waiting => exact ⟨hx, Or.inr (Or.inl ⟨r, hs⟩)⟩
  | complete hc hw =>
      have hsize := hs.bodySize_eq hc hw
      have hack := hs.acks
      rw [if_neg (by simp [hw]), Nat.add_zero] at hack
      obtain ⟨hx', he⟩ := good_ended hx hs.endings (k := [.send .writeOk])
        (by simp [body, buffer, StreamMessage.buffer]) ⟨_, rfl⟩ (by
          refine ⟨?_, trivial⟩
          intro _ hc' hann
          obtain ⟨hc₀, hann₀, hlen⟩ := hs.announced
          rw [hann₀, Option.some.injEq] at hann
          rw [← hann, hsize]
          exact ⟨hlen, hack⟩)
      exact ⟨hx', Or.inr (Or.inr ⟨he.1, he.2, he.3⟩)⟩
  | notOpened error =>
      obtain ⟨hx', he⟩ := good_ended hx hs.endings (k := [.send (.writeError error)])
        (by simp [body, buffer, StreamMessage.buffer]) ⟨_, rfl⟩ (by simp [CompleteBefore, ending])
      exact ⟨hx', Or.inr (Or.inr he)⟩
  | notRead path error _ =>
      obtain ⟨hx', he⟩ := good_ended (s := { s with localFile := some path }) hx hs.endings
        (k := [preadNext S s path, .send (.writeError error)])
        (by simp [body, buffer, StreamMessage.buffer, preadNext]) ⟨_, rfl⟩
        (by simp [CompleteBefore, ending, preadNext])
      exact ⟨hx', Or.inr (Or.inr he)⟩
  | short path _ =>
      have hread : ∀ x ∈ [StreamEntry.action (preadNext S s path)], x.Neutral := by
        intro x hx
        rw [List.mem_singleton.1 hx]
        exact action_neutral_pread _ _ _
      rw [hist_append (s := s) (k := [preadNext S s path]) rfl]
      exact ⟨hx.append_neutral hread, Or.inr (Or.inl ⟨r, { hs.append_neutral hread with
        isOpen := ⟨hs.isOpen.connection, hs.isOpen.readInFlight, hs.isOpen.finished,
          hs.isOpen.stopped⟩ }⟩)⟩
  | block path data hb =>
      exact hs.good_block hx hb (hio path _ _ data hb.read hb.length)

end FileStreamConnection

end TelegramBotApi
