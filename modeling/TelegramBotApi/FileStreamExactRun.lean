import TelegramBotApi.FileStreamExact

/-!
# Byte-exact streaming along whole runs

Every handler of a GET stream keeps the invariant of `FileStreamExact`, so every finite sequence of
events does, in any order and with any results of the disk operations.
-/

namespace TelegramBotApi

open StreamEntry StreamHistory

namespace FileStreamConnection

variable {S : FileStreamSetup} {R : Int → List UInt8 → Prop} {h : List StreamEntry}
  {s : FileStreamConnection} {io : FileAccess} {r : FileStreamRange}

theorem good_followPath (hx : Exact S R (hist h s)) (hs : Sending S r (hist h s) s)
    (path : Slice) : Exact S R (hist h (s.followPath S path)) ∧
      Sending S r (hist h (s.followPath S path)) (s.followPath S path) := by
  rcases followPath_cases (S := S) s path with he | he
  · rw [he]
    exact ⟨hx, hs⟩
  · rw [he, hist_append (s := s) (k := pathActions S s path) rfl]
    exact ⟨hx.append_neutral (pathActions_neutral s path),
      { hs.append_neutral (pathActions_neutral s path) with
        isOpen := ⟨hs.isOpen.connection, hs.isOpen.readInFlight, hs.isOpen.finished,
          hs.isOpen.stopped⟩ }⟩

theorem good_continueDownload (hx : Exact S R (hist h s)) (hs : Sending S r (hist h s) s)
    (active : Bool)
    (hio : ∀ path o n b, io.pread path o n = .ok b → (b.length : Int) = n → R o b) :
    Good S R (hist h (s.continueDownload S io active)) (s.continueDownload S io active) := by
  unfold continueDownload
  split_ifs
  · exact good_abort hs.isOpen hx hs.endings _
  · exact good_abort hs.isOpen hx hs.endings _
  · exact hs.good_tryRead hx hio

theorem Sending.update (hs : Sending S r h s) {off size : Int} {done : Bool}
    {c : FileStreamCursor} (hc : s.cursor.updateProgress off size done = .ok c)
    (completed : Bool) :
    Sending S r h { s with cursor := c, downloadCompleted := completed } := by
  obtain ⟨hcons, rfl⟩ := FileStreamCursor.updateProgress_ok hc
  have hgrow := FileStreamCursor.grownContiguousEnd_bounds done hcons hs.downloaded
  have hend : s.cursor.openEndOffset = s.cursor.endOffset := by
    apply FileStreamCursor.openEndOffset_eq
    rw [hs.start, hs.stop]
    exact hs.wellFormed.le_or_empty
  exact { hs with
    isOpen := ⟨hs.isOpen.connection, hs.isOpen.readInFlight, hs.isOpen.finished, hs.isOpen.stopped⟩
    stop := hend.trans hs.stop
    downloaded := hgrow.2
    announced := by
      obtain ⟨hc, hann, hlen⟩ := hs.announced
      refine ⟨hc, hann, ?_⟩
      rw [hlen]
      simp only [contentSize, hend]
    pending := fun hw => by
      obtain ⟨ho, hp, hle⟩ := hs.pending hw
      exact ⟨ho, hp, Int.le_trans hle hgrow.1⟩ }

theorem good_onFileProgress (hx : Exact S R (hist h s)) (hs : Sending S r (hist h s) s)
    (size : Int) (progress : FileProgress)
    (hio : ∀ path o n b, io.pread path o n = .ok b → (b.length : Int) = n → R o b) :
    Good S R (hist h (s.onFileProgress S io size progress)) (s.onFileProgress S io size progress) := by
  unfold onFileProgress
  split_ifs
  · exact ⟨hx, Or.inr (Or.inl ⟨r, hs⟩)⟩
  · exact good_abort hs.isOpen hx hs.endings _
  · obtain ⟨hx₁, hs₁⟩ := good_followPath hx hs progress.localPath
    generalize s.followPath S progress.localPath = t at hx₁ hs₁ ⊢
    unfold applyProgress
    cases hc : t.cursor.updateProgress progress.downloadOffset progress.downloadedPrefixSize
        progress.isCompleted with
    | error status => exact good_abort hs₁.isOpen hx₁ hs₁.endings _
    | ok c =>
        refine good_continueDownload ?_ (hs₁.update hc _) _ hio
        exact hx₁

theorem Sending.commit (hs : Sending S r h s) (hw : s.writeInFlight = true) :
    ∃ c, s.cursor.commit s.pendingWriteOffset s.pendingWriteSize = .ok c ∧
      Sending S r (h ++ [.event (.onChunkFlushed (.ok ()))]) { s with
        writeInFlight := false
        pendingWriteOffset := -1
        pendingWriteSize := 0
        cursor := c
        firstByteSent := true } := by
  obtain ⟨ho, hp, hle⟩ := hs.pending hw
  have hbound := hs.bounded
  have hstop := hs.stop
  have hack := hs.acks
  refine ⟨_, by rw [ho]; exact FileStreamCursor.commit_ok hp hle (by omega), ?_⟩
  exact { hs with
    isOpen := ⟨hs.isOpen.connection, hs.isOpen.readInFlight, hs.isOpen.finished, hs.isOpen.stopped⟩
    requested := (requestedRange_append_of_none (by simp [readySize])).trans hs.requested
    announced := by
      obtain ⟨hc, hann, hlen⟩ := hs.announced
      exact ⟨hc, by rw [announced_append, hann, Option.some_or], hlen⟩
    blocks := by simpa using hs.blocks
    bounded := by simpa using hbound
    acks := by
      rw [bodies_append_event, ← hack, acks_append, if_pos hw]
      rfl
    pending := fun hf => by cases hf
    idle := fun _ => rfl
    endings := by simpa using hs.endings }

theorem good_onChunkFlushed (hx : Exact S R h) (hs : Sending S r h s) (hout : s.out = [])
    (result : Except Status Unit)
    (hio : ∀ path o n b, io.pread path o n = .ok b → (b.length : Int) = n → R o b) :
    Good S R (hist (h ++ [.event (.onChunkFlushed result)]) (s.onChunkFlushed S io result))
      (s.onChunkFlushed S io result) := by
  have hx₁ := hx.append_event (.onChunkFlushed result) (by simp [readySize])
  have hend : endings (h ++ [.event (.onChunkFlushed result)]) = [] := by simpa using hs.endings
  have habort : ∀ (t : FileStreamConnection) (error : Status), t.Open → t.out = [] →
      Good S R (hist (h ++ [.event (.onChunkFlushed result)]) (t.abort error)) (t.abort error) := by
    intro t error ht hto
    apply good_abort ht
    · simpa [hist, hto] using hx₁
    · simpa [hist, hto] using hend
  have hopen := hs.isOpen
  unfold onChunkFlushed
  simp only
  rw [if_neg (by simp [hopen.finished])]
  cases result with
  | error error =>
      exact habort _ error ⟨hopen.connection, hopen.readInFlight, hopen.finished, hopen.stopped⟩ hout
  | ok _ =>
      simp only
      cases hw : s.writeInFlight with
      | false =>
          have hpend := hs.idle hw
          have hcommit : s.cursor.commit s.pendingWriteOffset s.pendingWriteSize =
              .error FileStreamCursor.commitError := by
            unfold FileStreamCursor.commit
            rw [if_pos (by omega)]
          rw [hcommit]
          exact habort _ _ ⟨hopen.connection, hopen.readInFlight, hopen.finished, hopen.stopped⟩ hout
      | true =>
          obtain ⟨c, hc, hs₁⟩ := hs.commit hw
          rw [hc]
          simp only
          rw [if_pos hopen.connection]
          have htouch : ∀ x ∈ [StreamEntry.action (.send .touchActivity)], x.Neutral := by
            intro x hmem
            rw [List.mem_singleton.1 hmem]
            exact ⟨rfl, rfl, rfl, rfl⟩
          have hs₂ := hs₁.append_neutral htouch
          apply Sending.good_tryRead (r := r) _ _ hio
          · simpa [hist, send, emit, hout] using hx₁.append_neutral htouch
          · have : hist (h ++ [.event (.onChunkFlushed (.ok ()))]) ({ s with
                writeInFlight := false
                pendingWriteOffset := -1
                pendingWriteSize := 0
                cursor := c
                firstByteSent := true }.send .touchActivity) =
                h ++ [.event (.onChunkFlushed (.ok ()))] ++
                  [StreamEntry.action (.send .touchActivity)] := by
              simp [hist, send, emit, hout]
            rw [this]
            exact { hs₂ with
              isOpen := ⟨hopen.connection, hopen.readInFlight, hopen.finished, hopen.stopped⟩ }

theorem Silent.append {k : List StreamEntry} (hs : Silent h s)
    (hk : ∀ x ∈ k, x.buffer = none ∧ x.ending = none ∧ x.isAck = false) : Silent (h ++ k) s := by
  have hbody : ∀ x ∈ k, x.body = none := fun x hx => by
    unfold StreamEntry.body
    rw [(hk x hx).1]
  have hheader : ∀ x ∈ k, x.successHeader = none := fun x hx => by
    unfold StreamEntry.successHeader
    rw [(hk x hx).1]
  exact { hs with
    bodies := by rw [bodies_append, bodies_eq_nil hbody, hs.bodies]; rfl
    acks := by rw [acks_append, acks_eq_zero fun x hx => (hk x hx).2.2, hs.acks]
    announced := by rw [announced_append, announced_eq_none hheader, hs.announced]; rfl
    endings := by rw [endings_append, endings_eq_nil fun x hx => (hk x hx).2.1, hs.endings]; rfl }

theorem good_fail_of_silent (hx : Exact S R (hist h s)) (hs : Silent (hist h s) s) {code : Int}
    (hcode : 400 ≤ code) (message : String) :
    Good S R (hist h (s.fail S code message)) (s.fail S code message) :=
  good_fail hs.isOpen hs.headersSent hcode message hx hs.endings hs.announced

theorem responseHeader_contentLength (S : FileStreamSetup) (s : FileStreamConnection) :
    (s.responseHeader S).contentLength = some (toString (S.toSizeT s.contentSize)) := by
  unfold responseHeader HttpHeaderCreator.contentLength
  simp only
  split_ifs <;> rfl

theorem responseHeader_success (S : FileStreamSetup) (s : FileStreamConnection) :
    (s.responseHeader S).status = 200 ∨ (s.responseHeader S).status = 206 := by
  unfold responseHeader
  cases s.partialResponse with
  | false => exact Or.inl rfl
  | true => exact Or.inr rfl

structure Placed (S : FileStreamSetup) (r : FileStreamRange) (s : FileStreamConnection) : Prop where
  wellFormed : r.WellFormed s.cursor.totalSize
  start : s.cursor.startOffset = r.start
  stop : s.cursor.endOffset = r.stop
  next : s.cursor.nextOffset = r.start
  downloaded : s.cursor.contiguousEnd ≤ s.cursor.totalSize
  fits : s.cursor.totalSize ≤ S.config.sizeMax

theorem Placed.toSizeT_contentSize (hp : Placed S r s) :
    S.toSizeT s.contentSize = s.contentSize.toNat := by
  obtain ⟨h0, hstart, hle, hlt, -, -⟩ := hp.wellFormed
  have hs := hp.start
  have he := hp.stop
  have hfit := hp.fits
  unfold FileStreamSetup.toSizeT
  rw [Int.emod_eq_of_lt]
  · unfold contentSize
    split_ifs <;> omega
  · unfold contentSize
    split_ifs <;> omega

/-- The success header announces the length of the requested range. -/
theorem sendHeaders_cases (hx : Exact S R (hist h s)) (hs : Silent (hist h s) s)
    (hp : Placed S r s) (hr : requestedRange S (hist h s) = some r) :
    (Exact S R (hist h (s.sendHeaders S)) ∧
      Sending S r (hist h (s.sendHeaders S)) (s.sendHeaders S)) ∨
    (Good S R (hist h (s.sendHeaders S)) (s.sendHeaders S) ∧
      (s.sendHeaders S).finished = true) := by
  unfold sendHeaders
  rw [if_neg (by simp [hs.headersSent])]
  cases hf : (s.responseHeader S).finish with
  | error _ =>
      right
      refine ⟨good_fail_of_silent hx hs (by decide) _, ?_⟩
      obtain ⟨actions, he, -⟩ := fail_cases (S := S) hs.isOpen hs.headersSent 500
        "Failed to create streaming response headers"
      simp only [he]
      rfl
  | ok _ =>
      left
      let entry : StreamEntry :=
        .action (.send (.writeNextWithPromise (.header (s.responseHeader S)) .onHeadersFlushed))
      have hhist : hist h ({ s with headersSent := true }.send
          (.writeNextWithPromise (.header (s.responseHeader S)) .onHeadersFlushed)) =
          hist h s ++ [entry] := by simp [hist, send, emit, entry]
      have hrange : requestedRange S (hist h s ++ [entry]) = some r :=
        (requestedRange_append_of_none (by simp [entry, readySize])).trans hr
      have hbodies : StreamHistory.bodies (hist h s ++ [entry]) = [] := by
        rw [bodies_append, hs.bodies]
        rfl
      simp only
      rw [hhist]
      refine ⟨hx.append_of_no_body (by simp [entry, body, buffer, StreamMessage.buffer])
        (by simp [entry, readySize]) (by simp [entry, CompleteBefore, ending]), ?_⟩
      have hwf := hp.wellFormed
      have hnext := hp.next
      have hpend := hs.pending
      have hpz : s.cursor.nextOffset + s.pendingWriteSize = r.start := by omega
      exact {
        isOpen := ⟨hs.isOpen.connection, hs.isOpen.readInFlight, hs.isOpen.finished,
          hs.isOpen.stopped⟩
        headersSent := rfl
        requested := hrange
        wellFormed := hwf
        start := hp.start
        stop := hp.stop
        downloaded := hp.downloaded
        announced := by
          refine ⟨s.responseHeader S, ?_, ?_⟩
          · rw [announced_append, hs.announced, Option.none_or]
            simp only [StreamHistory.announced, List.findSome?_cons, entry, successHeader, buffer,
              StreamMessage.buffer]
            rw [if_pos (responseHeader_success S s)]
          · rw [responseHeader_contentLength, hp.toSizeT_contentSize]
            rfl
        blocks := by
          rw [hbodies]
          exact hpz.symm
        bounded := by
          change s.cursor.nextOffset + s.pendingWriteSize ≤ _
          rw [hpz]
          exact hwf.2.2.1
        acks := by
          rw [hbodies, acks_append, hs.acks]
          change (0 + 0 + if s.writeInFlight = true then 1 else 0) = 0
          rw [if_neg (by simp [hs.idle])]
        pending := fun hw => by
          change s.writeInFlight = true at hw
          rw [hs.idle] at hw
          cases hw
        idle := fun _ => hs.pending
        endings := by rw [endings_append, hs.endings]; rfl }

theorem tryRead_of_finished (hf : s.finished = true) : s.tryRead S io = s := by
  unfold tryRead
  rw [if_pos (Or.inl hf)]

theorem good_respond (hget : S.route.headOnly = false) (hx : Exact S R (hist h s))
    (hs : Silent (hist h s) s) (hp : Placed S r s) (hr : requestedRange S (hist h s) = some r)
    (hio : ∀ path o n b, io.pread path o n = .ok b → (b.length : Int) = n → R o b) :
    Good S R (hist h (s.respond S io)) (s.respond S io) := by
  unfold respond
  split_ifs with hbad hhead
  · exact good_fail_of_silent hx hs (by decide) _
  · rw [hget] at hhead
    cases hhead
  · rcases sendHeaders_cases hx hs hp hr with ⟨hx₁, hs₁⟩ | ⟨hgood, hfin⟩
    · exact hs₁.good_tryRead hx₁ hio
    · rwa [tryRead_of_finished hfin]

theorem Silent.congr {t : FileStreamConnection} (hs : Silent h s) (hopen : t.Open)
    (hheaders : t.headersSent = s.headersSent) (hw : t.writeInFlight = s.writeInFlight)
    (hpend : t.pendingWriteSize = s.pendingWriteSize) : Silent h t :=
  { hs with
    isOpen := hopen
    headersSent := hheaders.trans hs.headersSent
    idle := hw.trans hs.idle
    pending := hpend.trans hs.pending }

theorem good_beginDownload (hget : S.route.headOnly = false) (hx : Exact S R (hist h s))
    (hs : Silent (hist h s) s) (hp : Placed S r s) (hr : requestedRange S (hist h s) = some r)
    (progress : FileProgress)
    (hio : ∀ path o n b, io.pread path o n = .ok b → (b.length : Int) = n → R o b) :
    Good S R (hist h (s.beginDownload S io progress)) (s.beginDownload S io progress) := by
  unfold beginDownload
  cases hc : s.cursor.updateProgress progress.downloadOffset progress.downloadedPrefixSize
      progress.isCompleted with
  | error status => exact good_fail_of_silent hx hs (by decide) _
  | ok c =>
      obtain ⟨hcons, hceq⟩ := FileStreamCursor.updateProgress_ok hc
      have hgrow := FileStreamCursor.grownContiguousEnd_bounds progress.isCompleted hcons
        hp.downloaded
      have hend : s.cursor.openEndOffset = s.cursor.endOffset := by
        apply FileStreamCursor.openEndOffset_eq
        rw [hp.start, hp.stop]
        exact hp.wellFormed.le_or_empty
      have hs₁ : Silent (hist h s) { s with
          cursor := c
          downloadCompleted := progress.isCompleted } :=
        hs.congr ⟨hs.isOpen.connection, hs.isOpen.readInFlight, hs.isOpen.finished,
          hs.isOpen.stopped⟩ rfl rfl rfl
      have hp₁ : Placed S r { s with
          cursor := c
          downloadCompleted := progress.isCompleted } := by
        subst hceq
        exact ⟨hp.wellFormed, hp.start, hend.trans hp.stop, hp.next, hgrow.2, hp.fits⟩
      exact good_respond (s := { s with
          cursor := c
          downloadCompleted := progress.isCompleted }) (h := h) hget hx hs₁ hp₁ hr hio

theorem good_selectRange (hget : S.route.headOnly = false) (hx : Exact S R (hist h s))
    (hs : Silent (hist h s) s) (hdown : s.cursor.contiguousEnd = 0)
    (hfit : s.cursor.totalSize ≤ S.config.sizeMax)
    (hready : (hist h s).findSome? readySize = some s.cursor.totalSize) (progress : FileProgress)
    (hio : ∀ path o n b, io.pread path o n = .ok b → (b.length : Int) = n → R o b) :
    Good S R (hist h (s.selectRange S io s.cursor.totalSize progress))
      (s.selectRange S io s.cursor.totalSize progress) := by
  unfold selectRange
  cases hparse : parseFileStreamRange S.route.range s.cursor.totalSize with
  | error _ => exact good_fail_of_silent hx hs (by decide) _
  | ok r =>
      have hwf := parseFileStreamRange_wellFormed hparse
      have hr : requestedRange S (hist h s) = some r := by
        simp only [requestedRange, hready, Option.bind_some, hparse]
        rfl
      have hs₁ : Silent (hist h s) { s with
          partialResponse := r.isPartial
          cursor := s.cursor.setRange r.start r.stop } :=
        hs.congr ⟨hs.isOpen.connection, hs.isOpen.readInFlight, hs.isOpen.finished,
          hs.isOpen.stopped⟩ rfl rfl rfl
      have hdown₁ : s.cursor.contiguousEnd ≤ s.cursor.totalSize := by
        have := hwf.1
        omega
      have hp₁ : Placed S r { s with
          partialResponse := r.isPartial
          cursor := s.cursor.setRange r.start r.stop } :=
        ⟨hwf, rfl, rfl, rfl, hdown₁, hfit⟩
      exact good_beginDownload (s := { s with
          partialResponse := r.isPartial
          cursor := s.cursor.setRange r.start r.stop }) (h := h) hget hx hs₁ hp₁ hr progress hio

theorem good_acceptSize (hget : S.route.headOnly = false) (hx : Exact S R (hist h s))
    (hs : Silent (hist h s) s) (hdown : s.cursor.contiguousEnd = 0) {totalSize : Int}
    (hready : (hist h s).findSome? readySize = some totalSize) (progress : FileProgress)
    (hio : ∀ path o n b, io.pread path o n = .ok b → (b.length : Int) = n → R o b) :
    Good S R (hist h (s.acceptSize S io totalSize progress))
      (s.acceptSize S io totalSize progress) := by
  unfold acceptSize
  split_ifs with hbuild hmax
  · exact good_fail_of_silent hx hs (by decide) _
  · exact good_fail_of_silent hx hs (by decide) _
  · apply good_selectRange (s := { s with cursor := { s.cursor with totalSize := totalSize } })
      hget hx _ hdown (by simpa using hbuild) hready progress hio
    exact hs.congr ⟨hs.isOpen.connection, hs.isOpen.readInFlight, hs.isOpen.finished,
      hs.isOpen.stopped⟩ rfl rfl rfl

theorem good_onFileReady (hget : S.route.headOnly = false) (hx : Exact S R h)
    (hs : Awaiting h s) (hout : s.out = []) (fileId totalSize : Int) (progress : FileProgress)
    (hio : ∀ path o n b, io.pread path o n = .ok b → (b.length : Int) = n → R o b) :
    Good S R (hist (h ++ [.event (.onFileReady fileId totalSize progress)])
        (s.onFileReady S io fileId totalSize progress))
      (s.onFileReady S io fileId totalSize progress) := by
  have hx₁ := hx.append_event (.onFileReady fileId totalSize progress) (fun _ => hs.unready)
  have hs₁ : Silent (h ++ [.event (.onFileReady fileId totalSize progress)]) s :=
    hs.toSilent.append (by simp [buffer, ending, isAck])
  have hready₁ : (h ++ [StreamEntry.event (.onFileReady fileId totalSize progress)]).findSome?
      readySize = some totalSize := by
    rw [List.findSome?_append, hs.unready]
    rfl
  generalize h ++ [StreamEntry.event (.onFileReady fileId totalSize progress)] = g
    at hx₁ hs₁ hready₁ ⊢
  have hg : hist g s = g := by simp [hist, hout]
  have hopen := hs.isOpen
  unfold onFileReady
  rw [if_neg (by simp [hopen.finished])]
  split_ifs with hbad hpath
  · exact good_fail_of_silent (hg.symm ▸ hx₁) (hg.symm ▸ hs₁) (by decide) _
  · have hneutral := pathActions_neutral (S := S) { s with fileId := fileId } progress.localPath
    have hs₂ := hs₁.append (k := (pathActions S { s with fileId := fileId }
      progress.localPath).map .action) (fun x hx => ⟨(hneutral x hx).1, (hneutral x hx).2.1,
        (hneutral x hx).2.2.1⟩)
    simp only [setLocalPath_eq, hout, List.nil_append]
    exact good_acceptSize (h := g) (s := { s with
        fileId := fileId
        localPath := progress.localPath
        out := pathActions S { s with fileId := fileId } progress.localPath })
      hget (hx₁.append_neutral hneutral)
      (hs₂.congr ⟨hopen.connection, hopen.readInFlight, hopen.finished, hopen.stopped⟩ rfl rfl rfl)
      hs.undownloaded (by rw [hist, List.findSome?_append, hready₁, Option.some_or]) progress hio
  · apply good_acceptSize (s := { s with fileId := fileId }) hget _ _ hs.undownloaded _ progress hio
    · simpa [hist, hout] using hx₁
    · have := hs₁.congr (t := { s with fileId := fileId })
        ⟨hopen.connection, hopen.readInFlight, hopen.finished, hopen.stopped⟩ rfl rfl rfl
      simpa [hist, hout] using this
    · simpa [hist, hout] using hready₁

end FileStreamConnection

end TelegramBotApi
