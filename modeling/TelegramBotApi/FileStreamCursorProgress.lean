import TelegramBotApi.FileStreamCursor
import TelegramBotApi.StepRun
import Mathlib.Algebra.Order.Ring.Int
import Mathlib.Logic.Function.Iterate
import Mathlib.Order.Lattice

/-!
# The loop over the download cursor

A stream reads as much as the cursor hands out, commits it, and asks again. Download reports and commits
of any kind may come in between. As soon as the downloaded prefix reaches beyond the range, the number of
rounds that are left is the number of chunks in the rest of the range.
-/

namespace TelegramBotApi

namespace FileStreamCursor

inductive Move where
  | progress (downloadedPrefixSize : Int) (isCompleted : Bool)
  | commit (offset size : Int)

/-- Reports have offset 0 here. What fails changes nothing. -/
def move (c : FileStreamCursor) : Move → FileStreamCursor
  | .progress downloadedPrefixSize isCompleted =>
    match c.updateProgress 0 downloadedPrefixSize isCompleted with
    | .ok c' => c'
    | .error _ => c
  | .commit offset size =>
    match c.commit offset size with
    | .ok c' => c'
    | .error _ => c

/-- A round of the loop: the next block is read and committed. -/
def readCommit (chunkSize : Int) (c : FileStreamCursor) : FileStreamCursor :=
  c.move (.commit c.nextOffset (c.nextReadSize chunkSize))

def chunksLeft (c : FileStreamCursor) (chunkSize : Int) : Nat :=
  ((c.endOffset - c.nextOffset + 1 + (chunkSize - 1)) / chunkSize).toNat

/-- The cursor is at its range, and has not left it. -/
structure InRange (totalSize start stop : Int) (c : FileStreamCursor) : Prop where
  totalSize : c.totalSize = totalSize
  startOffset : c.startOffset = start
  endOffset : c.endOffset = stop
  start_le : start ≤ c.nextOffset
  next_le : c.nextOffset ≤ stop + 1

variable {c : FileStreamCursor} {totalSize start stop chunkSize : Int}

theorem inRange_setRange (totalSize : Int) (hle : start ≤ stop) :
    InRange totalSize start stop (({ totalSize := totalSize } : FileStreamCursor).setRange start stop) :=
  ⟨rfl, rfl, rfl, le_refl start, by change start ≤ stop + 1; omega⟩

theorem move_commit_ok {c' : FileStreamCursor} {offset size : Int} (h : c.commit offset size = .ok c') :
    c.move (.commit offset size) = c' := by
  simp only [FileStreamCursor.move, h]

theorem move_commit_error {e : Status} {offset size : Int} (h : c.commit offset size = .error e) :
    c.move (.commit offset size) = c := by
  simp only [FileStreamCursor.move, h]

theorem InRange.move (h : InRange totalSize start stop c) (hle : start ≤ stop) (m : Move) :
    InRange totalSize start stop (c.move m) := by
  cases m with
  | progress downloadedPrefixSize isCompleted =>
      rw [FileStreamCursor.move]
      split
      · rename_i c' hprogress
        obtain ⟨-, rfl⟩ := updateProgress_ok hprogress
        have hopen := openEndOffset_eq (c := c) (Or.inl (by rw [h.startOffset, h.endOffset]; exact hle))
        exact ⟨h.totalSize, h.startOffset, hopen.trans h.endOffset, h.start_le, h.next_le⟩
      · exact h
  | commit offset size =>
      cases hcommit : c.commit offset size with
      | error _ =>
          rw [move_commit_error hcommit]
          exact h
      | ok c' =>
          rw [move_commit_ok hcommit]
          obtain ⟨-, hpos, -, hend, rfl⟩ := commit_ok_iff.1 hcommit
          rw [h.endOffset] at hend
          have hstart := h.start_le
          exact ⟨h.totalSize, h.startOffset, h.endOffset, by change start ≤ _ + size; omega, hend⟩

theorem InRange.run (h : InRange totalSize start stop c) (hle : start ≤ stop) (moves : List Move) :
    InRange totalSize start stop (StepRun.run FileStreamCursor.move c moves) :=
  StepRun.run_invariant_always (fun _ m hs => hs.move hle m) h moves

theorem InRange.nextReadSize_eq (h : InRange totalSize start stop c) (hle : start ≤ stop) (htotal : 0 ≤ totalSize)
    (hchunk : 0 < chunkSize) :
    c.nextReadSize chunkSize = if c.nextOffset ≤ stop ∧ c.nextOffset < c.contiguousEnd then
      min chunkSize (min (c.contiguousEnd - c.nextOffset) (stop + 1 - c.nextOffset)) else 0 := by
  unfold nextReadSize
  rw [h.totalSize, h.startOffset, h.endOffset]
  split_ifs <;> first | rfl | omega

theorem InRange.nextReadSize_pos_iff (h : InRange totalSize start stop c) (hle : start ≤ stop) (htotal : 0 ≤ totalSize)
    (hchunk : 0 < chunkSize) :
    0 < c.nextReadSize chunkSize ↔ c.nextOffset ≤ stop ∧ c.nextOffset < c.contiguousEnd := by
  rw [h.nextReadSize_eq hle htotal hchunk]
  split_ifs <;> omega

theorem commit_nextReadSize (h : 0 < c.nextReadSize chunkSize) :
    c.commit c.nextOffset (c.nextReadSize chunkSize) =
      .ok { c with nextOffset := c.nextOffset + c.nextReadSize chunkSize } := by
  obtain ⟨hdown, hend, -⟩ := nextReadSize_pos h
  exact commit_ok h hdown hend

theorem commit_refused {offset size : Int} (hbad : offset ≠ c.nextOffset ∨ size ≤ 0 ∨
    c.contiguousEnd < offset + size ∨ c.endOffset + 1 < offset + size) : c.commit offset size = .error commitError := by
  cases hcommit : c.commit offset size with
  | ok c' =>
      obtain ⟨hoffset, hpos, hdown, hend, -⟩ := commit_ok_iff.1 hcommit
      omega
  | error error =>
      unfold commit at hcommit
      split_ifs at hcommit
      rw [← Except.error.inj hcommit]

/-- When the rest of the range is downloaded, a round commits a whole chunk or all that is left. -/
theorem InRange.readCommit_eq (h : InRange totalSize start stop c) (hle : start ≤ stop) (htotal : 0 ≤ totalSize)
    (hchunk : 0 < chunkSize) (hdown : stop < c.contiguousEnd) :
    c.readCommit chunkSize = { c with nextOffset := min (c.nextOffset + chunkSize) (stop + 1) } := by
  have hnext := h.next_le
  have hsize := h.nextReadSize_eq hle htotal hchunk
  unfold readCommit
  by_cases hrest : c.nextOffset ≤ stop
  · rw [if_pos ⟨hrest, by omega⟩] at hsize
    have hpos := (h.nextReadSize_pos_iff hle htotal hchunk).2 ⟨hrest, by omega⟩
    have hmin : c.nextOffset + c.nextReadSize chunkSize = min (c.nextOffset + chunkSize) (stop + 1) := by omega
    rw [move_commit_ok (commit_nextReadSize hpos), hmin]
  · rw [if_neg fun hc => hrest hc.1] at hsize
    have hmin : min (c.nextOffset + chunkSize) (stop + 1) = c.nextOffset := by omega
    rw [hsize, move_commit_error (commit_refused (Or.inr (Or.inl le_rfl))), hmin]

theorem InRange.iterate_readCommit (h : InRange totalSize start stop c) (hle : start ≤ stop) (htotal : 0 ≤ totalSize)
    (hchunk : 0 < chunkSize) (hdown : stop < c.contiguousEnd) (rounds : Nat) :
    (readCommit chunkSize)^[rounds] c =
      { c with nextOffset := min (c.nextOffset + rounds * chunkSize) (stop + 1) } := by
  induction rounds generalizing c with
  | zero =>
      have hnext := h.next_le
      have hmin : min (c.nextOffset + (0 : Nat) * chunkSize) (stop + 1) = c.nextOffset := by
        rw [Nat.cast_zero, zero_mul, add_zero]
        exact min_eq_left hnext
      rw [Function.iterate_zero, id, hmin]
  | succ rounds ih =>
      have hround := h.readCommit_eq hle htotal hchunk hdown
      have hin : InRange totalSize start stop (c.readCommit chunkSize) := h.move hle _
      have hdown' : stop < (c.readCommit chunkSize).contiguousEnd := by
        rw [hround]
        exact hdown
      have hmul : (0 : Int) ≤ rounds * chunkSize := mul_nonneg (Int.natCast_nonneg _) hchunk.le
      have hsum : ((rounds + 1 : Nat) : Int) * chunkSize = chunkSize + rounds * chunkSize := by
        rw [Nat.cast_add, Nat.cast_one, add_mul, one_mul, add_comm]
      rw [Function.iterate_succ_apply, ih hin hdown', hround, hsum]
      have hmin : min (min (c.nextOffset + chunkSize) (stop + 1) + rounds * chunkSize) (stop + 1) =
          min (c.nextOffset + (chunkSize + rounds * chunkSize)) (stop + 1) := by
        omega
      exact congrArg (fun next => { c with nextOffset := next }) hmin

theorem InRange.isComplete_iff (h : InRange totalSize start stop c) (hle : start ≤ stop) (htotal : 0 < totalSize) :
    c.isComplete = true ↔ c.nextOffset = stop + 1 := by
  unfold isComplete
  rw [h.totalSize, h.startOffset, h.endOffset, decide_eq_true_eq]
  omega

/-- The rounds before the last one end inside the range, and the last one at its end. -/
theorem chunksLeft_spec (hnext : c.nextOffset ≤ c.endOffset + 1) (hchunk : 0 < chunkSize) :
    c.endOffset + 1 ≤ c.nextOffset + c.chunksLeft chunkSize * chunkSize ∧
      ∀ rounds < c.chunksLeft chunkSize, c.nextOffset + rounds * chunkSize ≤ c.endOffset := by
  unfold chunksLeft
  generalize hleft : c.endOffset - c.nextOffset + 1 + (chunkSize - 1) = left
  have hquotient : 0 ≤ left / chunkSize := Int.ediv_nonneg (by omega) hchunk.le
  rw [Int.toNat_of_nonneg hquotient]
  constructor
  · have hlt := Int.lt_ediv_add_one_mul_self left hchunk
    rw [add_mul, one_mul] at hlt
    omega
  · intro rounds hrounds
    have hround : (rounds : Int) + 1 ≤ left / chunkSize := by omega
    have hle := Int.mul_le_of_le_ediv hchunk hround
    rw [add_mul, one_mul] at hle
    omega

theorem cursor_progress (totalSize start stop chunkSize : Int) (hstart : 0 ≤ start) (hle : start ≤ stop)
    (hstop : stop < totalSize) (hchunk : 0 < chunkSize) (moves : List Move) :
    let c := StepRun.run move (({ totalSize := totalSize } : FileStreamCursor).setRange start stop) moves
    (0 < c.nextReadSize chunkSize ↔ c.nextOffset ≤ stop ∧ c.nextOffset < c.contiguousEnd) ∧
    (0 < c.nextReadSize chunkSize → c.commit c.nextOffset (c.nextReadSize chunkSize) =
      .ok { c with nextOffset := c.nextOffset + c.nextReadSize chunkSize }) ∧
    (∀ offset size, offset ≠ c.nextOffset ∨ size ≤ 0 ∨ c.contiguousEnd < offset + size ∨ stop + 1 < offset + size →
      c.commit offset size = .error commitError ∧ c.move (.commit offset size) = c) ∧
    (stop < c.contiguousEnd →
      (∀ rounds < c.chunksLeft chunkSize, 0 < ((readCommit chunkSize)^[rounds] c).nextReadSize chunkSize ∧
        ((readCommit chunkSize)^[rounds] c).isComplete = false) ∧
      ((readCommit chunkSize)^[c.chunksLeft chunkSize] c).nextReadSize chunkSize = 0 ∧
      ((readCommit chunkSize)^[c.chunksLeft chunkSize] c).isComplete = true ∧
      ((readCommit chunkSize)^[c.chunksLeft chunkSize] c).nextOffset = stop + 1) := by
  intro c
  have htotal : 0 < totalSize := by omega
  have h : InRange totalSize start stop c := (inRange_setRange totalSize hle).run hle moves
  refine ⟨h.nextReadSize_pos_iff hle htotal.le hchunk, commit_nextReadSize, fun offset size hbad => ?_, fun hdown => ?_⟩
  · rw [← h.endOffset] at hbad
    have hrefused := commit_refused hbad
    exact ⟨hrefused, move_commit_error hrefused⟩
  · obtain ⟨hlast, hbefore⟩ := chunksLeft_spec (c := c) (by rw [h.endOffset]; exact h.next_le) hchunk
    rw [h.endOffset] at hlast hbefore
    have hround (rounds : Nat) : InRange totalSize start stop ((readCommit chunkSize)^[rounds] c) :=
      Function.Iterate.rec _ h (fun _ hc => hc.move hle _) rounds
    have hiterate := h.iterate_readCommit hle htotal.le hchunk hdown
    have hend : ((readCommit chunkSize)^[c.chunksLeft chunkSize] c).nextOffset = stop + 1 := by
      rw [hiterate]
      exact min_eq_right hlast
    refine ⟨fun rounds hrounds => ?_, ?_, ((hround _).isComplete_iff hle htotal).2 hend, hend⟩
    · have hinside := hbefore rounds hrounds
      have hoffset : ((readCommit chunkSize)^[rounds] c).nextOffset = c.nextOffset + rounds * chunkSize := by
        rw [hiterate]
        exact min_eq_left (by omega)
      have hcontiguous : ((readCommit chunkSize)^[rounds] c).contiguousEnd = c.contiguousEnd := by rw [hiterate]
      refine ⟨((hround rounds).nextReadSize_pos_iff hle htotal.le hchunk).2 ?_, eq_false_of_ne_true fun hcomplete => ?_⟩
      · rw [hoffset, hcontiguous]
        omega
      · have := ((hround rounds).isComplete_iff hle htotal).1 hcomplete
        omega
    · rw [(hround _).nextReadSize_eq hle htotal.le hchunk, if_neg]
      omega

/-- A range of ten bytes, in chunks of four, after the whole file was downloaded. -/
theorem cursor_progress_ten :
    let c := StepRun.run move (({ totalSize := 20 } : FileStreamCursor).setRange 5 14) [.progress 20 true]
    c.chunksLeft 4 = 3 ∧ ((readCommit 4)^[3] c).isComplete = true ∧ ((readCommit 4)^[3] c).nextOffset = 15 := by
  intro c
  have hchunks : c.chunksLeft 4 = 3 := by decide
  have hloop := (cursor_progress 20 5 14 4 (by decide) (by decide) (by decide) (by decide)
    [.progress 20 true]).2.2.2 (by decide)
  change _ ∧ _ ∧ ((readCommit 4)^[c.chunksLeft 4] c).isComplete = true ∧
    ((readCommit 4)^[c.chunksLeft 4] c).nextOffset = 15 at hloop
  rw [hchunks] at hloop
  exact ⟨hchunks, hloop.2.2⟩

end FileStreamCursor

end TelegramBotApi
