import TelegramBotApi.SliceText

/-!
# The download cursor of a stream

`FileStreamCursor` tracks the part of the file that the response may read: the requested range
`[startOffset, endOffset]`, the next offset to send and the end of the downloaded prefix. Offsets
are `int64` values in the source; no operation below leaves that range on values that the checks
admit, so they are integers here.
-/

namespace TelegramBotApi

structure FileStreamCursor where
  totalSize : Int := -1
  startOffset : Int := 0
  endOffset : Int := -1
  nextOffset : Int := 0
  contiguousEnd : Int := 0
  deriving DecidableEq, Repr

namespace FileStreamCursor

def setRange (c : FileStreamCursor) (start stop : Int) : FileStreamCursor :=
  { c with startOffset := start, endOffset := stop, nextOffset := start }

def progressError : Status := ⟨500, "Inconsistent file download progress"⟩

def commitError : Status := ⟨500, "Out-of-order, duplicate, or incomplete file stream block"⟩

/-- The size checks of `update_progress`. -/
def Consistent (c : FileStreamCursor) (downloadOffset downloadedPrefixSize : Int) : Prop :=
  0 ≤ c.totalSize ∧ 0 ≤ downloadOffset ∧ 0 ≤ downloadedPrefixSize ∧
    downloadOffset ≤ c.totalSize ∧ downloadedPrefixSize ≤ c.totalSize - downloadOffset

instance (c : FileStreamCursor) (downloadOffset downloadedPrefixSize : Int) :
    Decidable (c.Consistent downloadOffset downloadedPrefixSize) :=
  inferInstanceAs (Decidable (_ ∧ _))

def openEndOffset (c : FileStreamCursor) : Int :=
  if c.endOffset < c.startOffset ∧ 0 < c.totalSize ∧ c.startOffset = 0 then c.totalSize - 1
  else c.endOffset

def grownContiguousEnd (c : FileStreamCursor) (downloadOffset downloadedPrefixSize : Int)
    (isCompleted : Bool) : Int :=
  let grown := if downloadOffset = 0 ∧ c.contiguousEnd < downloadedPrefixSize
    then downloadedPrefixSize else c.contiguousEnd
  if isCompleted ∧ downloadOffset = 0 ∧ downloadedPrefixSize = c.totalSize then c.totalSize
  else grown

def updateProgress (c : FileStreamCursor) (downloadOffset downloadedPrefixSize : Int)
    (isCompleted : Bool) : Except Status FileStreamCursor :=
  if c.Consistent downloadOffset downloadedPrefixSize then
    .ok { c with
      endOffset := c.openEndOffset
      contiguousEnd := c.grownContiguousEnd downloadOffset downloadedPrefixSize isCompleted }
  else .error progressError

def nextReadSize (c : FileStreamCursor) (chunkSize : Int) : Int :=
  if chunkSize ≤ 0 ∨ c.totalSize < 0 ∨ c.endOffset < c.startOffset ∨ c.endOffset < c.nextOffset ∨
      c.contiguousEnd ≤ c.nextOffset then 0
  else min chunkSize (min (c.contiguousEnd - c.nextOffset) (c.endOffset + 1 - c.nextOffset))

def commit (c : FileStreamCursor) (offset size : Int) : Except Status FileStreamCursor :=
  if offset ≠ c.nextOffset ∨ size ≤ 0 ∨ c.contiguousEnd - c.nextOffset < size ∨
      c.endOffset + 1 - c.nextOffset < size then .error commitError
  else .ok { c with nextOffset := c.nextOffset + size }

def isComplete (c : FileStreamCursor) : Bool :=
  c.totalSize = 0 ∨
    (0 < c.totalSize ∧ c.startOffset ≤ c.endOffset ∧ c.nextOffset = c.endOffset + 1)

variable {c c' : FileStreamCursor}

theorem updateProgress_ok {off size : Int} {done : Bool}
    (h : c.updateProgress off size done = .ok c') :
    c.Consistent off size ∧ c' = { c with
      endOffset := c.openEndOffset
      contiguousEnd := c.grownContiguousEnd off size done } := by
  unfold updateProgress at h
  split_ifs at h with hc
  exact ⟨hc, (Except.ok.inj h).symm⟩

/-- Progress never lowers the end of the downloaded prefix, which stays inside the file. -/
theorem grownContiguousEnd_bounds {off size : Int} (done : Bool) (hc : c.Consistent off size)
    (hle : c.contiguousEnd ≤ c.totalSize) :
    c.contiguousEnd ≤ c.grownContiguousEnd off size done ∧
      c.grownContiguousEnd off size done ≤ c.totalSize := by
  obtain ⟨h0, hoff, hsize, -, hfit⟩ := hc
  unfold grownContiguousEnd
  simp only
  split_ifs <;> omega

theorem grownContiguousEnd_le_max (c : FileStreamCursor) (off size : Int) (done : Bool) :
    c.grownContiguousEnd off size done ≤ max c.contiguousEnd size := by
  unfold grownContiguousEnd
  simp only
  split_ifs <;> omega

theorem openEndOffset_eq (h : c.startOffset ≤ c.endOffset ∨ c.totalSize = 0) :
    c.openEndOffset = c.endOffset := by
  unfold openEndOffset
  rw [if_neg (by omega)]

/-- A positive read size stays inside the downloaded prefix and the range, and within the chunk. -/
theorem nextReadSize_pos {chunk : Int} (h : 0 < c.nextReadSize chunk) :
    c.nextOffset + c.nextReadSize chunk ≤ c.contiguousEnd ∧
      c.nextOffset + c.nextReadSize chunk ≤ c.endOffset + 1 ∧
      c.nextReadSize chunk ≤ chunk := by
  unfold nextReadSize at h ⊢
  split_ifs at h ⊢ with hc
  · omega
  · omega

theorem nextReadSize_nonneg (c : FileStreamCursor) (chunk : Int) : 0 ≤ c.nextReadSize chunk := by
  unfold nextReadSize
  split_ifs with hc
  · exact Int.le_refl 0
  · omega

/-- The block handed out by `nextReadSize` is always accepted by `commit`. -/
theorem commit_ok {size : Int} (hpos : 0 < size) (hdown : c.nextOffset + size ≤ c.contiguousEnd)
    (hend : c.nextOffset + size ≤ c.endOffset + 1) :
    c.commit c.nextOffset size = .ok { c with nextOffset := c.nextOffset + size } := by
  unfold commit
  rw [if_neg (by omega)]

theorem commit_ok_iff {offset size : Int} :
    c.commit offset size = .ok c' ↔ offset = c.nextOffset ∧ 0 < size ∧
      c.nextOffset + size ≤ c.contiguousEnd ∧ c.nextOffset + size ≤ c.endOffset + 1 ∧
      c' = { c with nextOffset := c.nextOffset + size } := by
  unfold commit
  split_ifs with hc
  · simp only [false_iff]
    omega
  · simp only [Except.ok.injEq, eq_comm (a := c')]
    constructor
    · intro h
      exact ⟨by omega, by omega, by omega, by omega, h⟩
    · exact fun h => h.2.2.2.2

end FileStreamCursor

end TelegramBotApi
