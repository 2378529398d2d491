import TelegramBotApi.SliceText

/-!
# The Range header of a stream request

`parseFileStreamRange` follows `parse_file_stream_range`: an empty header selects the whole file,
`bytes=first-last`, `bytes=first-` and `bytes=-length` select a part of it, and everything else is
refused with code 416.
-/

namespace TelegramBotApi

structure FileStreamRange where
  isPartial : Bool := false
  start : Int := 0
  stop : Int := -1
  deriving DecidableEq, Repr

namespace FileStreamRange

def notSatisfiable : Status := ⟨416, "Range Not Satisfiable"⟩

def parseSuffix (suffix : Slice) (totalSize : Int) : Except Status FileStreamRange :=
  match toIntegerSafe suffix with
  | none => .error notSatisfiable
  | some suffixSize =>
    if suffixSize ≤ 0 ∨ totalSize = 0 then .error notSatisfiable
    else .ok ⟨true, totalSize - min suffixSize totalSize, totalSize - 1⟩

def parseEnd (start : Int) (endValue : Slice) (totalSize : Int) :
    Except Status FileStreamRange :=
  if endValue = [] then .ok ⟨true, start, totalSize - 1⟩
  else match toIntegerSafe endValue with
    | none => .error notSatisfiable
    | some parsedEnd =>
      if parsedEnd < start then .error notSatisfiable
      else .ok ⟨true, start, min parsedEnd (totalSize - 1)⟩

def parseStart (startValue endValue : Slice) (totalSize : Int) : Except Status FileStreamRange :=
  match toIntegerSafe startValue with
  | none => .error notSatisfiable
  | some start =>
    if start < 0 ∨ totalSize ≤ start then .error notSatisfiable
    else parseEnd start endValue totalSize

/-- The part after `bytes=`, cut at its first dash. -/
def parseSpec (value : Slice) (totalSize : Int) : Except Status FileStreamRange :=
  if value = [] ∨ Slice.find value ',' ≠ none then .error notSatisfiable
  else match Slice.find value '-' with
    | none => .error notSatisfiable
    | some dashPos =>
      let startValue := Slice.trim (value.take dashPos)
      let endValue := Slice.trim (value.drop (dashPos + 1))
      if startValue = [] ∧ endValue = [] then .error notSatisfiable
      else if startValue = [] then parseSuffix endValue totalSize
      else parseStart startValue endValue totalSize

end FileStreamRange

open FileStreamRange in
def parseFileStreamRange (value : Slice) (totalSize : Int) : Except Status FileStreamRange :=
  if totalSize < 0 then .error notSatisfiable
  else
    let value := Slice.trim value
    if value = [] then .ok ⟨false, 0, totalSize - 1⟩
    else if ¬ Slice.beginsWith value "bytes=".toList then .error notSatisfiable
    else parseSpec (value.drop 6) totalSize

namespace FileStreamRange

/-- What every accepted range satisfies: it lies inside the file, and it is empty only for the
whole of an empty file. -/
def WellFormed (r : FileStreamRange) (totalSize : Int) : Prop :=
  0 ≤ totalSize ∧ 0 ≤ r.start ∧ r.start ≤ r.stop + 1 ∧ r.stop < totalSize ∧
    (totalSize = 0 → r = ⟨false, 0, -1⟩) ∧ (0 < totalSize → r.start ≤ r.stop)

instance (r : FileStreamRange) (totalSize : Int) : Decidable (r.WellFormed totalSize) :=
  inferInstanceAs (Decidable (_ ∧ _))

variable {r : FileStreamRange} {totalSize : Int}

theorem wellFormed_of_le {isPartial : Bool} {start stop : Int} (hlo : 0 ≤ start)
    (hle : start ≤ stop) (hhi : stop < totalSize) :
    WellFormed ⟨isPartial, start, stop⟩ totalSize :=
  ⟨by omega, hlo, Int.le_add_one hle, hhi, fun h => by omega, fun _ => hle⟩

theorem WellFormed.le_or_empty (h : r.WellFormed totalSize) :
    r.start ≤ r.stop ∨ totalSize = 0 := by
  by_cases hz : totalSize = 0
  · exact Or.inr hz
  · exact Or.inl (h.2.2.2.2.2 (by have := h.1; omega))

theorem parseSuffix_wellFormed {suffix : Slice} (hsize : 0 ≤ totalSize)
    (h : parseSuffix suffix totalSize = .ok r) : r.WellFormed totalSize := by
  unfold parseSuffix at h
  split at h
  · cases h
  · split_ifs at h with hc
    obtain rfl := Except.ok.inj h
    exact wellFormed_of_le (by omega) (by omega) (by omega)

theorem parseEnd_wellFormed {start : Int} {endValue : Slice} (hlo : 0 ≤ start)
    (hhi : start < totalSize) (h : parseEnd start endValue totalSize = .ok r) :
    r.WellFormed totalSize := by
  unfold parseEnd at h
  split_ifs at h with he
  · obtain rfl := Except.ok.inj h
    exact wellFormed_of_le hlo (by omega) (by omega)
  · split at h
    · cases h
    · split_ifs at h with hc
      obtain rfl := Except.ok.inj h
      exact wellFormed_of_le hlo (by omega) (by omega)

theorem parseStart_wellFormed {startValue endValue : Slice}
    (h : parseStart startValue endValue totalSize = .ok r) : r.WellFormed totalSize := by
  unfold parseStart at h
  split at h
  · cases h
  · split_ifs at h with hc
    exact parseEnd_wellFormed (by omega) (by omega) h

theorem parseSpec_wellFormed {value : Slice} (hsize : 0 ≤ totalSize)
    (h : parseSpec value totalSize = .ok r) : r.WellFormed totalSize := by
  unfold parseSpec at h
  split_ifs at h
  split at h
  · cases h
  · simp only at h
    split_ifs at h
    · exact parseSuffix_wellFormed hsize h
    · exact parseStart_wellFormed h

end FileStreamRange

theorem parseFileStreamRange_wellFormed {value : Slice} {totalSize : Int} {r : FileStreamRange}
    (h : parseFileStreamRange value totalSize = .ok r) : r.WellFormed totalSize := by
  unfold parseFileStreamRange at h
  simp only at h
  split_ifs at h with hneg hempty
  · obtain rfl := Except.ok.inj h
    by_cases hz : totalSize = 0
    · subst hz
      decide
    · exact FileStreamRange.wellFormed_of_le (Int.le_refl 0) (by omega) (by omega)
  · exact FileStreamRange.parseSpec_wellFormed (by omega) h

example : parseFileStreamRange "bytes=10-19".toList 100 = .ok ⟨true, 10, 19⟩ := by decide

example : parseFileStreamRange "bytes=20-10".toList 100 = .error FileStreamRange.notSatisfiable := by
  decide

end TelegramBotApi
