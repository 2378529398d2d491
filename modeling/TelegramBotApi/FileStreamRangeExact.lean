import TelegramBotApi.FileStreamConnection
import Mathlib.Algebra.Order.Ring.Int
import Mathlib.Data.List.TakeWhile

/-!
# The ranges that a Range header selects

The headers that `parseFileStreamRange` accepts, described without its order of checks: numbers are
decimal forms without a sign or leading zeros, and white space is allowed around the header and around
each of the two parts.
-/

namespace TelegramBotApi

def decimal (n : Nat) : Slice := (toString n).toList

theorem decimal_ne_nil (n : Nat) : decimal n ≠ [] := natText_ne_nil n

theorem toInteger_range (str : Slice) : int64Min ≤ toInteger str ∧ toInteger str ≤ int64Max := by
  unfold toInteger int64Min int64Max
  dsimp only
  split_ifs <;> omega

theorem toInteger_decimal {n : Nat} (hn : n < 2 ^ 63) : toInteger (decimal n) = n := by
  have h : toInteger (toString (n : Int)).toList = n := toInteger_intText (by omega) (by omega)
  exact h

/-- The numbers that `to_integer_safe<int64>` reads, apart from negative ones. -/
theorem toIntegerSafe_eq_some_natCast {str : Slice} {n : Nat} :
    toIntegerSafe str = some (n : Int) ↔ str = decimal n ∧ n < 2 ^ 63 := by
  unfold toIntegerSafe
  dsimp only
  constructor
  · intro h
    split_ifs at h with htext
    have hvalue := Option.some.inj h
    have hrange := (toInteger_range str).2
    unfold int64Max at hrange
    rw [hvalue] at htext hrange
    exact ⟨htext.symm, by omega⟩
  · rintro ⟨rfl, hn⟩
    rw [toInteger_decimal hn]
    exact if_pos rfl

namespace FileStreamRange

/-- The header is `bytes=first-last`, up to white space around it. -/
def IsSpec (value first last : Slice) : Prop :=
  Slice.trim value = "bytes=".toList ++ (first ++ '-' :: last) ∧ ',' ∉ first ++ '-' :: last ∧ '-' ∉ first

inductive Selects (value : Slice) (totalSize : Int) : FileStreamRange → Prop
  | whole (hvalue : Slice.trim value = []) : Selects value totalSize ⟨false, 0, totalSize - 1⟩
  | suffix {first last : Slice} {n : Nat} (hspec : IsSpec value first last) (hfirst : Slice.trim first = [])
      (hlast : Slice.trim last = decimal n) (hpos : 1 ≤ n) (hn : n < 2 ^ 63) (htotal : 0 < totalSize) :
      Selects value totalSize ⟨true, totalSize - min (n : Int) totalSize, totalSize - 1⟩
  | openEnd {first last : Slice} {a : Nat} (hspec : IsSpec value first last) (hfirst : Slice.trim first = decimal a)
      (ha : (a : Int) < totalSize) (hlast : Slice.trim last = []) : Selects value totalSize ⟨true, a, totalSize - 1⟩
  | between {first last : Slice} {a b : Nat} (hspec : IsSpec value first last)
      (hfirst : Slice.trim first = decimal a) (ha : (a : Int) < totalSize) (hlast : Slice.trim last = decimal b)
      (hab : a ≤ b) (hb : b < 2 ^ 63) : Selects value totalSize ⟨true, a, min (b : Int) (totalSize - 1)⟩

variable {value first last : Slice} {totalSize : Int} {r : FileStreamRange}

theorem find_append {str : Slice} {c : Char} {rest : Slice} (h : c ∉ str) :
    Slice.find (str ++ c :: rest) c = some str.length := by
  unfold Slice.find
  rw [List.findIdx?_append, List.findIdx?_eq_none_iff.2 fun d hd => by
    rw [beq_eq_false_iff_ne]
    rintro rfl
    exact h hd]
  rw [List.findIdx?_cons, if_pos (beq_self_eq_true c), Option.none_or, Option.map_some, zero_add]

theorem find_eq_none_iff {str : Slice} {c : Char} : Slice.find str c = none ↔ c ∉ str := by
  unfold Slice.find
  rw [List.findIdx?_eq_none_iff]
  constructor
  · intro h hc
    have := h c hc
    rw [beq_self_eq_true] at this
    cases this
  · intro h d hd
    rw [beq_eq_false_iff_ne]
    rintro rfl
    exact h hd

/-- The first dash splits a specification. -/
theorem find_eq_some {str : Slice} {c : Char} {n : Nat} (h : Slice.find str c = some n) :
    str = str.take n ++ c :: str.drop (n + 1) ∧ c ∉ str.take n := by
  obtain ⟨hlt, hc, hbefore⟩ := List.findIdx?_eq_some_iff_getElem.1 h
  refine ⟨?_, fun hmem => ?_⟩
  · rw [← beq_iff_eq.1 hc, ← List.drop_eq_getElem_cons hlt, List.take_append_drop]
  · obtain ⟨i, hi, hget⟩ := List.mem_iff_getElem.1 hmem
    rw [List.length_take] at hi
    rw [List.getElem_take] at hget
    have hno := hbefore i (by omega)
    rw [hget, beq_self_eq_true] at hno
    exact hno rfl

theorem parseSuffix_ok_iff {suffix : Slice} (htotal : 0 ≤ totalSize) : parseSuffix suffix totalSize = .ok r ↔
    ∃ n : Nat, suffix = decimal n ∧ 1 ≤ n ∧ n < 2 ^ 63 ∧ 0 < totalSize ∧
      r = ⟨true, totalSize - min (n : Int) totalSize, totalSize - 1⟩ := by
  unfold parseSuffix
  constructor
  · intro h
    split at h
    · cases h
    · rename_i suffixSize hsuffix
      split_ifs at h with hbad
      obtain ⟨n, rfl⟩ := Int.eq_ofNat_of_zero_le (by omega : 0 ≤ suffixSize)
      obtain ⟨hdecimal, hn⟩ := toIntegerSafe_eq_some_natCast.1 hsuffix
      exact ⟨n, hdecimal, by omega, hn, by omega, (Except.ok.inj h).symm⟩
  · rintro ⟨n, hdecimal, hpos, hn, htotal', rfl⟩
    rw [toIntegerSafe_eq_some_natCast.2 ⟨hdecimal, hn⟩]
    exact if_neg (by omega)

theorem parseEnd_ok_iff {a : Nat} {endValue : Slice} : parseEnd a endValue totalSize = .ok r ↔
    endValue = [] ∧ r = ⟨true, a, totalSize - 1⟩ ∨
      ∃ b : Nat, endValue = decimal b ∧ a ≤ b ∧ b < 2 ^ 63 ∧ r = ⟨true, a, min (b : Int) (totalSize - 1)⟩ := by
  unfold parseEnd
  constructor
  · intro h
    split_ifs at h with hempty
    · exact Or.inl ⟨hempty, (Except.ok.inj h).symm⟩
    · split at h
      · cases h
      · rename_i parsedEnd hend
        split_ifs at h with hbad
        obtain ⟨b, rfl⟩ := Int.eq_ofNat_of_zero_le (by omega : 0 ≤ parsedEnd)
        obtain ⟨hdecimal, hb⟩ := toIntegerSafe_eq_some_natCast.1 hend
        exact Or.inr ⟨b, hdecimal, by omega, hb, (Except.ok.inj h).symm⟩
  · rintro (⟨hempty, rfl⟩ | ⟨b, hdecimal, hab, hb, rfl⟩)
    · exact if_pos hempty
    · rw [if_neg (by rw [hdecimal]; exact decimal_ne_nil b), toIntegerSafe_eq_some_natCast.2 ⟨hdecimal, hb⟩]
      exact if_neg (by omega)

theorem parseStart_ok_iff {startValue endValue : Slice} (htotal : totalSize ≤ int64Max) :
    parseStart startValue endValue totalSize = .ok r ↔
      ∃ a : Nat, startValue = decimal a ∧ (a : Int) < totalSize ∧ parseEnd a endValue totalSize = .ok r := by
  unfold parseStart
  constructor
  · intro h
    split at h
    · cases h
    · rename_i start hstart
      split_ifs at h with hbad
      obtain ⟨a, rfl⟩ := Int.eq_ofNat_of_zero_le (by omega : 0 ≤ start)
      exact ⟨a, (toIntegerSafe_eq_some_natCast.1 hstart).1, by omega, h⟩
  · rintro ⟨a, hdecimal, ha, h⟩
    unfold int64Max at htotal
    rw [toIntegerSafe_eq_some_natCast.2 ⟨hdecimal, by omega⟩]
    exact (if_neg (by omega)).trans h

theorem isSpec_iff {spec : Slice} (hvalue : Slice.trim value = "bytes=".toList ++ spec) :
    IsSpec value first last ↔ spec = first ++ '-' :: last ∧ ',' ∉ spec ∧ '-' ∉ first := by
  unfold IsSpec
  rw [hvalue, List.append_cancel_left_eq]
  constructor
  · rintro ⟨rfl, h⟩
    exact ⟨rfl, h⟩
  · rintro ⟨rfl, h⟩
    exact ⟨rfl, h⟩

/-- The two parts of a specification, once it is cut at its first dash. -/
theorem parseSpec_append (hcomma : ',' ∉ first ++ '-' :: last) (hdash : '-' ∉ first) :
    parseSpec (first ++ '-' :: last) totalSize =
      if Slice.trim first = [] ∧ Slice.trim last = [] then .error notSatisfiable
      else if Slice.trim first = [] then parseSuffix (Slice.trim last) totalSize
      else parseStart (Slice.trim first) (Slice.trim last) totalSize := by
  have hne : ¬ (first ++ '-' :: last = [] ∨ Slice.find (first ++ '-' :: last) ',' ≠ none) := by
    rintro (hnil | hfind)
    · exact absurd hnil (by simp)
    · exact hfind (find_eq_none_iff.2 hcomma)
  unfold parseSpec
  rw [if_neg hne, find_append hdash]
  dsimp only
  rw [List.take_left, ← List.drop_drop, List.drop_left, List.drop_one, List.tail_cons]

theorem parseSpec_ok_iff {spec : Slice} (h0 : 0 ≤ totalSize) (htotal : totalSize ≤ int64Max)
    (hvalue : Slice.trim value = "bytes=".toList ++ spec) :
    parseSpec spec totalSize = .ok r ↔ Selects value totalSize r := by
  have hne : Slice.trim value ≠ [] := by
    rw [hvalue]
    exact fun h => by cases h
  constructor
  · intro h
    have hparts : ∃ first last, spec = first ++ '-' :: last ∧ ',' ∉ spec ∧ '-' ∉ first := by
      unfold parseSpec at h
      split_ifs at h with hbad
      obtain ⟨-, hcomma⟩ := not_or.1 hbad
      split at h
      · cases h
      · rename_i dashPos hfind
        obtain ⟨hcut, hdash⟩ := find_eq_some hfind
        exact ⟨_, _, hcut, find_eq_none_iff.1 (not_not.1 hcomma), hdash⟩
    obtain ⟨first, last, rfl, hcomma, hdash⟩ := hparts
    have hspec : IsSpec value first last := (isSpec_iff hvalue).2 ⟨rfl, hcomma, hdash⟩
    rw [parseSpec_append hcomma hdash] at h
    split_ifs at h with hboth hfirst
    · obtain ⟨n, hlast, hpos, hn, hpositive, rfl⟩ := (parseSuffix_ok_iff h0).1 h
      exact .suffix hspec hfirst hlast hpos hn hpositive
    · obtain ⟨a, hstart, ha, hend⟩ := (parseStart_ok_iff htotal).1 h
      rcases parseEnd_ok_iff.1 hend with ⟨hlast, rfl⟩ | ⟨b, hlast, hab, hb, rfl⟩
      · exact .openEnd hspec hstart ha hlast
      · exact .between hspec hstart ha hlast hab hb
  · intro h
    cases h with
    | whole hempty => exact absurd hempty hne
    | suffix hspec hfirst hlast hpos hn hpositive =>
        obtain ⟨rfl, hcomma, hdash⟩ := (isSpec_iff hvalue).1 hspec
        rw [parseSpec_append hcomma hdash, if_neg (fun hc => decimal_ne_nil _ (hlast.symm.trans hc.2)), if_pos hfirst]
        exact (parseSuffix_ok_iff h0).2 ⟨_, hlast, hpos, hn, hpositive, rfl⟩
    | openEnd hspec hfirst ha hlast =>
        obtain ⟨rfl, hcomma, hdash⟩ := (isSpec_iff hvalue).1 hspec
        have hstart : Slice.trim _ ≠ [] := fun hc => decimal_ne_nil _ (hfirst.symm.trans hc)
        rw [parseSpec_append hcomma hdash, if_neg fun hc => hstart hc.1, if_neg hstart]
        exact (parseStart_ok_iff htotal).2 ⟨_, hfirst, ha, parseEnd_ok_iff.2 (Or.inl ⟨hlast, rfl⟩)⟩
    | between hspec hfirst ha hlast hab hb =>
        obtain ⟨rfl, hcomma, hdash⟩ := (isSpec_iff hvalue).1 hspec
        have hstart : Slice.trim _ ≠ [] := fun hc => decimal_ne_nil _ (hfirst.symm.trans hc)
        rw [parseSpec_append hcomma hdash, if_neg fun hc => hstart hc.1, if_neg hstart]
        exact (parseStart_ok_iff htotal).2 ⟨_, hfirst, ha, parseEnd_ok_iff.2 (Or.inr ⟨_, hlast, hab, hb, rfl⟩)⟩

theorem parseSuffix_error {suffix : Slice} {error : Status} (h : parseSuffix suffix totalSize = .error error) :
    error = notSatisfiable := by
  unfold parseSuffix at h
  split at h
  · exact (Except.error.inj h).symm
  · split_ifs at h
    exact (Except.error.inj h).symm

theorem parseStart_error {startValue endValue : Slice} {error : Status}
    (h : parseStart startValue endValue totalSize = .error error) : error = notSatisfiable := by
  unfold parseStart at h
  split at h
  · exact (Except.error.inj h).symm
  · split_ifs at h
    · exact (Except.error.inj h).symm
    · unfold parseEnd at h
      split_ifs at h
      split at h
      · exact (Except.error.inj h).symm
      · split_ifs at h
        exact (Except.error.inj h).symm

theorem parseSpec_error {spec : Slice} {error : Status} (h : parseSpec spec totalSize = .error error) :
    error = notSatisfiable := by
  unfold parseSpec at h
  split_ifs at h
  · exact (Except.error.inj h).symm
  · split at h
    · exact (Except.error.inj h).symm
    · dsimp only at h
      split_ifs at h
      · exact (Except.error.inj h).symm
      · exact parseSuffix_error h
      · exact parseStart_error h

theorem Selects.bounds (h : Selects value totalSize r) (hpart : r.isPartial = true) :
    0 ≤ r.start ∧ r.start ≤ r.stop ∧ r.stop < totalSize := by
  cases h with
  | whole => cases hpart
  | suffix _ _ _ hpos _ hpositive => exact ⟨by dsimp only; omega, by dsimp only; omega, by dsimp only; omega⟩
  | openEnd _ _ ha _ => exact ⟨by dsimp only; omega, by dsimp only; omega, by dsimp only; omega⟩
  | between _ _ ha _ hab _ => exact ⟨by dsimp only; omega, by dsimp only; omega, by dsimp only; omega⟩

end FileStreamRange

open FileStreamRange

theorem parseFileStreamRange_ok_iff {value : Slice} {totalSize : Int} {r : FileStreamRange} (h0 : 0 ≤ totalSize)
    (htotal : totalSize ≤ int64Max) : parseFileStreamRange value totalSize = .ok r ↔ Selects value totalSize r := by
  unfold parseFileStreamRange
  rw [if_neg (not_lt.2 h0)]
  dsimp only
  by_cases hempty : Slice.trim value = []
  · rw [if_pos hempty, Except.ok.injEq]
    constructor
    · rintro rfl
      exact .whole hempty
    · intro h
      cases h with
      | whole => rfl
      | suffix hspec => rw [hspec.1] at hempty; cases hempty
      | openEnd hspec => rw [hspec.1] at hempty; cases hempty
      | between hspec => rw [hspec.1] at hempty; cases hempty
  · rw [if_neg hempty]
    by_cases hbytes : Slice.beginsWith (Slice.trim value) "bytes=".toList = true
    · rw [if_neg (not_not.2 hbytes)]
      obtain ⟨spec, hspec⟩ := List.isPrefixOf_iff_prefix.1 hbytes
      rw [← hspec, show (6 : Nat) = "bytes=".toList.length from rfl, List.drop_left]
      exact parseSpec_ok_iff h0 htotal hspec.symm
    · rw [if_pos hbytes]
      refine iff_of_false (fun h => by cases h) fun h => hbytes (List.isPrefixOf_iff_prefix.2 ?_)
      cases h with
      | whole hnil => exact absurd hnil hempty
      | suffix hspec => exact ⟨_, hspec.1.symm⟩
      | openEnd hspec => exact ⟨_, hspec.1.symm⟩
      | between hspec => exact ⟨_, hspec.1.symm⟩

theorem parseFileStreamRange_error {value : Slice} {totalSize : Int} {error : Status}
    (h : parseFileStreamRange value totalSize = .error error) : error = notSatisfiable := by
  unfold parseFileStreamRange at h
  dsimp only at h
  split_ifs at h
  · exact (Except.error.inj h).symm
  · exact parseSpec_error h
  · exact (Except.error.inj h).symm

/-- The subtractions of `parse_file_stream_range` are `totalSize - 1` and, of a suffix, `totalSize - length`. -/
theorem range_header_exact (value : Slice) (totalSize : Int) (h0 : 0 ≤ totalSize) (htotal : totalSize ≤ int64Max) :
    (int64Min ≤ totalSize - 1 ∧ totalSize - 1 ≤ int64Max ∧ ∀ suffixSize, 1 ≤ suffixSize → suffixSize ≤ int64Max →
      int64Min ≤ totalSize - min suffixSize totalSize ∧ totalSize - min suffixSize totalSize ≤ int64Max) ∧
    (∀ r, parseFileStreamRange value totalSize = .ok r ↔ Selects value totalSize r) ∧
    ((∀ r, ¬ Selects value totalSize r) →
      parseFileStreamRange value totalSize = .error ⟨416, "Range Not Satisfiable"⟩) ∧
    ∀ r, parseFileStreamRange value totalSize = .ok r → r.isPartial = true →
      0 ≤ r.start ∧ r.start ≤ r.stop ∧ r.stop < totalSize ∧
      ∀ (S : FileStreamSetup) (s : FileStreamConnection), S.config.sizeMax = 2 ^ 64 - 1 →
        s.cursor.totalSize = totalSize → s.cursor.startOffset = r.start → s.cursor.endOffset = r.stop →
        s.contentSize = r.stop - r.start + 1 ∧ 0 < s.contentSize ∧ s.contentSize ≤ int64Max ∧
          (S.toSizeT s.contentSize : Int) = s.contentSize := by
  have hexact (r : FileStreamRange) : parseFileStreamRange value totalSize = .ok r ↔ Selects value totalSize r :=
    parseFileStreamRange_ok_iff h0 htotal
  unfold int64Max at htotal
  unfold int64Min int64Max
  refine ⟨⟨by omega, by omega, fun suffixSize _ _ => ⟨by omega, by omega⟩⟩, hexact, fun hnone => ?_, ?_⟩
  · cases hparse : parseFileStreamRange value totalSize with
    | error error => rw [parseFileStreamRange_error hparse]; rfl
    | ok r => exact absurd ((hexact r).1 hparse) (hnone r)
  · intro r hparse hpart
    obtain ⟨hstart, hle, hstop⟩ := ((hexact r).1 hparse).bounds hpart
    refine ⟨hstart, hle, hstop, fun S s hmax htotalSize hfirst hlast => ?_⟩
    have hsize : s.contentSize = r.stop - r.start + 1 := by
      unfold FileStreamConnection.contentSize
      rw [htotalSize, hfirst, hlast]
      exact if_neg (by omega)
    rw [hsize]
    unfold FileStreamSetup.toSizeT
    rw [hmax]
    exact ⟨rfl, by omega, by omega, by omega⟩

/-- The last bytes of a file of the largest size. -/
theorem range_header_exact_suffix :
    parseFileStreamRange "bytes= - 5 ".toList (2 ^ 63 - 1) = .ok ⟨true, 2 ^ 63 - 6, 2 ^ 63 - 2⟩ := by
  refine ((range_header_exact "bytes= - 5 ".toList (2 ^ 63 - 1) (by decide) (by decide)).2.1 _).2 ?_
  exact .suffix (n := 5) (⟨by decide, by decide, by decide⟩ : IsSpec _ " ".toList " 5".toList) (by decide)
    (by decide) (by decide) (by decide) (by decide)

end TelegramBotApi
