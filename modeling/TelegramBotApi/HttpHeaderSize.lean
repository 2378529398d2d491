import TelegramBotApi.HttpHeader

/-!
# Headers that fit the buffer

`Ok sb n` says that the builder has taken everything so far, at most `n` bytes. A header whose pieces
add up to less than the limit of the buffer is therefore finished without an error. Decimal numbers
are as long as their size allows.
-/

namespace TelegramBotApi

theorem natText_length {n k : Nat} (hk : 0 < k) (h : n < 10 ^ k) : (toString n).toList.length ≤ k := by
  rw [Nat.toString_eq_repr, Nat.toList_repr]
  exact (Nat.length_toDigits_le_iff (by decide) hk).2 h

theorem intText_of_nonneg {z : Int} (hz : 0 ≤ z) : (toString z).toList = (toString z.toNat).toList := by
  obtain ⟨n, rfl⟩ := Int.eq_ofNat_of_zero_le hz
  rfl

theorem intText_length {z : Int} {k : Nat} (hk : 0 < k) (hz : 0 ≤ z) (h : z < 10 ^ k) :
    (toString z).toList.length ≤ k := by
  rw [intText_of_nonneg hz]
  refine natText_length hk ?_
  have hcast : ((10 ^ k : Nat) : Int) = 10 ^ k := by push_cast; rfl
  omega

namespace StringBuilder

variable {sb : StringBuilder} {n : Nat} {slice : Slice}

structure Ok (sb : StringBuilder) (n : Nat) : Prop where
  error : sb.error = false
  length : sb.text.length ≤ n

theorem Ok.mono {m : Nat} (h : Ok sb n) (hnm : n ≤ m) : Ok sb m := ⟨h.error, h.length.trans hnm⟩

theorem Ok.append (h : Ok sb n) (slice : Slice) (hlt : n + slice.length < limit) :
    Ok (sb.append slice) (n + slice.length) := by
  have hlen := h.length
  unfold StringBuilder.append
  rw [if_pos ⟨by omega, by omega⟩]
  refine ⟨h.error, ?_⟩
  simp only [List.length_append]
  omega

theorem Ok.appendShort (h : Ok sb n) (slice : Slice) (hlt : n < limit) :
    Ok (sb.appendShort slice) (n + slice.length) := by
  have hlen := h.length
  unfold StringBuilder.appendShort
  rw [if_pos (by omega)]
  refine ⟨h.error, ?_⟩
  simp only [List.length_append]
  omega

/-- The builder was given `n` bytes: it has them all, or it is behind its limit. -/
structure Sized (sb : StringBuilder) (n : Nat) : Prop where
  taken : n ≤ limit → sb.error = false ∧ sb.text.length = n
  refused : limit < n → sb.error = true ∨ limit < sb.text.length

theorem sized_empty : Sized {} 0 := ⟨fun _ => ⟨rfl, rfl⟩, fun h => absurd h (Nat.not_lt_zero _)⟩

theorem append_error (h : sb.error = true) (slice : Slice) : (sb.append slice).error = true := by
  unfold StringBuilder.append
  split_ifs
  · exact h
  · rfl
  · simp only
    split_ifs
    · rfl
    · exact h

/-- An append fails exactly behind the limit or at the end of the reserved tail. -/
theorem append_error_iff (h : sb.error = false) (slice : Slice) :
    (sb.append slice).error = true ↔ limit < sb.text.length ∨ limit + 29 < sb.text.length + slice.length := by
  have hreserved : reservedSize = 30 := rfl
  unfold StringBuilder.append
  simp only
  split_ifs with hfits hbehind hlong
  · rw [h]
    simp only [Bool.false_eq_true, false_iff]
    omega
  · simp only [true_iff]
    exact Or.inl hbehind
  · simp only [true_iff]
    omega
  · rw [h]
    simp only [Bool.false_eq_true, false_iff]
    omega

theorem append_length (h : (sb.append slice).error = false) :
    (sb.append slice).text.length = sb.text.length + slice.length := by
  unfold StringBuilder.append at h ⊢
  simp only at h ⊢
  split_ifs at h ⊢
  all_goals exact List.length_append

/-- Behind its limit a builder fails. -/
theorem Sized.append_error (h : Sized sb n) (hn : limit < n) (slice : Slice) :
    (sb.append slice).error = true := by
  rcases h.refused hn with herror | hlong
  · exact StringBuilder.append_error herror slice
  · cases herror : sb.error with
    | true => exact StringBuilder.append_error herror slice
    | false => exact (append_error_iff herror slice).2 (Or.inl hlong)

theorem Sized.append (h : Sized sb n) (slice : Slice) : Sized (sb.append slice) (n + slice.length) := by
  by_cases hn : n ≤ limit
  · obtain ⟨herror, hlen⟩ := h.taken hn
    have hiff := append_error_iff herror slice
    refine ⟨fun hle => ?_, fun hlt => ?_⟩
    · have hok : (sb.append slice).error = false := by
        rw [← Bool.not_eq_true, hiff]
        omega
      exact ⟨hok, by rw [append_length hok, hlen]⟩
    · by_cases hok : (sb.append slice).error = true
      · exact Or.inl hok
      · right
        rw [append_length (by simpa using hok), hlen]
        exact hlt
  · exact ⟨fun hle => absurd hle (by omega), fun _ => Or.inl (h.append_error (by omega) slice)⟩

/-- After the short last piece the builder is in error exactly if the pieces before it were too long. -/
theorem Sized.last (h : Sized sb n) (slice : Slice) (hshort : slice.length ≤ 29) :
    (sb.append slice).error = true ↔ limit < n := by
  by_cases hn : n ≤ limit
  · obtain ⟨herror, hlen⟩ := h.taken hn
    rw [append_error_iff herror, hlen]
    omega
  · exact iff_of_true (h.append_error (by omega) slice) (by omega)

end StringBuilder

namespace HttpHeaderCreator

open StringBuilder

theorem getStatusLine_length (code : Int) : (getStatusLine code).toList.length ≤ 31 := by
  unfold getStatusLine
  split <;> decide

theorem writeStatusLine_ok {hc : HttpHeaderCreator} {k : Nat}
    (hk : (toString hc.status).toList.length ≤ k) (hlt : k < 1000) :
    Ok hc.writeStatusLine (k + 43) := by
  have hline := getStatusLine_length hc.status
  have hlimit : limit = 4066 := rfl
  have hstart : Ok ({} : StringBuilder) 0 := ⟨rfl, le_rfl⟩
  have hhttp : "HTTP/1.1 ".toList.length = 9 := rfl
  have hend : "\r\n".toList.length = 2 := rfl
  have h₁ := hstart.append "HTTP/1.1 ".toList (by omega)
  have h₂ := h₁.appendShort (toString hc.status).toList (by omega)
  have h₃ := h₂.appendShort [' '] (by omega)
  have h₄ := h₃.append (getStatusLine hc.status).toList
    (by rw [List.length_singleton]; omega)
  have h₅ := h₄.append "\r\n".toList (by rw [List.length_singleton]; omega)
  refine Ok.mono h₅ ?_
  rw [List.length_singleton]
  omega

def fieldSize (field : String × String) : Nat := field.1.toList.length + field.2.toList.length + 4

theorem writeField_ok {sb : StringBuilder} {n : Nat} (h : Ok sb n) (field : String × String)
    (hlt : n + fieldSize field < limit) : Ok (writeField sb field) (n + fieldSize field) := by
  have hcolon : ": ".toList.length = 2 := rfl
  have hend : "\r\n".toList.length = 2 := rfl
  unfold fieldSize at hlt ⊢
  have h₁ := h.append field.1.toList (by omega)
  have h₂ := h₁.append ": ".toList (by omega)
  have h₃ := h₂.append field.2.toList (by omega)
  have h₄ := h₃.append "\r\n".toList (by omega)
  exact Ok.mono h₄ (by omega)

theorem writeField_sized {sb : StringBuilder} {n : Nat} (h : Sized sb n) (field : String × String) :
    Sized (writeField sb field) (n + fieldSize field) := by
  have hsize : n + fieldSize field =
      n + field.1.toList.length + ": ".toList.length + field.2.toList.length + "\r\n".toList.length := by
    have hcolon : ": ".toList.length = 2 := rfl
    have hend : "\r\n".toList.length = 2 := rfl
    unfold fieldSize
    omega
  rw [hsize]
  exact (((h.append _).append _).append _).append _

theorem writeFields_sized {sb : StringBuilder} {n : Nat} (h : Sized sb n)
    (fields : List (String × String)) :
    Sized (fields.foldl writeField sb) (n + (fields.map fieldSize).sum) := by
  induction fields generalizing sb n with
  | nil => exact h
  | cons field fields ih =>
      rw [List.map_cons, List.sum_cons, ← Nat.add_assoc]
      exact ih (writeField_sized h field)

theorem writeFields_ok {sb : StringBuilder} {n : Nat} (h : Ok sb n) (fields : List (String × String))
    (hlt : n + (fields.map fieldSize).sum < limit) :
    Ok (fields.foldl writeField sb) (n + (fields.map fieldSize).sum) := by
  induction fields generalizing sb n with
  | nil => exact h
  | cons field fields ih =>
      rw [List.map_cons, List.sum_cons] at hlt ⊢
      have h₁ := writeField_ok h field (by omega)
      have h₂ := ih h₁ (by omega)
      exact Ok.mono h₂ (by omega)

/-- A header with short fields is finished. -/
theorem finish_ok {hc : HttpHeaderCreator} {k : Nat} (hk : (toString hc.status).toList.length ≤ k)
    (hlt : k + 45 + (hc.fields.map fieldSize).sum < 1000) : ∃ text, hc.finish = .ok text := by
  have hlimit : limit = 4066 := rfl
  have hend : "\r\n".toList.length = 2 := rfl
  have h₁ := writeFields_ok (writeStatusLine_ok hk (by omega)) hc.fields (by omega)
  have h₂ := h₁.append "\r\n".toList (by omega)
  have herror : hc.build.error = false := h₂.error
  unfold finish
  rw [if_neg (by simp [herror])]
  exact ⟨_, rfl⟩

end HttpHeaderCreator

end TelegramBotApi
