import TelegramBotApi.Binlog

/-!
# Loading a binlog

A file of whole events, followed by a part of one more, is loaded event by event, however the reads cut
it, and the part is cut off. What the loaded events are is a log of records.
-/

namespace TelegramBotApi

open LittleEndian

namespace BinlogEvent

variable {crc32 : Bytes → UInt32} {raw : Bytes}

/-- A raw event as the writers of a binlog create it. -/
structure IsRaw (crc32 : Bytes → UInt32) (raw : Bytes) : Prop where
  created : ∃ id type flags data, raw = createRaw crc32 id type flags data ∧ Fits id type flags data ∧
    flags < 2 ∧ data.length % 4 = 0 ∧ type ≠ typeAesCtrEncryption

theorem IsRaw.length (h : IsRaw crc32 raw) :
    minSize ≤ raw.length ∧ raw.length ≤ maxSize ∧ raw.length % 4 = 0 := by
  obtain ⟨id, type, flags, data, rfl, hfits, -, hdata, -⟩ := h.created
  have hsize := hfits.size_le
  rw [length_createRaw]
  refine ⟨Nat.le_add_left _ _, hsize, ?_⟩
  unfold minSize headerSize tailSize
  omega

theorem IsRaw.four_le (h : IsRaw crc32 raw) : 4 ≤ raw.length := Nat.le_trans (by decide) h.length.1

theorem IsRaw.size (h : IsRaw crc32 raw) : decode (raw.take 4) = raw.length := by
  obtain ⟨id, type, flags, data, rfl, hfits, -, -, -⟩ := h.created
  rw [size_createRaw hfits, length_createRaw]

theorem IsRaw.validate (h : IsRaw crc32 raw) : (init raw).validate crc32 = .ok () := by
  obtain ⟨id, type, flags, data, rfl, hfits, -, -, -⟩ := h.created
  exact validate_init_createRaw hfits

theorem IsRaw.not_isPartial (h : IsRaw crc32 raw) : (init raw).isPartial = false := by
  obtain ⟨id, type, flags, data, rfl, hfits, hflags, -, -⟩ := h.created
  rw [init_createRaw hfits]
  exact Nat.testBit_lt_two_pow (i := 1) (by omega)

theorem IsRaw.type_ne (h : IsRaw crc32 raw) : (init raw).type ≠ typeAesCtrEncryption := by
  obtain ⟨id, type, flags, data, rfl, hfits, -, -, htype⟩ := h.created
  rw [init_createRaw hfits]
  exact htype

end BinlogEvent

open BinlogEvent (IsRaw)

namespace BinlogReader

variable {crc32 : Bytes → UInt32} {raw input rest more : Bytes} {offset : Nat}

/-- The event that is read from a raw one, with the offset behind it. -/
def eventAt (offset : Nat) (raw : Bytes) : BinlogEvent :=
  { BinlogEvent.init raw with offset := (offset + raw.length : Nat) }

theorem readNext_short (crc32 : Bytes → UInt32) (offset : Nat) (h : input.length < 4) :
    readNext crc32 { offset := offset } input = .needSize 4 { offset := offset } := if_pos h

theorem readNext_known (size : Nat) :
    readNext crc32 { size := some size, offset := offset } input =
      readEvent crc32 { size := some size, offset := offset } size input := rfl

/-- The size of the next event is read. -/
theorem readNext_size (offset : Nat) (hraw : IsRaw crc32 raw) (hsplit : input ++ rest = raw ++ more)
    (h : 4 ≤ input.length) :
    readNext crc32 { offset := offset } input = readEvent crc32 { offset := offset } raw.length input := by
  obtain ⟨hmin, hmax, haligned⟩ := hraw.length
  have hsize : decode (input.take 4) = raw.length := by
    have hbegin : (input ++ rest).take 4 = input.take 4 := List.take_append_of_le_length h
    rw [← hbegin, hsplit, List.take_append_of_le_length hraw.four_le, hraw.size]
  unfold readNext
  simp only [hsize]
  rw [if_neg (by omega), if_neg (by omega), if_neg (by omega), if_neg (by omega)]

theorem readEvent_need (r : BinlogReader) {size : Nat} (h : input.length < size) :
    readEvent crc32 r size input = .needSize size { r with size := some size } := if_pos h

theorem readEvent_whole (r : BinlogReader) (hraw : IsRaw crc32 raw) (input : Bytes) :
    readEvent crc32 r raw.length (raw ++ input) =
      .event (eventAt r.offset raw) { offset := r.offset + raw.length } input := by
  unfold readEvent
  rw [if_neg (by simp), List.take_left, List.drop_left]
  simp only [hraw.validate]
  rfl

end BinlogReader

namespace Binlog

open BinlogReader

variable {crc32 : Bytes → UInt32} {raw input rest more : Bytes} {reader : BinlogReader} {b : Binlog}

/-- More fuel changes nothing. -/
theorem loadLoop_mono {n m : Nat} {reader : BinlogReader} {r : Except (LoadFailure × Nat) Binlog}
    (h : loadLoop crc32 n reader input rest b = some r) (hle : n ≤ m) :
    loadLoop crc32 m reader input rest b = some r := by
  induction n generalizing m reader input rest b with
  | zero => cases h
  | succ n ih =>
      obtain ⟨m, rfl⟩ : ∃ k, m = k + 1 := ⟨m - 1, by omega⟩
      unfold loadLoop at h ⊢
      cases hnext : readNext crc32 reader input with
      | error e =>
          rw [hnext] at h
          cases e <;> exact h
      | event event reader' input' =>
          rw [hnext] at h
          simp only at h ⊢
          cases hadd : doAddEvent loadEvent b.pendingEvents b event with
          | error e =>
              rw [hadd] at h
              exact h
          | ok s =>
              rw [hadd] at h
              exact ih h (by omega)
      | needSize size reader' =>
          rw [hnext] at h
          simp only at h ⊢
          split_ifs at h ⊢
          · exact h
          · exact ih h (by omega)

def loadRaws (b : Binlog) (offset : Nat) : List Bytes → Except LoadFailure Binlog
  | [] => .ok b
  | raw :: raws => do
    let b ← loadEvent b (eventAt offset raw)
    loadRaws b (offset + raw.length) raws

theorem loadLoop_needSize {n size : Nat} {reader reader' : BinlogReader}
    (hnext : readNext crc32 reader input = .needSize size reader')
    (h : ¬ (input ++ rest.take (max size 4096)).length < size) :
    loadLoop crc32 (n + 1) reader input rest b =
      loadLoop crc32 n reader' (input ++ rest.take (max size 4096)) (rest.drop (max size 4096)) b := by
  rw [loadLoop, hnext]
  exact if_neg h

theorem loadLoop_stop {n size : Nat} {reader reader' : BinlogReader}
    (hnext : readNext crc32 reader input = .needSize size reader')
    (h : (input ++ rest.take (max size 4096)).length < size) :
    loadLoop crc32 (n + 1) reader input rest b = some (.ok b) := by
  rw [loadLoop, hnext]
  exact if_pos h

/-- After a read that the file suffices for, there is enough. -/
theorem enough_read {size : Nat} (h : size ≤ (input ++ rest).length) :
    ¬ (input ++ rest.take (max size 4096)).length < size := by
  simp only [List.length_append, List.length_take] at h ⊢
  omega

theorem append_read (input rest : Bytes) (size : Nat) :
    input ++ rest.take size ++ rest.drop size = input ++ rest := by
  rw [List.append_assoc, List.take_append_drop]

theorem pendingEvents_loadEvent {event : BinlogEvent} {b' : Binlog} (h : loadEvent b event = .ok b') :
    b'.pendingEvents = b.pendingEvents := by
  unfold loadEvent at h
  split_ifs at h
  cases hdo : b.processor.doEvent event with
  | none =>
      rw [hdo] at h
      cases h
  | some p =>
      rw [hdo] at h
      cases h
      rfl

/-- The reader may have read the size of the event. -/
def Begun (reader : BinlogReader) (raw : Bytes) : Prop := reader.size = none ∨ reader.size = some raw.length

theorem readNext_whole (hraw : IsRaw crc32 raw) (hbegun : Begun reader raw) (input : Bytes) :
    readNext crc32 reader (raw ++ input) =
      .event (eventAt reader.offset raw) { offset := reader.offset + raw.length } input := by
  obtain ⟨size, offset⟩ := reader
  rcases hbegun with rfl | rfl
  · have hall : raw ++ input ++ [] = raw ++ input := List.append_nil _
    rw [readNext_size offset hraw hall (by rw [List.length_append]; exact Nat.le_add_right_of_le hraw.four_le)]
    exact readEvent_whole _ hraw input
  · exact readEvent_whole _ hraw input

/-- A whole event is loaded once it is in the buffer. -/
theorem loadLoop_event {n : Nat} {b' : Binlog} (hraw : IsRaw crc32 raw) (hpending : b.pendingEvents = [])
    (hbegun : Begun reader raw) (hload : loadEvent b (eventAt reader.offset raw) = .ok b') :
    loadLoop crc32 (n + 1) reader (raw ++ input) rest b =
      loadLoop crc32 n { offset := reader.offset + raw.length } input rest b' := by
  have hadd : doAddEvent loadEvent b.pendingEvents b (eventAt reader.offset raw) = .ok ([], b') := by
    unfold doAddEvent
    rw [if_neg (by rw [show (eventAt reader.offset raw).isPartial = _ from hraw.not_isPartial]; decide),
      hpending, List.foldlM_nil]
    change (loadEvent b (eventAt reader.offset raw)).bind _ = _
    rw [hload]
    rfl
  have hkeep : { b' with pendingEvents := [] } = b' := by
    obtain ⟨processor, pendingEvents, fdSize, lastEventId⟩ := b'
    obtain rfl : pendingEvents = [] := (pendingEvents_loadEvent hload).trans hpending
    rfl
  rw [loadLoop, readNext_whole hraw hbegun]
  simp only [hadd, hkeep]

section

variable {n : Nat} {b' : Binlog} {r : Except (LoadFailure × Nat) Binlog}

/-- The event is in the buffer. -/
theorem loadLoop_buffered (hraw : IsRaw crc32 raw) (hpending : b.pendingEvents = []) (hbegun : Begun reader raw)
    (hload : loadEvent b (eventAt reader.offset raw) = .ok b') (hsplit : input ++ rest = raw ++ more)
    (hrest : ∀ input' rest', input' ++ rest' = more →
      loadLoop crc32 n { offset := reader.offset + raw.length } input' rest' b' = some r)
    (hlength : raw.length ≤ input.length) : loadLoop crc32 (n + 1) reader input rest b = some r := by
  obtain ⟨input', rfl⟩ : raw <+: input :=
    List.prefix_of_prefix_length_le ⟨more, hsplit.symm⟩ ⟨rest, rfl⟩ hlength
  rw [loadLoop_event hraw hpending hbegun hload]
  exact hrest input' rest (List.append_cancel_left ((List.append_assoc _ _ _).symm.trans hsplit))

/-- The size of the event is in the buffer. -/
theorem loadLoop_sized (hraw : IsRaw crc32 raw) (hpending : b.pendingEvents = []) (hsize : reader.size = none)
    (hload : loadEvent b (eventAt reader.offset raw) = .ok b') (hsplit : input ++ rest = raw ++ more)
    (hrest : ∀ input' rest', input' ++ rest' = more →
      loadLoop crc32 n { offset := reader.offset + raw.length } input' rest' b' = some r)
    (hlength : 4 ≤ input.length) : loadLoop crc32 (n + 2) reader input rest b = some r := by
  by_cases hwhole : raw.length ≤ input.length
  · refine loadLoop_mono (n := n + 1) ?_ (Nat.le_succ _)
    exact loadLoop_buffered hraw hpending (Or.inl hsize) hload hsplit hrest hwhole
  · obtain ⟨size, offset⟩ := reader
    obtain rfl : size = none := hsize
    have hneed := (readNext_size offset hraw hsplit hlength).trans
      (readEvent_need _ (Nat.not_le.1 hwhole))
    have henough : ¬ (input ++ rest.take (max raw.length 4096)).length < raw.length := by
      refine enough_read ?_
      rw [hsplit, List.length_append]
      exact Nat.le_add_right _ _
    rw [loadLoop_needSize hneed henough]
    exact loadLoop_buffered hraw hpending (Or.inr rfl) hload ((append_read _ _ _).trans hsplit) hrest
      (Nat.not_lt.1 henough)

/-- The loop takes at most three rounds for an event. -/
theorem loadLoop_raw (hraw : IsRaw crc32 raw) (hpending : b.pendingEvents = []) (hsize : reader.size = none)
    (hload : loadEvent b (eventAt reader.offset raw) = .ok b') (hsplit : input ++ rest = raw ++ more)
    (hrest : ∀ input' rest', input' ++ rest' = more →
      loadLoop crc32 n { offset := reader.offset + raw.length } input' rest' b' = some r) :
    loadLoop crc32 (n + 3) reader input rest b = some r := by
  by_cases hlength : 4 ≤ input.length
  · refine loadLoop_mono (n := n + 2) ?_ (Nat.le_succ _)
    exact loadLoop_sized hraw hpending hsize hload hsplit hrest hlength
  · obtain ⟨size, offset⟩ := reader
    obtain rfl : size = none := hsize
    have henough : ¬ (input ++ rest.take (max 4 4096)).length < 4 := by
      refine enough_read ?_
      rw [hsplit, List.length_append]
      exact Nat.le_add_right_of_le hraw.four_le
    rw [loadLoop_needSize (readNext_short _ _ (Nat.not_le.1 hlength)) henough]
    exact loadLoop_sized hraw hpending rfl hload ((append_read _ _ _).trans hsplit) hrest (Nat.not_lt.1 henough)

theorem loadLoop_torn_sized (hraw : IsRaw crc32 raw) {k : Nat} (hk : k < raw.length) (hsize : reader.size = none)
    (hsplit : input ++ rest = raw.take k) (hlength : 4 ≤ input.length) :
    loadLoop crc32 2 reader input rest b = some (.ok b) := by
  obtain ⟨size, offset⟩ := reader
  obtain rfl : size = none := hsize
  have htotal : (input ++ rest).length ≤ k := by
    rw [hsplit, List.length_take]
    exact Nat.min_le_left _ _
  have hwhole : input ++ (rest ++ raw.drop k) = raw ++ [] := by
    rw [← List.append_assoc, hsplit, List.take_append_drop, List.append_nil]
  rw [List.length_append] at htotal
  refine loadLoop_stop ((readNext_size _ hraw hwhole hlength).trans (readEvent_need _ (by omega))) ?_
  rw [List.length_append, List.length_take]
  omega

/-- A part of an event ends the loop. -/
theorem loadLoop_torn (hraw : IsRaw crc32 raw) {k : Nat} (hk : k < raw.length) (hsize : reader.size = none)
    (hsplit : input ++ rest = raw.take k) : loadLoop crc32 3 reader input rest b = some (.ok b) := by
  by_cases hlength : 4 ≤ input.length
  · refine loadLoop_mono (n := 2) ?_ (by omega)
    exact loadLoop_torn_sized hraw hk hsize hsplit hlength
  · obtain ⟨size, offset⟩ := reader
    obtain rfl : size = none := hsize
    have hneed := readNext_short crc32 offset (Nat.not_le.1 hlength)
    by_cases henough : (input ++ rest.take (max 4 4096)).length < 4
    · exact loadLoop_stop hneed henough
    · rw [loadLoop_needSize hneed henough]
      exact loadLoop_torn_sized hraw hk rfl ((append_read _ _ _).trans hsplit) (Nat.not_lt.1 henough)

/-- All events are loaded, and a part of one more is not. -/
theorem loadLoop_raws {raws : List Bytes} (hraws : ∀ raw ∈ raws, IsRaw crc32 raw) (hraw : IsRaw crc32 raw)
    {k : Nat} (hk : k < raw.length) (hpending : b.pendingEvents = []) {offset : Nat}
    (hload : loadRaws b offset raws = .ok b') (hsplit : input ++ rest = raws.flatten ++ raw.take k) :
    loadLoop crc32 (3 * raws.length + 3) { offset := offset } input rest b = some (.ok b') := by
  induction raws generalizing b offset input rest with
  | nil =>
      cases hload
      exact loadLoop_torn hraw hk rfl hsplit
  | cons first raws ih =>
      have hfirst := hraws first List.mem_cons_self
      unfold loadRaws at hload
      cases hevent : loadEvent b (eventAt offset first) with
      | error e =>
          rw [hevent] at hload
          cases hload
      | ok next =>
          rw [hevent] at hload
          rw [List.flatten_cons, List.append_assoc] at hsplit
          refine loadLoop_raw (n := 3 * raws.length + 3) hfirst hpending rfl hevent hsplit ?_
          intro input' rest' hsplit'
          exact ih (fun raw h => hraws raw (List.mem_cons_of_mem _ h))
            ((pendingEvents_loadEvent hevent).trans hpending) hload hsplit'

end

end Binlog

end TelegramBotApi
