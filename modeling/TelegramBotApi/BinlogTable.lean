import TelegramBotApi.BinlogLoad

/-!
# What a binlog says

The contents of the events that are alive form a table; each raw event that the writers of a binlog add
is one record of it. A file of raw events that is cut anywhere is loaded as the records that are whole.
-/

namespace TelegramBotApi

open BinlogEvent (IsRaw createRaw Fits minSize maxSize typeEmpty)
open BinlogEventsProcessor (Sound Does unmarked)
open RewriteLog (Record Table)

/-- The type and the data of an event. -/
abbrev Content := Int × Bytes

def BinlogEvent.content (event : BinlogEvent) : Content := (event.type, event.getData)

/-- An event that the server adds to a binlog. The processor doubles its identifier, which has 64 bits. -/
structure Storable (id : Nat) (x : Content) : Prop where
  id_lt : id < 2 ^ 63
  type_nonneg : 0 ≤ x.1
  type_lt : x.1 < 2 ^ 31
  size_le : x.2.length + minSize ≤ maxSize
  aligned : x.2.length % 4 = 0

/-- The raw event is written for the record, into a binlog whose last identifier is `last`. A regenerated
binlog has events with the flag among those that are added. -/
def Writes (crc32 : Bytes → UInt32) (last : Nat) (raw : Bytes) : Record Content → Prop
  | .add id x => last < id ∧ Storable id x ∧ ∃ flags, flags < 2 ∧ raw = createRaw crc32 id x.1 flags x.2
  | .rewrite id x => id ≤ last ∧ Storable id x ∧ raw = createRaw crc32 id x.1 1 x.2
  | .erase id => id ≤ last ∧ id < 2 ^ 63 ∧ raw = createRaw crc32 id typeEmpty 1 []

structure Kept (crc32 : Bytes → UInt32) (id : Nat) (event : BinlogEvent) : Prop where
  storable : Storable id event.content
  written : ∃ flags, flags < 2 ∧ event.rawEvent = createRaw crc32 id event.type flags event.getData

structure Represents (crc32 : Bytes → UInt32) (p : BinlogEventsProcessor) (t : Table Content) : Prop where
  sound : ∃ l, Sound p l
  contents : RewriteLog.mapTable BinlogEvent.content p.alive = t
  kept : ∀ e ∈ p.alive, Kept crc32 e.1 e.2

/-- The event is the raw one, with some offset. -/
structure ReadFrom (event : BinlogEvent) (raw : Bytes) : Prop where
  id : event.id = (BinlogEvent.init raw).id
  type : event.type = (BinlogEvent.init raw).type
  flags : event.flags = (BinlogEvent.init raw).flags
  rawEvent : event.rawEvent = raw

section

variable {crc32 : Bytes → UInt32} {id flags last : Nat} {x : Content} {raw : Bytes} {r : Record Content}
  {event : BinlogEvent} {p : BinlogEventsProcessor} {t : Table Content}

theorem Storable.fits (h : Storable id x) (hflags : flags < 2) : Fits id x.1 flags x.2 := by
  have hnonneg := h.type_nonneg
  have hid := h.id_lt
  exact ⟨by omega, ⟨by omega, h.type_lt⟩, by omega, h.size_le⟩

theorem fits_erase (hid : id < 2 ^ 63) : Fits id typeEmpty 1 [] :=
  ⟨Nat.lt_trans hid (by decide), by unfold IsInt32; decide, by decide, by decide⟩

theorem Storable.isRaw (h : Storable id x) (hflags : flags < 2) : IsRaw crc32 (createRaw crc32 id x.1 flags x.2) :=
  ⟨⟨id, x.1, flags, x.2, rfl, h.fits hflags, hflags, h.aligned, fun heq => by
    have hnonneg := h.type_nonneg
    rw [heq] at hnonneg
    exact absurd hnonneg (by decide)⟩⟩

theorem Writes.isRaw (h : Writes crc32 last raw r) : IsRaw crc32 raw := by
  cases r with
  | add id x =>
      obtain ⟨-, hstorable, flags, hflags, rfl⟩ := h
      exact hstorable.isRaw hflags
  | rewrite id x =>
      obtain ⟨-, hstorable, rfl⟩ := h
      exact hstorable.isRaw (by decide)
  | erase id =>
      obtain ⟨-, hid, rfl⟩ := h
      exact ⟨⟨id, typeEmpty, 1, [], rfl, fits_erase hid, by decide, rfl, by decide⟩⟩

/-- An event that was read has the numbers that it was created with. -/
theorem ReadFrom.created {type : Int} {data : Bytes} (h : ReadFrom event (createRaw crc32 id type flags data))
    (hfits : Fits id type flags data) :
    event.id = id ∧ event.type = type ∧ event.flags = flags ∧ event.getData = data := by
  obtain ⟨hid, htype, hflags, hraw⟩ := h
  rw [BinlogEvent.init_createRaw hfits] at hid htype hflags
  exact ⟨hid, htype, hflags, BinlogEvent.getData_createRaw event hraw⟩

theorem Represents.fst (h : Represents crc32 p t) : p.alive.map Prod.fst = t.map Prod.fst := by
  rw [← h.contents, RewriteLog.mapTable_fst]

theorem Represents.ordered (h : Represents crc32 p t) : RewriteLog.Ordered t p.lastEventId := by
  obtain ⟨l, hl⟩ := h.sound
  have hordered := hl.ordered
  rw [← hl.alive_eq] at hordered
  refine ⟨h.fst ▸ hordered.sorted, fun e he => ?_⟩
  have hid := List.mem_map_of_mem (f := Prod.fst) he
  rw [← h.fst] at hid
  obtain ⟨e', he', hid⟩ := List.mem_map.1 hid
  exact hid ▸ hordered.le_last e' he'

/-- The event is the record it was written for, and what it leaves alive is as it was written. -/
structure Matches (crc32 : Bytes → UInt32) (last : Nat) (event : BinlogEvent) (r : Record Content) : Prop where
  id_lt : event.id < 2 ^ 63
  record : (BinlogEventsProcessor.recordOf last event).map BinlogEvent.content = r
  type_nonneg : ¬ (event.isRewrite = true ∧ event.id ≤ last) → 0 ≤ event.type
  kept : ∀ id x, (BinlogEventsProcessor.recordOf last event = .add id x ∨
    BinlogEventsProcessor.recordOf last event = .rewrite id x) → Kept crc32 id x

theorem matches_of_writes (h : Writes crc32 last raw r) (hread : ReadFrom event raw) :
    Matches crc32 last event r := by
  have hraw := hread.rawEvent
  unfold Writes at h
  cases r with
  | add id x =>
      obtain ⟨hlt, hstorable, flags, hflags, rfl⟩ := h
      obtain ⟨rfl, htype, -, hdata⟩ := hread.created (hstorable.fits hflags)
      have hcontent : event.content = x := Prod.ext htype hdata
      have hrecord : BinlogEventsProcessor.recordOf last event = .add event.id event :=
        if_neg fun hold => Nat.not_lt.2 hold.2 hlt
      refine ⟨hstorable.id_lt, ?_, fun _ => htype ▸ hstorable.type_nonneg, ?_⟩
      · rw [hrecord, RewriteLog.Record.map, hcontent]
      · rw [hrecord]
        rintro id y (hy | hy) <;> cases hy
        exact ⟨hcontent ▸ hstorable, flags, hflags, by rw [hraw, htype, hdata]⟩
  | rewrite id x =>
      obtain ⟨hle, hstorable, rfl⟩ := h
      obtain ⟨rfl, htype, hflags, hdata⟩ := hread.created (hstorable.fits (by decide))
      have hold : event.isRewrite = true ∧ event.id ≤ last := by
        refine ⟨?_, hle⟩
        unfold BinlogEvent.isRewrite
        rw [hflags]
        rfl
      have hnonneg := hstorable.type_nonneg
      have hcontent : event.content = x := Prod.ext htype hdata
      have hrecord : BinlogEventsProcessor.recordOf last event =
          .rewrite event.id { event with flags := event.flags - BinlogEvent.flagRewrite } := by
        unfold BinlogEventsProcessor.recordOf
        rw [if_pos hold, if_neg]
        rw [htype]
        intro hempty
        rw [hempty] at hnonneg
        exact absurd hnonneg (by decide)
      refine ⟨hstorable.id_lt, ?_, fun hnot => absurd hold hnot, ?_⟩
      · rw [hrecord, RewriteLog.Record.map, ← hcontent]
        rfl
      · rw [hrecord]
        rintro id y (hy | hy) <;> cases hy
        refine ⟨?_, 1, by decide, ?_⟩
        · exact (hcontent ▸ hstorable : Storable event.id event.content)
        · change event.rawEvent = createRaw crc32 event.id event.type 1 event.getData
          rw [hraw, htype, hdata]
  | erase id =>
      obtain ⟨hle, hid, rfl⟩ := h
      obtain ⟨rfl, htype, hflags, -⟩ := hread.created (fits_erase hid)
      have hold : event.isRewrite = true ∧ event.id ≤ last := by
        refine ⟨?_, hle⟩
        unfold BinlogEvent.isRewrite
        rw [hflags]
        rfl
      have hrecord : BinlogEventsProcessor.recordOf last event = .erase event.id := by
        unfold BinlogEventsProcessor.recordOf
        rw [if_pos hold, if_pos htype]
      refine ⟨hid, ?_, fun hnot => absurd hold hnot, ?_⟩
      · rw [hrecord]
        rfl
      · rw [hrecord]
        rintro id y (hy | hy) <;> cases hy

/-- A raw event that the writers of the binlog add is taken as its record. -/
theorem Represents.doEvent (h : Represents crc32 p t) (hwrites : Writes crc32 p.lastEventId raw r)
    (hlegal : RewriteLog.Legal t p.lastEventId r) (hread : ReadFrom event raw) :
    ∃ p', p.doEvent event = some p' ∧ Represents crc32 p' (RewriteLog.apply t r) ∧
      p'.lastEventId = RewriteLog.lastAfter p.lastEventId r ∧ p'.offset = event.offset := by
  obtain ⟨l, hl⟩ := h.sound
  obtain ⟨hid, hrecord, htype, hkept⟩ := matches_of_writes hwrites hread
  have hfollows : BinlogEventsProcessor.Follows (unmarked l) p.lastEventId event := by
    refine ⟨hid, (RewriteLog.legal_map BinlogEvent.content).1 ?_, htype⟩
    rw [← hl.alive_eq, h.contents, hrecord]
    exact hlegal
  obtain ⟨p', l', hdoes⟩ := hl.doEvent hfollows
  have halive : p'.alive = RewriteLog.apply p.alive (BinlogEventsProcessor.recordOf p.lastEventId event) := by
    rw [hdoes.sound.alive_eq, hdoes.alive, hl.alive_eq]
  refine ⟨p', hdoes.done, ⟨⟨l', hdoes.sound⟩, ?_, ?_⟩, ?_, hdoes.offset⟩
  · rw [halive, RewriteLog.mapTable_apply, h.contents, hrecord]
  · intro e he
    rw [halive] at he
    rcases RewriteLog.mem_apply he with he | he
    · exact h.kept e he
    · exact hkept e.1 e.2 he
  · rw [hdoes.last, ← hrecord, RewriteLog.lastAfter_map]

/-- The raw events of a file are written for the records, one for one. -/
def Writings (crc32 : Bytes → UInt32) : Nat → List Bytes → List (Record Content) → Prop
  | _, [], [] => True
  | last, raw :: raws, r :: rs =>
    Writes crc32 last raw r ∧ Writings crc32 (RewriteLog.lastAfter last r) raws rs
  | _, _, _ => False

variable {raws : List Bytes} {rs : List (Record Content)}

theorem Writings.length (h : Writings crc32 last raws rs) : raws.length = rs.length := by
  induction raws generalizing last rs with
  | nil =>
      cases rs with
      | nil => rfl
      | cons r rs => exact h.elim
  | cons raw raws ih =>
      cases rs with
      | nil => exact h.elim
      | cons r rs => rw [List.length_cons, List.length_cons, ih h.2]

theorem Writings.isRaw (h : Writings crc32 last raws rs) : ∀ raw ∈ raws, IsRaw crc32 raw := by
  induction raws generalizing last rs with
  | nil => exact fun raw hraw => absurd hraw List.not_mem_nil
  | cons first raws ih =>
      cases rs with
      | nil => exact h.elim
      | cons r rs =>
          intro raw hraw
          rcases List.mem_cons.1 hraw with rfl | hraw
          · exact h.1.isRaw
          · exact ih h.2 raw hraw

theorem Writings.take (h : Writings crc32 last raws rs) (k : Nat) :
    Writings crc32 last (raws.take k) (rs.take k) := by
  induction k generalizing last raws rs with
  | zero => trivial
  | succ k ih =>
      cases raws with
      | nil =>
          cases rs with
          | nil => trivial
          | cons r rs => exact h.elim
      | cons raw raws =>
          cases rs with
          | nil => exact h.elim
          | cons r rs => exact ⟨h.1, ih h.2⟩

theorem Writings.concat (h : Writings crc32 last raws rs) (hr : Writes crc32 (RewriteLog.lastOf last rs) raw r) :
    Writings crc32 last (raws ++ [raw]) (rs ++ [r]) := by
  induction raws generalizing last rs with
  | nil =>
      cases rs with
      | nil => exact ⟨hr, trivial⟩
      | cons r' rs => exact h.elim
  | cons first raws ih =>
      cases rs with
      | nil => exact h.elim
      | cons r' rs => exact ⟨h.1, ih h.2 hr⟩

theorem represents_empty : Represents crc32 {} [] :=
  ⟨⟨[], BinlogEventsProcessor.sound_empty⟩, rfl, fun _ he => absurd he List.not_mem_nil⟩

structure Loaded (crc32 : Bytes → UInt32) (b : Binlog) (t : Table Content) (offset : Nat) : Prop where
  represents : Represents crc32 b.processor t
  pending : b.pendingEvents = []
  size : b.fdSize = offset
  offset : b.processor.offset = offset

theorem readFrom_eventAt (offset : Nat) (raw : Bytes) : ReadFrom (BinlogReader.eventAt offset raw) raw :=
  ⟨rfl, rfl, rfl, rfl⟩

/-- Whole events are loaded as the records they were written for. -/
theorem Loaded.loadRaws {b : Binlog} {offset : Nat} (h : Loaded crc32 b t offset)
    (hraws : Writings crc32 b.processor.lastEventId raws rs)
    (hlegal : RewriteLog.LegalRun t b.processor.lastEventId rs) :
    ∃ b', b.loadRaws offset raws = .ok b' ∧
      Loaded crc32 b' (RewriteLog.replay t rs) (offset + raws.flatten.length) ∧
      b'.processor.lastEventId = RewriteLog.lastOf b.processor.lastEventId rs := by
  induction raws generalizing b t offset rs with
  | nil =>
      cases rs with
      | nil => exact ⟨b, rfl, h, rfl⟩
      | cons r rs => exact hraws.elim
  | cons raw raws ih =>
      cases rs with
      | nil => exact hraws.elim
      | cons r rs =>
          obtain ⟨p, hdone, hp, hlast, hoffset⟩ :=
            h.represents.doEvent hraws.1 hlegal.1 (readFrom_eventAt offset raw)
          have hload : b.loadEvent (BinlogReader.eventAt offset raw) =
              .ok { b with processor := p, fdSize := b.fdSize + raw.length } := by
            unfold Binlog.loadEvent
            rw [if_neg (show (BinlogReader.eventAt offset raw).type ≠ _ from hraws.1.isRaw.type_ne), hdone]
            rfl
          have hnext : Loaded crc32 { b with processor := p, fdSize := b.fdSize + raw.length }
              (RewriteLog.apply t r) (offset + raw.length) :=
            ⟨hp, h.pending, by rw [← h.size], hoffset⟩
          obtain ⟨b', hload', hloaded', hlast'⟩ := ih hnext (hlast ▸ hraws.2) (hlast ▸ hlegal.2)
          refine ⟨b', ?_, ?_, ?_⟩
          · rw [Binlog.loadRaws, hload]
            exact hload'
          · rw [List.flatten_cons, List.length_append, ← Nat.add_assoc]
            exact hloaded'
          · rw [hlast', hlast]
            rfl

/-- The number of parts that lie within the first `n` bytes. -/
def wholeParts : List Bytes → Nat → Nat
  | [], _ => 0
  | raw :: raws, n => if raw.length ≤ n then wholeParts raws (n - raw.length) + 1 else 0

theorem wholeParts_le (raws : List Bytes) (n : Nat) : wholeParts raws n ≤ raws.length := by
  induction raws generalizing n with
  | nil => exact Nat.le_refl 0
  | cons raw raws ih =>
      unfold wholeParts
      split_ifs
      · exact Nat.succ_le_succ (ih _)
      · exact Nat.zero_le _

/-- Parts that lie within the first bytes are whole. -/
theorem le_wholeParts {k n : Nat} (hk : k ≤ raws.length) (h : (raws.take k).flatten.length ≤ n) :
    k ≤ wholeParts raws n := by
  induction raws generalizing k n with
  | nil => exact hk
  | cons raw raws ih =>
      cases k with
      | zero => exact Nat.zero_le _
      | succ k =>
          rw [List.take_succ_cons, List.flatten_cons, List.length_append] at h
          unfold wholeParts
          rw [if_pos (by omega)]
          exact Nat.succ_le_succ (ih (Nat.le_of_succ_le_succ hk) (by omega))

/-- A cut leaves whole parts and a proper beginning of one more. -/
theorem take_flatten (hraws : ∀ raw ∈ raws, IsRaw crc32 raw) (n : Nat) :
    ∃ raw j, IsRaw crc32 raw ∧ j < raw.length ∧
      raws.flatten.take n = (raws.take (wholeParts raws n)).flatten ++ raw.take j := by
  induction raws generalizing n with
  | nil =>
      have hstorable : Storable 0 (0, []) := ⟨by decide, by decide, by decide, by decide, rfl⟩
      refine ⟨_, 0, hstorable.isRaw Nat.zero_lt_two, ?_, by simp⟩
      rw [BinlogEvent.length_createRaw]
      exact Nat.lt_of_lt_of_le (by decide) (Nat.le_add_left minSize _)
  | cons raw raws ih =>
      unfold wholeParts
      split_ifs with hle
      · obtain ⟨torn, j, htorn, hj, htake⟩ := ih (fun r hr => hraws r (List.mem_cons_of_mem _ hr)) (n - raw.length)
        refine ⟨torn, j, htorn, hj, ?_⟩
        rw [List.flatten_cons, List.take_append, List.take_of_length_le hle, htake, List.take_succ_cons,
          List.flatten_cons, List.append_assoc]
      · refine ⟨raw, n, hraws raw List.mem_cons_self, Nat.not_le.1 hle, ?_⟩
        rw [List.flatten_cons, List.take_append_of_le_length (Nat.le_of_not_le hle), List.take_zero]
        rfl

/-- Every raw event takes more bytes than the loop takes rounds for it. -/
theorem rounds_le (hraws : ∀ raw ∈ raws, IsRaw crc32 raw) : 3 * raws.length ≤ raws.flatten.length := by
  induction raws with
  | nil => exact Nat.le_refl 0
  | cons raw raws ih =>
      have hraw := (hraws raw List.mem_cons_self).four_le
      have hrest := ih fun r hr => hraws r (List.mem_cons_of_mem _ hr)
      rw [List.flatten_cons, List.length_append, List.length_cons]
      omega

end

/-- Recovery: a file of raw events that is cut at any byte is loaded as the records that are whole, and
cut behind them. -/
theorem binlog_load_cut {crc32 : Bytes → UInt32} {raws : List Bytes} {rs : List (Record Content)}
    (hraws : Writings crc32 0 raws rs) (hlegal : RewriteLog.LegalRun [] 0 rs) (n : Nat) :
    ∃ b, Binlog.load crc32 (raws.flatten.take n) =
        some (.ok (b, (raws.take (wholeParts raws n)).flatten)) ∧
      Loaded crc32 b (RewriteLog.replay [] (rs.take (wholeParts raws n)))
        (raws.take (wholeParts raws n)).flatten.length ∧
      b.lastEventId = RewriteLog.lastOf 0 (rs.take (wholeParts raws n)) ∧
      b.processor.lastEventId = b.lastEventId := by
  obtain ⟨torn, j, htorn, hj, htake⟩ := take_flatten hraws.isRaw n
  generalize hk : wholeParts raws n = k at htake ⊢
  have hpart := hraws.take k
  have hempty : Loaded crc32 {} [] 0 := ⟨represents_empty, rfl, rfl, rfl⟩
  have hlegal' : RewriteLog.LegalRun [] 0 (rs.take k) := by
    rw [← List.take_append_drop k rs, RewriteLog.legalRun_append] at hlegal
    exact hlegal.1
  obtain ⟨b, hload, hloaded, hlast⟩ := hempty.loadRaws hpart hlegal'
  rw [Nat.zero_add] at hloaded
  have hrounds := rounds_le hpart.isRaw
  have hloop : Binlog.loadLoop crc32 ((raws.flatten.take n).length + 4) {} [] (raws.flatten.take n) {} =
      some (.ok b) := by
    refine Binlog.loadLoop_mono (Binlog.loadLoop_raws hpart.isRaw htorn hj rfl hload
      ((List.nil_append _).trans htake)) ?_
    rw [htake, List.length_append]
    omega
  refine ⟨{ b with lastEventId := b.processor.lastEventId }, ?_, ⟨hloaded.represents, hloaded.pending,
    hloaded.size, hloaded.offset⟩, hlast, rfl⟩
  unfold Binlog.load
  rw [hloop, Option.map_some]
  simp only
  rw [hloaded.offset, Int.toNat_natCast, htake, List.take_left]

theorem binlog_load_cut_two :
    ∃ b, Binlog.load (fun _ => 0)
        ([createRaw (fun _ => 0) 1 7 0 [1, 2, 3, 4], createRaw (fun _ => 0) 1 typeEmpty 1 []].flatten.take 40) =
      some (.ok (b, createRaw (fun _ => 0) 1 7 0 [1, 2, 3, 4])) := by
  obtain ⟨b, hload, -⟩ := binlog_load_cut
    (show Writings (fun _ => 0) 0 [createRaw (fun _ => 0) 1 7 0 [1, 2, 3, 4], createRaw (fun _ => 0) 1 typeEmpty 1 []]
      [.add 1 (7, [1, 2, 3, 4]), .erase 1] from
        ⟨⟨by decide, ⟨by decide, by decide, by decide, by decide, by decide⟩, 0, by decide, rfl⟩,
          ⟨by decide, by decide, rfl⟩, trivial⟩)
    (show RewriteLog.LegalRun [] 0 [.add 1 (7, [1, 2, 3, 4]), .erase 1] from
      ⟨Nat.one_pos, List.mem_singleton.2 rfl, trivial⟩) 40
  exact ⟨b, hload⟩

end TelegramBotApi
