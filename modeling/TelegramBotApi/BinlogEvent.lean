import TelegramBotApi.TlStorage

/-!
# Events of a binlog

A binlog is a file of raw events, each with its size before and its checksum behind it. `crc32` is the
function of zlib, a parameter here; nothing is asked of it. The debug information of an event is left
out.
-/

namespace TelegramBotApi

open LittleEndian

/-- `BinlogEvent`; the bits of the 32-bit `flags_` are those of a natural number. -/
structure BinlogEvent where
  offset : Int := -1
  size : Nat
  id : Nat
  type : Int
  flags : Nat
  extra : Nat
  crc32 : Nat
  rawEvent : Bytes
  deriving DecidableEq

namespace BinlogEvent

def maxSize : Nat := 2 ^ 24

def headerSize : Nat := 4 + 8 + 4 + 4 + 8

def tailSize : Nat := 4

def minSize : Nat := headerSize + tailSize

def typeEmpty : Int := -2

def typeAesCtrEncryption : Int := -3

def flagRewrite : Nat := 1

def flagPartial : Nat := 2

def isRewrite (event : BinlogEvent) : Bool := event.flags.testBit 0

def isPartial (event : BinlogEvent) : Bool := event.flags.testBit 1

def getData (event : BinlogEvent) : Bytes :=
  (event.rawEvent.drop headerSize).take (event.rawEvent.length - minSize)

/-- `init` of a raw event whose size is the one it names and at least `MIN_SIZE`. -/
def init (rawEvent : Bytes) : BinlogEvent where
  size := decode (rawEvent.take 4)
  id := decode ((rawEvent.drop 4).take 8)
  type := decodeInt ((rawEvent.drop 12).take 4)
  flags := decode ((rawEvent.drop 16).take 4)
  extra := decode ((rawEvent.drop 20).take 8)
  crc32 := decode ((rawEvent.drop (decode (rawEvent.take 4) - tailSize)).take 4)
  rawEvent := rawEvent

inductive ValidationError where
  /-- "Too small event". -/
  | tooSmall
  /-- "Size of event changed". -/
  | sizeChanged
  /-- "CRC mismatch". -/
  | crcMismatch
  deriving DecidableEq

/-- What the checksum is taken of. -/
def createRawHead (id : Nat) (type : Int) (flags : Nat) (data : Bytes) : Bytes :=
  encode 4 (data.length + minSize) ++ (encode 8 id ++ (encodeInt 4 type ++ (encode 4 flags ++ (encode 8 0 ++ data))))

section

variable (crc32 : Bytes → UInt32)

def validate (event : BinlogEvent) : Except ValidationError Unit :=
  if event.rawEvent.length < minSize then .error .tooSmall
  else
    let size := decode (event.rawEvent.take 4)
    if event.size ≠ size ∨ event.size ≠ event.rawEvent.length then .error .sizeChanged
    else
      let storedCrc32 := decode ((event.rawEvent.drop (event.size - tailSize)).take 4)
      let calculatedCrc := (crc32 (event.rawEvent.take (event.size - tailSize))).toNat
      if calculatedCrc ≠ event.crc32 ∨ calculatedCrc ≠ storedCrc32 then .error .crcMismatch else .ok ()

def createRaw (id : Nat) (type : Int) (flags : Nat) (data : Bytes) : Bytes :=
  createRawHead id type flags data ++ encode 4 (crc32 (createRawHead id type flags data)).toNat

end

variable {crc32 : Bytes → UInt32} {id flags : Nat} {type : Int} {data : Bytes}

theorem length_createRawHead (id : Nat) (type : Int) (flags : Nat) (data : Bytes) :
    (createRawHead id type flags data).length = data.length + headerSize := by
  simp only [createRawHead, List.length_append, length_encode, length_encodeInt, headerSize]
  omega

theorem length_createRaw : (createRaw crc32 id type flags data).length = data.length + minSize := by
  rw [createRaw, List.length_append, length_createRawHead, length_encode]
  rfl

/-- What stands at a place of a byte string. -/
theorem take_drop_flatten (before : List Bytes) (mid : Bytes) (after : List Bytes) {i n : Nat}
    (hi : before.flatten.length = i) (hn : mid.length = n) :
    (((before ++ mid :: after).flatten).drop i).take n = mid := by
  subst hi hn
  rw [List.flatten_append, List.flatten_cons, List.drop_left, List.take_left]

def rawParts (id : Nat) (type : Int) (flags : Nat) (data : Bytes) (crc : Nat) : List Bytes :=
  [encode 4 (data.length + minSize), encode 8 id, encodeInt 4 type, encode 4 flags, encode 8 0, data, encode 4 crc]

theorem createRaw_eq_flatten : createRaw crc32 id type flags data =
    (rawParts id type flags data (crc32 (createRawHead id type flags data)).toNat).flatten := by
  simp only [createRaw, createRawHead, rawParts, List.flatten_cons, List.flatten_nil, List.append_nil,
    List.append_assoc]

/-- The data is behind the header. -/
theorem getData_createRaw (event : BinlogEvent) (h : event.rawEvent = createRaw crc32 id type flags data) :
    event.getData = data := by
  unfold getData
  rw [h, length_createRaw, Nat.add_sub_cancel, createRaw_eq_flatten]
  exact take_drop_flatten [_, _, _, _, _] data [_]
    (by simp only [List.flatten_cons, List.flatten_nil, List.length_append, length_encode, length_encodeInt,
      List.length_nil, headerSize]) rfl

structure Fits (id : Nat) (type : Int) (flags : Nat) (data : Bytes) : Prop where
  id_lt : id < 2 ^ 64
  type_int32 : IsInt32 type
  flags_lt : flags < 2 ^ 32
  size_le : data.length + minSize ≤ maxSize

theorem Fits.size_lt (h : Fits id type flags data) : data.length + minSize < 256 ^ 4 :=
  Nat.lt_of_le_of_lt h.size_le (by decide)

/-- The checksum stands behind the data. -/
theorem tail_createRaw :
    ((createRaw crc32 id type flags data).drop (data.length + headerSize)).take 4 =
      encode 4 (crc32 (createRawHead id type flags data)).toNat := by
  rw [createRaw, ← length_createRawHead id type flags data, List.drop_left]
  exact List.take_of_length_le (by rw [length_encode])

theorem size_createRaw (h : Fits id type flags data) :
    decode ((createRaw crc32 id type flags data).take 4) = data.length + minSize := by
  have hsize := take_drop_flatten [] (encode 4 (data.length + minSize)) [encode 8 id, encodeInt 4 type,
    encode 4 flags, encode 8 0, data, encode 4 (crc32 (createRawHead id type flags data)).toNat] rfl
    (length_encode 4 _)
  rw [createRaw_eq_flatten]
  exact (congrArg decode hsize).trans (decode_encode h.size_lt)

/-- A raw event is read back. -/
theorem init_createRaw (h : Fits id type flags data) :
    init (createRaw crc32 id type flags data) =
      { size := data.length + minSize, id := id, type := type, flags := flags, extra := 0,
        crc32 := (crc32 (createRawHead id type flags data)).toNat
        rawEvent := createRaw crc32 id type flags data } := by
  obtain ⟨hmin, hmax⟩ := h.type_int32
  generalize hcrc : (crc32 (createRawHead id type flags data)).toNat = crc
  have hcrcLt : crc < 256 ^ 4 := hcrc ▸ UInt32.toNat_lt _
  have hraw : createRaw crc32 id type flags data = (rawParts id type flags data crc).flatten :=
    hcrc ▸ createRaw_eq_flatten
  have hid' : ((createRaw crc32 id type flags data).drop 4).take 8 = encode 8 id :=
    hraw ▸ take_drop_flatten [_] _ [_, _, _, _, _] (by simp) (length_encode 8 id)
  have htype' : ((createRaw crc32 id type flags data).drop 12).take 4 = encodeInt 4 type :=
    hraw ▸ take_drop_flatten [_, _] _ [_, _, _, _] (by simp) (length_encodeInt 4 type)
  have hflags' : ((createRaw crc32 id type flags data).drop 16).take 4 = encode 4 flags :=
    hraw ▸ take_drop_flatten [_, _, _] _ [_, _, _] (by simp) (length_encode 4 flags)
  have hextra' : ((createRaw crc32 id type flags data).drop 20).take 8 = encode 8 0 :=
    hraw ▸ take_drop_flatten [_, _, _, _] _ [_, _] (by simp) (length_encode 8 0)
  have htail : data.length + minSize - tailSize = data.length + headerSize := Nat.add_sub_cancel _ 4
  unfold init
  rw [size_createRaw h, hid', htype', hflags', hextra', htail, tail_createRaw, hcrc, decode_encode h.id_lt,
    decodeInt_encodeInt (by omega) (by omega), decode_encode h.flags_lt, decode_encode (by decide),
    decode_encode hcrcLt]

/-- Its checksum is the one that was written. -/
theorem validate_init_createRaw (h : Fits id type flags data) :
    (init (createRaw crc32 id type flags data)).validate crc32 = .ok () := by
  have htail : data.length + minSize - tailSize = data.length + headerSize := Nat.add_sub_cancel _ 4
  have hhead : (createRaw crc32 id type flags data).take (data.length + headerSize) =
      createRawHead id type flags data := by
    rw [createRaw, ← length_createRawHead id type flags data, List.take_left]
  rw [init_createRaw h]
  unfold validate
  simp only [htail, hhead, tail_createRaw, length_createRaw, size_createRaw h]
  rw [decode_encode (UInt32.toNat_lt _), if_neg (by omega), if_neg (by simp), if_neg (by simp)]

end BinlogEvent

end TelegramBotApi
