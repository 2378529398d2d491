import TelegramBotApi.LittleEndian

/-!
# TL serialization

The primitives of `td/utils/tl_storers.h` and `td/utils/tl_parsers.h` that the update storage and the
webhook database store their log events with. A parser is a function of the bytes that are left; it
fails where `check_len` sets the error of the parser, whose status every caller reads before it uses
what was fetched.
-/

namespace TelegramBotApi

open LittleEndian

namespace TlStorer

def storeInt (x : Int) : Bytes := encodeInt 4 x

def storeLong (x : Int) : Bytes := encodeInt 8 x

/-- The length that `store_string` writes before a string of fewer than `2 ^ 32` bytes. -/
def stringLength (len : Nat) : Bytes :=
  if len < 254 then encode 1 len
  else if len < 2 ^ 24 then 254 :: encode 3 len
  else 255 :: (encode 4 len ++ [0, 0, 0])

/-- The zeros behind a string, which `store_string` finds by the length written for a short string and
by the length itself for the others. -/
def stringPadding (len : Nat) : Bytes :=
  List.replicate ((4 - (if len < 254 then len + 1 else len) % 4) % 4) 0

def storeString (str : Bytes) : Bytes :=
  stringLength str.length ++ str ++ stringPadding str.length

end TlStorer

namespace TlParser

def fetchStringRaw (size : Nat) (data : Bytes) : Option (Bytes × Bytes) :=
  if size ≤ data.length then some (data.take size, data.drop size) else none

def fetchInt (data : Bytes) : Option (Int × Bytes) :=
  (fetchStringRaw 4 data).map fun r => (decodeInt r.1, r.2)

def fetchLong (data : Bytes) : Option (Int × Bytes) :=
  (fetchStringRaw 8 data).map fun r => (decodeInt r.1, r.2)

/-- What `fetch_string` returns of `left`, the bytes behind the length, when it passes `alignedLen` of
them. -/
def fetchAligned (resultLen alignedLen : Nat) (begin left : Bytes) : Option (Bytes × Bytes) :=
  if alignedLen ≤ left.length then some (begin.take resultLen, left.drop alignedLen) else none

/-- `fetch_string`: the first bytes of a short string stand in the word of its length. -/
def fetchString (data : Bytes) : Option (Bytes × Bytes) := do
  let word ← fetchStringRaw 4 data
  let resultLen := decode (word.1.take 1)
  if resultLen < 254 then
    fetchAligned resultLen (resultLen / 4 * 4) (data.drop 1) word.2
  else if resultLen = 254 then
    let resultLen := decode (word.1.drop 1)
    fetchAligned resultLen ((resultLen + 3) / 4 * 4) word.2 word.2
  else
    let next ← fetchStringRaw 4 word.2
    let resultLen := decode (word.1.drop 1 ++ next.1)
    fetchAligned resultLen ((resultLen + 3) / 4 * 4) next.2 next.2

def fetchEnd (data : Bytes) : Option Unit := if data = [] then some () else none

end TlParser

open TlStorer TlParser

theorem fetchStringRaw_append {bytes rest : Bytes} {size : Nat} (h : bytes.length = size) :
    fetchStringRaw size (bytes ++ rest) = some (bytes, rest) := by
  subst h
  unfold fetchStringRaw
  rw [if_pos (by simp), List.take_left, List.drop_left]

def IsInt32 (x : Int) : Prop := -2 ^ 31 ≤ x ∧ x < 2 ^ 31

def IsInt64 (x : Int) : Prop := -2 ^ 63 ≤ x ∧ x < 2 ^ 63

theorem fetchInt_storeInt {x : Int} (h : IsInt32 x) (rest : Bytes) :
    fetchInt (storeInt x ++ rest) = some (x, rest) := by
  obtain ⟨hmin, hmax⟩ := h
  unfold fetchInt storeInt
  rw [fetchStringRaw_append (length_encodeInt 4 x), Option.map_some]
  rw [decodeInt_encodeInt (by omega) (by omega)]

theorem fetchLong_storeLong {x : Int} (h : IsInt64 x) (rest : Bytes) :
    fetchLong (storeLong x ++ rest) = some (x, rest) := by
  obtain ⟨hmin, hmax⟩ := h
  unfold fetchLong storeLong
  rw [fetchStringRaw_append (length_encodeInt 8 x), Option.map_some]
  rw [decodeInt_encodeInt (by omega) (by omega)]

theorem length_storeString (str : Bytes) : (storeString str).length % 4 = 0 := by
  unfold storeString stringLength stringPadding
  split_ifs <;> simp only [List.length_append, List.length_cons, List.length_nil, length_encode,
    List.length_replicate] <;> omega

/-- The string with its padding. -/
theorem fetchAligned_append {str padding rest : Bytes} {alignedLen : Nat}
    (h : alignedLen = str.length + padding.length) :
    fetchAligned str.length alignedLen (str ++ (padding ++ rest)) (str ++ (padding ++ rest)) = some (str, rest) := by
  subst h
  unfold fetchAligned
  rw [if_pos (by simp), List.take_left, List.drop_append]
  simp

theorem fetchStringRaw_of_le {data : Bytes} {size : Nat} (h : size ≤ data.length) :
    fetchStringRaw size data = some (data.take size, data.drop size) := if_pos h

/-- `fetch_string` by the first byte. -/
theorem fetchString_eq {data bytes left : Bytes} {b : UInt8}
    (h : fetchStringRaw 4 data = some (b :: bytes, left)) :
    fetchString data =
      if b.toNat < 254 then fetchAligned b.toNat (b.toNat / 4 * 4) (data.drop 1) left
      else if b.toNat = 254 then fetchAligned (decode bytes) ((decode bytes + 3) / 4 * 4) left left
      else (fetchStringRaw 4 left).bind fun next =>
        fetchAligned (decode (bytes ++ next.1)) ((decode (bytes ++ next.1) + 3) / 4 * 4) next.2 next.2 := by
  unfold fetchString
  rw [h]
  rfl

/-- Fewer than 254 bytes: the padding goes to the end of a word that the length has begun. -/
theorem fetchString_short {str : Bytes} (h : str.length < 254) (rest : Bytes) :
    fetchString (storeString str ++ rest) = some (str, rest) := by
  have hstored : storeString str ++ rest =
      UInt8.ofNat str.length :: (str ++ (stringPadding str.length ++ rest)) := by
    unfold storeString stringLength
    rw [if_pos h, List.append_assoc, List.append_assoc]
    rfl
  have hpadding : (stringPadding str.length).length = 3 - str.length % 4 := by
    unfold stringPadding
    rw [if_pos h, List.length_replicate]
    omega
  have hbyte : (UInt8.ofNat str.length).toNat = str.length := by
    have hmod : (UInt8.ofNat str.length).toNat = str.length % 2 ^ 8 := UInt8.toNat_ofNat'
    omega
  have hlength : (str ++ (stringPadding str.length ++ rest)).length =
      3 + str.length / 4 * 4 + rest.length := by
    simp only [List.length_append, hpadding]
    omega
  have hrest : (str ++ (stringPadding str.length ++ rest)).drop (3 + str.length / 4 * 4) = rest := by
    rw [← List.append_assoc]
    refine List.drop_left' ?_
    rw [List.length_append, hpadding]
    omega
  have hword : fetchStringRaw 4 (UInt8.ofNat str.length :: (str ++ (stringPadding str.length ++ rest))) = _ :=
    fetchStringRaw_of_le (by rw [List.length_cons, hlength]; omega)
  rw [hstored, fetchString_eq hword, hbyte, if_pos h]
  unfold fetchAligned
  rw [if_pos (by rw [List.length_drop, List.length_cons, hlength]; omega), List.drop_one, List.tail_cons,
    List.take_left, List.drop_drop, show 4 + str.length / 4 * 4 = (3 + str.length / 4 * 4) + 1 by omega,
    List.drop_succ_cons, hrest]

/-- A longer string has its length in a word of its own, or in two. -/
theorem fetchString_long {str : Bytes} (h : ¬ str.length < 254) (hlt : str.length < 2 ^ 32) (rest : Bytes) :
    fetchString (storeString str ++ rest) = some (str, rest) := by
  have hpadding : (str.length + 3) / 4 * 4 = str.length + (stringPadding str.length).length := by
    unfold stringPadding
    rw [if_neg h, List.length_replicate]
    omega
  unfold storeString stringLength
  rw [if_neg h]
  split_ifs with hmedium
  · have hword : (254 :: encode 3 str.length).length = 4 := by rw [List.length_cons, length_encode]
    rw [List.append_assoc, List.append_assoc, fetchString_eq (fetchStringRaw_append hword),
      if_neg (by decide), if_pos (by decide), decode_encode (by omega), fetchAligned_append hpadding]
  · have hword : (255 :: encode 3 str.length).length = 4 := by rw [List.length_cons, length_encode]
    have hnext : (encode 1 (str.length / 256 ^ 3) ++ [0, 0, 0]).length = 4 := by
      rw [List.length_append, length_encode]
      rfl
    have hvalue : decode (encode 3 str.length ++ (encode 1 (str.length / 256 ^ 3) ++ [0, 0, 0])) =
        str.length := by
      rw [← List.append_assoc, ← encode_add]
      exact (decode_append_zeros _ 3).trans (decode_encode (by omega))
    have hsplit : 255 :: (encode 4 str.length ++ [0, 0, 0]) =
        (255 :: encode 3 str.length) ++ (encode 1 (str.length / 256 ^ 3) ++ [0, 0, 0]) := by
      rw [show (4 : Nat) = 3 + 1 from rfl, encode_add, List.append_assoc]
      rfl
    rw [hsplit, List.append_assoc, List.append_assoc, List.append_assoc,
      fetchString_eq (fetchStringRaw_append hword), if_neg (by decide), if_neg (by decide),
      fetchStringRaw_append hnext, Option.bind_some, hvalue, fetchAligned_append hpadding]

/-- A stored string is fetched. -/
theorem fetchString_storeString {str : Bytes} (h : str.length < 2 ^ 32) (rest : Bytes) :
    fetchString (storeString str ++ rest) = some (str, rest) := by
  by_cases hshort : str.length < 254
  · exact fetchString_short hshort rest
  · exact fetchString_long hshort h rest

end TelegramBotApi
