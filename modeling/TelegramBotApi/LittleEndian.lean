import Mathlib.Algebra.Order.Ring.Int
import Mathlib.Data.List.Basic

/-!
# Numbers as little-endian bytes

A number of a fixed width is written with its lowest byte first, a signed one as its value modulo the
power of two. Both are read back by any reader that knows the width.
-/

abbrev Bytes := List UInt8

namespace LittleEndian

def encode : Nat → Nat → Bytes
  | 0, _ => []
  | width + 1, n => UInt8.ofNat n :: encode width (n / 256)

def decode : Bytes → Nat
  | [] => 0
  | b :: bytes => b.toNat + 256 * decode bytes

@[simp] theorem length_encode (width n : Nat) : (encode width n).length = width := by
  induction width generalizing n with
  | zero => rfl
  | succ width ih => rw [encode, List.length_cons, ih]

theorem decode_lt (bytes : Bytes) : decode bytes < 256 ^ bytes.length := by
  induction bytes with
  | nil => exact Nat.one_pos
  | cons b bytes ih =>
      have hb := b.toNat_lt
      rw [decode, List.length_cons, Nat.pow_succ]
      omega

theorem decode_encode {width n : Nat} (hn : n < 256 ^ width) : decode (encode width n) = n := by
  induction width generalizing n with
  | zero => exact (Nat.lt_one_iff.1 hn).symm
  | succ width ih =>
      have hdiv : n / 256 < 256 ^ width := by rw [Nat.pow_succ] at hn; omega
      have hbyte : (UInt8.ofNat n).toNat = n % 256 := UInt8.toNat_ofNat'
      rw [encode, decode, ih hdiv, hbyte]
      omega

theorem encode_decode (bytes : Bytes) : encode bytes.length (decode bytes) = bytes := by
  induction bytes with
  | nil => rfl
  | cons b bytes ih =>
      have hb := b.toNat_lt
      have hdiv : (b.toNat + 256 * decode bytes) / 256 = decode bytes := by omega
      have hbyte : UInt8.ofNat (b.toNat + 256 * decode bytes) = b := by
        rw [← UInt8.toNat_inj, UInt8.toNat_ofNat']
        omega
      rw [List.length_cons, decode, encode, hdiv, ih, hbyte]

theorem encode_add (a b n : Nat) : encode (a + b) n = encode a n ++ encode b (n / 256 ^ a) := by
  induction a generalizing n with
  | zero => rw [Nat.zero_add, Nat.pow_zero, Nat.div_one, encode, List.nil_append]
  | succ a ih =>
      rw [Nat.succ_add, encode, encode, ih, Nat.div_div_eq_div_mul, Nat.pow_succ, Nat.mul_comm]
      rfl

theorem decode_append_zeros (bytes : Bytes) (count : Nat) :
    decode (bytes ++ List.replicate count 0) = decode bytes := by
  induction bytes with
  | nil =>
      induction count with
      | zero => rfl
      | succ count ih =>
          rw [List.nil_append] at ih ⊢
          rw [List.replicate_succ]
          change 0 + 256 * decode (List.replicate count 0) = decode []
          rw [ih]
          rfl
  | cons b bytes ih => rw [List.cons_append, decode, decode, ih]

/-- Two's complement. -/
def encodeInt (width : Nat) (z : Int) : Bytes := encode width (z % (256 ^ width : Nat)).toNat

def decodeInt (bytes : Bytes) : Int :=
  if 2 * decode bytes < 256 ^ bytes.length then decode bytes
  else decode bytes - (256 ^ bytes.length : Nat)

@[simp] theorem length_encodeInt (width : Nat) (z : Int) : (encodeInt width z).length = width :=
  length_encode _ _

theorem decodeInt_encodeInt {width : Nat} {z : Int} (hmin : -(256 ^ width : Nat) ≤ 2 * z)
    (hmax : 2 * z < (256 ^ width : Nat)) : decodeInt (encodeInt width z) = z := by
  have hpos : 0 < 256 ^ width := Nat.pow_pos (by decide)
  have hvalue : z % (256 ^ width : Nat) = if 0 ≤ z then z else z + (256 ^ width : Nat) := by
    split_ifs with hz
    · exact Int.emod_eq_of_lt hz (by omega)
    · rw [← Int.add_emod_right]
      exact Int.emod_eq_of_lt (by omega) (by omega)
  have hlt : (z % (256 ^ width : Nat)).toNat < 256 ^ width := by
    rw [hvalue]
    split_ifs <;> omega
  unfold decodeInt encodeInt
  rw [length_encode, decode_encode hlt, hvalue]
  split_ifs <;> omega

end LittleEndian
