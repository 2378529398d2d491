import Mathlib.Algebra.Order.Ring.Int
import Mathlib.Data.List.DropRight

/-!
# Byte strings and decimal integers

A `td::Slice` is a finite byte string; it is written here as a list of characters, one for each
byte. The functions are those of `td/utils/misc.h` and `td/utils/base64.h` that the server code
calls. `toInteger` keeps the wrap-around of the unsigned accumulator, so `toIntegerSafe` rejects
what the source rejects.
-/

namespace TelegramBotApi

abbrev Slice := List Char

/-- A `td::Status` error; messages are decoded text. -/
structure Status where
  code : Int
  message : String
  deriving DecidableEq, Repr

namespace Slice

def isSpace (c : Char) : Bool :=
  c == ' ' || c == '\t' || c == '\r' || c == '\n' || c == '\x00' || c == '\x0b'

def isDigit (c : Char) : Bool := '0' ≤ c && c ≤ '9'

def trim (str : Slice) : Slice := (str.dropWhile isSpace).rdropWhile isSpace

def toLower (str : Slice) : Slice :=
  str.map fun c => if 'A' ≤ c && c ≤ 'Z' then Char.ofNat (c.toNat + 32) else c

def beginsWith (str start : Slice) : Bool := start.isPrefixOf str

/-- Position of the first `c`, or `none` for `npos`. -/
def find (str : Slice) (c : Char) : Option Nat := str.findIdx? (· == c)

end Slice

def int64Max : Int := 2 ^ 63 - 1

def int64Min : Int := -2 ^ 63

/-- The digit loop of `to_integer`, on an unsigned 64-bit accumulator. -/
def accumulateDigits : Nat → Slice → Nat
  | acc, [] => acc
  | acc, c :: cs =>
    if Slice.isDigit c then accumulateDigits ((acc * 10 + (c.toNat - '0'.toNat)) % 2 ^ 64) cs
    else acc

/-- `to_integer<int64>`: an optional minus sign, then digits up to the first other byte. -/
def toInteger (str : Slice) : Int :=
  let isNegative := str.head? == some '-'
  let value := accumulateDigits 0 (if isNegative then str.tail else str)
  if (value : Int) ≤ int64Max then
    if isNegative then -(value : Int) else value
  else
    let value : Nat := 2 ^ 64 - value
    if int64Max < (value : Int) then int64Min
    else if isNegative then (value : Int) else -(value : Int)

/-- `to_integer_safe<int64>`: the number whose decimal form is the whole string. -/
def toIntegerSafe (str : Slice) : Option Int :=
  let res := toInteger str
  if (toString res).toList = str then some res else none

/-- `to_integer<int32>`: its 32-bit accumulator is the 64-bit one modulo `2 ^ 32`. -/
def toInt32 (str : Slice) : Int :=
  let isNegative := str.head? == some '-'
  let value : Nat := accumulateDigits 0 (if isNegative then str.tail else str) % 2 ^ 32
  if value < 2 ^ 31 then
    if isNegative then -(value : Int) else value
  else
    let value : Nat := 2 ^ 32 - value
    if 2 ^ 31 ≤ value then -2 ^ 31
    else if isNegative then (value : Int) else -(value : Int)

def toInt32Safe (str : Slice) : Option Int :=
  let res := toInt32 str
  if (toString res).toList = str then some res else none

def toUInt64Safe (str : Slice) : Option Nat :=
  let res := accumulateDigits 0 str
  if (toString res).toList = str then some res else none

theorem isDigit_of_mem_natText {n : Nat} {c : Char} (hc : c ∈ (toString n).toList) :
    Slice.isDigit c = true := by
  rw [Nat.toString_eq_repr, Nat.toList_repr] at hc
  have h := Nat.isDigit_of_mem_toDigits (by omega) (by omega) hc
  rw [Char.isDigit_iff_toNat] at h
  simp only [Slice.isDigit, Bool.and_eq_true, decide_eq_true_eq, Char.le_def, UInt32.le_iff_toNat_le]
  exact h

theorem natText_ne_nil (n : Nat) : (toString n).toList ≠ [] := by
  rw [Nat.toString_eq_repr, Nat.toList_repr]
  exact Nat.toDigits_ne_nil

theorem head?_natText_ne_minus (n : Nat) : ((toString n).toList.head? == some '-') = false := by
  cases hl : (toString n).toList with
  | nil => rfl
  | cons c cs =>
      have hc := isDigit_of_mem_natText (n := n) (c := c) (by rw [hl]; exact List.mem_cons_self)
      simp only [List.head?_cons, Option.some_beq_some, beq_eq_false_iff_ne]
      rintro rfl
      cases hc

theorem ofDigitChars_natText (n : Nat) : Nat.ofDigitChars 10 (toString n).toList 0 = n := by
  rw [Nat.toString_eq_repr, Nat.toList_repr]
  exact Nat.ofDigitChars_ten_toDigits

theorem negText (n : Nat) : (toString (Int.negSucc n)).toList = '-' :: (toString (n + 1)).toList := by
  change ("-" ++ toString (n + 1)).toList = _
  rw [String.toList_append]
  rfl

/-- Different numbers have different texts. -/
theorem intText_injective {a b : Int} (h : toString a = toString b) : a = b := by
  have hlist := congrArg String.toList h
  have hmixed : ∀ m n : Nat, (toString m).toList ≠ '-' :: (toString (n + 1)).toList := fun m n heq => by
    have hsign := head?_natText_ne_minus m
    rw [heq] at hsign
    cases hsign
  cases a with
  | ofNat m =>
      cases b with
      | ofNat n =>
          have hvalue := ofDigitChars_natText m
          rw [show (toString m).toList = (toString n).toList from hlist, ofDigitChars_natText] at hvalue
          rw [hvalue]
      | negSucc n => exact absurd (hlist.trans (negText n)) (hmixed m n)
  | negSucc m =>
      cases b with
      | ofNat n => exact absurd (hlist.symm.trans (negText m)) (hmixed n m)
      | negSucc n =>
          rw [negText, negText] at hlist
          have hvalue := ofDigitChars_natText (m + 1)
          rw [(List.cons.inj hlist).2, ofDigitChars_natText, Nat.succ_inj] at hvalue
          rw [hvalue]

/-- On digits the accumulator is the number modulo `2 ^ 64`. -/
theorem accumulateDigits_eq {cs : Slice} (hcs : ∀ c ∈ cs, Slice.isDigit c = true) (acc : Nat) :
    accumulateDigits (acc % 2 ^ 64) cs = Nat.ofDigitChars 10 cs acc % 2 ^ 64 := by
  induction cs generalizing acc with
  | nil => rfl
  | cons c cs ih =>
      have hmod : (acc % 2 ^ 64 * 10 + (c.toNat - '0'.toNat)) % 2 ^ 64 =
          (10 * acc + (c.toNat - '0'.toNat)) % 2 ^ 64 := by omega
      rw [accumulateDigits, if_pos (hcs c (by simp)), hmod, ih fun d hd => hcs d (by simp [hd]),
        Nat.ofDigitChars_cons]

theorem accumulateDigits_natText {n : Nat} (hn : n < 2 ^ 64) :
    accumulateDigits 0 (toString n).toList = n := by
  have h := accumulateDigits_eq (fun c hc => isDigit_of_mem_natText (n := n) hc) 0
  rw [ofDigitChars_natText, Nat.mod_eq_of_lt hn] at h
  exact h

theorem toUInt64Safe_natText {n : Nat} (hn : n < 2 ^ 64) :
    toUInt64Safe (toString n).toList = some n := by
  unfold toUInt64Safe
  rw [accumulateDigits_natText hn]
  exact if_pos rfl

/-- A number of 64 bits is the one of its decimal form. -/
theorem toInteger_intText {z : Int} (hmin : -2 ^ 63 ≤ z) (hmax : z < 2 ^ 63) : toInteger (toString z).toList = z := by
  cases z with
  | ofNat n =>
      have hn : (n : Int) < 2 ^ 63 := hmax
      change toInteger (toString n).toList = n
      unfold toInteger int64Max
      simp only [head?_natText_ne_minus, Bool.false_eq_true, if_false]
      rw [accumulateDigits_natText (by omega), if_pos (by omega)]
  | negSucc n =>
      unfold toInteger int64Max int64Min
      simp only [negText, List.head?_cons, beq_self_eq_true, if_true, List.tail_cons]
      rw [accumulateDigits_natText (by omega)]
      split_ifs <;> omega

theorem toInt32_intText {z : Int} (hmin : -2 ^ 31 ≤ z) (hmax : z < 2 ^ 31) : toInt32 (toString z).toList = z := by
  cases z with
  | ofNat n =>
      have hn : (n : Int) < 2 ^ 31 := hmax
      change toInt32 (toString n).toList = n
      unfold toInt32
      simp only [head?_natText_ne_minus, Bool.false_eq_true, if_false]
      rw [accumulateDigits_natText (by omega), if_pos (by omega)]
      omega
  | negSucc n =>
      unfold toInt32
      simp only [negText, List.head?_cons, beq_self_eq_true, if_true, List.tail_cons]
      rw [accumulateDigits_natText (by omega)]
      split_ifs <;> omega

/-- The value of a base64url character, 64 for any other one. -/
def base64UrlValue (c : Char) : Nat :=
  ("ABCDEFGHIJKLMNOPQRSTUVWXYZabcdefghijklmnopqrstuvwxyz0123456789-_".toList).idxOf c

/-- The loop of `base64_decode_impl` over groups of four characters. -/
def base64UrlGroups : Slice → Bool
  | [] => true
  | a :: b :: c :: d :: rest =>
    base64UrlValue a < 64 && base64UrlValue b < 64 && base64UrlValue c < 64 &&
      base64UrlValue d < 64 && base64UrlGroups rest
  | [a, b, c] => base64UrlValue a < 64 && base64UrlValue b < 64 && base64UrlValue c < 64 &&
      base64UrlValue c % 4 == 0
  | [a, b] => base64UrlValue a < 64 && base64UrlValue b < 64 && base64UrlValue b % 16 == 0
  | [a] => base64UrlValue a < 64

def isBase64UrlCharacters (input : Slice) : Bool := input.all (base64UrlValue · < 64)

def isBase64Url (str : Slice) : Bool :=
  let digits := str.rdropWhile (· == '=')
  let padding := str.length - digits.length
  padding < 3 && (padding == 0 || (digits.length + padding) % 4 == 0) && digits.length % 4 != 1 &&
    base64UrlGroups digits

end TelegramBotApi
