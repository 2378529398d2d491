import TelegramBotApi.SliceText

/-!
# Decoding JSON

`jsonDecode` follows `td::json_decode`. A decoder gets the unread text and returns a value with the text
behind it, or `none` for any error: the callers here never look at the reason. Loops take the length of
the text as fuel, which every round shortens.
-/

namespace TelegramBotApi

inductive JsonValue where
  | null
  | boolean (value : Bool)
  | number (text : Slice)
  | string (text : Slice)
  | array (items : List JsonValue)
  | object (fields : List (Slice × JsonValue))

namespace Json

def skipWhitespaces (data : Slice) : Slice :=
  data.dropWhile fun c => c == ' ' || c == '\t' || c == '\r' || c == '\n'

/-- `try_skip` of a text that has to stand next. -/
def token (text : Slice) (value : JsonValue) (data : Slice) : Option (JsonValue × Slice) :=
  if text.isPrefixOf data then some (value, data.drop text.length) else none

def hexToInt (c : Char) : Option Nat :=
  if Slice.isDigit c then some (c.toNat - '0'.toNat)
  else if 'a' ≤ c && c ≤ 'f' then some (c.toNat - 'a'.toNat + 10)
  else if 'A' ≤ c && c ≤ 'F' then some (c.toNat - 'A'.toNat + 10)
  else none

/-- The four digits of a `\u` escape. -/
def hexNumber (a b c d : Char) : Option Nat := do
  let a ← hexToInt a
  let b ← hexToInt b
  let c ← hexToInt c
  let d ← hexToInt d
  return ((a * 16 + b) * 16 + c) * 16 + d

def isSurrogate (num : Nat) : Bool := 0xD7FF < num && num < 0xE000

/-- `append_utf8_character_unsafe`. -/
def utf8Character (code : Nat) : Slice :=
  if code ≤ 0x7f then [Char.ofNat code]
  else if code ≤ 0x7ff then [Char.ofNat (0xc0 + code / 64), Char.ofNat (0x80 + code % 64)]
  else if code ≤ 0xffff then
    [Char.ofNat (0xe0 + code / 4096), Char.ofNat (0x80 + code / 64 % 64),
      Char.ofNat (0x80 + code % 64)]
  else
    [Char.ofNat (0xf0 + code / 262144), Char.ofNat (0x80 + code / 4096 % 64),
      Char.ofNat (0x80 + code / 64 % 64), Char.ofNat (0x80 + code % 64)]

/-- The character behind a backslash, other than `u`. -/
def escaped (c : Char) : Char :=
  if c = 'b' then '\x08' else if c = 'f' then '\x0c' else if c = 'n' then '\n'
  else if c = 'r' then '\r' else if c = 't' then '\t' else c

/-- A `\u` escape behind its letter: the character it stands for and the text that follows. A second
escape belongs to it only if both are surrogates. -/
def unicodeEscape : Slice → Option (Slice × Slice)
  | a :: b :: c :: d :: rest => do
    let num ← hexNumber a b c d
    if isSurrogate num then
      match rest with
      | '\\' :: 'u' :: e :: f :: g :: h :: rest' =>
        let low ← hexNumber e f g h
        if isSurrogate low then
          return (utf8Character (num % 1024 * 1024 + low % 1024 + 0x10000), rest')
        return (utf8Character num, rest)
      | _ => return (utf8Character num, rest)
    return (utf8Character num, rest)
  | _ => none

def stringLoop : Nat → Slice → Option (Slice × Slice)
  | 0, _ => none
  | _, [] => none
  | fuel + 1, c :: rest =>
    if c = '"' then some ([], rest)
    else if c = '\\' then
      match rest with
      | [] => none
      | e :: rest => do
        let (text, rest) ← if e = 'u' then unicodeEscape rest else some ([escaped e], rest)
        let (decoded, rest) ← stringLoop fuel rest
        return (text ++ decoded, rest)
    else do
      let (decoded, rest) ← stringLoop fuel rest
      return (c :: decoded, rest)

def stringDecode : Slice → Option (Slice × Slice)
  | '"' :: data => stringLoop (data.length + 1) data
  | _ => none

variable (decode : Slice → Option (JsonValue × Slice))

/-- The elements of an array up to its closing bracket. -/
def arrayLoop : Nat → Slice → Option (List JsonValue × Slice)
  | 0, _ => none
  | fuel + 1, data => do
    if data = [] then none
    let (value, data) ← decode data
    match skipWhitespaces data with
    | ']' :: data => return ([value], data)
    | ',' :: data =>
      let (values, data) ← arrayLoop fuel (skipWhitespaces data)
      return (value :: values, data)
    | _ => none

/-- The fields of an object up to its closing brace. -/
def objectLoop : Nat → Slice → Option (List (Slice × JsonValue) × Slice)
  | 0, _ => none
  | fuel + 1, data => do
    let (field, data) ← stringDecode data
    match skipWhitespaces data with
    | ':' :: data =>
      let (value, data) ← decode data
      match skipWhitespaces data with
      | '\x7d' :: data => return ([(field, value)], data)
      | ',' :: data =>
        let (fields, data) ← objectLoop fuel (skipWhitespaces data)
        return ((field, value) :: fields, data)
      | _ => none
    | _ => none

def isNumberChar (c : Char) : Bool :=
  c == '-' || Slice.isDigit c || c == 'e' || c == 'E' || c == '+' || c == '.'

/-- `do_json_decode` with `depth` levels of nesting left. -/
def doDecode : Nat → Slice → Option (JsonValue × Slice)
  | 0, _ => none
  | depth + 1, data =>
    let data := skipWhitespaces data
    match data with
    | [] => none
    | c :: rest =>
      if c = 'f' then token "false".toList (.boolean false) data
      else if c = 't' then token "true".toList (.boolean true) data
      else if c = 'n' then token "null".toList .null data
      else if c = '"' then (stringDecode data).map fun p => (.string p.1, p.2)
      else if c = '[' then
        match skipWhitespaces rest with
        | ']' :: rest => some (.array [], rest)
        | rest => (arrayLoop (doDecode depth) (rest.length + 1) rest).map fun p => (.array p.1, p.2)
      else if c = '\x7b' then
        match skipWhitespaces rest with
        | '\x7d' :: rest => some (.object [], rest)
        | rest => (objectLoop (doDecode depth) (rest.length + 1) rest).map fun p => (.object p.1, p.2)
      else if c == '-' || c == '+' || c == '.' || Slice.isDigit c then
        some (.number (data.takeWhile isNumberChar), data.dropWhile isNumberChar)
      else none

/-- `json_decode`: the value has to fill the text. -/
def jsonDecode (json : Slice) : Option JsonValue :=
  match doDecode 101 json with
  | some (value, rest) => if skipWhitespaces rest = [] then some value else none
  | none => none

theorem isNumberChar_of_isDigit {c : Char} (hc : Slice.isDigit c = true) : isNumberChar c = true := by
  simp [isNumberChar, hc]

/-- A decimal number decodes to itself. -/
theorem jsonDecode_digits {text : Slice} (hne : text ≠ []) (hdigits : ∀ c ∈ text, Slice.isDigit c = true) :
    jsonDecode text = some (.number text) := by
  obtain ⟨c, rest, rfl⟩ := List.exists_cons_of_ne_nil hne
  have hc := hdigits c (by simp)
  have hnot : ∀ d : Char, Slice.isDigit d = false → c ≠ d := by
    rintro d hd rfl
    cases hc.symm.trans hd
  have hskip : skipWhitespaces (c :: rest) = c :: rest := by
    unfold skipWhitespaces
    rw [List.dropWhile_cons_of_neg]
    simp [hnot ' ' rfl, hnot '\t' rfl, hnot '\r' rfl, hnot '\n' rfl]
  have htake : (c :: rest).takeWhile isNumberChar = c :: rest :=
    List.takeWhile_eq_self_iff.2 fun d hd => isNumberChar_of_isDigit (hdigits d hd)
  have hdrop : (c :: rest).dropWhile isNumberChar = [] :=
    List.dropWhile_eq_nil_iff.2 fun d hd => isNumberChar_of_isDigit (hdigits d hd)
  have hvalue : doDecode 101 (c :: rest) = some (.number (c :: rest), []) := by
    unfold doDecode
    simp only [hskip]
    rw [if_neg (hnot 'f' rfl), if_neg (hnot 't' rfl), if_neg (hnot 'n' rfl), if_neg (hnot '"' rfl),
      if_neg (hnot '[' rfl), if_neg (hnot '\x7b' rfl), if_pos (by simp [hc]), htake, hdrop]
  unfold jsonDecode
  rw [hvalue]
  rfl

end Json

end TelegramBotApi
