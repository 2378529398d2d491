import TelegramBotApi.JsonDecode

/-!
# The request line of the HTTP reader

`HttpReader::parse_url` stores the decoded path of a request and reads its parameters. The reader keeps
the members that it assigns.
-/

namespace TelegramBotApi

/-- `url_decode`. An escape that is cut off or has another character than a hexadecimal digit stands
for itself. -/
def urlDecode (decodePlusSignAsSpace : Bool) : Slice → Slice
  | [] => []
  | '%' :: a :: b :: rest =>
    match Json.hexToInt a, Json.hexToInt b with
    | some high, some low => Char.ofNat (high * 16 + low) :: urlDecode decodePlusSignAsSpace rest
    | _, _ => '%' :: urlDecode decodePlusSignAsSpace (a :: b :: rest)
  | c :: rest => (if decodePlusSignAsSpace && c == '+' then ' ' else c) :: urlDecode decodePlusSignAsSpace rest

@[simp] theorem urlDecode_nil (plus : Bool) : urlDecode plus [] = [] := by
  rw [urlDecode]

theorem urlDecode_plain {c : Char} (hc : c ≠ '%') (rest : Slice) :
    urlDecode false (c :: rest) = c :: urlDecode false rest := by
  rw [urlDecode]
  · rfl
  · rintro a b tail rfl
    exact absurd rfl hc

theorem urlDecode_escape {a b : Char} {high low : Nat} (ha : Json.hexToInt a = some high)
    (hb : Json.hexToInt b = some low) (plus : Bool) (rest : Slice) :
    urlDecode plus ('%' :: a :: b :: rest) = Char.ofNat (high * 16 + low) :: urlDecode plus rest := by
  rw [urlDecode]
  simp only [ha, hb]

theorem urlDecode_plain_append {text : Slice} (htext : '%' ∉ text) (rest : Slice) :
    urlDecode false (text ++ rest) = text ++ urlDecode false rest := by
  induction text with
  | nil => rfl
  | cons c text ih =>
      rw [List.mem_cons, not_or] at htext
      rw [List.cons_append, urlDecode_plain (Ne.symm htext.1), ih htext.2]
      rfl

theorem urlDecode_of_plain {text : Slice} (htext : '%' ∉ text) : urlDecode false text = text := by
  have h := urlDecode_plain_append htext []
  rw [List.append_nil, urlDecode_nil, List.append_nil] at h
  exact h

/-- The part of `HttpReader` and of its query that a request line fills. -/
structure HttpReader where
  urlPath : Slice := []
  args : List (Slice × Slice) := []
  totalParametersLength : Nat := 0
  deriving DecidableEq

namespace HttpReader

def maxTotalParametersLength : Nat := 2 ^ 20

/-- The loop of `parse_parameters`, which reads at least one character in each round. -/
def readParameters : Nat → Slice → List (Slice × Slice)
  | 0, _ => []
  | fuel + 1, data =>
    if data = [] then []
    else
      let keyValue := data.takeWhile (· ≠ '&')
      let value := (keyValue.dropWhile (· ≠ '=')).drop 1
      (urlDecode true (keyValue.takeWhile (· ≠ '=')), urlDecode true value) ::
        readParameters fuel ((data.dropWhile (· ≠ '&')).drop 1)

def parseParameters (reader : HttpReader) (parameters : Slice) : HttpReader × Option Status :=
  let reader := { reader with totalParametersLength := reader.totalParametersLength + parameters.length }
  if maxTotalParametersLength < reader.totalParametersLength then
    (reader, some ⟨413, "Request Entity Too Large: too many parameters"⟩)
  else ({ reader with args := reader.args ++ readParameters parameters.length parameters }, none)

def parseUrl (reader : HttpReader) (url : Slice) : HttpReader × Option Status :=
  let path := url.takeWhile fun c => c ≠ '?' && c ≠ '#'
  let reader := { reader with urlPath := urlDecode false path }
  match url.drop path.length with
  | '?' :: parameters => reader.parseParameters parameters
  | _ => (reader, none)

/-- The path that is stored for a target whose path has neither a question mark nor a number sign. -/
theorem parseUrl_urlPath (reader : HttpReader) {path rest : Slice}
    (hpath : ∀ c ∈ path, c ≠ '?' ∧ c ≠ '#') (hrest : ∀ c, rest.head? = some c → c = '?' ∨ c = '#') :
    (reader.parseUrl (path ++ rest)).1.urlPath = urlDecode false path := by
  have htake : (path ++ rest).takeWhile (fun c => c ≠ '?' && c ≠ '#') = path := by
    have hall : ∀ c ∈ path, (c ≠ '?' && c ≠ '#') = true := fun c hc => by simp [hpath c hc]
    rw [List.takeWhile_append_of_pos hall]
    cases rest with
    | nil => simp
    | cons c rest => rcases hrest c rfl with rfl | rfl <;> simp
  unfold parseUrl
  simp only [htake]
  split
  · unfold parseParameters
    simp only
    split_ifs <;> rfl
  · rfl

end HttpReader

end TelegramBotApi
