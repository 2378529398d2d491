import TelegramBotApi.BotQuery
import TelegramBotApi.FileStreamConnection
import TelegramBotApi.HttpReader
import TelegramBotApi.HttpUrl

/-!
# The route of a streaming request

`parse_file_stream_route` reads the path that `HttpReader` has already decoded, and decodes the file
identifier again. What it answers to a request is compared with what the sender of the request has
encoded.
-/

namespace TelegramBotApi

def isHex (c : Char) : Bool :=
  ('0' ≤ c && c ≤ '9') || ('a' ≤ c && c ≤ 'f') || ('A' ≤ c && c ≤ 'F')

def validateUrlEncoding : Slice → Except Status Unit
  | [] => .ok ()
  | '%' :: a :: b :: rest =>
    if isHex a && isHex b then validateUrlEncoding rest
    else .error ⟨400, "Invalid percent-encoding in file_id"⟩
  | c :: rest =>
    if c = '%' then .error ⟨400, "Invalid percent-encoding in file_id"⟩ else validateUrlEncoding rest

/-- The part of `parse_file_stream_route` behind the token. -/
def parseFileId (token : Slice) (parser : ConstParser) : Except Status FileStreamRoute :=
  let test := parser.trySkip "test/".toList
  let encodedFileId := test.2.data
  if encodedFileId = [] ∨ '/' ∈ encodedFileId then .error ⟨400, "Invalid file_id path"⟩
  else match validateUrlEncoding encodedFileId with
    | .error status => .error status
    | .ok () =>
      let fileId := urlDecode false encodedFileId
      if fileId = [] ∨ 4096 < fileId.length ∨ '/' ∈ fileId ∨ '\x00' ∈ fileId then
        .error ⟨400, "Invalid file_id specified"⟩
      else .ok { token := token, fileId := fileId, isTestDc := test.1 }

def parseFileStreamRoute (path : Slice) : Except Status FileStreamRoute :=
  match ConstParser.trySkip ⟨path, false⟩ "/stream/file/bot".toList with
  | (false, _) => .error ⟨404, "Not Found"⟩
  | (true, parser) =>
    let token := parser.readTill '/'
    if token.1 = [] then .error ⟨400, "Token is empty"⟩
    else
      let parser := token.2.skip '/'
      if parser.failed then .error ⟨400, "file_id is missing"⟩
      else parseFileId token.1 parser

/-! ### What a sender encodes -/

/-- The characters that stand for themselves in a path segment. -/
def isSegmentChar (c : Char) : Bool := HttpUrl.isAlnum c || c ∈ "-._~!$&'()*+,;=:@".toList

/-- An encoding of a text as a path segment. Any character may be escaped, in either case of the
hexadecimal digits; those that have no meaning of their own in a path may stand for themselves. -/
inductive SegmentEncodes : Slice → Slice → Prop
  | nil : SegmentEncodes [] []
  | literal {c : Char} {text segment : Slice} (hc : isSegmentChar c = true)
      (h : SegmentEncodes text segment) : SegmentEncodes (c :: text) (c :: segment)
  | escaped {a b : Char} {high low : Nat} {text segment : Slice} (ha : Json.hexToInt a = some high)
      (hb : Json.hexToInt b = some low) (h : SegmentEncodes text segment) :
      SegmentEncodes (Char.ofNat (high * 16 + low) :: text) ('%' :: a :: b :: segment)

theorem isSegmentChar_ne {c : Char} (hc : isSegmentChar c = true) :
    c ≠ '%' ∧ c ≠ '/' ∧ c ≠ '?' ∧ c ≠ '#' := by
  refine ⟨?_, ?_, ?_, ?_⟩ <;> (rintro rfl; revert hc; decide)

theorem isHex_iff {c : Char} : isHex c = true ↔ ∃ n, Json.hexToInt c = some n := by
  unfold isHex Json.hexToInt Slice.isDigit
  by_cases hdigit : ('0' ≤ c && c ≤ '9') = true
  · simp [hdigit]
  by_cases hlower : ('a' ≤ c && c ≤ 'f') = true
  · simp [hdigit, hlower]
  by_cases hupper : ('A' ≤ c && c ≤ 'F') = true
  · simp [hdigit, hlower, hupper]
  · simp [hdigit, hlower, hupper]

theorem isHex_ne {c : Char} (hc : isHex c = true) : c ≠ '%' ∧ c ≠ '?' ∧ c ≠ '#' := by
  refine ⟨?_, ?_, ?_⟩ <;> (rintro rfl; revert hc; decide)

theorem SegmentEncodes.urlDecode {text segment : Slice} (h : SegmentEncodes text segment) :
    urlDecode false segment = text := by
  induction h with
  | nil => rfl
  | literal hc _ ih => rw [urlDecode_plain (isSegmentChar_ne hc).1, ih]
  | escaped ha hb _ ih => rw [urlDecode_escape ha hb, ih]

theorem SegmentEncodes.mem_ne {text segment : Slice} (h : SegmentEncodes text segment) :
    ∀ c ∈ segment, c ≠ '?' ∧ c ≠ '#' := by
  induction h with
  | nil => simp
  | literal hc _ ih =>
      refine List.forall_mem_cons.2 ⟨(isSegmentChar_ne hc).2.2, ih⟩
  | escaped ha hb _ ih =>
      refine List.forall_mem_cons.2 ⟨by decide, List.forall_mem_cons.2 ⟨?_, List.forall_mem_cons.2 ⟨?_, ih⟩⟩⟩
      · exact (isHex_ne (isHex_iff.2 ⟨_, ha⟩)).2
      · exact (isHex_ne (isHex_iff.2 ⟨_, hb⟩)).2

/-! ### The second decoding -/

theorem validateUrlEncoding_plain {c : Char} (hc : c ≠ '%') (rest : Slice) :
    validateUrlEncoding (c :: rest) = validateUrlEncoding rest := by
  rw [validateUrlEncoding]
  · exact if_neg hc
  · rintro a b tail rfl
    exact absurd rfl hc

theorem validateUrlEncoding_of_plain {text : Slice} (htext : '%' ∉ text) :
    validateUrlEncoding text = .ok () := by
  induction text with
  | nil => rw [validateUrlEncoding]
  | cons c text ih =>
      rw [List.mem_cons, not_or] at htext
      rw [validateUrlEncoding_plain (Ne.symm htext.1), ih htext.2]

/-- A text that passes has whole escapes only, and the decoding takes two characters from each. -/
theorem length_urlDecode_of_valid {text : Slice} (h : validateUrlEncoding text = .ok ()) :
    (urlDecode false text).length + 2 * text.count '%' = text.length := by
  fun_induction validateUrlEncoding text with
  | case1 => rfl
  | case2 a b rest hhex ih =>
      rw [Bool.and_eq_true] at hhex
      obtain ⟨high, ha⟩ := isHex_iff.1 hhex.1
      obtain ⟨low, hb⟩ := isHex_iff.1 hhex.2
      rw [urlDecode_escape ha hb, List.count_cons_self, List.count_cons_of_ne (isHex_ne hhex.1).1,
        List.count_cons_of_ne (isHex_ne hhex.2).1]
      simp only [List.length_cons]
      have := ih h
      omega
  | case3 a b rest hhex => cases h
  | case4 rest hnot => cases h
  | case5 c rest hnot hc ih =>
      rw [urlDecode_plain hc, List.count_cons_of_ne hc]
      simp only [List.length_cons]
      have := ih h
      omega

theorem urlDecode_eq_self_iff {text : Slice} (h : validateUrlEncoding text = .ok ()) :
    urlDecode false text = text ↔ '%' ∉ text := by
  refine ⟨fun heq => ?_, urlDecode_of_plain⟩
  have hlength := length_urlDecode_of_valid h
  rw [heq] at hlength
  exact List.count_eq_zero.1 (by omega)

/-! ### The parser -/

/-- A file identifier has no slash, so that only the marker of the test environment is skipped. -/
theorem trySkip_test {fileId : Slice} (isTest : Bool) (hslash : '/' ∉ fileId) :
    ConstParser.trySkip ⟨(if isTest then "test/".toList else []) ++ fileId, false⟩ "test/".toList =
      (isTest, ⟨fileId, false⟩) := by
  cases isTest with
  | true => exact ConstParser.trySkip_append _ _
  | false =>
      refine ConstParser.trySkip_of_not_start ?_
      rintro ⟨rest, rfl⟩
      exact hslash (List.mem_append_left rest (by decide))

theorem parseFileStreamRoute_eq {token fileId : Slice} (isTest : Bool) (htoken : token ≠ [])
    (hslash : '/' ∉ token) :
    parseFileStreamRoute ("/stream/file/bot".toList ++ token ++
      '/' :: ((if isTest then "test/".toList else []) ++ fileId)) =
      parseFileId token ⟨(if isTest then "test/".toList else []) ++ fileId, false⟩ := by
  unfold parseFileStreamRoute
  rw [List.append_assoc, ConstParser.trySkip_append]
  simp only [ConstParser.readTill_append hslash, if_neg htoken]
  rfl

/-- The second decoding gives the file identifier back if there is nothing to decode. -/
theorem parseFileId_eq_ok_iff {token fileId : Slice} (isTest : Bool) (hne : fileId ≠ [])
    (hlength : fileId.length ≤ 4096) (hslash : '/' ∉ fileId) (hzero : '\x00' ∉ fileId) :
    parseFileId token ⟨(if isTest then "test/".toList else []) ++ fileId, false⟩ =
      .ok { token := token, fileId := fileId, isTestDc := isTest } ↔ '%' ∉ fileId := by
  unfold parseFileId
  simp only [trySkip_test isTest hslash]
  rw [if_neg (not_or.2 ⟨hne, hslash⟩)]
  refine ⟨fun h => ?_, fun hplain => ?_⟩
  · split at h
    · cases h
    · rename_i hvalid
      refine (urlDecode_eq_self_iff hvalid).1 ?_
      split_ifs at h
      exact congrArg FileStreamRoute.fileId (Except.ok.inj h)
  · rw [validateUrlEncoding_of_plain hplain]
    simp only [urlDecode_of_plain hplain]
    rw [if_neg]
    rintro (h | h | h | h)
    · exact hne h
    · omega
    · exact hslash h
    · exact hzero h

/-- The part of a path before the segment of the file, with the marker moved behind its slash. -/
def routeStart (token : Slice) (isTest : Bool) : Slice :=
  "/stream/file/bot".toList ++ token ++ '/' :: (if isTest then "test/".toList else [])

theorem routeStart_append (token segment : Slice) (isTest : Bool) :
    "/stream/file/bot".toList ++ token ++ (if isTest then "/test".toList else []) ++ '/' :: segment =
      routeStart token isTest ++ segment := by
  unfold routeStart
  cases isTest <;> simp

theorem mem_routeStart {token : Slice} {isTest : Bool} {c : Char} (hc : c ∈ routeStart token isTest) :
    c ∈ token ∨ c ∈ "/stream/file/bot/test/".toList := by
  unfold routeStart at hc
  rcases List.mem_append.1 hc with hc | hc
  · rcases List.mem_append.1 hc with hc | hc
    · exact Or.inr (List.mem_append_left "/test/".toList hc)
    · exact Or.inl hc
  · refine Or.inr (List.mem_append_right "/stream/file/bot".toList ?_)
    cases isTest with
    | true => exact hc
    | false => exact List.mem_append_left "test/".toList hc

/-- A request reaches its file exactly if the file identifier has no percent sign: the path is decoded
by the reader and once more by the route. -/
theorem file_stream_route_exact (reader : HttpReader) {token fileId segment rest : Slice} (isTest : Bool)
    (htoken : token ≠ []) (hchars : ∀ c ∈ token, c ≠ '/' ∧ c ≠ '?' ∧ c ≠ '#' ∧ c ≠ '%')
    (hne : fileId ≠ []) (hlength : fileId.length ≤ 4096) (hslash : '/' ∉ fileId) (hzero : '\x00' ∉ fileId)
    (hsegment : SegmentEncodes fileId segment) (hrest : ∀ c, rest.head? = some c → c = '?' ∨ c = '#') :
    parseFileStreamRoute (reader.parseUrl ("/stream/file/bot".toList ++ token ++
      (if isTest then "/test".toList else []) ++ '/' :: segment ++ rest)).1.urlPath =
      .ok { token := token, fileId := fileId, isTestDc := isTest } ↔ '%' ∉ fileId := by
  have hfixed : ∀ c ∈ "/stream/file/bot/test/".toList, c ≠ '?' ∧ c ≠ '#' ∧ c ≠ '%' := by simp
  have hstart : ∀ c ∈ routeStart token isTest, c ≠ '?' ∧ c ≠ '#' ∧ c ≠ '%' := by
    intro c hc
    rcases mem_routeStart hc with hc | hc
    · exact (hchars c hc).2
    · exact hfixed c hc
  have hpath : ∀ c ∈ routeStart token isTest ++ segment, c ≠ '?' ∧ c ≠ '#' := by
    intro c hc
    rcases List.mem_append.1 hc with hc | hc
    · exact ⟨(hstart c hc).1, (hstart c hc).2.1⟩
    · exact hsegment.mem_ne c hc
  have hplain : '%' ∉ routeStart token isTest := fun hc => (hstart '%' hc).2.2 rfl
  have htokenSlash : '/' ∉ token := fun hc => (hchars '/' hc).1 rfl
  rw [routeStart_append, HttpReader.parseUrl_urlPath reader hpath hrest, urlDecode_plain_append hplain,
    hsegment.urlDecode]
  unfold routeStart
  rw [List.append_assoc, List.cons_append, parseFileStreamRoute_eq isTest htoken htokenSlash]
  exact parseFileId_eq_ok_iff isTest hne hlength hslash hzero

theorem file_stream_route_exact_plain :
    parseFileStreamRoute (HttpReader.parseUrl {} ("/stream/file/bot".toList ++ "1:A".toList ++
      "/test".toList ++ '/' :: "a%2Bb".toList ++ "?x=1".toList)).1.urlPath =
      .ok { token := "1:A".toList, fileId := "a+b".toList, isTestDc := true } := by
  refine (file_stream_route_exact {} true (by decide) (by simp) (by decide) (by decide) (by decide)
    (by decide) ?_ ?_).2 (by decide)
  · exact .literal rfl (.escaped (a := '2') (b := 'B') rfl rfl (.literal rfl .nil))
  · intro c hc
    exact Or.inl (Option.some.inj hc).symm

/-- The sender has escaped the percent sign of `a%41`, and gets the file `aA`. -/
theorem file_stream_route_decodes_twice :
    SegmentEncodes "a%41".toList "a%2541".toList ∧
    parseFileStreamRoute (HttpReader.parseUrl {} ("/stream/file/bot".toList ++ "1:A".toList ++
      '/' :: "a%2541".toList)).1.urlPath =
      .ok { token := "1:A".toList, fileId := "aA".toList, isTestDc := false } ∧
    parseFileStreamRoute (HttpReader.parseUrl {} ("/stream/file/bot".toList ++ "1:A".toList ++
      '/' :: "a%2541".toList)).1.urlPath ≠
      .ok { token := "1:A".toList, fileId := "a%41".toList, isTestDc := false } := by
  refine ⟨?_, by decide +kernel, by decide +kernel⟩
  exact .literal rfl (.escaped (a := '2') (b := '5') rfl rfl (.literal rfl (.literal rfl .nil)))

end TelegramBotApi
