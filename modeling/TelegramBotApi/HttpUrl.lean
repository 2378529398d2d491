import TelegramBotApi.IPAddress

/-!
# Web addresses

`parseUrl` follows `td::parse_url`: `[https?://][userinfo@]host[:port]`, then the path and the query. A
webhook address is accepted if it parses, and it then never starts with a number sign.
-/

namespace TelegramBotApi

inductive HttpProtocol where
  | http
  | https
  deriving DecidableEq

structure HttpUrl where
  protocol : HttpProtocol
  userinfo : Slice
  host : Slice
  isIpv6 : Bool
  specifiedPort : Int
  port : Int
  query : Slice
  deriving DecidableEq

namespace HttpUrl

/-- `read_till_nofail`: the text before the first of the given characters, and the rest. -/
def readTill (stops : Slice) (data : Slice) : Slice × Slice :=
  (data.takeWhile (· ∉ stops), data.dropWhile (· ∉ stops))

def parseProtocol (url : Slice) (defaultProtocol : HttpProtocol) : Except Status (HttpProtocol × Slice) :=
  let name := readTill ":/?#@[]".toList url
  if "://".toList.isPrefixOf name.2 then
    let protocolStr := name.1.toLower
    if protocolStr = "http".toList then .ok (.http, name.2.drop 3)
    else if protocolStr = "https".toList then .ok (.https, name.2.drop 3)
    else .error ⟨0, "Unsupported URL protocol"⟩
  else .ok (defaultProtocol, url)

/-- The backward scan for the colon of a port, which stops at a bracket and at an at sign and never
takes the first character. -/
def splitPort (text : Slice) : Slice × Option Slice :=
  let after := text.reverse.takeWhile fun c => c ≠ ':' ∧ c ≠ ']' ∧ c ≠ '@'
  let colon := text.length - after.length - 1
  if after.length + 1 < text.length ∧ text[colon]? = some ':' then
    (text.take colon, some (text.drop (colon + 1)))
  else (text, none)

def stripZeros : Slice → Slice
  | c :: d :: rest => if c = '0' then stripZeros (d :: rest) else c :: d :: rest
  | text => text

/-- The number of the port, 0 if none is given and -1 if it is wrong. -/
def parsePort : Option Slice → Int
  | none => 0
  | some text =>
    match toInt32Safe (stripZeros text) with
    | some port => if port = 0 then -1 else port
    | none => -1

/-- Userinfo and host: the text before and after the last at sign. -/
def splitUserinfo (text : Slice) : Slice × Slice :=
  if '@' ∈ text then
    let host := (text.reverse.takeWhile (· ≠ '@')).reverse
    (text.take (text.length - host.length - 1), host)
  else ([], text)

def isAlnum (c : Char) : Bool := ('a' ≤ c && c ≤ 'z') || ('A' ≤ c && c ≤ 'Z') || Slice.isDigit c

def isHexDigit (c : Char) : Bool :=
  Slice.isDigit c || ('a' ≤ c && c ≤ 'f') || ('A' ≤ c && c ≤ 'F')

def isUrlChar (c : Char) : Bool := isAlnum c || c ∈ ".-_!$,~*'();&+=".toList

def checkUrlPart (name : String) (allowColon : Bool) : Slice → Except Status Unit
  | [] => .ok ()
  | c :: rest =>
    if isUrlChar c || (allowColon && c == ':') then checkUrlPart name allowColon rest
    else if c = '%' then
      match rest with
      | a :: b :: rest =>
        if isHexDigit a && isHexDigit b then checkUrlPart name allowColon rest
        else .error ⟨0, "Wrong percent-encoded symbol in URL " ++ name⟩
      | _ => .error ⟨0, "Wrong percent-encoded symbol in URL " ++ name⟩
    else if 128 ≤ c.toNat then checkUrlPart name allowColon rest
    else .error ⟨0, "Disallowed character in URL " ++ name⟩

def isIpv6Char (c : Char) : Bool := c == ':' || Slice.isDigit c || ('a' ≤ c && c ≤ 'f') || c == '.'

/-- The characters of the host and, unless it is an IPv6 address, of the userinfo. -/
def checkHost (isIpv6 : Bool) (host userinfo : Slice) : Except Status Unit :=
  if isIpv6 then
    if host.tail.dropLast.all isIpv6Char then .ok () else .error ⟨0, "Wrong IPv6 URL host"⟩
  else do
    checkUrlPart "host" false host
    checkUrlPart "userinfo" true userinfo

def upperHexDigit (n : Nat) : Char := "0123456789ABCDEF".toList.getD n '0'

/-- Path and query as they are sent: no trailing spaces, and control characters escaped. -/
def parseQuery (rest : Slice) : Slice :=
  let query := rest.rdropWhile Slice.isSpace
  let query := if query = [] then ['/'] else query
  let query := if query.head? = some '/' then query else '/' :: query
  query.flatMap fun c =>
    if c.toNat ≤ 0x20 then ['%', upperHexDigit (c.toNat / 16), upperHexDigit (c.toNat % 16)] else [c]

variable (inet : InetPton)

def hostIsIpv6 (host : Slice) : Except Status Bool :=
  if host.head? = some '[' ∧ host.getLast? = some ']' then
    match IPAddress.initIpv6Port inet host 1 with
    | .error _ => .error ⟨0, "Wrong IPv6 address specified in the URL"⟩
    | .ok _ => .ok true
  else .ok false

def parseUrl (url : Slice) (defaultProtocol : HttpProtocol) : Except Status HttpUrl := do
  let (protocol, data) ← parseProtocol url defaultProtocol
  let userinfoHostPort := readTill "/?#".toList data
  let hostPort := splitPort userinfoHostPort.1
  let specifiedPort := parsePort hostPort.2
  if specifiedPort < 0 ∨ 65535 < specifiedPort then
    .error ⟨0, "Wrong port number specified in the URL"⟩
  let userinfoHost := splitUserinfo hostPort.1
  let isIpv6 ← hostIsIpv6 inet userinfoHost.2
  if userinfoHost.2 = [] then .error ⟨0, "URL host is empty"⟩
  if userinfoHost.2 = ['.'] then .error ⟨0, "Host is invalid"⟩
  let host := userinfoHost.2.toLower
  checkHost isIpv6 host userinfoHost.1
  return {
    protocol := protocol
    userinfo := userinfoHost.1
    host := host
    isIpv6 := isIpv6
    specifiedPort := specifiedPort
    port := if specifiedPort = 0 then match protocol with | .http => 80 | .https => 443
      else specifiedPort
    query := parseQuery userinfoHostPort.2 }

theorem parseUrl_numberSign (rest : Slice) (p : HttpProtocol) :
    parseUrl inet ('#' :: rest) p = .error ⟨0, "URL host is empty"⟩ := rfl

theorem parseUrl_nil (p : HttpProtocol) : parseUrl inet [] p = .error ⟨0, "URL host is empty"⟩ := rfl

/-- An accepted address is not empty and does not start with a number sign. -/
theorem parseUrl_head {url : Slice} {p : HttpProtocol} {u : HttpUrl} (h : parseUrl inet url p = .ok u) :
    ∃ c rest, url = c :: rest ∧ c ≠ '#' := by
  cases url with
  | nil =>
      rw [parseUrl_nil] at h
      cases h
  | cons c rest =>
      refine ⟨c, rest, rfl, ?_⟩
      rintro rfl
      rw [parseUrl_numberSign] at h
      cases h

end HttpUrl

end TelegramBotApi
