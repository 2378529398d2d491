import TelegramBotApi.SliceText

/-!
# Response headers and JSON error bodies

`StringBuilder` over a fixed buffer sets its error flag when an append does not fit, and
`HttpHeaderCreator::finish` fails exactly then. A header is kept as its status code and fields;
`text` writes it through the builder in the order of the source.
-/

namespace TelegramBotApi

structure StringBuilder where
  text : Slice := []
  error : Bool := false
  deriving DecidableEq

namespace StringBuilder

def reservedSize : Nat := 30

/-- The buffer of `HttpHeaderCreator`. -/
def maxHeader : Nat := 4096

/-- `end_ptr_ - begin_ptr_`: the reserved tail is kept for numbers and the final zero byte. -/
def limit : Nat := maxHeader - reservedSize

def append (sb : StringBuilder) (slice : Slice) : StringBuilder :=
  if sb.text.length < limit ∧ slice.length ≤ limit - sb.text.length then
    { sb with text := sb.text ++ slice }
  else if limit < sb.text.length then { sb with error := true }
  else
    let available := limit + reservedSize - 1 - sb.text.length
    if available < slice.length then ⟨sb.text ++ slice.take available, true⟩
    else { sb with text := sb.text ++ slice }

def appendShort (sb : StringBuilder) (slice : Slice) : StringBuilder :=
  if sb.text.length < limit then { sb with text := sb.text ++ slice }
  else { sb with error := true }

def appendChar (sb : StringBuilder) (c : Char) : StringBuilder := sb.appendShort [c]

def appendInt (sb : StringBuilder) (x : Int) : StringBuilder :=
  sb.appendShort (toString x).toList

end StringBuilder

structure HttpHeaderCreator where
  status : Int
  fields : List (String × String) := []
  deriving DecidableEq

namespace HttpHeaderCreator

def getStatusLine : Int → String
  | 200 => "OK"
  | 201 => "Created"
  | 202 => "Accepted"
  | 204 => "No Content"
  | 206 => "Partial Content"
  | 301 => "Moved Permanently"
  | 302 => "Found"
  | 303 => "See Other"
  | 304 => "Not Modified"
  | 307 => "Temporary Redirect"
  | 308 => "Permanent Redirect"
  | 400 => "Bad Request"
  | 401 => "Unauthorized"
  | 403 => "Forbidden"
  | 404 => "Not Found"
  | 405 => "Method Not Allowed"
  | 406 => "Not Acceptable"
  | 408 => "Request Timeout"
  | 409 => "Conflict"
  | 410 => "Gone"
  | 411 => "Length Required"
  | 412 => "Precondition Failed"
  | 413 => "Request Entity Too Large"
  | 414 => "Request-URI Too Long"
  | 415 => "Unsupported Media Type"
  | 416 => "Range Not Satisfiable"
  | 417 => "Expectation Failed"
  | 418 => "I'm a teapot"
  | 421 => "Misdirected Request"
  | 426 => "Upgrade Required"
  | 429 => "Too Many Requests"
  | 431 => "Request Header Fields Too Large"
  | 480 => "Temporarily Unavailable"
  | 501 => "Not Implemented"
  | 502 => "Bad Gateway"
  | 503 => "Service Unavailable"
  | 505 => "HTTP Version Not Supported"
  | _ => "Internal Server Error"

def initStatusLine (httpStatusCode : Int) : HttpHeaderCreator := { status := httpStatusCode }

def addHeader (hc : HttpHeaderCreator) (key value : String) : HttpHeaderCreator :=
  { hc with fields := hc.fields ++ [(key, value)] }

def setContentType (hc : HttpHeaderCreator) (type : String) : HttpHeaderCreator :=
  hc.addHeader "Content-Type" type

def setContentSize (hc : HttpHeaderCreator) (size : Nat) : HttpHeaderCreator :=
  hc.addHeader "Content-Length" (toString size)

def setKeepAlive (hc : HttpHeaderCreator) : HttpHeaderCreator :=
  hc.addHeader "Connection" "keep-alive"

def writeStatusLine (hc : HttpHeaderCreator) : StringBuilder :=
  ((((({} : StringBuilder).append "HTTP/1.1 ".toList).appendInt hc.status).appendChar ' ').append
    (getStatusLine hc.status).toList).append "\r\n".toList

def writeField (sb : StringBuilder) (field : String × String) : StringBuilder :=
  (((sb.append field.1.toList).append ": ".toList).append field.2.toList).append "\r\n".toList

def build (hc : HttpHeaderCreator) : StringBuilder :=
  (hc.fields.foldl writeField hc.writeStatusLine).append "\r\n".toList

def finish (hc : HttpHeaderCreator) : Except Status Slice :=
  if hc.build.error then .error ⟨0, "Too many headers"⟩ else .ok hc.build.text

def contentLength (hc : HttpHeaderCreator) : Option String := hc.fields.lookup "Content-Length"

end HttpHeaderCreator

def hexDigit (n : Nat) : Char := "0123456789abcdef".toList.getD n '0'

def jsonOneChar (c : Nat) : Slice :=
  ['\\', 'u', hexDigit (c / 4096), hexDigit (c / 256 % 16), hexDigit (c / 16 % 16),
    hexDigit (c % 16)]

/-- `JsonChar`: characters outside the basic plane become a surrogate pair. -/
def jsonChar (c : Nat) : Slice :=
  if c < 0x10000 then jsonOneChar c
  else jsonOneChar (0xD7C0 + c / 1024) ++ jsonOneChar (0xDC00 + c % 1024)

def jsonEscape (c : Char) : Slice :=
  if c = '"' then ['\\', '"']
  else if c = '\\' then ['\\', '\\']
  else if c = '\x08' then ['\\', 'b']
  else if c = '\x0c' then ['\\', 'f']
  else if c = '\n' then ['\\', 'n']
  else if c = '\r' then ['\\', 'r']
  else if c = '\t' then ['\\', 't']
  else if c.toNat ≤ 31 then jsonOneChar c.toNat
  else if 128 ≤ c.toNat then jsonChar c.toNat
  else [c]

def jsonString (str : String) : Slice := '"' :: str.toList.flatMap jsonEscape ++ ['"']

/-- `json_encode(JsonQueryError(error_code, description))` without parameters. -/
def jsonQueryError (errorCode : Int) (description : String) : Slice :=
  "\x7b\"ok\":false,\"error_code\":".toList ++ (toString errorCode).toList ++
    ",\"description\":".toList ++ jsonString description ++ "\x7d".toList

end TelegramBotApi
