import TelegramBotApi.HttpHeaderSize
import TelegramBotApi.HttpUrl

/-!
# The request of a webhook

Every update is posted with the same header, up to the length of its body. The header is written into
the fixed buffer of `HttpHeaderCreator`, so a long address does not fit.
-/

namespace TelegramBotApi

def base64Characters : Slice :=
  "ABCDEFGHIJKLMNOPQRSTUVWXYZabcdefghijklmnopqrstuvwxyz0123456789+/".toList

def base64Digit (n : Nat) : Char := base64Characters.getD (n % 64) 'A'

def base64Encode : Slice → Slice
  | [] => []
  | [a] => [base64Digit (a.toNat / 4), base64Digit (a.toNat * 16), '=', '=']
  | [a, b] =>
    [base64Digit (a.toNat / 4), base64Digit (a.toNat * 16 + b.toNat / 16),
      base64Digit (b.toNat * 4), '=']
  | a :: b :: c :: rest =>
    base64Digit (a.toNat / 4) :: base64Digit (a.toNat * 16 + b.toNat / 16) ::
      base64Digit (b.toNat * 4 + c.toNat / 64) :: base64Digit c.toNat :: base64Encode rest

def getHostHeader (protocol : HttpProtocol) (host : Slice) (port : Int) : Slice :=
  if (protocol = .https ∧ port = 443) ∨ (protocol = .http ∧ port = 80) then host
  else host ++ ':' :: (toString port).toList

/-- The header of a POST request, as `HttpHeaderCreator` writes it. -/
def postHeader (url : Slice) (fields : List (String × String)) : Except Status Slice :=
  let start := ((({} : StringBuilder).append "POST ".toList).append url).append " HTTP/1.1\r\n".toList
  let sb := (fields.foldl HttpHeaderCreator.writeField start).append "\r\n".toList
  if sb.error then .error ⟨0, "Too many headers"⟩ else .ok sb.text

/-- The body of a request: `JsonUpdate`. -/
def updateBody (id : Int) (json : Slice) : Slice :=
  "\x7b\"update_id\":".toList ++ (toString id).toList ++ ",\n".toList ++ json ++ "\x7d".toList

/-- The constructor arguments of a webhook that its requests and connections depend on; `url` is the
address after the host was converted to ASCII. -/
structure WebhookConfig where
  url : HttpUrl
  secretToken : Slice := []
  maxConnections : Nat
  fixIpAddress : Bool := false
  fromDb : Bool := false
  cachedIpAddress : IPAddress := .invalid
  hasProxy : Bool := false
  localMode : Bool := false
  /-- `CHECK(max_connections_ > 0)` of the constructor. -/
  maxConnections_pos : 0 < maxConnections

namespace WebhookConfig

/-- The fields of the request that carries a body of the given size. -/
def requestFields (cfg : WebhookConfig) (bodySize : Nat) : List (String × String) :=
  [("Host", String.ofList (getHostHeader cfg.url.protocol cfg.url.host cfg.url.port))] ++
    (if cfg.url.userinfo ≠ [] then
      [("Authorization", "Basic " ++ String.ofList (base64Encode cfg.url.userinfo))] else []) ++
    (if cfg.secretToken ≠ [] then
      [("X-Telegram-Bot-Api-Secret-Token", String.ofList cfg.secretToken)] else []) ++
    [("Content-Type", "application/json"), ("Content-Length", toString bodySize),
      ("Connection", "keep-alive"), ("Accept-Encoding", "gzip, deflate")]

def updateHeader (cfg : WebhookConfig) (bodySize : Nat) : Except Status Slice :=
  postHeader cfg.url.query (cfg.requestFields bodySize)

/-- The length of the request line, the fields and the empty line. -/
def headerSize (cfg : WebhookConfig) (bodySize : Nat) : Nat :=
  cfg.url.query.length + 16 + ((cfg.requestFields bodySize).map HttpHeaderCreator.fieldSize).sum + 2

def CanPost (cfg : WebhookConfig) (id : Int) (json : Slice) : Prop :=
  cfg.headerSize (updateBody id json).length ≤ 4068

instance (cfg : WebhookConfig) (id : Int) (json : Slice) : Decidable (cfg.CanPost id json) :=
  inferInstanceAs (Decidable (_ ≤ _))

open StringBuilder in
/-- A header is finished exactly up to this length. -/
theorem updateHeader_ok_iff (cfg : WebhookConfig) (bodySize : Nat) :
    (∃ text, cfg.updateHeader bodySize = .ok text) ↔ cfg.headerSize bodySize ≤ 4068 := by
  have hline := ((sized_empty.append "POST ".toList).append cfg.url.query).append
    " HTTP/1.1\r\n".toList
  have hfields := HttpHeaderCreator.writeFields_sized hline (cfg.requestFields bodySize)
  have hlast := hfields.last "\r\n".toList (by decide)
  have hlimit : limit = 4066 := rfl
  have hpost : "POST ".toList.length = 5 := rfl
  have hversion : " HTTP/1.1\r\n".toList.length = 11 := rfl
  unfold updateHeader postHeader headerSize
  simp only
  split_ifs with herror
  · have := hlast.1 herror
    exact iff_of_false (by simp) (by omega)
  · have := mt hlast.2 herror
    exact iff_of_true ⟨_, rfl⟩ (by omega)

def maxLoadedUpdates (cfg : WebhookConfig) : Nat := cfg.maxConnections * 2

end WebhookConfig

end TelegramBotApi
