import TelegramBotApi.WebhookActor
import TelegramBotApi.WebhookSettings

/-!
# The address of a webhook

The actor of a webhook gets its address as a text, from the request that sets the webhook or from the
storage, and later from the name resolver; what it has verified is stored as a text again. The functions
of the C library that read and write these texts are parameters. Outside the local mode the texts that
are stored are dotted quads, and a dotted quad is read as nothing but itself.
-/

namespace TelegramBotApi

/-- `inet_ntop` for an IPv4 address. -/
def ipv4Str (address : BitVec 32) : Slice :=
  List.intercalate ['.'] (([24, 16, 8, 0].map fun i => address.extractLsb' i 8).map fun octet =>
    (toString octet.toNat).toList)

structure InetText extends InetPton where
  /-- `inet_addr`, without a value for `INADDR_NONE`. -/
  inetAddr : Slice → Option (BitVec 32)
  /-- `inet_ntop` for an IPv6 address. -/
  ipv6Str : Vector (BitVec 8) 16 → Slice
  idnToAscii : Slice → Option Slice

/-- How the C library reads the dotted quads that it writes; 255.255.255.255 is `INADDR_NONE`. -/
structure InetText.ReadsBack (inet : InetText) : Prop where
  inetAddr : ∀ a, inet.inetAddr (ipv4Str a) = if a = BitVec.allOnes 32 then none else some a
  ipv4 : ∀ a, inet.ipv4 (ipv4Str a) = some a
  ipv6 : ∀ a, inet.ipv6 (ipv4Str a) = none

namespace IPAddress

variable (inet : InetText)

def setPort (port : Int) : IPAddress → IPAddress
  | .invalid => .invalid
  | .ipv4 address _ => .ipv4 address (port % 2 ^ 16)
  | .ipv6 address _ => .ipv6 address (port % 2 ^ 16)

def getIpv4Address (host : Slice) : Except Status IPAddress :=
  match inet.inetAddr (cStr host) with
  | none => .error ⟨0, "\"" ++ String.ofList host ++ "\" is not a valid IPv4 address"⟩
  | some address => initIpv4Port inet.toInetPton (ipv4Str address) 1

def getIpv6Address (host : Slice) : Except Status IPAddress :=
  match initIpv6Port inet.toInetPton host 1 with
  | .error _ => .error ⟨0, "\"" ++ String.ofList host ++ "\" is not a valid IPv6 address"⟩
  | .ok address => .ok address

def getIpAddress (host : Slice) : Except Status IPAddress :=
  match getIpv4Address inet host with
  | .ok address => .ok address
  | .error _ =>
    match getIpv6Address inet host with
    | .ok address => .ok address
    | .error _ => .error ⟨0, "\"" ++ String.ofList host ++ "\" is not a valid IP address"⟩

def getIpStr : IPAddress → Slice
  | .invalid => "0.0.0.0".toList
  | .ipv4 address _ => ipv4Str address
  | .ipv6 address _ => inet.ipv6Str address

/-- `GetHostByNameActor::Value::get_ip_port`. -/
def getIpPort (port : Int) : Except Status IPAddress → Except Status IPAddress
  | .error status => .error status
  | .ok address => .ok (address.setPort port)

/-- The text that `on_webhook_verified` reports. -/
def verifiedText (address : IPAddress) : Slice := if address.isValid then address.getIpStr inet else []

/-- The address that the constructor of the actor takes from a text. -/
def cached (text : Slice) (port : Int) : IPAddress :=
  if text = [] then .invalid
  else match getIpAddress inet text with
    | .error _ => .invalid
    | .ok address => address.setPort port

/-- An IPv4 address that is not reserved. -/
def IsPublic : IPAddress → Prop
  | .ipv4 address port => isReserved (.ipv4 address port) = false
  | _ => False

instance : ∀ address : IPAddress, Decidable address.IsPublic
  | .invalid => inferInstanceAs (Decidable False)
  | .ipv4 .. => inferInstanceAs (Decidable (_ = false))
  | .ipv6 .. => inferInstanceAs (Decidable False)

def port : IPAddress → Int
  | .invalid => 0
  | .ipv4 _ port => port
  | .ipv6 _ port => port

end IPAddress

namespace WebhookConfig

variable (inet : InetText) (P : WebhookParameters) (hasProxy : Bool)

/-- The arguments of the actor that `finish_set_webhook` creates; nothing if an assertion fails. -/
def create (settings : WebhookSettings) (fromDb : Bool) : Option WebhookConfig :=
  match HttpUrl.parseUrl inet.toInetPton settings.url .https with
  | .error _ => none
  | .ok url =>
    if h : 0 < settings.maxConnections.toNat then some {
      url := { url with host := (inet.idnToAscii url.host).getD url.host }
      secretToken := settings.secretToken
      maxConnections := settings.maxConnections.toNat
      fixIpAddress := settings.fixIpAddress
      fromDb := fromDb
      cachedIpAddress := IPAddress.cached inet settings.ipAddress url.port
      hasProxy := hasProxy
      localMode := P.localMode
      maxConnections_pos := h }
    else none

end WebhookConfig

/-! ### Dotted quads -/

theorem mem_ipv4Str {a : BitVec 32} {c : Char} (hc : c ∈ ipv4Str a) : Slice.isDigit c = true ∨ c = '.' := by
  unfold ipv4Str at hc
  simp only [List.map_cons, List.map_nil, List.intercalate, List.intersperse, List.flatten_cons, List.flatten_nil,
    List.mem_append, List.mem_singleton, List.not_mem_nil, or_false] at hc
  rcases hc with h | h | h | h | h | h | h
  · exact Or.inl (isDigit_of_mem_natText h)
  · exact Or.inr h
  · exact Or.inl (isDigit_of_mem_natText h)
  · exact Or.inr h
  · exact Or.inl (isDigit_of_mem_natText h)
  · exact Or.inr h
  · exact Or.inl (isDigit_of_mem_natText h)

theorem notMem_ipv4Str {c : Char} (hdigit : Slice.isDigit c = false) (hdot : c ≠ '.') (a : BitVec 32) :
    c ∉ ipv4Str a := by
  intro hc
  cases mem_ipv4Str hc with
  | inl h => rw [hdigit] at h; cases h
  | inr h => exact hdot h

theorem cStr_ipv4Str (a : BitVec 32) : cStr (ipv4Str a) = ipv4Str a := by
  apply List.takeWhile_eq_self_iff.2
  intro c hc
  rw [decide_eq_true_eq]
  rintro rfl
  exact notMem_ipv4Str rfl (by decide) a hc

theorem ipv6Plain_ipv4Str (a : BitVec 32) : IPAddress.ipv6Plain (ipv4Str a) = ipv4Str a := by
  unfold IPAddress.ipv6Plain
  rw [if_neg]
  rintro ⟨-, hhead, -⟩
  exact notMem_ipv4Str rfl (by decide) a (List.mem_of_head? hhead)

/-- A dotted quad is read as its address, or not at all. -/
theorem cached_ipv4Str {inet : InetText} (h : inet.ReadsBack) (a : BitVec 32) (port : Int) :
    IPAddress.cached inet (ipv4Str a) port = .ipv4 a (port % 2 ^ 16) ∨
      IPAddress.cached inet (ipv4Str a) port = .invalid := by
  unfold IPAddress.cached
  split_ifs with hempty
  · exact Or.inr rfl
  · unfold IPAddress.getIpAddress IPAddress.getIpv4Address IPAddress.getIpv6Address
    rw [cStr_ipv4Str, h.inetAddr]
    by_cases hnone : a = BitVec.allOnes 32
    · right
      rw [if_pos hnone]
      unfold IPAddress.initIpv6Port
      rw [if_neg (by decide), ipv6Plain_ipv4Str, cStr_ipv4Str, h.ipv6]
    · left
      rw [if_neg hnone]
      unfold IPAddress.initIpv4Port
      dsimp only
      rw [if_neg (by decide), cStr_ipv4Str, h.ipv4]
      rfl

/-- The dotted quads that `inet_pton` accepts: four numbers below 256 without superfluous zeros. -/
def readIpv4 (text : Slice) : Option (BitVec 32) :=
  match (text.splitOn '.').map toUInt64Safe with
  | [some a, some b, some c, some d] =>
    if a < 256 ∧ b < 256 ∧ c < 256 ∧ d < 256 then
      some (BitVec.ofNat 32 (a * 2 ^ 24 + b * 2 ^ 16 + c * 2 ^ 8 + d))
    else none
  | _ => none

theorem readIpv4_ipv4Str (a : BitVec 32) : readIpv4 (ipv4Str a) = some a := by
  have hsplit : (ipv4Str a).splitOn '.' = ([24, 16, 8, 0].map fun i => a.extractLsb' i 8).map fun octet =>
      (toString octet.toNat).toList := by
    apply List.splitOn_intercalate
    · intro text htext
      obtain ⟨octet, -, rfl⟩ := List.mem_map.1 htext
      intro hdot
      cases isDigit_of_mem_natText hdot
    · exact List.cons_ne_nil _ _
  have hoctet : ∀ octet : BitVec 8, toUInt64Safe (toString octet.toNat).toList = some octet.toNat := fun octet =>
    toUInt64Safe_natText (octet.isLt.trans (by decide))
  unfold readIpv4
  rw [hsplit]
  simp only [List.map_cons, List.map_nil, hoctet]
  rw [if_pos ⟨BitVec.isLt _, BitVec.isLt _, BitVec.isLt _, BitVec.isLt _⟩]
  congr 1
  have hlt := a.isLt
  apply BitVec.eq_of_toNat_eq
  simp only [BitVec.toNat_ofNat, BitVec.extractLsb'_toNat, Nat.shiftRight_eq_div_pow]
  omega

end TelegramBotApi
