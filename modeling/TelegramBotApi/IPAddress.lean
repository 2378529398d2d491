import TelegramBotApi.SliceText

/-!
# Textual network addresses

`IPAddress::init_ipv4_port` and `init_ipv6_port` hand a text to `inet_pton` of the C library, which is a
parameter here. The C library reads the text up to its first zero byte.
-/

namespace TelegramBotApi

/-- The textual addresses that `inet_pton` accepts, with their values. -/
structure InetPton where
  ipv4 : Slice → Option (BitVec 32)
  ipv6 : Slice → Option (Vector (BitVec 8) 16)

inductive IPAddress where
  | invalid
  | ipv4 (address : BitVec 32) (port : Int)
  | ipv6 (address : Vector (BitVec 8) 16) (port : Int)
  deriving DecidableEq

/-- What a C function gets to see of a text. -/
def cStr (text : Slice) : Slice := text.takeWhile (· ≠ '\x00')

namespace IPAddress

variable (inet : InetPton)

def isValid : IPAddress → Bool
  | .invalid => false
  | _ => true

/-- Nothing if the address is of another family, where a `CHECK` fails. -/
def getIpv4 : IPAddress → Option (BitVec 32)
  | .ipv4 address _ => some address
  | _ => none

def getIpv6 : IPAddress → Option (Vector (BitVec 8) 16)
  | .ipv6 address _ => some address
  | _ => none

def initIpv4Port (ipv4 : Slice) (port : Int) : Except Status IPAddress :=
  if port ≤ 0 ∨ 2 ^ 16 ≤ port then
    .error ⟨0, "Invalid [IPv4 address port=" ++ toString port ++ "]"⟩
  else match inet.ipv4 (cStr ipv4) with
    | none => .error ⟨0, "Failed inet_pton(AF_INET, " ++ String.ofList ipv4 ++ ")"⟩
    | some address => .ok (.ipv4 address port)

/-- The text between square brackets, or the whole text. -/
def ipv6Plain (ipv6 : Slice) : Slice :=
  if 2 < ipv6.length ∧ ipv6.head? = some '[' ∧ ipv6.getLast? = some ']' then ipv6.tail.dropLast
  else ipv6

def initIpv6Port (ipv6 : Slice) (port : Int) : Except Status IPAddress :=
  if port ≤ 0 ∨ 2 ^ 16 ≤ port then
    .error ⟨0, "Invalid [IPv6 address port=" ++ toString port ++ "]"⟩
  else match inet.ipv6 (cStr (ipv6Plain ipv6)) with
    | none => .error ⟨0, "Failed inet_pton(AF_INET6, " ++ String.ofList (ipv6Plain ipv6) ++ ")"⟩
    | some address => .ok (.ipv6 address port)

end IPAddress

end TelegramBotApi
