import TelegramBotApi.SliceText

/-!
# Requests to a bot

`BotQuery` has the members of the server's `Query` that the client manager and the webhook code
read. A restored webhook is an internal `setWebhook` request, decoded by `getWebhookRestoreQuery` from
the text that `Client::save_webhook` keeps in the webhook database.
-/

namespace TelegramBotApi

structure HttpFile where
  fieldName : Slice
  size : Int := 0
  tempFileName : Slice := []
  deriving DecidableEq

structure BotQuery where
  token : Slice
  isTestDc : Bool := false
  /-- In lower case. -/
  method : Slice
  args : List (Slice × Slice) := []
  files : List HttpFile := []
  /-- `get_peer_ip_address`. -/
  peerIpAddress : Slice := []
  isInternal : Bool := false
  deriving DecidableEq

namespace BotQuery

variable (query : BotQuery)

def hasArg (key : Slice) : Bool := query.args.any (·.1 = key)

def arg (key : Slice) : Slice := ((query.args.find? (·.1 = key)).map (·.2)).getD []

def file (key : Slice) : Option HttpFile := query.files.find? (·.fieldName = key)

end BotQuery

/-- `td::ConstParser`: the unread text and whether a read has failed. -/
structure ConstParser where
  data : Slice
  failed : Bool := false
  deriving DecidableEq

namespace ConstParser

variable (parser : ConstParser)

def trySkip (start : Slice) : Bool × ConstParser :=
  if start.isPrefixOf parser.data then (true, { parser with data := parser.data.drop start.length })
  else (false, parser)

def readTill (c : Char) : Slice × ConstParser :=
  if parser.failed then ([], parser)
  else
    let rest := parser.data.dropWhile (· ≠ c)
    if rest = [] then ([], { data := [], failed := true })
    else (parser.data.takeWhile (· ≠ c), { parser with data := rest })

def skip (c : Char) : ConstParser :=
  if parser.failed then parser
  else match parser.data with
    | d :: rest => if d = c then { parser with data := rest } else { parser with failed := true }
    | [] => { parser with failed := true }

/-- An optional tag, whose argument reaches to the next slash. -/
def readField (tag : Slice) : Option Slice × ConstParser :=
  match parser.trySkip tag with
  | (true, parser) => (some (parser.readTill '/').1, (parser.readTill '/').2.skip '/')
  | (false, parser) => (none, parser)

/-- An optional tag without argument. -/
def readFlag (tag : Slice) : Bool × ConstParser :=
  match parser.trySkip tag with
  | (true, parser) => (true, parser.skip '/')
  | (false, parser) => (false, parser)

theorem trySkip_append (tag rest : Slice) :
    ConstParser.trySkip ⟨tag ++ rest, false⟩ tag = (true, ⟨rest, false⟩) := by
  simp [trySkip, List.isPrefixOf_iff_prefix]

theorem trySkip_of_not_start {tag rest : Slice} (h : ¬ tag <+: rest) :
    ConstParser.trySkip ⟨rest, false⟩ tag = (false, ⟨rest, false⟩) := by
  unfold trySkip
  rw [if_neg (by rwa [List.isPrefixOf_iff_prefix])]

theorem readTill_append {value rest : Slice} (h : '/' ∉ value) :
    ConstParser.readTill ⟨value ++ '/' :: rest, false⟩ '/' = (value, ⟨'/' :: rest, false⟩) := by
  have hno : ∀ c ∈ value, decide (c ≠ '/') = true := by
    intro c hc
    rw [decide_eq_true_eq]
    rintro rfl
    exact h hc
  unfold readTill
  simp only [Bool.false_eq_true, if_false]
  rw [List.dropWhile_append_of_pos hno, List.takeWhile_append_of_pos hno]
  simp

end ConstParser

def optionalArg (name : Slice) : Option Slice → List (Slice × Slice)
  | some value => [(name, value)]
  | none => []

/-- The arguments of the internal `setWebhook` request that a stored webhook stands for. -/
def webhookRestoreArgs (webhookInfo : Slice) : List (Slice × Slice) :=
  let cert := ConstParser.trySkip ⟨webhookInfo, false⟩ "cert/".toList
  let maxConnections := cert.2.readField "#maxc".toList
  let ipAddress := maxConnections.2.readField "#ip".toList
  let fixIpAddress := ipAddress.2.readFlag "#fix_ip".toList
  let secretToken := fixIpAddress.2.readField "#secret".toList
  let allowedUpdates := secretToken.2.readField "#allow".toList
  (if cert.1 then [("certificate".toList, "previous".toList)] else []) ++
    optionalArg "max_connections".toList maxConnections.1 ++
    optionalArg "ip_address".toList ipAddress.1 ++
    (if fixIpAddress.1 then [("fix_ip_address".toList, ['1'])] else []) ++
    optionalArg "secret_token".toList secretToken.1 ++
    optionalArg "allowed_updates".toList allowedUpdates.1 ++
    [("url".toList, allowedUpdates.2.data)]

def getWebhookRestoreQuery (token webhookInfo : Slice) : BotQuery :=
  let isTestDc := ":T".toList.isSuffixOf token
  { token := if isTestDc then token.dropLast.dropLast else token
    isTestDc := isTestDc
    method := "setwebhook".toList
    args := webhookRestoreArgs webhookInfo
    isInternal := true }

end TelegramBotApi
