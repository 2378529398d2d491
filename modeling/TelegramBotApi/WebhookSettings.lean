import TelegramBotApi.BotQuery
import TelegramBotApi.JsonDecode
import TelegramBotApi.HttpUrl

/-!
# Webhook settings and their stored form

The settings of a webhook are what `finish_set_webhook` takes from a `setWebhook` request. They are
stored as one text, optional tagged fields followed by the address, and a restarted server decodes that
text into an internal `setWebhook` request. `restoreWebhook` is what the new client makes of it.
-/

namespace TelegramBotApi

def updateTypeNames : List Slice :=
  ["message".toList, "edited_message".toList, "channel_post".toList, "edited_channel_post".toList,
    "inline_query".toList, "chosen_inline_result".toList, "callback_query".toList,
    "custom_event".toList, "custom_query".toList, "shipping_query".toList,
    "pre_checkout_query".toList, "poll".toList, "poll_answer".toList, "my_chat_member".toList,
    "chat_member".toList, "chat_join_request".toList, "chat_boost".toList,
    "removed_chat_boost".toList, "message_reaction".toList, "message_reaction_count".toList,
    "business_connection".toList, "business_message".toList, "edited_business_message".toList,
    "deleted_business_messages".toList, "purchased_paid_media".toList, "managed_bot".toList,
    "guest_message".toList, "subscription".toList]

/-- `ChatMember`, `MessageReaction` and `MessageReactionCount` are off by default. -/
def defaultAllowedUpdateTypes : Nat := 2 ^ 28 - 1 - 2 ^ 14 - 2 ^ 18 - 2 ^ 19

/-- The mask that an array of names stands for; `none` if an element is not a text. -/
def updateTypesMask : List JsonValue → Nat → Option Nat
  | [], result => some result
  | .string name :: rest, result =>
    let index := updateTypeNames.idxOf (Slice.toLower name)
    updateTypesMask rest (if index < 28 then result ||| 2 ^ index else result)
  | _ :: _, _ => none

/-- `get_allowed_update_types`; 0 leaves the mask as it is. -/
def getAllowedUpdateTypes (allowedUpdates : Slice) (isInternal : Bool) : Nat :=
  if allowedUpdates = [] then 0
  else match Json.jsonDecode allowedUpdates with
    | none => 0
    | some (.array items) =>
      match updateTypesMask items 0 with
      | none => 0
      | some 0 => defaultAllowedUpdateTypes
      | some mask => mask
    | some (.number text) =>
      if isInternal then (toUInt64Safe text).getD 0 else 0
    | some _ => 0

/-- The options of the server that the webhook code reads. -/
structure WebhookParameters where
  defaultMaxWebhookConnections : Int := 0
  localMode : Bool := false
  deriving DecidableEq

def maxWebhookConnections (P : WebhookParameters) : Int := if P.localMode then 100000 else 100

namespace BotQuery

variable (query : BotQuery)

/-- The address that the request asks for; none deletes the webhook. -/
def newWebhookUrl : Slice := if query.method = "setwebhook".toList then query.arg "url".toList else []

def getIntegerArg (fieldName : Slice) (defaultValue minValue maxValue : Int) : Int :=
  let arg := query.arg fieldName
  let value := if arg = [] then defaultValue else toInt32 arg
  if value < minValue then minValue else if maxValue < value then maxValue else value

def getWebhookMaxConnections (P : WebhookParameters) : Int :=
  query.getIntegerArg "max_connections".toList P.defaultMaxWebhookConnections 1
    (maxWebhookConnections P)

def getWebhookFixIpAddress : Bool :=
  if query.isInternal then query.hasArg "fix_ip_address".toList
  else query.arg "ip_address".toList ≠ []

/-- `get_webhook_certificate`: an uploaded file, directly or through `attach://`. -/
def getWebhookCertificate : Option HttpFile :=
  match query.file "certificate".toList with
  | some file => some file
  | none =>
    let attachName := query.arg "certificate".toList
    if "attach://".toList.isPrefixOf attachName then query.file (attachName.drop 9) else none

/-- The certificate that a restored webhook already has on disk. -/
def hasPreviousCertificate : Bool := query.arg "certificate".toList = "previous".toList

end BotQuery

structure WebhookSettings where
  url : Slice := []
  hasCertificate : Bool := false
  maxConnections : Int := 0
  ipAddress : Slice := []
  fixIpAddress : Bool := false
  secretToken : Slice := []
  deriving DecidableEq

/-- The value that `update_allowed_update_types` leaves in `allowed_update_types_`. -/
def updateAllowedUpdateTypes (query : BotQuery) (allowedUpdateTypes : Nat) : Nat :=
  let mask := getAllowedUpdateTypes (query.arg "allowed_updates".toList) query.isInternal
  if mask ≠ 0 then mask else allowedUpdateTypes

/-- The checks of `do_set_webhook` on a request with an address. -/
def checkWebhook (inet : InetPton) (query : BotQuery) : Except Status Unit :=
  match HttpUrl.parseUrl inet query.newWebhookUrl .https with
  | .error _ => .error ⟨400, "Bad Request: invalid webhook URL specified"⟩
  | .ok _ =>
    if 256 < (query.arg "secret_token".toList).length then
      .error ⟨400, "Bad Request: secret token is too long"⟩
    else if ¬ isBase64UrlCharacters (query.arg "secret_token".toList) then
      .error ⟨400, "Bad Request: secret token contains unallowed characters"⟩
    else .ok ()

/-- The settings that `finish_set_webhook` assigns. -/
def installedWebhook (P : WebhookParameters) (query : BotQuery) (hasCertificate : Bool) :
    WebhookSettings where
  url := query.arg "url".toList
  hasCertificate := hasCertificate
  maxConnections := query.getWebhookMaxConnections P
  ipAddress := query.arg "ip_address".toList
  fixIpAddress := query.getWebhookFixIpAddress
  secretToken := query.arg "secret_token".toList

def saveWebhook (w : WebhookSettings) (allowedUpdateTypes : Nat) : Slice :=
  (if w.hasCertificate then "cert/".toList else []) ++
    ("#maxc".toList ++ (toString w.maxConnections).toList ++ ['/']) ++
    (if w.ipAddress ≠ [] then "#ip".toList ++ w.ipAddress ++ ['/'] else []) ++
    (if w.fixIpAddress then "#fix_ip/".toList else []) ++
    (if w.secretToken ≠ [] then "#secret".toList ++ w.secretToken ++ ['/'] else []) ++
    (if allowedUpdateTypes ≠ defaultAllowedUpdateTypes then
      "#allow".toList ++ (toString allowedUpdateTypes).toList ++ ['/'] else []) ++ w.url

/-- What a client that has just been created makes of a stored webhook: the settings it installs and
the mask of allowed updates. -/
def restoreWebhook (inet : InetPton) (P : WebhookParameters) (token webhookInfo : Slice) :
    Except Status (WebhookSettings × Nat) :=
  let query := getWebhookRestoreQuery token webhookInfo
  match checkWebhook inet query with
  | .error status => .error status
  | .ok _ => .ok (installedWebhook P query query.hasPreviousCertificate,
      updateAllowedUpdateTypes query defaultAllowedUpdateTypes)

structure WebhookSettings.Admissible (inet : InetPton) (P : WebhookParameters) (w : WebhookSettings) :
    Prop where
  url : ∃ u, HttpUrl.parseUrl inet w.url .https = .ok u
  maxConnections : 1 ≤ w.maxConnections ∧ w.maxConnections ≤ maxWebhookConnections P
  ipAddress : '/' ∉ w.ipAddress
  secretLength : w.secretToken.length ≤ 256
  secretToken : isBase64UrlCharacters w.secretToken = true

namespace ConstParser

variable {tag value rest : Slice}

theorem readField_append (h : '/' ∉ value) :
    ConstParser.readField ⟨tag ++ value ++ ['/'] ++ rest, false⟩ tag = (some value, ⟨rest, false⟩) := by
  unfold readField
  rw [List.append_assoc, List.append_assoc, trySkip_append]
  simp only [List.singleton_append]
  rw [readTill_append h]
  rfl

theorem readField_of_not_start (h : ¬ tag <+: rest) :
    ConstParser.readField ⟨rest, false⟩ tag = (none, ⟨rest, false⟩) := by
  unfold readField
  rw [trySkip_of_not_start h]

/-- A field that is present only if its value is not empty. -/
theorem readField_optional (h : '/' ∉ value) (hrest : ¬ tag <+: rest) :
    ConstParser.readField ⟨(if value ≠ [] then tag ++ value ++ ['/'] else []) ++ rest, false⟩ tag =
      (if value ≠ [] then some value else none, ⟨rest, false⟩) := by
  split_ifs
  · exact readField_append h
  · exact readField_of_not_start hrest

theorem readFlag_optional {flag : Bool} (hrest : ¬ tag <+: rest) :
    ConstParser.readFlag ⟨(if flag then tag ++ ['/'] else []) ++ rest, false⟩ tag =
      (flag, ⟨rest, false⟩) := by
  unfold readFlag
  cases flag with
  | false => rw [if_neg (by decide), List.nil_append, trySkip_of_not_start hrest]
  | true =>
      rw [if_pos rfl, List.append_assoc, trySkip_append]
      rfl

end ConstParser

namespace WebhookSettings

/-- Two tags of which none is a start of the other are never confused. -/
theorem not_prefix_append {tag other : Slice} (h : ¬ tag <+: other) (h' : ¬ other <+: tag)
    (tail : Slice) : ¬ tag <+: other ++ tail := by
  intro hp
  rcases List.prefix_or_prefix_of_prefix hp (List.prefix_append other tail) with hp | hp
  · exact h hp
  · exact h' hp

theorem not_prefix_optional {tag other rest : Slice} {p : Prop} [Decidable p] (h : ¬ tag <+: other)
    (h' : ¬ other <+: tag) (hrest : ¬ tag <+: rest) (value : Slice) :
    ¬ tag <+: (if p then other ++ value ++ ['/'] else []) ++ rest := by
  split_ifs
  · rw [List.append_assoc, List.append_assoc]
    exact not_prefix_append h h' _
  · exact hrest

theorem not_prefix_url {url tag : Slice} (hurl : ∃ c rest, url = c :: rest ∧ c ≠ '#') :
    ¬ '#' :: tag <+: url := by
  obtain ⟨c, rest, rfl, hc⟩ := hurl
  intro h
  exact hc (List.cons_prefix_cons.1 h).1.symm

theorem slash_notMem_intText {z : Int} (hz : 0 ≤ z) : '/' ∉ (toString z).toList := by
  obtain ⟨n, rfl⟩ := Int.eq_ofNat_of_zero_le hz
  intro h
  cases isDigit_of_mem_natText (n := n) h

theorem slash_notMem_secret {token : Slice} (h : isBase64UrlCharacters token = true) : '/' ∉ token := by
  intro hmem
  have hlt := List.all_eq_true.1 h _ hmem
  revert hlt
  decide

/-- The arguments of a stored webhook in their order, `none` for those that were left out. -/
def storedFields (w : WebhookSettings) (mask : Nat) : List (Slice × Option Slice) :=
  [("certificate".toList, if w.hasCertificate then some "previous".toList else none),
    ("max_connections".toList, some (toString w.maxConnections).toList),
    ("ip_address".toList, if w.ipAddress ≠ [] then some w.ipAddress else none),
    ("fix_ip_address".toList, if w.fixIpAddress then some ['1'] else none),
    ("secret_token".toList, if w.secretToken ≠ [] then some w.secretToken else none),
    ("allowed_updates".toList,
      if mask ≠ defaultAllowedUpdateTypes then some (toString mask).toList else none),
    ("url".toList, some w.url)]

def fieldArgs (fields : List (Slice × Option Slice)) : List (Slice × Slice) :=
  fields.flatMap fun f => optionalArg f.1 f.2

theorem storedFields_nodup (w : WebhookSettings) (mask : Nat) :
    ((storedFields w mask).map (·.1)).Nodup := by
  change (["certificate".toList, "max_connections".toList, "ip_address".toList,
    "fix_ip_address".toList, "secret_token".toList, "allowed_updates".toList, "url".toList]).Nodup
  decide

/-- The arguments that a stored webhook decodes to. -/
theorem restoreArgs_saveWebhook {w : WebhookSettings} {mask : Nat}
    (hurl : ∀ tag, ¬ '#' :: tag <+: w.url) (hmax : 0 ≤ w.maxConnections)
    (hip : '/' ∉ w.ipAddress) (hsecret : '/' ∉ w.secretToken) :
    webhookRestoreArgs (saveWebhook w mask) = fieldArgs (storedFields w mask) := by
  -- the text behind each field, from the last one to the first
  let allow : Slice := (if mask ≠ defaultAllowedUpdateTypes then
    "#allow".toList ++ (toString mask).toList ++ ['/'] else []) ++ w.url
  let secret : Slice := (if w.secretToken ≠ [] then "#secret".toList ++ w.secretToken ++ ['/'] else []) ++
    allow
  let fix : Slice := (if w.fixIpAddress then "#fix_ip".toList ++ ['/'] else []) ++ secret
  let ip : Slice := (if w.ipAddress ≠ [] then "#ip".toList ++ w.ipAddress ++ ['/'] else []) ++ fix
  have hsave : saveWebhook w mask = (if w.hasCertificate then "cert/".toList else []) ++
      ("#maxc".toList ++ (toString w.maxConnections).toList ++ ['/'] ++ ip) := by
    simp only [saveWebhook, ip, fix, secret, allow, List.append_assoc]
    rfl
  have hcert : ConstParser.trySkip ⟨saveWebhook w mask, false⟩ "cert/".toList = (w.hasCertificate,
      ⟨"#maxc".toList ++ (toString w.maxConnections).toList ++ ['/'] ++ ip, false⟩) := by
    rw [hsave]
    cases w.hasCertificate with
    | false =>
        refine ConstParser.trySkip_of_not_start ?_
        rw [if_neg (by decide), List.nil_append, List.append_assoc, List.append_assoc]
        exact not_prefix_append (by decide) (by decide) _
    | true => exact ConstParser.trySkip_append _ _
  have hmaxc : ConstParser.readField ⟨"#maxc".toList ++ (toString w.maxConnections).toList ++ ['/'] ++ ip,
      false⟩ "#maxc".toList = (some (toString w.maxConnections).toList, ⟨ip, false⟩) :=
    ConstParser.readField_append (slash_notMem_intText hmax)
  have hip' : ConstParser.readField ⟨ip, false⟩ "#ip".toList =
      (if w.ipAddress ≠ [] then some w.ipAddress else none, ⟨fix, false⟩) := by
    refine ConstParser.readField_optional hip ?_
    have hsec : ¬ "#ip".toList <+: secret :=
      not_prefix_optional (by decide) (by decide)
        (not_prefix_optional (by decide) (by decide) (hurl _) _) _
    change ¬ "#ip".toList <+: (if w.fixIpAddress then "#fix_ip".toList ++ ['/'] else []) ++ secret
    split_ifs
    · rw [List.append_assoc]
      exact not_prefix_append (by decide) (by decide) _
    · exact hsec
  have hfix : ConstParser.readFlag ⟨fix, false⟩ "#fix_ip".toList = (w.fixIpAddress, ⟨secret, false⟩) :=
    ConstParser.readFlag_optional (not_prefix_optional (by decide) (by decide)
      (not_prefix_optional (by decide) (by decide) (hurl _) _) _)
  have hsecret' : ConstParser.readField ⟨secret, false⟩ "#secret".toList =
      (if w.secretToken ≠ [] then some w.secretToken else none, ⟨allow, false⟩) :=
    ConstParser.readField_optional hsecret (not_prefix_optional (by decide) (by decide) (hurl _) _)
  have hallow : ConstParser.readField ⟨allow, false⟩ "#allow".toList =
      (if mask ≠ defaultAllowedUpdateTypes then some (toString mask).toList else none,
        ⟨w.url, false⟩) := by
    change ConstParser.readField ⟨(if mask ≠ defaultAllowedUpdateTypes then
      "#allow".toList ++ (toString mask).toList ++ ['/'] else []) ++ w.url, false⟩ _ = _
    split_ifs
    · exact ConstParser.readField_append fun h => by cases isDigit_of_mem_natText h
    · exact ConstParser.readField_of_not_start (hurl _)
  unfold webhookRestoreArgs
  simp only [hcert, hmaxc, hip', hfix, hsecret', hallow]
  simp only [fieldArgs, storedFields, List.flatMap_cons, List.flatMap_nil, List.append_assoc,
    List.append_nil]
  congr 1
  · split_ifs <;> rfl
  · congr 3
    split_ifs <;> rfl

theorem mem_fieldArgs {fields : List (Slice × Option Slice)} {a : Slice × Slice}
    (ha : a ∈ fieldArgs fields) : a.1 ∈ fields.map (·.1) := by
  obtain ⟨f, hf, ha⟩ := List.mem_flatMap.1 ha
  refine List.mem_map.2 ⟨f, hf, ?_⟩
  cases hv : f.2 with
  | none => simp [optionalArg, hv] at ha
  | some value =>
      simp only [optionalArg, hv, List.mem_singleton] at ha
      rw [ha]

/-- With distinct names every field is found, and an absent one is not. -/
theorem find_fieldArgs {fields : List (Slice × Option Slice)} (hn : (fields.map (·.1)).Nodup)
    {name : Slice} {value : Option Slice} (hf : (name, value) ∈ fields) :
    (fieldArgs fields).find? (fun a => a.1 = name) = value.map fun v => (name, v) := by
  induction fields with
  | nil => cases hf
  | cons f fields ih =>
      obtain ⟨hnew, hn⟩ := List.nodup_cons.1 hn
      change (optionalArg f.1 f.2 ++ fieldArgs fields).find? _ = _
      rw [List.find?_append]
      rcases List.mem_cons.1 hf with rfl | hf
      · have hrest : (fieldArgs fields).find? (fun a => a.1 = name) = none := by
          rw [List.find?_eq_none]
          rintro a ha hname
          rw [decide_eq_true_eq] at hname
          exact hnew (hname ▸ mem_fieldArgs ha)
        cases value <;> simp [optionalArg, hrest]
      · have hne : f.1 ≠ name := by
          rintro rfl
          exact hnew (List.mem_map.2 ⟨_, hf, rfl⟩)
        have hfirst : (optionalArg f.1 f.2).find? (fun a => a.1 = name) = none := by
          cases f.2 <;> simp [optionalArg, hne]
        rw [hfirst, Option.none_or]
        exact ih hn hf

theorem arg_of_fields {query : BotQuery} {fields : List (Slice × Option Slice)}
    (hargs : query.args = fieldArgs fields) (hn : (fields.map (·.1)).Nodup) {name : Slice}
    {value : Option Slice} (hf : (name, value) ∈ fields) : query.arg name = value.getD [] := by
  unfold BotQuery.arg
  rw [hargs, find_fieldArgs hn hf]
  cases value <;> rfl

theorem hasArg_of_fields {query : BotQuery} {fields : List (Slice × Option Slice)}
    (hargs : query.args = fieldArgs fields) (hn : (fields.map (·.1)).Nodup) {name : Slice}
    {value : Option Slice} (hf : (name, value) ∈ fields) : query.hasArg name = value.isSome := by
  unfold BotQuery.hasArg
  rw [hargs, ← List.isSome_find?, find_fieldArgs hn hf]
  cases value <;> rfl

/-- The request that a stored webhook decodes to, argument by argument. -/
structure Restored (w : WebhookSettings) (mask : Nat) (query : BotQuery) : Prop where
  isInternal : query.isInternal = true
  method : query.method = "setwebhook".toList
  url : query.arg "url".toList = w.url
  certificate : query.hasPreviousCertificate = w.hasCertificate
  maxConnections : query.arg "max_connections".toList = (toString w.maxConnections).toList
  ipAddress : query.arg "ip_address".toList = w.ipAddress
  fixIpAddress : query.hasArg "fix_ip_address".toList = w.fixIpAddress
  secretToken : query.arg "secret_token".toList = w.secretToken
  allowedUpdates : query.arg "allowed_updates".toList =
    if mask ≠ defaultAllowedUpdateTypes then (toString mask).toList else []

theorem restored {w : WebhookSettings} (mask : Nat) (token : Slice)
    (hurl : ∀ tag, ¬ '#' :: tag <+: w.url) (hmax : 0 ≤ w.maxConnections)
    (hip : '/' ∉ w.ipAddress) (hsecret : '/' ∉ w.secretToken) :
    Restored w mask (getWebhookRestoreQuery token (saveWebhook w mask)) := by
  have hargs : (getWebhookRestoreQuery token (saveWebhook w mask)).args =
      fieldArgs (storedFields w mask) := restoreArgs_saveWebhook hurl hmax hip hsecret
  have hn : ((storedFields w mask).map (·.1)).Nodup := storedFields_nodup w mask
  -- each argument stands at its place of the list
  have hurl' := arg_of_fields hargs hn (List.mem_of_getElem? (i := 6) rfl)
  have hcert := arg_of_fields hargs hn (List.mem_of_getElem? (i := 0) rfl)
  have hmax' := arg_of_fields hargs hn (List.mem_of_getElem? (i := 1) rfl)
  have hip' := arg_of_fields hargs hn (List.mem_of_getElem? (i := 2) rfl)
  have hfix := hasArg_of_fields hargs hn (List.mem_of_getElem? (i := 3) rfl)
  have hsecret' := arg_of_fields hargs hn (List.mem_of_getElem? (i := 4) rfl)
  have hallow := arg_of_fields hargs hn (List.mem_of_getElem? (i := 5) rfl)
  refine ⟨rfl, rfl, hurl', ?_, hmax', hip'.trans ?_, hfix.trans ?_, hsecret'.trans ?_,
    hallow.trans ?_⟩
  · unfold BotQuery.hasPreviousCertificate
    rw [hcert]
    cases w.hasCertificate <;> rfl
  · by_cases h : w.ipAddress = [] <;> simp [h]
  · cases w.fixIpAddress <;> rfl
  · by_cases h : w.secretToken = [] <;> simp [h]
  · split_ifs <;> rfl

theorem maxWebhookConnections_bounds (P : WebhookParameters) :
    1 ≤ maxWebhookConnections P ∧ maxWebhookConnections P ≤ 100000 := by
  unfold maxWebhookConnections
  split_ifs <;> omega

/-- What an accepted request installs can be in place, once the address has been verified. -/
theorem installedWebhook_admissible {inet : InetPton} (P : WebhookParameters) {query : BotQuery}
    (hmethod : query.method = "setwebhook".toList) (hcheck : checkWebhook inet query = .ok ())
    (hasCertificate : Bool) {ip : Slice} (hip : '/' ∉ ip) :
    ({ installedWebhook P query hasCertificate with ipAddress := ip }).Admissible inet P := by
  have hbounds := maxWebhookConnections_bounds P
  unfold checkWebhook at hcheck
  split at hcheck
  · cases hcheck
  · rename_i u hu
    split_ifs at hcheck with hlength hsecret
    have hurl : query.newWebhookUrl = query.arg "url".toList := if_pos hmethod
    rw [hurl] at hu
    refine ⟨⟨u, hu⟩, ?_, hip, Nat.not_lt.1 hlength, hsecret⟩
    change 1 ≤ query.getWebhookMaxConnections P ∧ query.getWebhookMaxConnections P ≤ _
    unfold BotQuery.getWebhookMaxConnections BotQuery.getIntegerArg
    simp only
    split_ifs <;> omega

theorem accumulateDigits_lt {acc : Nat} (hacc : acc < 2 ^ 64) (cs : Slice) :
    accumulateDigits acc cs < 2 ^ 64 := by
  induction cs generalizing acc with
  | nil => exact hacc
  | cons c cs ih =>
      unfold accumulateDigits
      split_ifs
      · exact ih (Nat.mod_lt _ (by decide))
      · exact hacc

theorem updateTypesMask_lt {items : List JsonValue} {result mask : Nat} (hresult : result < 2 ^ 28)
    (h : updateTypesMask items result = some mask) : mask < 2 ^ 28 := by
  induction items generalizing result with
  | nil =>
      obtain rfl : result = mask := Option.some.inj h
      exact hresult
  | cons item items ih =>
      cases item with
      | string name =>
          refine ih ?_ h
          split_ifs with hindex
          · exact Nat.or_lt_two_pow hresult (Nat.pow_lt_pow_right (by decide) hindex)
          · exact hresult
      | _ => cases h

/-- The mask of a client stays a positive 64-bit number. -/
theorem updateAllowedUpdateTypes_bounds (query : BotQuery) {mask : Nat} (hpos : 0 < mask)
    (hlt : mask < 2 ^ 64) : 0 < updateAllowedUpdateTypes query mask ∧
      updateAllowedUpdateTypes query mask < 2 ^ 64 := by
  have hnew : getAllowedUpdateTypes (query.arg "allowed_updates".toList) query.isInternal < 2 ^ 64 := by
    unfold getAllowedUpdateTypes
    by_cases hempty : query.arg "allowed_updates".toList = []
    · rw [if_pos hempty]
      decide
    rw [if_neg hempty]
    split
    · decide
    · split
      · decide
      · decide
      · rename_i m _ hm
        have := updateTypesMask_lt (by decide) hm
        omega
    · rename_i text _
      have hdigits : accumulateDigits 0 text < 2 ^ 64 := accumulateDigits_lt (by decide) text
      cases query.isInternal with
      | false =>
          rw [if_neg (by decide)]
          decide
      | true =>
          rw [if_pos rfl]
          unfold toUInt64Safe
          simp only
          by_cases hsame : (toString (accumulateDigits 0 text)).toList = text
          · rw [if_pos hsame]
            exact hdigits
          · rw [if_neg hsame]
            decide
    · decide
  unfold updateAllowedUpdateTypes
  simp only
  split_ifs with h
  · exact ⟨Nat.pos_of_ne_zero h, hnew⟩
  · exact ⟨hpos, hlt⟩

theorem getAllowedUpdateTypes_number {mask : Nat} (hlt : mask < 2 ^ 64) :
    getAllowedUpdateTypes (toString mask).toList true = mask := by
  have hne := natText_ne_nil mask
  have hjson := Json.jsonDecode_digits hne fun c hc => isDigit_of_mem_natText hc
  unfold getAllowedUpdateTypes
  rw [if_neg hne, hjson]
  simp only [if_true]
  rw [toUInt64Safe_natText hlt]
  rfl

theorem updateAllowedUpdateTypes_restored {w : WebhookSettings} {mask : Nat} {query : BotQuery}
    (hq : Restored w mask query) (hpos : 0 < mask) (hlt : mask < 2 ^ 64) :
    updateAllowedUpdateTypes query defaultAllowedUpdateTypes = mask := by
  unfold updateAllowedUpdateTypes
  rw [hq.allowedUpdates, hq.isInternal]
  by_cases h : mask = defaultAllowedUpdateTypes
  · -- the default is not stored: the empty argument keeps the mask of the new client
    rw [if_neg (not_not_intro h), h]
    rfl
  · rw [if_pos h]
    simp only [getAllowedUpdateTypes_number hlt]
    rw [if_pos (Nat.ne_of_gt hpos)]

theorem installedWebhook_restored {w : WebhookSettings} {mask : Nat} {query : BotQuery}
    {P : WebhookParameters} (hq : Restored w mask query) (hmin : 1 ≤ w.maxConnections)
    (hmax : w.maxConnections ≤ maxWebhookConnections P) :
    installedWebhook P query query.hasPreviousCertificate = w := by
  have hbounds := maxWebhookConnections_bounds P
  have hmaxc : query.getWebhookMaxConnections P = w.maxConnections := by
    unfold BotQuery.getWebhookMaxConnections BotQuery.getIntegerArg
    simp only
    have hne : (toString w.maxConnections).toList ≠ [] := by
      obtain ⟨n, hn⟩ := Int.eq_ofNat_of_zero_le (show 0 ≤ w.maxConnections by omega)
      rw [hn]
      exact natText_ne_nil n
    rw [hq.maxConnections, if_neg hne, toInt32_intText (by omega) (by omega), if_neg (by omega),
      if_neg (by omega)]
  have hfix : query.getWebhookFixIpAddress = w.fixIpAddress := by
    unfold BotQuery.getWebhookFixIpAddress
    rw [if_pos hq.isInternal, hq.fixIpAddress]
  unfold installedWebhook
  rw [hq.url, hq.certificate, hmaxc, hq.ipAddress, hfix, hq.secretToken]

end WebhookSettings

/-- A restart keeps a webhook: the text that was stored for it decodes to a request that passes all
checks and installs the same certificate flag, limit, address, fixed-address flag, secret, mask of
updates and web address. -/
theorem webhook_survives_restart (inet : InetPton) (P : WebhookParameters) (token : Slice)
    (w : WebhookSettings) (mask : Nat) (hw : w.Admissible inet P) (hpos : 0 < mask)
    (hlt : mask < 2 ^ 64) : restoreWebhook inet P token (saveWebhook w mask) = .ok (w, mask) := by
  obtain ⟨u, hu⟩ := hw.url
  obtain ⟨hmin, hmax⟩ := hw.maxConnections
  have hq := WebhookSettings.restored mask token
    (fun _ => WebhookSettings.not_prefix_url (HttpUrl.parseUrl_head inet hu)) (by omega)
    hw.ipAddress (WebhookSettings.slash_notMem_secret hw.secretToken)
  have hcheck : checkWebhook inet (getWebhookRestoreQuery token (saveWebhook w mask)) = .ok () := by
    have hlength := hw.secretLength
    unfold checkWebhook BotQuery.newWebhookUrl
    rw [if_pos hq.method, hq.url, hu, hq.secretToken]
    simp only
    rw [if_neg (by omega), if_neg (not_not_intro hw.secretToken)]
  unfold restoreWebhook
  simp only
  rw [hcheck]
  simp only
  rw [WebhookSettings.installedWebhook_restored hq hmin hmax,
    WebhookSettings.updateAllowedUpdateTypes_restored hq hpos hlt]

/-- A webhook with a certificate, a fixed address and one kind of updates. -/
theorem webhook_survives_restart_fixed :
    let inet : InetPton := ⟨fun _ => none, fun _ => none⟩
    let w : WebhookSettings := {
      url := "example.org/cert/#ip".toList
      hasCertificate := true
      maxConnections := 40
      ipAddress := "149.154.167.220".toList
      fixIpAddress := true
      secretToken := "A-b_9".toList }
    restoreWebhook inet {} "1:A".toList (saveWebhook w 1) = .ok (w, 1) := by
  intro inet w
  refine webhook_survives_restart inet {} _ w 1 ⟨?_, ?_, ?_, ?_, ?_⟩ (by decide) (by decide)
  · refine ⟨{
      protocol := .https
      userinfo := []
      host := "example.org".toList
      isIpv6 := false
      specifiedPort := 0
      port := 443
      query := "/cert/#ip".toList }, ?_⟩
    decide +kernel
  · decide
  · decide +kernel
  · decide +kernel
  · decide +kernel

end TelegramBotApi
