import TelegramBotApi.Client
import TelegramBotApi.WebhookSettings
import TelegramBotApi.StepRun

/-!
# The webhook of a client

A client has at most one webhook. Changing it takes several messages: the old actor is asked to close,
its certificate is removed and the new one is copied on another scheduler, and the new actor reports
that it was verified or closed. The functions below are the handlers of these messages, with every
assertion on the way as an error of the result; the copies and removals that are under way and the
actors that can still report are part of the state. Logging, the times shown by `getWebhookInfo` and the
long poll that a new webhook aborts are left out.
-/

namespace TelegramBotApi

inductive WebhookAssertion where
  | setWebhookActiveQuery
  | doSetWebhookUrl
  | doSetWebhookCertificate
  | doSetWebhookPendingQuery
  | certificateCopiedNoQuery
  | finishSetWebhookActiveQuery
  | finishSetWebhookPendingQuery
  | finishSetWebhookUrl
  | finishSetWebhookEmptyUrl
  | finishSetWebhookInvalidUrl
  | clearTqueueWebhook
  /-- `on_closed` without a preceding change of the authorization state. -/
  | onClosedNotClosing
  /-- `Query::set_ok` or `Query::set_error` on a query that already has its answer. -/
  | answeredTwice
  deriving DecidableEq

/-- The assertions of the functions that set a webhook and of `clear_tqueue`. -/
def WebhookAssertion.isOwn : WebhookAssertion → Bool
  | .onClosedNotClosing | .answeredTwice => false
  | _ => true

/-- A query that waits for its answer; `ready` once the answer was put into it. -/
structure PromisedQuery where
  query : BotQuery
  ready : Bool := false
  deriving DecidableEq

inductive QueryAnswer where
  | ok (description : String)
  | error (code : Int) (message : String)
  | retryAfter (seconds : Int)
  deriving DecidableEq

inductive WebhookQueryType where
  | cancel
  | verify
  deriving DecidableEq

inductive ClientWebhookEffect where
  | answered (query : BotQuery) (answer : QueryAnswer)
  | saveWebhook (value : Slice)
  | eraseWebhook
  | clearTqueue
  | createWebhook (generation : Nat) (settings : WebhookSettings)
  | closeWebhook (generation : Nat)
  | hangupWebhook (generation : Nat)
  deriving DecidableEq

/-- The webhook fields of `Client`, and what is under way for them. -/
structure ClientWebhook where
  settings : WebhookSettings := {}
  /-- The generation of the actor that the client owns. -/
  webhookId : Option Nat := none
  webhookSetQuery : Option PromisedQuery := none
  activeWebhookSetQuery : Option PromisedQuery := none
  webhookQueryType : WebhookQueryType := .cancel
  webhookGeneration : Nat := 1
  allowedUpdateTypes : Nat := defaultAllowedUpdateTypes
  nextAllowedSetWebhookTime : Int := 0
  loggingOut : Bool := false
  closing : Bool := false
  isApiIdInvalid : Bool := false
  nextAuthorizationTime : Int := 0
  clearTqueueFlag : Bool := false
  needClose : Bool := false
  /-- `td_client_` is empty. -/
  tdClosed : Bool := false
  stopped : Bool := false
  /-- Actors that still hold the callback. -/
  callbacks : List Nat := []
  /-- Certificates that are being copied. -/
  copies : Nat := 0
  /-- Certificates that are being removed, each with the reason why its webhook was closed. -/
  unlinks : List (Option Status) := []
  removingDirectory : Bool := false
  out : List ClientWebhookEffect := []

inductive ClientWebhookEvent where
  | query (query : BotQuery) (now : Int)
  | logOutRequested
  | closeRequested
  | authorizationFailed (apiIdInvalid : Bool) (nextAuthorizationTime : Int)
  | authorizationStateLoggingOut
  | authorizationStateClosing
  | authorizationStateClosed (now : Int)
  | directoryRemoved
  | timeoutExpired
  | webhookVerified (generation : Nat) (cachedIpAddress : Slice)
  | webhookClosed (generation : Nat) (status : Option Status) (now : Int)
  | hangupShared (generation : Nat) (now : Int)
  | certificateCopied (success : Bool) (now : Int)
  | certificateUnlinked (now : Int)

def toBool (value : Slice) : Bool :=
  let value := Slice.trim (Slice.toLower value)
  value = "true".toList || value = "yes".toList || value = "1".toList

def maxCertificateFileSize : Int := 3 * 2 ^ 20

namespace ClientWebhook

variable (inet : InetPton) (P : WebhookParameters) (s : ClientWebhook)

def emit (effect : ClientWebhookEffect) : ClientWebhook := { s with out := s.out ++ [effect] }

def withCertificate (hasCertificate : Bool) : ClientWebhook :=
  { s with settings := { s.settings with hasCertificate := hasCertificate } }

def isClosing : Bool := s.loggingOut || s.closing

/-- The client was told when to try to log in again. -/
def retriesLater : Bool := s.loggingOut && !s.isApiIdInvalid && 0 < s.nextAuthorizationTime

def getClosingError (now : Int) : ClosingError :=
  if s.loggingOut then
    if s.isApiIdInvalid then { code := 401, message := "Unauthorized: invalid api-id/api-hash" }
    else if 0 < s.nextAuthorizationTime then
      let retryAfter := max ((s.nextAuthorizationTime - now).tdiv Client.second) 0 + 1
      { code := 429, retryAfter := retryAfter,
        message := "Too Many Requests: retry after " ++ toString retryAfter }
    else if s.clearTqueueFlag then { code := 400, message := "Logged out" }
    else { code := 401, message := "Unauthorized" }
  else { code := 500, message := "Internal Server Error: restart" }

def respond (query : PromisedQuery) (answer : QueryAnswer) : Except WebhookAssertion ClientWebhook :=
  if query.ready then .error .answeredTwice else .ok (s.emit (.answered query.query answer))

def closingAnswer (now : Int) : QueryAnswer :=
  let error := s.getClosingError now
  if 0 < error.retryAfter then .retryAfter error.retryAfter else .error error.code error.message

def failQueryClosing (query : PromisedQuery) (now : Int) : Except WebhookAssertion ClientWebhook :=
  s.respond query (s.closingAnswer now)

/-- `fail_query_closing` for a member: a query that shall be repeated later stays where it is. -/
def failMemberClosing (query : Option PromisedQuery) (now : Int) :
    Except WebhookAssertion (Option PromisedQuery × ClientWebhook) :=
  match query with
  | none => .ok (none, s)
  | some query =>
    if query.ready then .error .answeredTwice
    else if 0 < (s.getClosingError now).retryAfter then .ok (some { query with ready := true }, s)
    else .ok (none, s.emit (.answered query.query (s.closingAnswer now)))

def saveWebhook : ClientWebhook :=
  s.emit (.saveWebhook (TelegramBotApi.saveWebhook s.settings s.allowedUpdateTypes))

def clearTqueue : Except WebhookAssertion ClientWebhook :=
  if s.webhookId.isSome then .error .clearTqueueWebhook else .ok (s.emit .clearTqueue)

/-- The state after `finish_set_webhook` has created the actor. -/
def installWebhook (query : PromisedQuery) : ClientWebhook :=
  let settings := installedWebhook P query.query s.settings.hasCertificate
  { s with
    settings := settings
    allowedUpdateTypes := updateAllowedUpdateTypes query.query s.allowedUpdateTypes
    webhookId := some s.webhookGeneration
    callbacks := s.callbacks ++ [s.webhookGeneration]
    webhookQueryType := .verify
    webhookSetQuery := some query
    out := s.out ++ [.createWebhook s.webhookGeneration settings] }

def finishSetWebhook (query : PromisedQuery) (now : Int) : Except WebhookAssertion ClientWebhook :=
  if s.activeWebhookSetQuery.isSome then .error .finishSetWebhookActiveQuery
  else if s.webhookSetQuery.isSome then .error .finishSetWebhookPendingQuery
  else if s.settings.url ≠ [] then .error .finishSetWebhookUrl
  else if s.isClosing then s.failQueryClosing query now
  else if query.query.arg "url".toList = [] then .error .finishSetWebhookEmptyUrl
  else match HttpUrl.parseUrl inet (query.query.arg "url".toList) .https with
    | .error _ => .error .finishSetWebhookInvalidUrl
    | .ok _ => .ok (s.installWebhook P query)

/-- The part of `do_set_webhook` behind its checks of the request. -/
def startSetWebhook (query : PromisedQuery) (now : Int) : Except WebhookAssertion ClientWebhook :=
  if s.activeWebhookSetQuery.isSome then s.respond query (.retryAfter 1)
  else if s.settings.hasCertificate then .error .doSetWebhookCertificate
  else if query.query.isInternal then
    (s.withCertificate query.query.hasPreviousCertificate).finishSetWebhook inet P query now
  else match query.query.getWebhookCertificate with
    | none => s.finishSetWebhook inet P query now
    | some file =>
      if maxCertificateFileSize < file.size then
        s.respond query (.error 400
          ("Bad Request: certificate size is too big (" ++ toString file.size ++ " bytes)"))
      else if s.webhookSetQuery.isSome then .error .doSetWebhookPendingQuery
      else .ok { s with activeWebhookSetQuery := some query, copies := s.copies + 1 }

/-- The part of `do_set_webhook` behind the removal of pending updates. -/
def checkSetWebhook (query : PromisedQuery) (wasDeleted : Bool) (now : Int) :
    Except WebhookAssertion ClientWebhook :=
  if query.query.newWebhookUrl = [] then
    s.respond query (.ok (if wasDeleted then "Webhook was deleted" else "Webhook is already deleted"))
  else match checkWebhook inet query.query with
    | .error status => s.respond query (.error status.code status.message)
    | .ok _ => s.startSetWebhook inet P query now

def doSetWebhook (query : PromisedQuery) (wasDeleted : Bool) (now : Int) :
    Except WebhookAssertion ClientWebhook :=
  if s.settings.url ≠ [] then .error .doSetWebhookUrl
  else if s.isClosing then s.failQueryClosing query now
  else if toBool (query.query.arg "drop_pending_updates".toList) then
    match s.clearTqueue with
    | .error assertion => .error assertion
    | .ok s => s.checkSetWebhook inet P query wasDeleted now
  else s.checkSetWebhook inet P query wasDeleted now

def onWebhookCertificateCopied (success : Bool) (now : Int) : Except WebhookAssertion ClientWebhook :=
  match s.activeWebhookSetQuery with
  | none => .error .certificateCopiedNoQuery
  | some query =>
    let s := { s with activeWebhookSetQuery := none }
    if success then (s.withCertificate true).finishSetWebhook inet P query now
    else s.respond query (.error 500 "Internal Server Error: failed to save certificate")

def isNotModified (query : BotQuery) : Bool :=
  let newUrl := query.newWebhookUrl
  let newHasCertificate := newUrl ≠ [] &&
    (query.getWebhookCertificate.isSome || (query.isInternal && query.hasPreviousCertificate))
  let newMaxConnections := if newUrl = [] then 0 else query.getWebhookMaxConnections P
  let newIpAddress := if newUrl = [] then [] else query.arg "ip_address".toList
  let newFixIpAddress := newUrl ≠ [] && query.getWebhookFixIpAddress
  let newSecretToken := if newUrl = [] then [] else query.arg "secret_token".toList
  s.settings.url = newUrl && !s.settings.hasCertificate && !newHasCertificate &&
    newMaxConnections = s.settings.maxConnections && newFixIpAddress = s.settings.fixIpAddress &&
    newSecretToken = s.settings.secretToken &&
    (!newFixIpAddress || newIpAddress = s.settings.ipAddress) &&
    !toBool (query.arg "drop_pending_updates".toList)

/-- The end of `process_set_webhook_query`: an old webhook is closed first. -/
def replaceWebhook (query : BotQuery) (now : Int) : Except WebhookAssertion ClientWebhook :=
  let s := { s with webhookGeneration := s.webhookGeneration + 1 }
  if s.settings.url ≠ [] then
    let s := match s.webhookId with
      | none => s
      | some generation => { s with webhookId := none }.emit (.closeWebhook generation)
    if s.activeWebhookSetQuery.isSome then .error .setWebhookActiveQuery
    else .ok { s with webhookQueryType := .cancel, webhookSetQuery := some { query := query } }
  else s.doSetWebhook inet P { query := query } false now

/-- `process_set_webhook_query` behind its rate limit. -/
def changeWebhook (query : BotQuery) (now : Int) : Except WebhookAssertion ClientWebhook :=
  match s.webhookSetQuery with
  | some pending =>
    match { s with webhookSetQuery := none }.respond pending
        (.error 409 "Conflict: terminated by other setWebhook") with
    | .error assertion => .error assertion
    | .ok s => s.replaceWebhook inet P query now
  | none =>
    if s.activeWebhookSetQuery.isSome then s.respond { query := query } (.retryAfter 1)
    else if s.isNotModified P query then
      let types := updateAllowedUpdateTypes query s.allowedUpdateTypes
      let s := if types ≠ s.allowedUpdateTypes then { s with allowedUpdateTypes := types }.saveWebhook else s
      s.respond { query := query } (.ok (if query.newWebhookUrl = [] then "Webhook is already deleted"
        else "Webhook is already set"))
    else s.replaceWebhook inet P query now

def processSetWebhookQuery (query : BotQuery) (now : Int) : Except WebhookAssertion ClientWebhook :=
  if query.newWebhookUrl ≠ [] ∧ ¬ query.isInternal then
    if now < s.nextAllowedSetWebhookTime then s.respond { query := query } (.retryAfter 1)
    else { s with nextAllowedSetWebhookTime := now + 10 ^ 9 }.changeWebhook inet P query now
  else s.changeWebhook inet P query now

def webhookVerified (generation : Nat) (cachedIpAddress : Slice) :
    Except WebhookAssertion ClientWebhook :=
  if generation ≠ s.webhookGeneration then .ok s
  else
    let needSave := s.webhookSetQuery.isSome ∨ cachedIpAddress ≠ s.settings.ipAddress
    let s := { s with settings := { s.settings with ipAddress := cachedIpAddress } }
    match s.webhookSetQuery with
    | none => .ok (if needSave then s.saveWebhook else s)
    | some query =>
      match { s with webhookSetQuery := none }.respond query (.ok "Webhook was set") with
      | .error assertion => .error assertion
      | .ok s => .ok s.saveWebhook

def onWebhookClosed (status : Option Status) (now : Int) : Except WebhookAssertion ClientWebhook :=
  let query := s.webhookSetQuery
  let s := { s with webhookId := none, settings := {}, webhookSetQuery := none }.emit .eraseWebhook
  match query with
  | none => .ok s
  | some query =>
    if s.webhookQueryType = .verify then
      s.respond query (.error 400 ("Bad Request: bad webhook: " ++ (status.map (·.message)).getD ""))
    else s.doSetWebhook inet P query true now

/-- The certificate of a closed webhook is removed on another scheduler. -/
def webhookClosed (status : Option Status) (now : Int) : Except WebhookAssertion ClientWebhook :=
  if s.settings.hasCertificate then .ok { s with unlinks := s.unlinks ++ [status] }
  else s.onWebhookClosed inet P status now

def finishClosing : Except WebhookAssertion ClientWebhook :=
  if s.clearTqueueFlag ∧ s.loggingOut then
    match s.clearTqueue with
    | .error assertion => .error assertion
    | .ok s => .ok { s with stopped := s.needClose }
  else .ok { s with stopped := s.needClose }

def resetWebhook : ClientWebhook :=
  if s.settings.url = [] then s
  else match s.webhookId with
    | none => s
    | some generation => { s with webhookId := none }.emit (.hangupWebhook generation)

def onClosed (now : Int) : Except WebhookAssertion ClientWebhook :=
  if ¬ s.isClosing then .error .onClosedNotClosing
  else match { s with tdClosed := true }.failMemberClosing s.webhookSetQuery now with
    | .error assertion => .error assertion
    | .ok (webhookSetQuery, s) =>
      match s.failMemberClosing s.activeWebhookSetQuery now with
      | .error assertion => .error assertion
      | .ok (activeWebhookSetQuery, s) =>
        let s := { s with
          webhookSetQuery := webhookSetQuery
          activeWebhookSetQuery := activeWebhookSetQuery }.resetWebhook
        if s.loggingOut then .ok { s.emit .eraseWebhook with removingDirectory := true }
        else s.finishClosing

/-- A message of the client. TDLib is silent after it was closed; a client that was stopped gets
nothing. -/
def step (e : ClientWebhookEvent) : Except WebhookAssertion ClientWebhook :=
  if s.stopped then .ok s
  else match e with
    | .query query now =>
      if s.isClosing then s.failQueryClosing { query := query } now
      else s.processSetWebhookQuery inet P query now
    | .logOutRequested => .ok (if s.tdClosed then s else { s with clearTqueueFlag := true })
    | .closeRequested => .ok { s with needClose := true }
    | .authorizationFailed apiIdInvalid nextAuthorizationTime =>
      .ok (if s.tdClosed then s else { s with
        isApiIdInvalid := s.isApiIdInvalid || apiIdInvalid
        nextAuthorizationTime := max s.nextAuthorizationTime nextAuthorizationTime })
    | .authorizationStateLoggingOut => .ok (if s.tdClosed then s else { s with loggingOut := true })
    | .authorizationStateClosing => .ok (if s.tdClosed then s else { s with closing := true })
    | .authorizationStateClosed now => if s.tdClosed then .ok s else s.onClosed now
    | .directoryRemoved =>
      if s.removingDirectory then { s with removingDirectory := false }.finishClosing else .ok s
    | .timeoutExpired => .ok (if s.tdClosed then { s with stopped := true } else s)
    | .webhookVerified generation cachedIpAddress =>
      if generation ∈ s.callbacks then s.webhookVerified generation cachedIpAddress else .ok s
    | .webhookClosed generation status now =>
      if generation ∈ s.callbacks then
        { s with callbacks := s.callbacks.erase generation }.webhookClosed inet P status now
      else .ok s
    | .hangupShared generation now =>
      if generation ∈ s.callbacks then
        { s with callbacks := s.callbacks.erase generation }.webhookClosed inet P (some ⟨0, "Unknown"⟩) now
      else .ok s
    | .certificateCopied success now =>
      if s.copies = 0 then .ok s
      else { s with copies := s.copies - 1 }.onWebhookCertificateCopied inet P success now
    | .certificateUnlinked now =>
      match s.unlinks with
      | [] => .ok s
      | status :: unlinks => { s with unlinks := unlinks }.onWebhookClosed inet P status now

/-- A run of the client; after a failed assertion nothing happens any more. -/
def stepRun (r : Except WebhookAssertion ClientWebhook) (e : ClientWebhookEvent) :
    Except WebhookAssertion ClientWebhook :=
  match r with
  | .error assertion => .error assertion
  | .ok s => s.step inet P e

end ClientWebhook

end TelegramBotApi
