import TelegramBotApi.HttpUrl
import TelegramBotApi.StepRun
import Mathlib.Data.List.AList

/-!
# Bots of login buttons

A login button of an inline keyboard names a bot by its username, or means the bot of the client. TDLib wants
identifiers: a name that is not known gets a temporary number, a multiple of a thousand, and the query waits
until TDLib has looked up all names that it needs; then the temporary numbers are replaced. Queries that need
the same name share its lookup. Of a button the model has what is read of its login part; what else may be
wrong with a keyboard or a query is an input. A query that copies or forwards a message reads its keyboard
when the message was found. TDLib answers every lookup before it is closed. The lists at the end of a record
are history variables.
-/

namespace TelegramBotApi

/-- A button with a login URL; without a username it means the bot of the client. -/
structure LoginButton where
  botUsername : Slice
  requestWriteAccess : Bool
  id : Int
  deriving DecidableEq

/-- A button of an inline keyboard, as it is received. -/
inductive InlineButtonJson where
  | loginUrl (botUsername : Slice) (requestWriteAccess : Bool)
  | other
  | invalid (error : Status)
  deriving DecidableEq

structure ReplyMarkupJson where
  /-- There are rows of a reply keyboard. -/
  keyboard : Bool := false
  inlineKeyboard : List (List InlineButtonJson) := []
  /-- An error in a field behind the keyboards. -/
  error : Option Status := none
  deriving DecidableEq

def ReplyMarkupJson.isInline (m : ReplyMarkupJson) : Bool := !m.keyboard && m.inlineKeyboard ≠ []

structure BotUserIds where
  defaultBotUserId : Int := 0
  curTempBotUserId : Int := 1
  botUserIds : AList fun _ : Slice => Int := ∅
  unresolvedBotUsernames : List Slice := []
  /-- The names that have got temporary numbers, in the order of the numbers. -/
  tempNames : List Slice := []

namespace BotUserIds

variable (b : BotUserIds)

def numberOf (username : Slice) : Int × BotUserIds :=
  let known := (b.botUserIds.lookup username).getD 0
  let userId := if known = 0 then b.curTempBotUserId * 1000 else known
  let b := { b with
    curTempBotUserId := if known = 0 then b.curTempBotUserId + 1 else b.curTempBotUserId
    botUserIds := b.botUserIds.insert username userId
    tempNames := if known = 0 then b.tempNames ++ [username] else b.tempNames }
  (userId, if userId % 1000 = 0 then
    { b with unresolvedBotUsernames := b.unresolvedBotUsernames.insert username } else b)

def plainUsername (botUsername : Slice) : Slice :=
  match botUsername with
  | '@' :: username => username
  | _ => botUsername

def signed (requestWriteAccess : Bool) (userId : Int) : Int := if requestWriteAccess then userId else -userId

/-- `get_inline_keyboard_button`: the login button, if it is one. -/
def getInlineKeyboardButton : InlineButtonJson → Except Status (Option LoginButton) × BotUserIds
  | .other => (.ok none, b)
  | .invalid error => (.error error, b)
  | .loginUrl botUsername requestWriteAccess =>
    if botUsername = [] then
      (.ok (some ⟨[], requestWriteAccess, signed requestWriteAccess b.defaultBotUserId⟩), b)
    else
      let username := plainUsername botUsername
      if username = [] ∨ ¬ username.all (fun c => c = '_' || HttpUrl.isAlnum c) then
        (.error ⟨400, "LoginUrl bot username is invalid"⟩, b)
      else
        let r := b.numberOf username
        (.ok (some ⟨username, requestWriteAccess, signed requestWriteAccess r.1⟩), r.2)

def getInlineKeyboard (b : BotUserIds) : List InlineButtonJson → Except Status (List LoginButton) × BotUserIds
  | [] => (.ok [], b)
  | button :: buttons =>
    match b.getInlineKeyboardButton button with
    | (.error error, b) => (.error ⟨400, "Can't parse InlineKeyboardButton: " ++ error.message⟩, b)
    | (.ok found, b) =>
      match b.getInlineKeyboard buttons with
      | (.error error, b) => (.error error, b)
      | (.ok rest, b) => (.ok (found.toList ++ rest), b)

/-- The login buttons of a markup; any other markup than an inline keyboard forgets the names to look up. -/
def getReplyMarkup (m : ReplyMarkupJson) : Except Status (List LoginButton) × BotUserIds :=
  match b.getInlineKeyboard m.inlineKeyboard.flatten with
  | (.error error, b) => (.error error, b)
  | (.ok buttons, b) =>
    match m.error with
    | some error => (.error error, b)
    | none => if m.isInline then (.ok buttons, b) else (.ok [], { b with unresolvedBotUsernames := [] })

def getReplyMarkups (b : BotUserIds) : List ReplyMarkupJson → Except Status (List LoginButton) × BotUserIds
  | [] => (.ok [], b)
  | m :: ms =>
    match b.getReplyMarkup m with
    | (.error error, b) => (.error error, b)
    | (.ok buttons, b) =>
      match b.getReplyMarkups ms with
      | (.error error, b) => (.error error, b)
      | (.ok rest, b) => (.ok (buttons ++ rest), b)

end BotUserIds

inductive Keyboards where
  | message (markup : Option ReplyMarkupJson)
  | results (markups : List ReplyMarkupJson)
  deriving DecidableEq

namespace Keyboards

def markups : Keyboards → List ReplyMarkupJson
  | .message markup => markup.toList
  | .results markups => markups

/-- What is checked of the markup of a message that waits for usernames. -/
def mayWait : Keyboards → Bool
  | .message markup => markup.any (·.isInline)
  | .results _ => true

end Keyboards

structure KeyboardQuery where
  keyboards : Keyboards
  /-- The query copies or forwards a message, which is looked for first. -/
  checksMessage : Bool := false
  /-- An error that is found behind the keyboards. -/
  error : Option Status := none
  deriving DecidableEq

inductive LoginFailure where
  | argument (error : Status)
  | notFound (username : Slice)
  | closing
  deriving DecidableEq

def LoginFailure.status : LoginFailure → Option Status
  | .argument error => some error
  | .notFound username => some ⟨400, "Bad Request: bot \"" ++ String.ofList username ++ "\" not found"⟩
  | .closing => none

structure PendingBotResolveQuery where
  pendingResolveCount : Nat
  query : Nat
  /-- The login buttons that `on_success` has. -/
  buttons : List LoginButton
  /-- The names that are counted. -/
  awaited : List Slice

structure LoginUrlClient where
  ids : BotUserIds := {}
  pendingBotResolveQueries : AList fun _ : Int => PendingBotResolveQuery := ∅
  currentBotResolveQueryId : Int := 1
  awaitingBotResolveQueries : AList fun _ : Slice => List Int := ∅
  tempToRealBotUserId : AList fun _ : Int => Int := ∅
  /-- The names that TDLib looks up. -/
  requests : List Slice := []
  /-- Queries whose messages are looked for. -/
  checking : AList fun _ : Nat => KeyboardQuery := ∅
  queryCount : Nat := 0
  closing : Bool := false
  crashed : Bool := false
  continued : List (Nat × List LoginButton) := []
  failed : List (Nat × LoginFailure × List LoginButton) := []
  /-- The answers to the lookups; there is no bot with the number zero. -/
  lookups : List (Slice × Int) := []

inductive LoginUrlEvent where
  | query (query : KeyboardQuery)
  /-- The message of a query was looked for. -/
  | checked (query : Nat) (error : Option Status)
  /-- A lookup is over; the number is zero if there is no such bot. -/
  | resolved (username : Slice) (userId : Int)
  | closing

namespace LoginUrlClient

variable (s : LoginUrlClient)

def check (condition : Bool) : LoginUrlClient := { s with crashed := s.crashed || !condition }

def fail (query : Nat) (failure : LoginFailure) (buttons : List LoginButton) : LoginUrlClient :=
  { s with failed := s.failed ++ [(query, failure, buttons)] }

/-- A login button whose temporary number is replaced; `none` if a `CHECK` fails. -/
def fixBotUserId (button : LoginButton) : Option LoginButton :=
  if button.id % 1000 ≠ 0 then some button
  else
    match s.tempToRealBotUserId.lookup (button.id.natAbs : Int) with
    | none => none
    | some botUserId =>
      if botUserId = 0 then none
      else some { button with id := if button.id < 0 then -botUserId else botUserId }

/-- `on_success` of a query that has waited: `fix_reply_markup_bot_user_ids` for all its keyboards. -/
def onSuccess (query : Nat) (buttons : List LoginButton) : LoginUrlClient :=
  match buttons.mapM s.fixBotUserId with
  | none => s.check false
  | some buttons => { s with continued := s.continued ++ [(query, buttons)] }

/-- What a lookup does to a query that waits for it. -/
def onResolved (username : Slice) (userId : Int) (queryId : Int) : LoginUrlClient :=
  match s.pendingBotResolveQueries.lookup queryId with
  | none => s
  | some pending =>
    let s := s.check (0 < pending.pendingResolveCount)
    let pending := { pending with
      pendingResolveCount := pending.pendingResolveCount - 1
      awaited := pending.awaited.erase username }
    if pending.pendingResolveCount = 0 ∨ userId = 0 then
      let s := if userId = 0 then s.fail pending.query (.notFound username) pending.buttons
        else s.onSuccess pending.query pending.buttons
      { s with pendingBotResolveQueries := s.pendingBotResolveQueries.erase queryId }
    else { s with pendingBotResolveQueries := s.pendingBotResolveQueries.insert queryId pending }

/-- The tables after a lookup. -/
def noteBot (username : Slice) (userId : Int) : LoginUrlClient :=
  if userId = 0 then { s with ids := { s.ids with botUserIds := s.ids.botUserIds.erase username } }
  else
    let tempBotUserId := (s.ids.botUserIds.lookup username).getD 0
    { s with
      tempToRealBotUserId := s.tempToRealBotUserId.insert tempBotUserId userId
      ids := { s.ids with botUserIds := s.ids.botUserIds.insert username userId } }

def onResolveBotUsername (username : Slice) (userId : Int) : LoginUrlClient :=
  match s.awaitingBotResolveQueries.lookup username with
  | none => s.check false
  | some queryIds =>
    let s := s.check (queryIds ≠ [])
    let s := { s with
      awaitingBotResolveQueries := s.awaitingBotResolveQueries.erase username
      lookups := s.lookups ++ [(username, userId)] }
    queryIds.foldl (fun s queryId => s.onResolved username userId queryId) (s.noteBot username userId)

/-- The request `searchPublicChat`, which fails at once when the client is being closed. -/
def searchPublicChat (username : Slice) : LoginUrlClient :=
  if s.closing then s.onResolveBotUsername username 0 else { s with requests := s.requests ++ [username] }

def awaitUsername (queryId : Int) (username : Slice) : LoginUrlClient :=
  let queryIds := (s.awaitingBotResolveQueries.lookup username).getD [] ++ [queryId]
  let s := { s with awaitingBotResolveQueries := s.awaitingBotResolveQueries.insert username queryIds }
  if queryIds.length = 1 then s.searchPublicChat username else s

def resolveBotUsernames (query : Nat) (buttons : List LoginButton) : LoginUrlClient :=
  let usernames := s.ids.unresolvedBotUsernames
  let s := s.check (usernames ≠ [])
  let queryId := s.currentBotResolveQueryId
  let s := { s with
    currentBotResolveQueryId := queryId + 1
    pendingBotResolveQueries := s.pendingBotResolveQueries.insert queryId
      { pendingResolveCount := usernames.length, query := query, buttons := buttons, awaited := usernames } }
  let s := usernames.foldl (fun s username => s.awaitUsername queryId username) s
  { s with ids := { s.ids with unresolvedBotUsernames := [] } }

/-- The part of a query that reads its keyboards: `resolve_reply_markup_bot_usernames` for a message, and
`resolve_inline_query_results_bot_usernames`. -/
def process (query : Nat) (q : KeyboardQuery) : LoginUrlClient :=
  match s.ids.getReplyMarkups q.keyboards.markups with
  | (.error error, ids) => { s with ids := ids }.fail query (.argument error) []
  | (.ok buttons, ids) =>
    let s := { s with ids := ids }
    match q.error with
    | some error => s.fail query (.argument error) []
    | none =>
      if ids.unresolvedBotUsernames ≠ [] then
        (s.check q.keyboards.mayWait).resolveBotUsernames query buttons
      else { s with continued := s.continued ++ [(query, buttons)] }

def onCmd (q : KeyboardQuery) : LoginUrlClient :=
  let query := s.queryCount
  let s := { s with queryCount := query + 1 }
  if s.closing then s.fail query .closing []
  else
    let s := { s with ids := { s.ids with unresolvedBotUsernames := [] } }
    if q.checksMessage then { s with checking := s.checking.insert query q } else s.process query q

def step (s : LoginUrlClient) (e : LoginUrlEvent) : LoginUrlClient :=
  if s.crashed then s
  else match e with
    | .query q => s.onCmd q
    | .checked query error =>
      match s.checking.lookup query with
      | none => s
      | some q =>
        let s := { s with checking := s.checking.erase query }
        match error with
        | some error => s.fail query (.argument error) []
        | none => s.process query q
    | .resolved username userId =>
      if username ∈ s.requests then
        { s with requests := s.requests.erase username }.onResolveBotUsername username userId
      else s
    | .closing => { s with closing := true }

def initial (myId : Int) : LoginUrlClient := { ids := { defaultBotUserId := myId } }

end LoginUrlClient

end TelegramBotApi
