import TelegramBotApi.Client
import TelegramBotApi.StepRun
import TelegramBotApi.TableSum
import Mathlib.Data.Finset.Card

/-!
# The messages that are being sent

A query that sends messages is checked, passed to TDLib and answered when TDLib has told what became of
its messages. The client counts the messages of each chat that are not sent yet, knows to which query each
of them belongs, and keeps the queries that wait. Of TDLib the record has the messages it is sending, each
with the query that asked for it, and its reports about them; the steps follow its documentation: it
answers every request before it is closed, returns as many messages as were requested under identifiers
that are not in use, and reports once about each of them. What the checks of a query and TDLib decide is an
input, and so is the error that queries get from a closing client.
-/

namespace TelegramBotApi

structure MessageFullId where
  chatId : Int
  messageId : Int
  deriving DecidableEq

/-- The methods, with the number of messages where it is not one. -/
inductive SendMethod where
  | sendMessage
  | copyMessage
  | sendMediaGroup (mediaCount : Nat)
  | forwardMessages (count : Nat)
  | copyMessages (count : Nat)
  deriving DecidableEq

namespace SendMethod

def messageCount : SendMethod → Nat
  | .sendMessage | .copyMessage => 1
  | .sendMediaGroup count | .forwardMessages count | .copyMessages count => count

def isMultisend : SendMethod → Bool
  | .sendMessage | .copyMessage => false
  | _ => true

def isForward : SendMethod → Bool
  | .forwardMessages _ | .copyMessages _ => true
  | _ => false

/-- A forward or a copy of the messages that were found. -/
def found (count : Nat) : SendMethod → SendMethod
  | .forwardMessages n => .forwardMessages (min count n)
  | .copyMessages n => .copyMessages (min count n)
  | method => method

/-- The answer has only the identifiers of the messages. -/
def returnsIds : SendMethod → Bool
  | .copyMessage | .forwardMessages _ | .copyMessages _ => true
  | _ => false

end SendMethod

inductive SendAnswer where
  | message (messageId : Int) (onlyId : Bool)
  | messages (messageIds : List Int) (onlyId : Bool)
  | error (error : Status)
  | retryAfter (seconds : Int)
  deriving DecidableEq

structure PendingSendMessageQuery where
  query : Nat
  method : SendMethod
  isMultisend : Bool
  totalMessageCount : Int := 0
  awaitedMessageCount : Int := 0
  messages : List Int := []
  error : Option Status := none
  deriving DecidableEq

/-- A request to TDLib that waits for its result, with what its callback knows. -/
structure SendRequest where
  chatId : Int
  query : Nat
  method : SendMethod
  deriving DecidableEq

inductive SendStage where
  | replyParameters
  | messages (chatId : Int)
  deriving DecidableEq

inductive SendResult where
  | error (error : Status)
  | messages (messageIds : List (Option Int))
  deriving DecidableEq

structure SendClient where
  yetUnsentMessageCount : AList fun _ : Int => Int := ∅
  yetUnsentMessages : AList fun _ : MessageFullId => Int := ∅
  pendingSendMessageQueries : AList fun _ : Int => PendingSendMessageQuery := ∅
  currentSendMessageQueryId : Int := 1
  /-- The messages that the client knows. -/
  messages : Finset MessageFullId := ∅
  checking : AList fun _ : Nat => SendMethod × SendStage := ∅
  handlers : AList fun _ : Nat => SendRequest := ∅
  nextHandlerId : Nat := 1
  queryCount : Nat := 0
  answers : List (Nat × SendAnswer) := []
  loggingOut : Bool := false
  closing : Bool := false
  /-- `td_client_` is not empty. -/
  tdClient : Bool := true
  crashed : Bool := false
  /-- The messages that TDLib is sending, with the query of each. -/
  sending : AList fun _ : MessageFullId => Nat := ∅
  /-- What TDLib has told of the messages of a query: the new identifier, if the message was sent. -/
  reports : List (Nat × Option Int) := []

/-- Why a message that is being sent is gone. -/
inductive DeletedReason where
  | immediatelyDeleted
  | notSupergroupMember
  | notChannelMember
  deriving DecidableEq

def DeletedReason.error : DeletedReason → Status
  | .immediatelyDeleted => ⟨500, "Internal Server Error: sent message was immediately deleted and can't be returned"⟩
  | .notSupergroupMember => ⟨403, "Forbidden: bot is not a member of the supergroup chat"⟩
  | .notChannelMember => ⟨403, "Forbidden: bot is not a member of the channel chat"⟩

inductive SendEvent where
  /-- A query with good arguments. -/
  | query (method : SendMethod)
  /-- A check is over, with the chat or, when the messages to forward were looked for, with their number. -/
  | checked (query : Nat) (result : Except Status Int)
  | result (handler : Nat) (result : SendResult)
  | sendSucceeded (chatId newMessageId oldMessageId : Int)
  | sendFailed (chatId oldMessageId : Int) (error : Status)
  | deleted (chatId : Int) (messageIds : List Int) (reason : DeletedReason)
  /-- A message is added to the messages that the client knows. -/
  | known (message : MessageFullId)
  | loggingOut
  | closing
  | closed

def ClosingError.status (error : ClosingError) : Status := ⟨error.code, error.message⟩

structure SendInput where
  event : SendEvent
  /-- What `get_closing_error` returns. -/
  closingError : ClosingError

def isSpecialErrorCode (code : Int) : Bool := code = 401 || code = 429 || 500 ≤ code

def PendingSendMessageQuery.addError (query : PendingSendMessageQuery) (error : Status) : PendingSendMessageQuery :=
  if query.error.all (·.message = "Group send failed") then
    { query with error := some (
        if isSpecialErrorCode error.code ∨ error.code = 406 ∨ error.message = "Group send failed" then error
        else
          let pos := query.totalMessageCount - query.awaitedMessageCount + 1
          ⟨error.code,
            "Failed to send message #" ++ toString pos ++ " with the error message \"" ++ error.message ++ "\""⟩) }
  else query

/-- The answer of `get_message_ids` to a bad number of messages. -/
def SendMethod.argumentError (method : SendMethod) : Option Status :=
  if ¬ method.isForward then none
  else if 100 < method.messageCount then some ⟨400, "Too many message identifiers specified"⟩
  else if method.messageCount = 0 then some ⟨400, "Message identifiers are not specified"⟩
  else none

namespace SendClient

def maxConcurrentlySentChatMessages : Int := 310

variable (s : SendClient)

def check (condition : Bool) : SendClient := { s with crashed := s.crashed || !condition }

def answer (query : Nat) (answer : SendAnswer) : SendClient := { s with answers := s.answers ++ [(query, answer)] }

def failQueryClosing (query : Nat) (error : ClosingError) : Nat × SendAnswer :=
  (query, if 0 < error.retryAfter then .retryAfter error.retryAfter else .error error.status)

/-- The answer comes three seconds later. -/
def failQueryFloodLimitExceeded (query : Nat) : SendClient := s.answer query (.retryAfter 60)

def countOf (chatId : Int) : Int := (s.yetUnsentMessageCount.lookup chatId).getD 0

def decreaseYetUnsentMessageCount (chatId count : Int) : SendClient :=
  match s.yetUnsentMessageCount.lookup chatId with
  | none => s.check false
  | some n =>
    if n < count then s.check false
    else if n - count = 0 then { s with yetUnsentMessageCount := s.yetUnsentMessageCount.erase chatId }
    else { s with yetUnsentMessageCount := s.yetUnsentMessageCount.insert chatId (n - count) }

/-- The query of a message that is no longer being sent; without one a `CHECK` has failed. -/
def extractYetUnsentMessageQueryId (message : MessageFullId) : Option Int × SendClient :=
  match s.yetUnsentMessages.lookup message with
  | none => (none, s.check false)
  | some queryId =>
    let s := { s with yetUnsentMessages := s.yetUnsentMessages.erase message }
    (some queryId, s.decreaseYetUnsentMessageCount message.chatId 1)

def keepQuery (queryId : Int) (query : PendingSendMessageQuery) : SendClient :=
  { s with pendingSendMessageQueries := s.pendingSendMessageQueries.insert queryId query }

def finishQuery (queryId : Int) (query : PendingSendMessageQuery) (answer : SendAnswer) : SendClient :=
  { s.answer query.query answer with pendingSendMessageQueries := s.pendingSendMessageQueries.erase queryId }

def onMessageSendSucceeded (chatId newMessageId oldMessageId : Int) : SendClient :=
  let s := { s with messages := insert (⟨chatId, newMessageId⟩ : MessageFullId) s.messages }.check (0 < newMessageId)
  match s.extractYetUnsentMessageQueryId ⟨chatId, oldMessageId⟩ with
  | (none, s) => s
  | (some queryId, s) =>
    match s.pendingSendMessageQueries.lookup queryId with
    | none => s.check false
    | some query =>
      if query.isMultisend then
        let query := { query with
          messages := query.messages ++ [newMessageId]
          awaitedMessageCount := query.awaitedMessageCount - 1 }
        if query.awaitedMessageCount = 0 then
          match query.error with
          | none => s.finishQuery queryId query (.messages query.messages query.method.returnsIds)
          | some error => s.finishQuery queryId query (.error error)
        else s.keepQuery queryId query
      else
        (s.check (query.awaitedMessageCount = 1)).finishQuery queryId query
          (.message newMessageId query.method.returnsIds)

/-- The request to delete the message from the chat has no part in the accounting and is left out. -/
def onMessageSendFailed (message : MessageFullId) (error : Status) : SendClient :=
  match s.extractYetUnsentMessageQueryId message with
  | (none, s) => s
  | (some queryId, s) =>
    match s.pendingSendMessageQueries.lookup queryId with
    | none => s.check false
    | some query =>
      if query.isMultisend then
        let query := { query.addError error with awaitedMessageCount := query.awaitedMessageCount - 1 }
        if query.awaitedMessageCount = 0 then
          match query.error with
          | none => s.check false
          | some error => s.finishQuery queryId query (.error error)
        else s.keepQuery queryId query
      else (s.check (query.awaitedMessageCount = 1)).finishQuery queryId query (.error error)

def deleteMessage (message : MessageFullId) (reason : DeletedReason) : SendClient :=
  if message ∈ s.messages then { s with messages := s.messages.erase message }
  else if (s.yetUnsentMessages.lookup message).isSome then s.onMessageSendFailed message reason.error
  else s

def getSendMessageQueryId (query : Nat) (method : SendMethod) (isMultisend : Bool) : SendClient :=
  let queryId := s.currentSendMessageQueryId
  let s := s.check (s.pendingSendMessageQueries.lookup queryId).isNone
  { s with
    currentSendMessageQueryId := queryId + 1
    pendingSendMessageQueries := s.pendingSendMessageQueries.insert queryId
      { query := query, method := method, isMultisend := isMultisend } }

def onSentMessage (queryId : Int) (message : MessageFullId) : SendClient :=
  if (s.yetUnsentMessages.lookup message).isSome then s.check false
  else
    let s := { s with yetUnsentMessages := s.yetUnsentMessages.insert message queryId }
    match s.pendingSendMessageQueries.lookup queryId with
    | none => s.check false
    | some query =>
      s.keepQuery queryId { query with
        awaitedMessageCount := query.awaitedMessageCount + 1
        totalMessageCount := query.totalMessageCount + 1 }

/-- The end of a callback, with the messages that were returned. -/
def onSentMessages (r : SendRequest) (messageIds : List Int) : SendClient :=
  let queryId := s.currentSendMessageQueryId
  messageIds.foldl (fun s messageId => s.onSentMessage queryId ⟨r.chatId, messageId⟩)
    (s.getSendMessageQueryId r.query r.method r.method.isMultisend)

def onError (r : SendRequest) (error : Status) : SendClient :=
  let s := if 0 < r.method.messageCount then s.decreaseYetUnsentMessageCount r.chatId r.method.messageCount else s
  s.answer r.query (.error error)

def onSendMessage (r : SendRequest) : SendResult → SendClient
  | .error error => (s.decreaseYetUnsentMessageCount r.chatId 1).answer r.query (.error error)
  | .messages [some messageId] => s.onSentMessages r [messageId]
  | .messages _ => s.check false

def onSendMessageAlbum (r : SendRequest) : SendResult → SendClient
  | .error error => s.onError r error
  | .messages messageIds =>
    ((s.check (messageIds.length = r.method.messageCount)).check (none ∉ messageIds)).onSentMessages r
      (messageIds.filterMap id)

def onForwardMessages (r : SendRequest) : SendResult → SendClient
  | .error error => s.onError r error
  | .messages messageIds =>
    let s := s.check (messageIds.length = r.method.messageCount)
    let found := messageIds.filterMap id
    let s :=
      if found.length ≠ r.method.messageCount then
        s.decreaseYetUnsentMessageCount r.chatId (r.method.messageCount - found.length)
      else s
    if found = [] then s.answer r.query (.error ⟨400, "Messages can't be forwarded"⟩)
    else s.onSentMessages r found

def onResult (r : SendRequest) (result : SendResult) : SendClient :=
  match r.method with
  | .sendMessage | .copyMessage => s.onSendMessage r result
  | .sendMediaGroup _ => s.onSendMessageAlbum r result
  | .forwardMessages _ | .copyMessages _ => s.onForwardMessages r result

def sendRequest (r : SendRequest) (closingError : ClosingError) : SendClient :=
  if s.closing ∨ s.loggingOut then s.onResult r (.error closingError.status)
  else
    let s := s.check s.tdClient
    { s with handlers := s.handlers.insert s.nextHandlerId r, nextHandlerId := s.nextHandlerId + 1 }

/-- The last callback of a query that sends messages. -/
def send (query : Nat) (method : SendMethod) (chatId : Int) (closingError : ClosingError) : SendClient :=
  let count := s.countOf chatId
  if maxConcurrentlySentChatMessages ≤ count then s.failQueryFloodLimitExceeded query
  else
    let s := { s with
      yetUnsentMessageCount := s.yetUnsentMessageCount.insert chatId (count + method.messageCount) }
    s.sendRequest ⟨chatId, query, method⟩ closingError

/-- Messages that are forwarded or copied are looked for first. -/
def onChecked (query : Nat) (method : SendMethod) (stage : SendStage) (value : Int)
    (closingError : ClosingError) : SendClient :=
  let t := { s with checking := s.checking.erase query }
  match stage with
  | .replyParameters =>
    if method.isForward then
      if maxConcurrentlySentChatMessages ≤ s.countOf value then t.failQueryFloodLimitExceeded query
      else { s with checking := s.checking.insert query (method, .messages value) }
    else t.send query method value closingError
  | .messages chatId => t.send query (method.found value.toNat) chatId closingError

def onClosed (closingError : ClosingError) : SendClient :=
  let s := (s.check (s.loggingOut || s.closing)).check s.tdClient
  { s with
    tdClient := false
    answers := s.answers ++ s.pendingSendMessageQueries.entries.map fun e => failQueryClosing e.2.query closingError
    pendingSendMessageQueries := ∅
    yetUnsentMessageCount := ∅
    yetUnsentMessages := ∅ }

/-- The messages under identifiers that are not in use, or an error; an empty album is an error. -/
def Returns (r : SendRequest) : SendResult → Prop
  | .error _ => True
  | .messages messageIds =>
    0 < r.method.messageCount ∧ messageIds.length = r.method.messageCount ∧
      (r.method.isForward = false → none ∉ messageIds) ∧ (messageIds.filterMap id).Nodup ∧
      ∀ messageId ∈ messageIds.filterMap id,
        s.sending.lookup ⟨r.chatId, messageId⟩ = none ∧ (⟨r.chatId, messageId⟩ : MessageFullId) ∉ s.messages

instance (r : SendRequest) (result : SendResult) : Decidable (s.Returns r result) :=
  match result with
  | .error _ => inferInstanceAs (Decidable True)
  | .messages messageIds => inferInstanceAs (Decidable (0 < r.method.messageCount ∧
      messageIds.length = r.method.messageCount ∧ (r.method.isForward = false → none ∉ messageIds) ∧
      (messageIds.filterMap id).Nodup ∧ ∀ messageId ∈ messageIds.filterMap id,
        s.sending.lookup ⟨r.chatId, messageId⟩ = none ∧ (⟨r.chatId, messageId⟩ : MessageFullId) ∉ s.messages))

def returned (r : SendRequest) : SendResult → List MessageFullId
  | .error _ => []
  | .messages messageIds => (messageIds.filterMap id).map fun messageId => ⟨r.chatId, messageId⟩

def report (message : MessageFullId) (outcome : Option Int) : SendClient :=
  match s.sending.lookup message with
  | none => s
  | some query => { s with
      sending := s.sending.erase message
      reports := s.reports ++ [(query, outcome)] }

def onUpdate (s : SendClient) : SendEvent → SendClient
  | .sendSucceeded chatId newMessageId oldMessageId =>
    if (s.sending.lookup ⟨chatId, oldMessageId⟩).isSome ∧ 0 < newMessageId ∧
        ((s.sending.erase ⟨chatId, oldMessageId⟩).lookup ⟨chatId, newMessageId⟩).isNone then
      (s.report ⟨chatId, oldMessageId⟩ (some newMessageId)).onMessageSendSucceeded chatId newMessageId oldMessageId
    else s
  | .sendFailed chatId oldMessageId error =>
    if (s.sending.lookup ⟨chatId, oldMessageId⟩).isSome then
      (s.report ⟨chatId, oldMessageId⟩ none).onMessageSendFailed ⟨chatId, oldMessageId⟩ error
    else s
  | .deleted chatId messageIds reason =>
    messageIds.foldl (fun s messageId =>
      (s.report ⟨chatId, messageId⟩ none).deleteMessage ⟨chatId, messageId⟩ reason) s
  | .known message =>
    if (s.sending.lookup message).isNone then { s with messages := insert message s.messages } else s
  | _ => s

def onQuery (method : SendMethod) : SendClient :=
  let query := s.queryCount
  let s := { s with queryCount := query + 1 }
  match method.argumentError with
  | some error => s.answer query (.error error)
  | none => { s with checking := s.checking.insert query (method, .replyParameters) }

def step (s : SendClient) (x : SendInput) : SendClient :=
  if s.crashed then s
  else match x.event with
    | .query method => s.onQuery method
    | .checked query result =>
      match s.checking.lookup query with
      | none => s
      | some (method, stage) =>
        match result with
        | .error error => { s with checking := s.checking.erase query }.answer query (.error error)
        | .ok value => s.onChecked query method stage value x.closingError
    | .result handler result =>
      match s.handlers.lookup handler with
      | none => s
      | some r =>
        if s.Returns r result then
          { s with
            handlers := s.handlers.erase handler
            sending := TableSum.insertAll s.sending (returned r result) r.query }.onResult r result
        else s
    | .loggingOut => { s with loggingOut := true }
    | .closing => { s with closing := true }
    | .closed =>
      if s.tdClient ∧ (s.loggingOut ∨ s.closing) ∧ s.handlers.keys = [] then s.onClosed x.closingError else s
    | event => if s.tdClient then s.onUpdate event else s

end SendClient

end TelegramBotApi
