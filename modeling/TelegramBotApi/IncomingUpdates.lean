import TelegramBotApi.IncomingMessages
import TelegramBotApi.ResumableQueue
import Mathlib.Data.List.Dedup

/-!
# The queues of incoming updates

New messages, callback queries, business messages and guest queries wait in queues of their own until the
messages and the names of sticker sets that they need have been looked up. Five tables have the queues, one
for each kind; here they are one table whose keys say which. A lookup is a request to TDLib, or a promise
that waits for several requests and is kept by a message to the client itself, which comes later. TDLib has
told of a chat, and of its supergroup, before it sends a message of the chat.

The messages that the client knows are changed by edits and deletions at any time. The time is an input.
-/

namespace TelegramBotApi

open ResumableQueue

inductive ChatType where
  | privateChat
  | group
  | supergroup
  | unknown
  deriving DecidableEq

structure ChatInfo where
  type : ChatType
  supergroupId : Int := 0

inductive ChatMemberStatus where
  | left
  | banned
  | other
  deriving DecidableEq

structure SupergroupInfo where
  isSupergroup : Bool
  date : Int
  status : ChatMemberStatus

/-- `new_message_queues_` and its like, with a key. -/
inductive QueueId where
  | newMessage (chatId : Int)
  | newCallbackQuery (userId : Int)
  | newBusinessCallbackQuery (userId : Int)
  | newBusinessMessage (connectionId : String)
  | newGuestQuery (chatId : Int)
  deriving DecidableEq

structure NewMessage where
  messageInfo : MessageInfo
  isEdited : Bool

structure NewCallbackQuery where
  id : Int
  senderUserId : Int
  chatId : Int
  messageId : Int

structure NewBusinessCallbackQuery where
  id : Int
  senderUserId : Int
  messageInfo : MessageInfo

structure NewGuestQuery where
  messageInfo : MessageInfo

namespace QueueId

@[reducible] def Element : QueueId → Type
  | .newMessage _ | .newBusinessMessage _ => NewMessage
  | .newCallbackQuery _ => NewCallbackQuery
  | .newBusinessCallbackQuery _ => NewBusinessCallbackQuery
  | .newGuestQuery _ => NewGuestQuery

/-- The state in which an element leaves. -/
def lastState : QueueId → Nat
  | .newCallbackQuery _ => 3
  | .newMessage _ => 2
  | _ => 1

/-- The queues of callback queries check that an active one is not empty. -/
def checksActive : QueueId → Bool
  | .newCallbackQuery _ | .newBusinessCallbackQuery _ => true
  | _ => false

end QueueId

/-- A promise for several lookups, kept by a call of the queue in the given state. -/
structure StickerSetPromise where
  queue : QueueId
  state : Nat
  awaited : Nat

/-- The callback of a request that TDLib has not answered. -/
inductive IncomingCallback where
  | getCallbackQueryMessage (userId : Int) (state : Nat)
  | getReplyMessage (chatId : Int)
  | getEditedMessage
  | getStickerSetName (setId : Int) (promise : Option Nat)

inductive IncomingUpdateType where
  | message
  | editedMessage
  | channelPost
  | editedChannelPost
  | callbackQuery
  | businessMessage
  | editedBusinessMessage
  | guestMessage
  deriving DecidableEq

/-- A call of `add_update`, without the text of the update. -/
structure IncomingUpdate where
  type : IncomingUpdateType
  timeout : Int
  webhookQueueId : Int
  deriving DecidableEq

/-- What the client has besides the queues. -/
structure IncomingCore where
  messages : AList fun _ : MessageFullId => MessageInfo := ∅
  chats : AList fun _ : Int => ChatInfo := ∅
  supergroups : AList fun _ : Int => SupergroupInfo := ∅
  stickerSetNames : AList fun _ : Int => String := ∅
  handlers : AList fun _ : Nat => IncomingCallback := ∅
  nextHandlerId : Nat := 1
  promises : AList fun _ : Nat => StickerSetPromise := ∅
  nextPromiseId : Nat := 1
  /-- The calls that the client has sent to itself. -/
  closures : List (QueueId × Nat) := []
  updates : List IncomingUpdate := []
  loggingOut : Bool := false
  closing : Bool := false
  crashed : Bool := false
  unixTime : Int := 0
  myId : Int := 0
  authorizationDate : Int := 0

namespace IncomingCore

def greatMindsSetId : Int := 1842540969984001

def generalForumTopicId : Int := 1

variable (c : IncomingCore)

def check (condition : Bool) : IncomingCore := { c with crashed := c.crashed || !condition }

def leaving : Bool := c.loggingOut || c.closing

def getMessage (chatId messageId : Int) (forceCache : Bool) : Option MessageInfo :=
  if messageId = 0 then none
  else (c.messages.lookup ⟨chatId, messageId⟩).filter fun info => forceCache || !info.content.isPoll

def chatType (chatId : Int) : ChatType := ((c.chats.lookup chatId).map (·.type)).getD .unknown

def supergroupOf (chatId : Int) : Option SupergroupInfo :=
  (c.chats.lookup chatId).bind fun chat =>
    if chat.type = .supergroup then c.supergroups.lookup chat.supergroupId else none

def knowsChat (chatId : Int) : Bool :=
  match c.chats.lookup chatId with
  | none => false
  | some chat => chat.type ≠ .supergroup || (c.supergroups.lookup chat.supergroupId).isSome

def getImplicitReplyToMessageId (chatId messageId : Int) : Option MessageTopic → Int
  | none | some .directMessages | some .savedMessages => 0
  | some (.thread messageThreadId) => if messageThreadId < messageId then messageThreadId else 0
  | some (.forum forumTopicId) =>
    if c.chatType chatId ≠ .supergroup ∨ forumTopicId = generalForumTopicId then 0
    else if asTdlibMessageId forumTopicId < messageId then asTdlibMessageId forumTopicId else 0

/-- Not only explicit replies. -/
def getSameChatReplyToMessageId : Option MessageInfo → Int
  | none => 0
  | some info =>
    let contentMessageId := info.content.contentMessageId info.chatId
    if contentMessageId ≠ 0 then contentMessageId
    else match info.replyToMessage.filter (!·.hasOrigin) with
      | some reply => reply.messageId
      | none => c.getImplicitReplyToMessageId info.chatId info.id info.topicId

/-- What being in a supergroup says about a message of the given date; `none` goes on. -/
def supergroupSkips (info : MessageInfo) (messageDate : Int) (supergroup : SupergroupInfo) : Option Bool :=
  if supergroup.status = .left ∨ supergroup.status = .banned then
    match info.content with
    | .chatDeleteMember userId => some (userId ≠ c.myId)
    | _ => some true
  else if messageDate < supergroup.date ∨ messageDate < c.authorizationDate then some true
  else if ¬ supergroup.isSupergroup ∧ info.content = .supergroupChatCreate then some true
  else none

def contentSkips (chatType : ChatType) : MessageContent → Option Bool
  | .chatAddMembers memberUserIds => if memberUserIds = [] then some true else none
  | .supergroupChatCreate => if chatType ≠ .supergroup then some true else none
  | .pinMessage messageId => if messageId ≤ 0 then some true else none
  | .proximityAlertTriggered travelerIsUser watcherIsUser => some (!travelerIsUser || !watcherIsUser)
  | content => if content.isSkipped then some true else none

def messageDate (info : MessageInfo) : Int := if info.editDate = 0 then info.date else info.editDate

/-- Without a chat the message is treated as one of a private chat. -/
def needSkipUpdateMessage (chatId : Int) (info : MessageInfo) (isEdited : Bool) : Bool :=
  let chatType := if chatId ≠ 0 then c.chatType chatId else .privateChat
  if info.isOutgoing ∧ chatId ≠ 0 ∧ ¬ info.content.isOutgoingUpdate then true
  else if messageDate info ≤ c.unixTime - 86400 then true
  else
    match (if chatId ≠ 0 then c.supergroupOf chatId else none).bind (c.supergroupSkips info (messageDate info)) with
    | some skips => skips
    | none =>
      if info.isSelfDestruct ∨ info.isImported then true
      else match contentSkips chatType info.content with
        | some skips => skips
        | none => isEdited && chatId ≠ 0 && (c.getMessage chatId info.id true).any (!·.isContentChanged)

def addMessage (info : MessageInfo) (forceUpdateContent : Bool) : MessageInfo × IncomingCore :=
  let info := match c.messages.lookup ⟨info.chatId, info.id⟩ with
    | none => info
    | some old => info.merge old forceUpdateContent
  (info, { c with messages := c.messages.insert ⟨info.chatId, info.id⟩ info })

def addUpdate (update : IncomingUpdate) : IncomingCore := { c with updates := c.updates ++ [update] }

/-- `add_message_update`, without the warnings about old updates. -/
def messageUpdate (type : IncomingUpdateType) (info : MessageInfo) (webhookQueueId : Int) : IncomingUpdate :=
  ⟨type, messageDate info + 86400 - c.unixTime, webhookQueueId⟩

def doSendRequest (handler : IncomingCallback) : IncomingCore :=
  { c with
    handlers := c.handlers.insert c.nextHandlerId handler
    nextHandlerId := c.nextHandlerId + 1 }

/-- The request of a queue. When the client is leaving, the callback would be run with an error at once; the queues
are not run then. -/
def sendRequest (handler : IncomingCallback) : IncomingCore := (c.check !c.leaving).doSendRequest handler

/-- One of the lookups of a promise is over. -/
def release (promise : Option Nat) : IncomingCore :=
  match promise.bind fun id => (c.promises.lookup id).map fun p => (id, p) with
  | none => c
  | some (id, p) =>
    if p.awaited = 1 then
      { c with promises := c.promises.erase id, closures := c.closures ++ [(p.queue, p.state)] }
    else { c with promises := c.promises.insert id { p with awaited := p.awaited - 1 } }

/-- When the client is leaving, the request is answered with an error at once. -/
def requestStickerSetName (setId : Int) (promise : Option Nat) : IncomingCore :=
  if c.leaving then c.release promise else c.doSendRequest (.getStickerSetName setId promise)

def missingStickerSetIds (stickerSetIds : List Int) : List Int :=
  (stickerSetIds.filter fun setId => setId ≠ 0 && (c.stickerSetNames.lookup setId).isNone).dedup

/-- The promise holds a lock on itself while its requests are sent. -/
def getStickerSetNames (stickerSetIds : List Int) (promise : Option (QueueId × Nat)) : IncomingCore :=
  let missing := c.missingStickerSetIds stickerSetIds
  match promise with
  | none => missing.foldl (fun c setId => c.requestStickerSetName setId none) c
  | some (queue, state) =>
    if missing = [] then { c with closures := c.closures ++ [(queue, state)] }
    else
      let id := c.nextPromiseId
      let c := { c with
        nextPromiseId := id + 1
        promises := c.promises.insert id ⟨queue, state, missing.length + 1⟩ }
      (missing.foldl (fun c setId => c.requestStickerSetName setId (some id)) c).release (some id)

def onGetStickerSetName (setId : Int) (name : String) : IncomingCore :=
  if setId ≠ greatMindsSetId then { c with stickerSetNames := c.stickerSetNames.insert setId name } else c

def createMessage (message : Message) : MessageInfo × IncomingCore :=
  let info := message.toInfo
  let stickerSetIds := getMessageStickerSetIds (some info)
  (info, if stickerSetIds ≠ [] then c.getStickerSetNames stickerSetIds none else c)

def createMessages : IncomingCore → List Message → List MessageInfo × IncomingCore
  | c, [] => ([], c)
  | c, message :: messages =>
    let (info, c) := c.createMessage message
    let (infos, c) := createMessages c messages
    (info :: infos, c)

def createBusinessMessage (message : Message) (replyToMessage : Option Message) : MessageInfo × IncomingCore :=
  let (info, c) := c.createMessage message
  match replyToMessage with
  | none => (info, c)
  | some reply =>
    let (replyInfo, c) := c.createMessage reply
    ({ info with businessReplyToMessage := some replyInfo.toBaseMessageInfo }, c)

abbrev Advance := Outcome IncomingCore (Option IncomingUpdate)

/-- The body of the loop in `process_new_message_queue`. -/
def advanceNewMessage (chatId : Int) (state : Nat) (element : NewMessage) : Advance :=
  let c := c.check (chatId = element.messageInfo.chatId)
  let replyToMessageId := c.getSameChatReplyToMessageId (some element.messageInfo)
  if state = 0 ∧ 0 < replyToMessageId ∧ c.getMessage chatId replyToMessageId false = none then
    .waits (c.sendRequest (.getReplyMessage chatId))
  else
    let state := if state = 0 then 1 else state
    let stickerSetIds := getMessageStickerSetIds (some element.messageInfo) ++
      getMessageStickerSetIds (c.getMessage chatId replyToMessageId true)
    if state = 1 ∧ stickerSetIds ≠ [] then
      .waits (c.getStickerSetNames stickerSetIds (some (.newMessage chatId, 2)))
    else
      let state := if state = 1 then 2 else state
      let (info, c) := (c.check (state = 2)).addMessage element.messageInfo false
      let c := c.check (c.knowsChat chatId)
      if c.needSkipUpdateMessage chatId info element.isEdited then .leaves c none
      else
        let type := match (c.supergroupOf chatId).any (!·.isSupergroup), element.isEdited with
          | true, true => .editedChannelPost
          | true, false => .channelPost
          | false, true => .editedMessage
          | false, false => .message
        let update := c.messageUpdate type info chatId
        .leaves ({ c with
          messages := c.messages.insert ⟨info.chatId, info.id⟩ { info with isContentChanged := false }
        }.addUpdate update) (some update)

/-- The body of the loop in `process_new_callback_query_queue`. -/
def advanceNewCallbackQuery (userId : Int) (state : Nat) (query : NewCallbackQuery) : Advance :=
  let info := c.getMessage query.chatId query.messageId (0 < state)
  if state = 0 ∧ info = none then .waits (c.sendRequest (.getCallbackQueryMessage userId state))
  else
    let state := if state = 0 then 1 else state
    let replyToMessageId := c.getSameChatReplyToMessageId info
    if state = 1 ∧ 0 < replyToMessageId ∧ c.getMessage query.chatId replyToMessageId false = none then
      .waits (c.sendRequest (.getCallbackQueryMessage userId state))
    else
      let state := if state = 1 then 2 else state
      let stickerSetIds := getMessageStickerSetIds info ++
        getMessageStickerSetIds (c.getMessage query.chatId replyToMessageId true)
      if state = 2 ∧ stickerSetIds ≠ [] then
        .waits (c.getStickerSetNames stickerSetIds (some (.newCallbackQuery userId, 3)))
      else
        let state := if state = 2 then 3 else state
        let c := (c.check (state = 3)).check (userId = query.senderUserId)
        if info.isSome ∨ asTdlibMessageId (asClientMessageIdUnchecked query.messageId) = query.messageId then
          let update := ⟨.callbackQuery, 150, userId + 3 * 2 ^ 33⟩
          .leaves (c.addUpdate update) (some update)
        else .leaves c none

/-- The bodies of the other loops begin with the sticker sets of a message. -/
def advanceMessage (queue : QueueId) (state : Nat) (info : MessageInfo) (leave : IncomingCore → Advance) : Advance :=
  let stickerSetIds := getMessageStickerSetIds (some info)
  if state = 0 ∧ stickerSetIds ≠ [] then .waits (c.getStickerSetNames stickerSetIds (some (queue, 1)))
  else
    let state := if state = 0 then 1 else state
    leave (c.check (state = 1))

def advanceNewBusinessCallbackQuery (userId : Int) (state : Nat) (query : NewBusinessCallbackQuery) : Advance :=
  c.advanceMessage (.newBusinessCallbackQuery userId) state query.messageInfo fun c =>
    let c := c.check (userId = query.senderUserId)
    let update := ⟨.callbackQuery, 150, userId + 3 * 2 ^ 33⟩
    .leaves (c.addUpdate update) (some update)

/-- A message of no chat of the bot becomes an update if it is not skipped. -/
def leaveMessage (type : IncomingUpdateType) (info : MessageInfo) (isEdited : Bool) (webhookQueueId : Int) : Advance :=
  if c.needSkipUpdateMessage 0 info isEdited then .leaves c none
  else
    let update := c.messageUpdate type info webhookQueueId
    .leaves (c.addUpdate update) (some update)

def advanceNewBusinessMessage (connectionId : String) (state : Nat) (element : NewMessage) : Advance :=
  c.advanceMessage (.newBusinessMessage connectionId) state element.messageInfo fun c =>
    c.leaveMessage (if element.isEdited then .editedBusinessMessage else .businessMessage) element.messageInfo
      element.isEdited (element.messageInfo.chatId + 11 * 2 ^ 33)

def advanceNewGuestQuery (chatId : Int) (state : Nat) (query : NewGuestQuery) : Advance :=
  c.advanceMessage (.newGuestQuery chatId) state query.messageInfo fun c =>
    c.leaveMessage .guestMessage query.messageInfo false (query.messageInfo.chatId + 12 * 2 ^ 33)

end IncomingCore

def QueueId.advance : (queue : QueueId) → IncomingCore → Nat → queue.Element → IncomingCore.Advance
  | .newMessage chatId => fun c => c.advanceNewMessage chatId
  | .newCallbackQuery userId => fun c => c.advanceNewCallbackQuery userId
  | .newBusinessCallbackQuery userId => fun c => c.advanceNewBusinessCallbackQuery userId
  | .newBusinessMessage connectionId => fun c => c.advanceNewBusinessMessage connectionId
  | .newGuestQuery chatId => fun c => c.advanceNewGuestQuery chatId

/-- An element that has left its queue, with the client as it was then and the update that was added. -/
structure Departure (queue : QueueId) where
  core : IncomingCore
  element : queue.Element
  update : Option IncomingUpdate

structure IncomingUpdates where
  core : IncomingCore := {}
  queues : AList fun queue : QueueId => Queue queue.Element := ∅
  /-- The elements in the order in which they have come and left. -/
  arrived : List (Sigma QueueId.Element) := []
  departed : List (Sigma Departure) := []

inductive TdResult where
  | error (error : Status)
  | message (message : Message)
  | text (text : String)

inductive IncomingEvent where
  | newMessage (message : Message)
  | newCallbackQuery (query : NewCallbackQuery)
  | newBusinessCallbackQuery (id senderUserId : Int) (message : Message) (replyToMessage : Option Message)
  | newBusinessMessage (connectionId : String) (message : Message) (replyToMessage : Option Message) (isEdited : Bool)
  | newGuestQuery (message : Message) (referenceMessages : List Message)
  | result (handler : Nat) (result : TdResult)
  /-- The client gets the first message that it has sent to itself. -/
  | closure
  /-- A message that was asked for in another way, and the name of such a sticker set. -/
  | message (message : Message) (forceUpdateContent : Bool)
  | stickerSetName (setId : Int) (name : String)
  | messageContent (message : MessageFullId) (content : MessageContent)
  /-- A message was sent or edited, and the query that asked for it is answered with it. -/
  | messageAnswered (message : MessageFullId)
  | messageSuggestedPostInfo (message : MessageFullId) (suggestedPostInfo : Option SuggestedPostInfo)
  | messageEdited (message : MessageFullId) (editDate : Int) (replyMarkup : Option ReplyMarkup)
  | deleteMessages (chatId : Int) (messageIds : List Int)
  | newChat (chatId : Int) (chat : ChatInfo)
  | supergroup (supergroupId : Int) (supergroup : SupergroupInfo)
  | loggingOut
  | closing

structure IncomingInput where
  event : IncomingEvent
  unixTime : Int := 0

namespace IncomingUpdates

variable (s : IncomingUpdates)

def check (condition : Bool) : IncomingUpdates := { s with core := s.core.check condition }

/-- The end of `process_new_message_queue` and its like, when the queue waits for nothing. -/
def resume (queue : QueueId) (items : List queue.Element) (state : Nat) : IncomingUpdates :=
  if s.core.leaving then
    { s with
      queues := s.queues.erase queue
      departed := s.departed ++ items.map fun element => ⟨queue, s.core, element, none⟩ }
  else
    let progress := run queue.advance s.core state items
    { s with
      core := progress.world
      queues :=
        if progress.waiting = [] then s.queues.erase queue else s.queues.insert queue ⟨progress.waiting, true⟩
      departed := s.departed ++ progress.gone.map fun g => ⟨queue, g.1, g.2.1, g.2.2⟩ }

def process (queue : QueueId) (state : Nat) : IncomingUpdates :=
  let q := (s.queues.lookup queue).getD {}
  if q.hasActiveRequest then
    let s := s.check (!queue.checksActive || !q.items.isEmpty)
    if state ≠ 0 then s.resume queue q.items state else s
  else (s.check (state = 0)).resume queue q.items state

def processNewMessageQueue (chatId : Int) (state : Nat) : IncomingUpdates := s.process (.newMessage chatId) state

def processNewCallbackQueryQueue (userId : Int) (state : Nat) : IncomingUpdates :=
  s.process (.newCallbackQuery userId) state

def processNewBusinessCallbackQueryQueue (userId : Int) (state : Nat) : IncomingUpdates :=
  s.process (.newBusinessCallbackQuery userId) state

def processNewBusinessMessageQueue (connectionId : String) (state : Nat) : IncomingUpdates :=
  s.process (.newBusinessMessage connectionId) state

def processNewGuestQueryQueue (chatId : Int) (state : Nat) : IncomingUpdates := s.process (.newGuestQuery chatId) state

def push (queue : QueueId) (element : queue.Element) : IncomingUpdates :=
  let q := (s.queues.lookup queue).getD {}
  { s with
    queues := s.queues.insert queue { q with items := q.items ++ [element] }
    arrived := s.arrived ++ [⟨queue, element⟩] }

def addNewMessage (message : Message) (isEdited : Bool) : IncomingUpdates :=
  if message.isSending then s
  else
    let (info, core) := s.core.createMessage message
    ({ s with core := core }.push (.newMessage message.chatId) ⟨info, isEdited⟩).processNewMessageQueue message.chatId 0

def addNewCallbackQuery (query : NewCallbackQuery) : IncomingUpdates :=
  (s.push (.newCallbackQuery query.senderUserId) query).processNewCallbackQueryQueue query.senderUserId 0

def addNewBusinessCallbackQuery (id senderUserId : Int) (message : Message) (replyToMessage : Option Message) :
    IncomingUpdates :=
  let (info, core) := s.core.createBusinessMessage message replyToMessage
  ({ s with core := core }.push (.newBusinessCallbackQuery senderUserId)
    ⟨id, senderUserId, info⟩).processNewBusinessCallbackQueryQueue senderUserId 0

/-- `add_new_business_message` and `add_business_message_edited`. -/
def addNewBusinessMessage (connectionId : String) (message : Message) (replyToMessage : Option Message)
    (isEdited : Bool) : IncomingUpdates :=
  let (info, core) := s.core.createBusinessMessage message replyToMessage
  ({ s with core := core }.push (.newBusinessMessage connectionId)
    ⟨info, isEdited⟩).processNewBusinessMessageQueue connectionId 0

def addNewGuestQuery (message : Message) (referenceMessages : List Message) : IncomingUpdates :=
  let (info, core) := s.core.createMessage message
  let (references, core) := core.createMessages referenceMessages
  let info := { info with referenceMessages := references.map MessageInfo.toBaseMessageInfo }
  ({ s with core := core }.push (.newGuestQuery message.chatId) ⟨info⟩).processNewGuestQueryQueue message.chatId 0

/-- `add_message` of a message that was looked up. -/
def addMessage (message : Message) (forceUpdateContent : Bool) : IncomingUpdates :=
  let (info, core) := s.core.createMessage message
  { s with core := (core.addMessage info forceUpdateContent).2 }

def front (queue : QueueId) : Option queue.Element := (s.queues.lookup queue).bind (·.items.head?)

def onGetReplyMessage (chatId : Int) (replyToMessage : Option Message) : IncomingUpdates :=
  match (s.front (.newMessage chatId) : Option NewMessage) with
  | none => s.check false
  | some element =>
    let s := (s.check (chatId = element.messageInfo.chatId)).check
      (0 < s.core.getSameChatReplyToMessageId (some element.messageInfo))
    let s := match replyToMessage with
      | none => s
      | some message => s.addMessage message false
    s.processNewMessageQueue chatId 1

def onGetCallbackQueryMessage (message : Option Message) (userId : Int) (state : Nat) : IncomingUpdates :=
  match (s.front (.newCallbackQuery userId) : Option NewCallbackQuery) with
  | none => s.check false
  | some query =>
    match message with
    | none =>
      if state = 0 then s.processNewCallbackQueryQueue userId (state + 1)
      else
        let s := s.check (state = 1)
        if s.core.getMessage query.chatId query.messageId true = none then
          s.processNewCallbackQueryQueue userId state
        else s.processNewCallbackQueryQueue userId (state + 1)
    | some message => (s.addMessage message false).processNewCallbackQueryQueue userId (state + 1)

def onGetStickerSetName (setId : Int) (promise : Option Nat) : TdResult → IncomingUpdates
  | .text text => { s with core := (s.core.onGetStickerSetName setId text).release promise }
  | .error error =>
    if error.message = "STICKERSET_INVALID" then
      { s with core := (s.core.onGetStickerSetName setId "").release promise }
    else { s with core := s.core.release promise }
  | .message _ => s.check false

def TdResult.toMessage : TdResult → Option Message
  | .message message => some message
  | _ => none

def onResult (handler : IncomingCallback) (result : TdResult) : IncomingUpdates :=
  match handler with
  | .getCallbackQueryMessage userId state => s.onGetCallbackQueryMessage (TdResult.toMessage result) userId state
  | .getReplyMessage chatId => s.onGetReplyMessage chatId (TdResult.toMessage result)
  | .getEditedMessage =>
    match TdResult.toMessage result with
    | none => s
    | some message => s.addNewMessage message true
  | .getStickerSetName setId promise => s.onGetStickerSetName setId promise result

/-- TDLib sends new messages of chats that it has told of. -/
def Announced (message : Message) : Prop := s.core.knowsChat message.chatId = true

instance (message : Message) : Decidable (s.Announced message) := inferInstanceAs (Decidable (_ = _))

/-- TDLib answers a request with an error or with what was asked for. An edited message is treated like a new one. -/
def Answers : IncomingCallback → TdResult → Prop
  | _, .error _ => True
  | .getStickerSetName .., .text _ => True
  | .getStickerSetName .., .message _ => False
  | .getEditedMessage, .message message => s.Announced message
  | _, .message _ => True
  | _, .text _ => False

instance (handler : IncomingCallback) (result : TdResult) : Decidable (s.Answers handler result) :=
  match handler, result with
  | .getCallbackQueryMessage .., .error _ | .getReplyMessage _, .error _ => inferInstanceAs (Decidable True)
  | .getEditedMessage, .error _ | .getStickerSetName .., .error _ => inferInstanceAs (Decidable True)
  | .getStickerSetName .., .text _ => inferInstanceAs (Decidable True)
  | .getStickerSetName .., .message _ => inferInstanceAs (Decidable False)
  | .getCallbackQueryMessage .., .message _ | .getReplyMessage _, .message _ => inferInstanceAs (Decidable True)
  | .getEditedMessage, .message message => inferInstanceAs (Decidable (s.Announced message))
  | .getCallbackQueryMessage .., .text _ | .getReplyMessage _, .text _ => inferInstanceAs (Decidable False)
  | .getEditedMessage, .text _ => inferInstanceAs (Decidable False)

def edit (message : MessageFullId) (change : MessageInfo → MessageInfo) : IncomingUpdates :=
  match s.core.messages.lookup message with
  | none => s
  | some info => { s with core := { s.core with messages := s.core.messages.insert message (change info) } }

def onEvent (s : IncomingUpdates) : IncomingEvent → IncomingUpdates
  | .newMessage message => if s.Announced message then s.addNewMessage message false else s
  | .newCallbackQuery query => s.addNewCallbackQuery query
  | .newBusinessCallbackQuery id senderUserId message replyToMessage =>
    s.addNewBusinessCallbackQuery id senderUserId message replyToMessage
  | .newBusinessMessage connectionId message replyToMessage isEdited =>
    s.addNewBusinessMessage connectionId message replyToMessage isEdited
  | .newGuestQuery message referenceMessages => s.addNewGuestQuery message referenceMessages
  | .result handler result =>
    match s.core.handlers.lookup handler with
    | none => s
    | some callback =>
      if s.Answers callback result then
        { s with core := { s.core with handlers := s.core.handlers.erase handler } }.onResult callback result
      else s
  | .closure =>
    match s.core.closures with
    | [] => s
    | (queue, state) :: closures => { s with core := { s.core with closures := closures } }.process queue state
  | .message message forceUpdateContent => s.addMessage message forceUpdateContent
  | .stickerSetName setId name => { s with core := s.core.onGetStickerSetName setId name }
  | .messageContent message content =>
    s.edit message fun info => { info with content := content, isContentChanged := true }
  | .messageAnswered message => s.edit message fun info => { info with isContentChanged := false }
  | .messageSuggestedPostInfo message suggestedPostInfo => s.edit message (·.setSuggestedPostInfo suggestedPostInfo)
  | .messageEdited message editDate replyMarkup =>
    let s := s.edit message fun info => { info with editDate := editDate }.setReplyMarkup replyMarkup
    if s.core.leaving then s else { s with core := s.core.doSendRequest .getEditedMessage }
  | .deleteMessages chatId messageIds =>
    { s with core := { s.core with
      messages := messageIds.foldl (fun t messageId => t.erase ⟨chatId, messageId⟩) s.core.messages } }
  | .newChat chatId chat =>
    if (s.core.chats.lookup chatId).isSome ∨
        (chat.type = .supergroup ∧ (s.core.supergroups.lookup chat.supergroupId).isNone) then s
    else { s with core := { s.core with chats := s.core.chats.insert chatId chat } }
  | .supergroup supergroupId supergroup =>
    { s with core := { s.core with supergroups := s.core.supergroups.insert supergroupId supergroup } }
  | .loggingOut => { s with core := { s.core with loggingOut := true } }
  | .closing => { s with core := { s.core with closing := true } }

def step (s : IncomingUpdates) (x : IncomingInput) : IncomingUpdates :=
  if s.core.crashed then s else { s with core := { s.core with unixTime := x.unixTime } }.onEvent x.event

end IncomingUpdates

end TelegramBotApi
