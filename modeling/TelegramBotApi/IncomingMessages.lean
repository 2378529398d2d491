import TelegramBotApi.SendMessages

/-!
# Messages as they come from TDLib

What the client keeps of a message and reads when it decides whether the message becomes an update: its
content, the message it replies to, its keyboard. A service message names another message of its chat, and
the stickers of a message belong to sticker sets whose names are looked up. `CHECK`s on the form of what
TDLib sends are left out.
-/

namespace TelegramBotApi

/-- The sticker sets of an upgraded gift; zero is no set. -/
structure UpgradedGift where
  modelSetId : Int
  symbolSetId : Int
  deriving DecidableEq

inductive UpgradedGiftOrigin where
  | upgrade (giftMessageId : Int)
  | other
  deriving DecidableEq

inductive PollMedia where
  | sticker (setId : Int)
  | other
  deriving DecidableEq

/-- The contents that the client tells apart; the others are one. -/
inductive MessageContent where
  | poll (options : List (Option PollMedia))
  | sticker (setId : Int)
  | gift (setId : Int)
  | upgradedGift (gift : UpgradedGift) (origin : UpgradedGiftOrigin)
  | refundedUpgradedGift (setId : Int)
  | upgradedGiftPurchaseOffer (gift : UpgradedGift)
  | upgradedGiftPurchaseOfferRejected (gift : UpgradedGift) (offerMessageId : Int)
  | pinMessage (messageId : Int)
  | gameScore (gameMessageId : Int)
  | paymentSuccessful (invoiceChatId invoiceMessageId : Int)
  | chatSetBackground (oldBackgroundMessageId : Int)
  | giveawayCompleted (giveawayMessageId : Int)
  | checklistTasksDone (checklistMessageId : Int)
  | checklistTasksAdded (checklistMessageId : Int)
  | suggestedPostApprovalFailed (suggestedPostMessageId : Int)
  | suggestedPostApproved (suggestedPostMessageId : Int)
  | suggestedPostDeclined (suggestedPostMessageId : Int)
  | suggestedPostPaid (suggestedPostMessageId : Int)
  | suggestedPostRefunded (suggestedPostMessageId : Int)
  | chatHasProtectedContentToggled (requestMessageId : Int)
  | pollOptionAdded (pollMessageId : Int)
  | pollOptionDeleted (pollMessageId : Int)
  | chatAddMembers (memberUserIds : List Int)
  | chatDeleteMember (userId : Int)
  | supergroupChatCreate
  | proximityAlertTriggered (travelerIsUser watcherIsUser : Bool)
  | chatChangeTitle
  | chatChangePhoto
  | chatDeletePhoto
  | chatSetTheme
  | videoChatScheduled
  | videoChatStarted
  | videoChatEnded
  | inviteVideoChatParticipants
  | forumTopicCreated
  | forumTopicEdited
  | forumTopicIsClosedToggled
  | forumTopicIsHiddenToggled
  | giveawayCreated
  | giveaway
  | giveawayWinners
  | paymentRefunded
  | passportDataSent
  | call
  | unsupported
  | contactRegistered
  | expiredPhoto
  | expiredVideo
  | expiredVideoNote
  | expiredVoiceNote
  | customServiceAction
  | webAppDataSent
  | giftedPremium
  | suggestProfilePhoto
  | premiumGiftCode
  | giftedStars
  | giveawayPrizeStars
  | paidMessagesRefunded
  | groupCall
  | giftedTon
  | suggestBirthdate
  | chatHasProtectedContentDisableRequested
  | other
  deriving DecidableEq

inductive MessageTopic where
  | thread (messageThreadId : Int)
  | forum (forumTopicId : Int)
  | directMessages
  | savedMessages
  deriving DecidableEq

structure MessageReplyToMessage where
  chatId : Int
  messageId : Int
  hasOrigin : Bool := false
  content : Option MessageContent := none
  deriving DecidableEq

inductive SuggestedPostPrice where
  | star (starCount : Int)
  | gram (gramCentCount : Int)
  deriving DecidableEq

inductive SuggestedPostState where
  | pending
  | approved
  | declined
  deriving DecidableEq

structure SuggestedPostInfo where
  price : Option SuggestedPostPrice
  sendDate : Int
  state : SuggestedPostState
  deriving DecidableEq

inductive InlineKeyboardButtonType where
  | url (url : String)
  | loginUrl (url : String) (id : Int) (forwardText : String)
  | callback (data : String)
  | callbackWithPassword (data : String)
  | callbackGame
  | switchInline (query targetChat : String)
  | buy
  | user (userId : Int)
  | webApp (url : String)
  | copyText (text : String)
  deriving DecidableEq

structure InlineKeyboardButton where
  text : String
  iconCustomEmojiId : Int
  style : Nat
  type : InlineKeyboardButtonType
  deriving DecidableEq

abbrev InlineKeyboard := List (List InlineKeyboardButton)

inductive ReplyMarkup where
  | inlineKeyboard (rows : InlineKeyboard)
  | other

structure Message where
  id : Int
  chatId : Int
  content : MessageContent := .other
  date : Int := 0
  editDate : Int := 0
  isSending : Bool := false
  isOutgoing : Bool := false
  hasSelfDestructType : Bool := false
  hasImportInfo : Bool := false
  senderTag : String := ""
  topicId : Option MessageTopic := none
  replyTo : Option MessageReplyToMessage := none
  suggestedPostInfo : Option SuggestedPostInfo := none
  replyMarkup : Option ReplyMarkup := none

structure BaseMessageInfo where
  id : Int
  chatId : Int
  content : MessageContent
  date : Int
  editDate : Int
  isOutgoing : Bool
  isSelfDestruct : Bool
  isImported : Bool
  senderTag : String
  topicId : Option MessageTopic
  replyToMessage : Option MessageReplyToMessage
  suggestedPostInfo : Option SuggestedPostInfo := none
  replyMarkup : Option InlineKeyboard := none
  isContentChanged : Bool := true

/-- A message with those that came with it, which have none of their own. -/
structure MessageInfo extends BaseMessageInfo where
  businessReplyToMessage : Option BaseMessageInfo := none
  referenceMessages : List BaseMessageInfo := []

def getGiftStickerSetIds (setId : Int) : List Int := if setId ≠ 0 then [setId] else []

def getUpgradedGiftStickerSetIds (gift : UpgradedGift) : List Int :=
  (if gift.modelSetId ≠ 0 then [gift.modelSetId] else []) ++ if gift.symbolSetId ≠ 0 then [gift.symbolSetId] else []

def getPollMediaStickerSetIds : PollMedia → List Int
  | .sticker setId => if setId ≠ 0 then [setId] else []
  | .other => []

def getMessageContentStickerSetIds : MessageContent → List Int
  | .gift setId => getGiftStickerSetIds setId
  | .poll options => (options.filterMap id).flatMap getPollMediaStickerSetIds
  | .sticker setId => if setId ≠ 0 then [setId] else []
  | .upgradedGift gift _ => getUpgradedGiftStickerSetIds gift
  | .refundedUpgradedGift setId => getGiftStickerSetIds setId
  | .upgradedGiftPurchaseOffer gift => getUpgradedGiftStickerSetIds gift
  | .upgradedGiftPurchaseOfferRejected gift _ => getUpgradedGiftStickerSetIds gift
  | _ => []

def BaseMessageInfo.getStickerSetIds (info : BaseMessageInfo) : List Int :=
  getMessageContentStickerSetIds info.content ++
    ((info.replyToMessage.bind (·.content)).map getMessageContentStickerSetIds).getD []

def getMessageStickerSetIds : Option MessageInfo → List Int
  | none => []
  | some info => info.getStickerSetIds ++ (info.businessReplyToMessage.map (·.getStickerSetIds)).getD [] ++
      info.referenceMessages.flatMap (·.getStickerSetIds)

def asTdlibMessageId (messageId : Int) : Int := messageId * 2 ^ 20

def asClientMessageIdUnchecked (messageId : Int) : Int :=
  let result := (messageId / 2 ^ 20).bmod (2 ^ 32)
  if asTdlibMessageId result ≠ messageId then 0 else result

namespace MessageContent

def isPoll : MessageContent → Bool
  | .poll _ => true
  | _ => false

/-- The message of the chat that a service message names. -/
def contentMessageId (chatId : Int) : MessageContent → Int
  | .pinMessage messageId | .gameScore messageId => messageId
  | .paymentSuccessful invoiceChatId invoiceMessageId => if invoiceChatId = chatId then invoiceMessageId else 0
  | .chatSetBackground messageId | .giveawayCompleted messageId => messageId
  | .checklistTasksDone messageId | .checklistTasksAdded messageId => messageId
  | .suggestedPostApprovalFailed messageId | .suggestedPostApproved messageId => messageId
  | .suggestedPostDeclined messageId | .suggestedPostPaid messageId | .suggestedPostRefunded messageId => messageId
  | .upgradedGift _ (.upgrade giftMessageId) => giftMessageId
  | .upgradedGiftPurchaseOfferRejected _ offerMessageId => offerMessageId
  | .chatHasProtectedContentToggled messageId => messageId
  | .pollOptionAdded messageId | .pollOptionDeleted messageId => messageId
  | _ => 0

/-- An outgoing message of this kind is an update too. -/
def isOutgoingUpdate : MessageContent → Bool
  | .chatChangeTitle | .chatChangePhoto | .chatDeletePhoto | .chatDeleteMember _ | .chatSetTheme | .pinMessage _
  | .proximityAlertTriggered .. | .videoChatScheduled | .videoChatStarted | .videoChatEnded
  | .inviteVideoChatParticipants | .forumTopicCreated | .forumTopicEdited | .forumTopicIsClosedToggled
  | .forumTopicIsHiddenToggled | .giveawayCreated | .giveaway | .giveawayWinners | .giveawayCompleted _
  | .paymentRefunded | .suggestedPostApprovalFailed _ | .suggestedPostApproved _ | .suggestedPostDeclined _
  | .suggestedPostPaid _ | .suggestedPostRefunded _ | .pollOptionAdded _ | .pollOptionDeleted _ => true
  | _ => false

/-- No message of this kind is an update. -/
def isSkipped : MessageContent → Bool
  | .gameScore _ | .paymentSuccessful .. | .passportDataSent | .call | .unsupported | .contactRegistered
  | .expiredPhoto | .expiredVideo | .expiredVideoNote | .expiredVoiceNote | .customServiceAction | .chatSetTheme
  | .webAppDataSent | .giftedPremium | .suggestProfilePhoto | .premiumGiftCode | .giftedStars | .giveawayPrizeStars
  | .paidMessagesRefunded | .groupCall | .giftedTon | .suggestBirthdate | .upgradedGiftPurchaseOffer _
  | .upgradedGiftPurchaseOfferRejected .. | .chatHasProtectedContentToggled _
  | .chatHasProtectedContentDisableRequested => true
  | _ => false

end MessageContent

def areEqualInlineKeyboardButtonTypes : InlineKeyboardButtonType → InlineKeyboardButtonType → Bool
  | .loginUrl url _ _, .loginUrl url' _ _ => url = url'
  | type, type' => type = type'

def areEqualInlineKeyboardButtons (lhs rhs : InlineKeyboardButton) : Bool :=
  lhs.text = rhs.text && lhs.iconCustomEmojiId = rhs.iconCustomEmojiId && lhs.style = rhs.style &&
    areEqualInlineKeyboardButtonTypes lhs.type rhs.type

def areEqualInlineKeyboards (lhs rhs : InlineKeyboard) : Bool :=
  lhs.length = rhs.length && (lhs.zip rhs).all fun rows =>
    rows.1.length = rows.2.length && (rows.1.zip rows.2).all fun buttons =>
      areEqualInlineKeyboardButtons buttons.1 buttons.2

namespace MessageInfo

variable (info : MessageInfo)

def setSuggestedPostInfo (suggestedPostInfo : Option SuggestedPostInfo) : MessageInfo :=
  if info.suggestedPostInfo = suggestedPostInfo then info
  else { info with suggestedPostInfo := suggestedPostInfo, isContentChanged := true }

def setReplyMarkup (replyMarkup : Option ReplyMarkup) : MessageInfo :=
  let keyboard := replyMarkup.bind fun
    | .inlineKeyboard rows => some rows
    | .other => none
  match info.replyMarkup, keyboard with
  | none, none => info
  | some old, some new =>
    if areEqualInlineKeyboards old new then info
    else { info with replyMarkup := some new, isContentChanged := true }
  | _, _ => { info with replyMarkup := keyboard, isContentChanged := true }

/-- What a message that is already known becomes when it comes again. -/
def merge (new old : MessageInfo) (forceUpdateContent : Bool) : MessageInfo :=
  let info := { new with
    isContentChanged := forceUpdateContent || old.isContentChanged || old.senderTag ≠ new.senderTag
    content := if ¬ forceUpdateContent ∧ ¬ new.content.isPoll then old.content else new.content
    suggestedPostInfo := old.suggestedPostInfo
    replyMarkup := old.replyMarkup }
  (info.setSuggestedPostInfo new.suggestedPostInfo).setReplyMarkup (new.replyMarkup.map .inlineKeyboard)

theorem chatId_setSuggestedPostInfo (suggestedPostInfo : Option SuggestedPostInfo) :
    (info.setSuggestedPostInfo suggestedPostInfo).chatId = info.chatId := by
  unfold setSuggestedPostInfo
  split_ifs <;> rfl

theorem chatId_setReplyMarkup (replyMarkup : Option ReplyMarkup) :
    (info.setReplyMarkup replyMarkup).chatId = info.chatId := by
  unfold setReplyMarkup
  dsimp only
  split
  · rfl
  · split_ifs <;> rfl
  · rfl

end MessageInfo

/-- `create_message` without the sticker sets that it looks up. A reply to a message of another chat needs an
origin. -/
def Message.toInfo (message : Message) : MessageInfo :=
  let info : MessageInfo := {
    id := message.id
    chatId := message.chatId
    content := message.content
    date := message.date
    editDate := message.editDate
    isOutgoing := message.isOutgoing
    isSelfDestruct := message.hasSelfDestructType
    isImported := message.hasImportInfo
    senderTag := message.senderTag
    topicId := message.topicId
    replyToMessage := message.replyTo.filter fun reply => reply.chatId = message.chatId || reply.hasOrigin }
  (info.setSuggestedPostInfo message.suggestedPostInfo).setReplyMarkup message.replyMarkup

theorem Message.chatId_toInfo (message : Message) : message.toInfo.chatId = message.chatId := by
  unfold Message.toInfo
  rw [MessageInfo.chatId_setReplyMarkup, MessageInfo.chatId_setSuggestedPostInfo]

end TelegramBotApi
