import TelegramBotApi.JsonFields

/-!
# Rich texts

`RichText.store` is `JsonRichText::store`, which shows a rich text to the bot, and `getRichText` reads the rich
texts that a bot sends. A text that should be inside of another one may be null. To store a null text is to use
a null pointer, and `store` has no value there.
-/

namespace TelegramBotApi

inductive DateTimePartPrecision where
  | none
  | short
  | long
  deriving DecidableEq

/-- A precision may be null. -/
inductive DateTimeFormattingType where
  | relative
  | absolute (timePrecision datePrecision : Option DateTimePartPrecision) (showDayOfWeek : Bool)
  deriving DecidableEq

inductive RichText where
  | plain (text : Slice)
  | bold (text : Option RichText)
  | italic (text : Option RichText)
  | underline (text : Option RichText)
  | strikethrough (text : Option RichText)
  | spoiler (text : Option RichText)
  | subscript (text : Option RichText)
  | superscript (text : Option RichText)
  | marked (text : Option RichText)
  | dateTime (text : Option RichText) (unixTime : Int32) (formattingType : Option DateTimeFormattingType)
  | mention (text : Option RichText) (username : Slice)
  | hashtag (text : Option RichText) (hashtag : Slice)
  | cashtag (text : Option RichText) (cashtag : Slice)
  | bankCardNumber (text : Option RichText) (bankCardNumber : Slice)
  | botCommand (text : Option RichText) (botCommand : Slice)
  | fixed (text : Option RichText)
  | mentionName (text : Option RichText) (userId : Int64)
  | url (text : Option RichText) (url : Slice) (isCached : Bool)
  | emailAddress (text : Option RichText) (emailAddress : Slice)
  | phoneNumber (text : Option RichText) (phoneNumber : Slice)
  | customEmoji (customEmojiId : Int64) (alternativeText : Slice)
  | icon (width height : Int32)
  | mathematicalExpression (expression : Slice)
  | diff (text oldText : Option RichText)
  | reference (name : Slice) (text : Option RichText)
  | referenceLink (text : Option RichText) (referenceName url : Slice)
  | anchor (name : Slice)
  | anchorLink (text : Option RichText) (anchorName url : Slice)
  | texts (texts : List (Option RichText))

structure RichUserInfo where
  isBot : Bool
  firstName : Slice
  lastName : Slice
  activeUsernames : List Slice
  languageCode : Slice
  isPremium : Bool
  addedToAttachmentMenu : Bool

/-! ### Storing -/

namespace JsonFields

def text (name : String) (value : Slice) : Slice × JsonValue := (name.toList, .string value)

/-- A field that is stored only when it is true. -/
def flag (name : String) (value : Bool) : JsonFields := if value then [(name.toList, .boolean true)] else []

/-- A field with a text that is stored only when it is not empty. -/
def nonEmpty (name : String) (value : Slice) : JsonFields := if value = [] then [] else [text name value]

end JsonFields

open JsonFields

/-- `JsonUser::store`, without the full information about a bot. -/
def jsonUser (getUserInfo : Int64 → Option RichUserInfo) (userId : Int64) : JsonValue :=
  let info := getUserInfo userId
  .object ([("id".toList, JsonValue.ofLong userId), ("is_bot".toList, .boolean (info.any (·.isBot))),
    text "first_name" ((info.map (·.firstName)).getD [])] ++
    nonEmpty "last_name" ((info.map (·.lastName)).getD []) ++
    (match info.bind (·.activeUsernames.head?) with
      | none => []
      | some username => [text "username" username]) ++
    nonEmpty "language_code" ((info.map (·.languageCode)).getD []) ++
    flag "is_premium" (info.any (·.isPremium)) ++
    flag "added_to_attachment_menu" (info.any (·.addedToAttachmentMenu)))

/-- The letter of a part of a date-time format. -/
def getPrecisionFormat (short long : Char) : DateTimePartPrecision → Slice
  | .none => []
  | .short => [short]
  | .long => [long]

def getDateTimeFormat : Option DateTimeFormattingType → Option Slice
  | none => some []
  | some .relative => some ['r']
  | some (.absolute timePrecision datePrecision showDayOfWeek) => do
    let date ← datePrecision
    let time ← timePrecision
    return (if showDayOfWeek then ['w'] else []) ++ getPrecisionFormat 'd' 'D' date ++ getPrecisionFormat 't' 'T' time

def textObject (type : String) (fields : JsonFields) (text : JsonValue) : JsonValue :=
  .object (JsonFields.text "type" type.toList :: ("text".toList, text) :: fields)

section Store

variable (getUserInfo : Int64 → Option RichUserInfo)

mutual

def RichText.store : RichText → Option JsonValue
  | .plain text => some (.string text)
  | .icon .. | .diff .. => some (.string [])
  | .texts texts => (storeRichTexts texts).map .array
  | .bold text => (storeRichText text).map (textObject "bold" [])
  | .italic text => (storeRichText text).map (textObject "italic" [])
  | .underline text => (storeRichText text).map (textObject "underline" [])
  | .strikethrough text => (storeRichText text).map (textObject "strikethrough" [])
  | .spoiler text => (storeRichText text).map (textObject "spoiler" [])
  | .dateTime text unixTime formattingType =>
    (getDateTimeFormat formattingType).bind fun format =>
      (storeRichText text).map (textObject "date_time" [("unix_time".toList, .ofInt unixTime),
        JsonFields.text "date_time_format" format])
  | .mention text username => (storeRichText text).map (textObject "mention" [JsonFields.text "username" username])
  | .hashtag text hashtag => (storeRichText text).map (textObject "hashtag" [JsonFields.text "hashtag" hashtag])
  | .cashtag text cashtag => (storeRichText text).map (textObject "cashtag" [JsonFields.text "cashtag" cashtag])
  | .botCommand text botCommand =>
    (storeRichText text).map (textObject "bot_command" [JsonFields.text "bot_command" botCommand])
  | .fixed text => (storeRichText text).map (textObject "code" [])
  | .mentionName text userId =>
    (storeRichText text).map (textObject "text_mention" [("user".toList, jsonUser getUserInfo userId)])
  | .url text url _ => (storeRichText text).map (textObject "url" [JsonFields.text "url" url])
  | .emailAddress text emailAddress =>
    (storeRichText text).map (textObject "email_address" [JsonFields.text "email_address" emailAddress])
  | .bankCardNumber text bankCardNumber =>
    (storeRichText text).map (textObject "bank_card_number" [JsonFields.text "bank_card_number" bankCardNumber])
  | .subscript text => (storeRichText text).map (textObject "subscript" [])
  | .superscript text => (storeRichText text).map (textObject "superscript" [])
  | .marked text => (storeRichText text).map (textObject "marked" [])
  | .phoneNumber text phoneNumber =>
    (storeRichText text).map (textObject "phone_number" [JsonFields.text "phone_number" phoneNumber])
  | .customEmoji customEmojiId alternativeText =>
    some (.object [JsonFields.text "type" "custom_emoji".toList,
      JsonFields.text "custom_emoji_id" (toString customEmojiId.toInt).toList,
      JsonFields.text "alternative_text" alternativeText])
  | .mathematicalExpression expression =>
    some (.object [JsonFields.text "type" "mathematical_expression".toList, JsonFields.text "expression" expression])
  | .reference name text => (storeRichText text).map (textObject "reference" [JsonFields.text "name" name])
  | .referenceLink text referenceName _ =>
    (storeRichText text).map (textObject "reference_link" [JsonFields.text "reference_name" referenceName])
  | .anchor name => some (.object [JsonFields.text "type" "anchor".toList, JsonFields.text "name" name])
  | .anchorLink text anchorName _ =>
    (storeRichText text).map (textObject "anchor_link" [JsonFields.text "anchor_name" anchorName])

def storeRichText : Option RichText → Option JsonValue
  | none => none
  | some text => text.store

def storeRichTexts : List (Option RichText) → Option (List JsonValue)
  | [] => some []
  | text :: texts => do
    let value ← storeRichText text
    let values ← storeRichTexts texts
    return value :: values

end

end Store

/-! ### Reading -/

def addFormatLetter (timePrecision datePrecision : Option DateTimePartPrecision) (showDayOfWeek : Bool) (c : Char) :
    Except Status (Option DateTimePartPrecision × Option DateTimePartPrecision × Bool) :=
  if c = 't' then .ok (some .short, datePrecision, showDayOfWeek)
  else if c = 'T' then .ok (some .long, datePrecision, showDayOfWeek)
  else if c = 'd' then .ok (timePrecision, some .short, showDayOfWeek)
  else if c = 'D' then .ok (timePrecision, some .long, showDayOfWeek)
  else if c = 'w' ∨ c = 'W' then .ok (timePrecision, datePrecision, true)
  else .error ⟨400, "Invalid date-time format specified"⟩

def getDateTimeFormattingType (format : Slice) : Except Status (Option DateTimeFormattingType) :=
  if format = [] then .ok none
  else if format = ['r'] ∨ format = ['R'] then .ok (some .relative)
  else do
    let (timePrecision, datePrecision, showDayOfWeek) ← format.foldlM
      (fun parts c => addFormatLetter parts.1 parts.2.1 parts.2.2 c) (none, none, false)
    return some (.absolute timePrecision datePrecision showDayOfWeek)

/-- The types of objects in `get_rich_text`, with the text inside as it would be read. -/
def getTypedRichText (type : Slice) (fields : JsonFields) (text : Except Status (Option RichText)) :
    Except Status RichText := do
  if type = "bold".toList then return .bold (← text)
  else if type = "italic".toList then return .italic (← text)
  else if type = "underline".toList then return .underline (← text)
  else if type = "strikethrough".toList then return .strikethrough (← text)
  else if type = "spoiler".toList then return .spoiler (← text)
  else if type = "date_time".toList then
    let text ← text
    let unixTime ← getRequiredIntField fields "unix_time"
    let format ← getOptionalStringField fields "date_time_format"
    let formattingType ← getDateTimeFormattingType format
    return .dateTime text unixTime formattingType
  else if type = "mention".toList then return .mention (← text) []
  else if type = "hashtag".toList then return .hashtag (← text) []
  else if type = "cashtag".toList then return .cashtag (← text) []
  else if type = "bot_command".toList then return .botCommand (← text) []
  else if type = "code".toList then return .fixed (← text)
  else if type = "text_mention".toList then
    let text ← text
    let user ← extractRequiredField fields "user" .object
    match user with
    | .object userFields => return .mentionName text (← getRequiredLongField userFields "id")
    | _ => .error (mustBe "user" "of type Object")
  else if type = "url".toList then return .url (← text) (← getRequiredStringField fields "url") false
  else if type = "email_address".toList then
    return .emailAddress (← text) (← getRequiredStringField fields "email_address")
  else if type = "bank_card_number".toList then return .bankCardNumber (← text) []
  else if type = "subscript".toList then return .subscript (← text)
  else if type = "superscript".toList then return .superscript (← text)
  else if type = "marked".toList then return .marked (← text)
  else if type = "phone_number".toList then
    return .phoneNumber (← text) (← getRequiredStringField fields "phone_number")
  else if type = "custom_emoji".toList then
    return .customEmoji (← getRequiredLongField fields "custom_emoji_id")
      (← getRequiredStringField fields "alternative_text")
  else if type = "mathematical_expression".toList then
    return .mathematicalExpression (← getRequiredStringField fields "expression")
  else if type = "reference".toList then
    let text ← text
    return .reference (← getRequiredStringField fields "name") text
  else if type = "reference_link".toList then
    return .referenceLink (← text) (← getRequiredStringField fields "reference_name") []
  else if type = "anchor".toList then return .anchor (← getRequiredStringField fields "name")
  else if type = "anchor_link".toList then
    return .anchorLink (← text) (← getRequiredStringField fields "anchor_name") []
  else .error ⟨400, "Unsupported rich text type"⟩

mutual

def getRichText : JsonValue → Except Status (Option RichText)
  | .null => .ok none
  | .string text => .ok (some (.plain text))
  | .array items => return some (.texts (← getRichTexts items))
  | .object fields => do
    let type ← getRequiredStringField fields "type"
    return some (← getTypedRichText type fields (getRichTextField fields "text"))
  | .number _ | .boolean _ => .error ⟨400, "Invalid rich text specified"⟩

def getRichTexts : List JsonValue → Except Status (List (Option RichText))
  | [] => .ok []
  | value :: values => return (← getRichText value) :: (← getRichTexts values)

def getRichTextField : List (Slice × JsonValue) → String → Except Status (Option RichText)
  | [], _ => .ok none
  | (field, value) :: fields, name => if field = name.toList then getRichText value else getRichTextField fields name

end

theorem getRichTextField_eq (fields : JsonFields) (name : String) :
    getRichTextField fields name = getRichText (extractField fields name) :=
  read_extractField (fun _ => by rw [getRichTextField, getRichText])
    (fun _ _ _ _ => by rw [getRichTextField]) fields name

end TelegramBotApi
