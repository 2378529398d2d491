import TelegramBotApi.RichText

/-!
# A stored rich text is read back

What is derived from a text by the client is stored for the bot, but not read. The induction is on the text; the
texts inside of it are stored and read first.
-/

namespace TelegramBotApi

open JsonFields

namespace DateTimeFormattingType

/-- No precision is null, and some part is shown. -/
def Shown : DateTimeFormattingType → Prop
  | .relative => True
  | .absolute timePrecision datePrecision showDayOfWeek =>
    timePrecision ≠ none ∧ datePrecision ≠ none ∧
      (showDayOfWeek = true ∨ timePrecision ≠ some .none ∨ datePrecision ≠ some .none)

/-- The precision `None` is read back as an absent one. -/
def clearedPrecision (precision : Option DateTimePartPrecision) : Option DateTimePartPrecision :=
  precision.filter (· ≠ .none)

def cleared : DateTimeFormattingType → DateTimeFormattingType
  | .relative => .relative
  | .absolute timePrecision datePrecision showDayOfWeek =>
    .absolute (clearedPrecision timePrecision) (clearedPrecision datePrecision) showDayOfWeek

end DateTimeFormattingType

mutual

/-- No text is null, and there are no icons and no differences. -/
def RichText.Complete : RichText → Prop
  | .icon .. | .diff .. => False
  | .plain _ | .customEmoji .. | .mathematicalExpression _ | .anchor _ => True
  | .dateTime text _ formattingType => CompleteRichText text ∧ ∀ type ∈ formattingType, type.Shown
  | .texts texts => CompleteRichTexts texts
  | .bold text | .italic text | .underline text | .strikethrough text | .spoiler text | .subscript text
  | .superscript text | .marked text | .fixed text | .mention text _ | .hashtag text _ | .cashtag text _
  | .bankCardNumber text _ | .botCommand text _ | .mentionName text _ | .url text _ _ | .emailAddress text _
  | .phoneNumber text _ | .reference _ text | .referenceLink text _ _ | .anchorLink text _ _ => CompleteRichText text

def CompleteRichText : Option RichText → Prop
  | none => False
  | some text => text.Complete

def CompleteRichTexts : List (Option RichText) → Prop
  | [] => True
  | text :: texts => CompleteRichText text ∧ CompleteRichTexts texts

end

mutual

/-- What is derived from a text is not read. -/
def RichText.cleared : RichText → RichText
  | .plain text => .plain text
  | .bold text => .bold (clearedRichText text)
  | .italic text => .italic (clearedRichText text)
  | .underline text => .underline (clearedRichText text)
  | .strikethrough text => .strikethrough (clearedRichText text)
  | .spoiler text => .spoiler (clearedRichText text)
  | .subscript text => .subscript (clearedRichText text)
  | .superscript text => .superscript (clearedRichText text)
  | .marked text => .marked (clearedRichText text)
  | .dateTime text unixTime formattingType =>
    .dateTime (clearedRichText text) unixTime (formattingType.map DateTimeFormattingType.cleared)
  | .mention text _ => .mention (clearedRichText text) []
  | .hashtag text _ => .hashtag (clearedRichText text) []
  | .cashtag text _ => .cashtag (clearedRichText text) []
  | .bankCardNumber text _ => .bankCardNumber (clearedRichText text) []
  | .botCommand text _ => .botCommand (clearedRichText text) []
  | .fixed text => .fixed (clearedRichText text)
  | .mentionName text userId => .mentionName (clearedRichText text) userId
  | .url text url _ => .url (clearedRichText text) url false
  | .emailAddress text emailAddress => .emailAddress (clearedRichText text) emailAddress
  | .phoneNumber text phoneNumber => .phoneNumber (clearedRichText text) phoneNumber
  | .customEmoji customEmojiId alternativeText => .customEmoji customEmojiId alternativeText
  | .icon width height => .icon width height
  | .mathematicalExpression expression => .mathematicalExpression expression
  | .diff text oldText => .diff (clearedRichText text) (clearedRichText oldText)
  | .reference name text => .reference name (clearedRichText text)
  | .referenceLink text referenceName _ => .referenceLink (clearedRichText text) referenceName []
  | .anchor name => .anchor name
  | .anchorLink text anchorName _ => .anchorLink (clearedRichText text) anchorName []
  | .texts texts => .texts (clearedRichTexts texts)

def clearedRichText : Option RichText → Option RichText
  | none => none
  | some text => some text.cleared

def clearedRichTexts : List (Option RichText) → List (Option RichText)
  | [] => []
  | text :: texts => clearedRichText text :: clearedRichTexts texts

end

/-! ### Date-time formats -/

theorem getDateTimeFormattingType_format {formattingType : Option DateTimeFormattingType}
    (h : ∀ type ∈ formattingType, type.Shown) :
    ∃ format, getDateTimeFormat formattingType = some format ∧
      getDateTimeFormattingType format = .ok (formattingType.map DateTimeFormattingType.cleared) := by
  cases formattingType with
  | none => exact ⟨[], rfl, rfl⟩
  | some type =>
      have hshown := h type rfl
      cases type with
      | relative => exact ⟨['r'], rfl, rfl⟩
      | absolute timePrecision datePrecision showDayOfWeek =>
          obtain ⟨htime, hdate, hpart⟩ := hshown
          obtain ⟨time, rfl⟩ := Option.ne_none_iff_exists'.1 htime
          obtain ⟨date, rfl⟩ := Option.ne_none_iff_exists'.1 hdate
          refine ⟨(if showDayOfWeek then ['w'] else []) ++ getPrecisionFormat 'd' 'D' date ++
            getPrecisionFormat 't' 'T' time, rfl, ?_⟩
          cases showDayOfWeek <;> cases time <;> cases date <;> first | rfl | simp at hpart

/-! ### Objects -/

/-- The text is stored, and what is stored is read as another one. -/
def StoredAs (stored : Option JsonValue) (text : Option RichText) : Prop :=
  ∃ value, stored = some value ∧ getRichText value = .ok text

theorem getRichText_textObject (type : String) (fields : JsonFields) (value : JsonValue) :
    getRichText (textObject type fields value) =
      (getTypedRichText type.toList (text "type" type.toList :: ("text".toList, value) :: fields)
        (getRichText value)).map some := by
  have htype : getRequiredStringField (text "type" type.toList :: ("text".toList, value) :: fields) "type" =
      .ok type.toList := by
    simp [getRequiredStringField, JsonFields.text, getString]
  have htext : getRichTextField (text "type" type.toList :: ("text".toList, value) :: fields) "text" =
      getRichText value := by
    simp [getRichTextField_eq, extractField, JsonFields.text]
  unfold textObject
  rw [getRichText, htype, htext]
  rfl

/-- An object is read back if its type reads its fields. -/
theorem StoredAs.textObject {stored : Option JsonValue} {inner : Option RichText} {t : RichText}
    (h : StoredAs stored inner) (type : String) (fields : JsonFields)
    (hget : ∀ value, getTypedRichText type.toList (text "type" type.toList :: ("text".toList, value) :: fields)
      (.ok inner) = .ok t) : StoredAs (stored.map (textObject type fields)) (some t) := by
  obtain ⟨value, rfl, hvalue⟩ := h
  refine ⟨_, rfl, ?_⟩
  rw [getRichText_textObject, hvalue, hget]
  rfl

variable (getUserInfo : Int64 → Option RichUserInfo)

theorem jsonUser_id (userId : Int64) :
    ∃ userFields, jsonUser getUserInfo userId = .object userFields ∧
      getRequiredLongField userFields "id" = .ok userId := by
  refine ⟨_, rfl, ?_⟩
  simp only [getRequiredLongField, List.cons_append, getField, ↓reduceIte, getInteger_ofLong]

mutual

theorem getRichText_store (t : RichText) (h : t.Complete) : StoredAs (t.store getUserInfo) (some t.cleared) := by
  cases t with
  | icon | diff => exact h.elim
  | plain text =>
      refine ⟨_, rfl, ?_⟩
      rw [getRichText, RichText.cleared]
  | customEmoji customEmojiId alternativeText =>
      refine ⟨_, rfl, ?_⟩
      simp only [getRichText, getTypedRichText, getRequiredStringField, getRequiredLongField, getField,
        JsonFields.text, getString, getInteger_longText, String.toList_inj, String.reduceEq, ↓reduceIte]
      rfl
  | mathematicalExpression text | anchor text =>
      refine ⟨_, rfl, ?_⟩
      simp only [getRichText, getTypedRichText, getRequiredStringField, getField, JsonFields.text, getString,
        String.toList_inj, String.reduceEq, ↓reduceIte]
      rfl
  | bold text | italic text | underline text | strikethrough text | spoiler text | subscript text | superscript text
  | marked text | fixed text | mention text | hashtag text | cashtag text | bankCardNumber text | botCommand text =>
      refine (getRichText_storeRichText text h).textObject _ _ fun value => ?_
      simp only [getTypedRichText, String.toList_inj, String.reduceEq, ↓reduceIte]
      rfl
  | url text | emailAddress text | phoneNumber text | referenceLink text | anchorLink text | reference _ text =>
      refine (getRichText_storeRichText text h).textObject _ _ fun value => ?_
      simp only [getTypedRichText, getRequiredStringField, getField, JsonFields.text, getString,
        String.toList_inj, String.reduceEq, ↓reduceIte]
      rfl
  | mentionName text userId =>
      refine (getRichText_storeRichText text h).textObject _ _ fun value => ?_
      obtain ⟨userFields, huser, hid⟩ := jsonUser_id getUserInfo userId
      simp only [getTypedRichText, extractRequiredField, getField, JsonFields.text, huser, JsonValue.type, ne_eq,
        not_true_eq_false, and_false, String.toList_inj, String.reduceEq, ↓reduceIte]
      change (getRequiredLongField userFields "id").bind _ = _
      rw [hid]
      rfl
  | dateTime text unixTime formattingType =>
      obtain ⟨format, hformat, hread⟩ := getDateTimeFormattingType_format h.2
      rw [RichText.store, hformat, Option.bind_some]
      refine (getRichText_storeRichText text h.1).textObject _ _ fun value => ?_
      simp only [getTypedRichText, getRequiredIntField, getOptionalStringField, getField, JsonFields.text, getString,
        getInteger_ofInt, String.toList_inj, String.reduceEq, ↓reduceIte]
      change (getDateTimeFormattingType format).bind _ = _
      rw [hread]
      rfl
  | texts texts =>
      obtain ⟨values, hvalues, hread⟩ := getRichTexts_storeRichTexts texts h
      refine ⟨.array values, ?_, ?_⟩
      · rw [RichText.store, hvalues, Option.map_some]
      · rw [getRichText, hread]
        rfl

theorem getRichText_storeRichText (t : Option RichText) (h : CompleteRichText t) :
    StoredAs (storeRichText getUserInfo t) (clearedRichText t) := by
  cases t with
  | none => exact h.elim
  | some t => exact getRichText_store t h

theorem getRichTexts_storeRichTexts (ts : List (Option RichText)) (h : CompleteRichTexts ts) :
    ∃ values, storeRichTexts getUserInfo ts = some values ∧ getRichTexts values = .ok (clearedRichTexts ts) := by
  cases ts with
  | nil => exact ⟨[], rfl, rfl⟩
  | cons t ts =>
      obtain ⟨value, hvalue, hread⟩ := getRichText_storeRichText t h.1
      obtain ⟨values, hvalues, hreads⟩ := getRichTexts_storeRichTexts ts h.2
      refine ⟨value :: values, ?_, ?_⟩
      · rw [storeRichTexts, hvalue, hvalues]
        rfl
      · rw [getRichTexts, hread, hreads]
        rfl

end

end TelegramBotApi
