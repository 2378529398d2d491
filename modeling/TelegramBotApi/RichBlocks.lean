import TelegramBotApi.RichText

/-!
# Page blocks

`PageBlock.store` is `JsonRichBlock::store`, which shows a block of a rich message to the bot, and
`getInputPageBlock` reads the blocks that a bot sends. How locations and files are stored and read is left open.
As with rich texts, there is no value where a null pointer is used.
-/

namespace TelegramBotApi

open JsonFields

structure PageBlockCaption where
  text : Option RichText
  credit : Option RichText

inductive PageBlockHorizontalAlignment where
  | left
  | center
  | right
  deriving DecidableEq

inductive PageBlockVerticalAlignment where
  | top
  | middle
  | bottom
  deriving DecidableEq

structure PageBlockTableCell where
  text : Option RichText
  isHeader : Bool
  colspan : Int32
  rowspan : Int32
  align : PageBlockHorizontalAlignment
  valign : PageBlockVerticalAlignment

structure PageBlockListItem (Block : Type) where
  label : Slice
  blocks : List Block
  hasCheckbox : Bool
  isChecked : Bool
  value : Int32
  type : Slice

/-- The file of a block may be null. -/
inductive PageBlock (Location Media : Type) where
  | sectionHeading (text : Option RichText) (size : Int32)
  | paragraph (text : Option RichText)
  | preformatted (text : Option RichText) (language : Slice)
  | footer (footer : Option RichText)
  | divider
  | mathematicalExpression (expression : Slice)
  | anchor (name : Slice)
  | list (items : List (PageBlockListItem (PageBlock Location Media)))
  | blockQuote (blocks : List (PageBlock Location Media)) (credit : Option RichText)
  | pullQuote (text credit : Option RichText)
  | animation (animation : Option Media) (caption : Option PageBlockCaption) (needAutoplay hasSpoiler : Bool)
  | audio (audio : Option Media) (caption : Option PageBlockCaption)
  | photo (photo : Option Media) (caption : Option PageBlockCaption) (hasSpoiler : Bool)
  | video (video : Option Media) (caption : Option PageBlockCaption) (needAutoplay isLooped hasSpoiler : Bool)
  | voiceNote (voiceNote : Option Media) (caption : Option PageBlockCaption)
  | collage (blocks : List (PageBlock Location Media)) (caption : Option PageBlockCaption)
  | slideshow (blocks : List (PageBlock Location Media)) (caption : Option PageBlockCaption)
  | table (caption : Option RichText) (cells : List (List PageBlockTableCell)) (isBordered isStriped : Bool)
  | details (header : Option RichText) (blocks : List (PageBlock Location Media)) (isOpen : Bool)
  | map (location : Location) (zoom width height : Int32) (caption : Option PageBlockCaption)
  | other

structure InputPageBlockListItem (Block : Type) where
  blocks : List Block
  hasCheckbox : Bool
  isChecked : Bool
  value : Int32
  type : Slice

inductive InputPageBlock (Location InputMedia : Type) where
  | sectionHeading (text : Option RichText) (size : Int32)
  | paragraph (text : Option RichText)
  | preformatted (text : Option RichText) (language : Slice)
  | footer (footer : Option RichText)
  | thinking (text : Option RichText)
  | divider
  | mathematicalExpression (expression : Slice)
  | anchor (name : Slice)
  | list (items : List (InputPageBlockListItem (InputPageBlock Location InputMedia)))
  | blockQuote (blocks : List (InputPageBlock Location InputMedia)) (credit : Option RichText)
  | pullQuote (text credit : Option RichText)
  | animation (animation : InputMedia) (caption : Option PageBlockCaption) (hasSpoiler : Bool)
  | audio (audio : InputMedia) (caption : Option PageBlockCaption)
  | photo (photo : InputMedia) (caption : Option PageBlockCaption) (hasSpoiler : Bool)
  | video (video : InputMedia) (caption : Option PageBlockCaption) (hasSpoiler : Bool)
  | voiceNote (voiceNote : InputMedia) (caption : Option PageBlockCaption)
  | collage (blocks : List (InputPageBlock Location InputMedia)) (caption : Option PageBlockCaption)
  | slideshow (blocks : List (InputPageBlock Location InputMedia)) (caption : Option PageBlockCaption)
  | table (caption : Option RichText) (cells : List (List PageBlockTableCell)) (isBordered isStriped : Bool)
  | details (header : Option RichText) (blocks : List (InputPageBlock Location InputMedia)) (isOpen : Bool)
  | map (location : Location) (zoom width height : Int32) (caption : Option PageBlockCaption)

/-! ### Storing -/

def PageBlockHorizontalAlignment.name : PageBlockHorizontalAlignment → String
  | .left => "left"
  | .center => "center"
  | .right => "right"

def PageBlockVerticalAlignment.name : PageBlockVerticalAlignment → String
  | .top => "top"
  | .middle => "middle"
  | .bottom => "bottom"

/-- A field with a number that is stored only when it is more than one. -/
def JsonFields.span (name : String) (value : Int32) : JsonFields :=
  if value > 1 then [(name.toList, .ofInt value)] else []

section Store

variable {Location Media : Type} (getUserInfo : Int64 → Option RichUserInfo)
  (storeLocation : Location → JsonValue) (storeMedia : Media → JsonValue)

def richTextField (name : String) (text : Option RichText) : Option JsonFields :=
  (storeRichText getUserInfo text).map fun value => [(name.toList, value)]

/-- A field with a text that is stored only when it is not null. -/
def optionalRichTextField (name : String) : Option RichText → Option JsonFields
  | none => some []
  | some text => richTextField getUserInfo name text

def PageBlockTableCell.store (cell : PageBlockTableCell) : Option JsonValue := do
  let text ← optionalRichTextField getUserInfo "text" cell.text
  return .object (text ++ flag "is_header" cell.isHeader ++ span "colspan" cell.colspan ++
    span "rowspan" cell.rowspan ++
    [JsonFields.text "align" cell.align.name.toList, JsonFields.text "valign" cell.valign.name.toList])

/-- `JsonRichTableRow::store`. -/
def storeTableRow (cells : List PageBlockTableCell) : Option JsonValue :=
  (cells.mapM (PageBlockTableCell.store getUserInfo)).map .array

def PageBlockCaption.store (caption : PageBlockCaption) : Option JsonValue := do
  let text ← richTextField getUserInfo "text" caption.text
  let credit ← optionalRichTextField getUserInfo "credit" caption.credit
  return .object (text ++ credit)

def captionField : Option PageBlockCaption → Option JsonFields
  | none => some []
  | some caption => (caption.store getUserInfo).map fun value => [("caption".toList, value)]

def blockObject (type : String) (fields : JsonFields) : JsonValue :=
  .object (JsonFields.text "type" type.toList :: fields)

/-- A block with a file, which is unknown without the file. -/
def storeMediaBlock (type : String) (media : Option Media) (caption : Option PageBlockCaption)
    (flags : JsonFields) : Option JsonValue :=
  match media with
  | none => some (blockObject "unknown" [])
  | some media =>
    (captionField getUserInfo caption).map fun caption =>
      blockObject type ((type.toList, storeMedia media) :: caption ++ flags)

/-- The fields in `JsonRichBlockListItem::store`, with the blocks as they are stored. -/
def listItemFields (label : Slice) (blocks : JsonValue) (hasCheckbox isChecked : Bool) (value : Int32) (type : Slice) :
    JsonFields :=
  [JsonFields.text "label" label, ("blocks".toList, blocks)] ++
    (if hasCheckbox then [("has_checkbox".toList, .boolean true)] ++ flag "is_checked" isChecked else []) ++
    (if type = [] then [] else [JsonFields.text "type" type, ("value".toList, .ofInt value)])

mutual

def PageBlock.store : PageBlock Location Media → Option JsonValue
  | .sectionHeading text size => do
    let text ← richTextField getUserInfo "text" text
    return blockObject "heading" (text ++ [("size".toList, .ofInt size)])
  | .paragraph text => (richTextField getUserInfo "text" text).map (blockObject "paragraph")
  | .preformatted text language => do
    let text ← richTextField getUserInfo "text" text
    return blockObject "pre" (text ++ nonEmpty "language" language)
  | .footer footer => (richTextField getUserInfo "text" footer).map (blockObject "footer")
  | .divider => some (blockObject "divider" [])
  | .mathematicalExpression expression =>
    some (blockObject "mathematical_expression" [JsonFields.text "expression" expression])
  | .anchor name => some (blockObject "anchor" [JsonFields.text "name" name])
  | .list items => do
    let items ← storeListItems items
    return blockObject "list" [("items".toList, .array items)]
  | .blockQuote blocks credit => do
    let blocks ← storeBlocks blocks
    let credit ← optionalRichTextField getUserInfo "credit" credit
    return blockObject "blockquote" (("blocks".toList, .array blocks) :: credit)
  | .pullQuote text credit => do
    let text ← richTextField getUserInfo "text" text
    let credit ← optionalRichTextField getUserInfo "credit" credit
    return blockObject "pullquote" (text ++ credit)
  | .collage blocks caption => do
    let blocks ← storeBlocks blocks
    let caption ← captionField getUserInfo caption
    return blockObject "collage" (("blocks".toList, .array blocks) :: caption)
  | .slideshow blocks caption => do
    let blocks ← storeBlocks blocks
    let caption ← captionField getUserInfo caption
    return blockObject "slideshow" (("blocks".toList, .array blocks) :: caption)
  | .table caption cells isBordered isStriped => do
    let cells ← cells.mapM (storeTableRow getUserInfo)
    let caption ← optionalRichTextField getUserInfo "caption" caption
    return blockObject "table"
      (("cells".toList, .array cells) :: caption ++ flag "is_bordered" isBordered ++ flag "is_striped" isStriped)
  | .details header blocks isOpen => do
    let summary ← richTextField getUserInfo "summary" header
    let blocks ← storeBlocks blocks
    return blockObject "details" (summary ++ [("blocks".toList, .array blocks)] ++ flag "is_open" isOpen)
  | .map location zoom width height caption => do
    let caption ← captionField getUserInfo caption
    return blockObject "map" ([("location".toList, storeLocation location), ("zoom".toList, .ofInt zoom),
      ("width".toList, .ofInt width), ("height".toList, .ofInt height)] ++ caption)
  | .animation animation caption needAutoplay hasSpoiler =>
    storeMediaBlock getUserInfo storeMedia "animation" animation caption
      (flag "need_autoplay" needAutoplay ++ flag "has_spoiler" hasSpoiler)
  | .audio audio caption => storeMediaBlock getUserInfo storeMedia "audio" audio caption []
  | .photo photo caption hasSpoiler =>
    storeMediaBlock getUserInfo storeMedia "photo" photo caption (flag "has_spoiler" hasSpoiler)
  | .video video caption needAutoplay isLooped hasSpoiler =>
    storeMediaBlock getUserInfo storeMedia "video" video caption
      (flag "need_autoplay" needAutoplay ++ flag "is_looped" isLooped ++ flag "has_spoiler" hasSpoiler)
  | .voiceNote voiceNote caption => storeMediaBlock getUserInfo storeMedia "voice_note" voiceNote caption []
  | .other => some (blockObject "unknown" [])

def storeBlocks : List (PageBlock Location Media) → Option (List JsonValue)
  | [] => some []
  | block :: blocks => do
    let value ← block.store
    let values ← storeBlocks blocks
    return value :: values

def storeListItem : PageBlockListItem (PageBlock Location Media) → Option JsonValue
  | ⟨label, blocks, hasCheckbox, isChecked, value, type⟩ => do
    let blocks ← storeBlocks blocks
    return .object (listItemFields label (.array blocks) hasCheckbox isChecked value type)

def storeListItems : List (PageBlockListItem (PageBlock Location Media)) → Option (List JsonValue)
  | [] => some []
  | item :: items => do
    let value ← storeListItem item
    let values ← storeListItems items
    return value :: values

end

end Store

/-! ### Reading -/

def cantParse {α : Type} (className : String) : Except Status α → Except Status α
  | .ok item => .ok item
  | .error error => .error ⟨400, "Can't parse " ++ className ++ ": " ++ error.message⟩

def expectedArray (className : String) : Status := ⟨400, "Expected an Array of " ++ className⟩

def getArray {α : Type} (className : String) (func : JsonValue → Except Status α) :
    JsonValue → Except Status (List α)
  | .null => .ok []
  | .array values => values.mapM fun value => cantParse className (func value)
  | _ => .error (expectedArray className)

def getPageBlockCaption : JsonValue → Except Status (Option PageBlockCaption)
  | .null => .ok none
  | .object fields => do
    let text ← getRichText (extractField fields "text")
    let credit ← getRichText (extractField fields "credit")
    return some ⟨text, credit⟩
  | _ => .error ⟨400, "RichBlockCaption must be an object"⟩

def getHorizontalAlignment (alignStr : Slice) (isHeader : Bool) : Except Status PageBlockHorizontalAlignment :=
  if alignStr = "left".toList ∨ alignStr = [] ∧ isHeader = false then .ok .left
  else if alignStr = "center".toList ∨ alignStr = [] ∧ isHeader = true then .ok .center
  else if alignStr = "right".toList then .ok .right
  else .error ⟨400, "Invalid horizontal alignment specified"⟩

def getVerticalAlignment (valignStr : Slice) : Except Status PageBlockVerticalAlignment :=
  if valignStr = "top".toList then .ok .top
  else if valignStr = "middle".toList ∨ valignStr = [] then .ok .middle
  else if valignStr = "bottom".toList then .ok .bottom
  else .error ⟨400, "Invalid vertical alignment specified"⟩

def getPageBlockTableCell : JsonValue → Except Status PageBlockTableCell
  | .object fields => do
    let text ← getRichText (extractField fields "text")
    let isHeader ← getOptionalBoolField fields "is_header"
    let colspan ← getOptionalIntField fields "colspan"
    let rowspan ← getOptionalIntField fields "rowspan"
    let align ← getHorizontalAlignment (← getOptionalStringField fields "align") isHeader
    let valign ← getVerticalAlignment (← getOptionalStringField fields "valign")
    return ⟨text, isHeader, colspan, rowspan, align, valign⟩
  | _ => .error ⟨400, "RichBlockTableCell must be an object"⟩

section Reading

variable {Location InputMedia : Type} (getLocation : JsonFields → Except Status Location)
  (getInputMedia : Slice → JsonFields → Except Status InputMedia)

/-- The end of `get_input_page_block`, for blocks with files. -/
def getMediaPageBlock (type : Slice) (fields : JsonFields) : Except Status (InputPageBlock Location InputMedia) := do
  if type ≠ "animation".toList ∧ type ≠ "audio".toList ∧ type ≠ "photo".toList ∧ type ≠ "video".toList ∧
      type ≠ "voice_note".toList then
    .error ⟨400, "type \"" ++ String.ofList type ++ "\" is unsupported"⟩
  else
    match ← extractRequiredField fields (String.ofList type) .object with
    | .object mediaFields =>
      let mediaType ← getRequiredStringField mediaFields "type"
      if mediaType ≠ type then
        .error ⟨400, "Unexpected media type \"" ++ String.ofList mediaType ++ "\" for block \"" ++
          String.ofList type ++ "\""⟩
      else
        let media ← getInputMedia type mediaFields
        let caption ← getPageBlockCaption (extractField fields "caption")
        let hasSpoiler ← getOptionalBoolField mediaFields "has_spoiler"
        if type = "animation".toList then return .animation media caption hasSpoiler
        else if type = "audio".toList then return .audio media caption
        else if type = "photo".toList then return .photo media caption hasSpoiler
        else if type = "video".toList then return .video media caption hasSpoiler
        else return .voiceNote media caption
    | _ => .error (mustBe (String.ofList type) "of type Object")

/-- The types of blocks in `get_input_page_block`, with the items and the blocks inside as they would be read. -/
def getTypedPageBlock (type : Slice) (fields : JsonFields)
    (items : Except Status (List (InputPageBlockListItem (InputPageBlock Location InputMedia))))
    (blocks : Except Status (List (InputPageBlock Location InputMedia))) :
    Except Status (InputPageBlock Location InputMedia) := do
  if type = "heading".toList then
    return .sectionHeading (← getRichText (extractField fields "text")) (← getRequiredIntField fields "size")
  else if type = "paragraph".toList then return .paragraph (← getRichText (extractField fields "text"))
  else if type = "pre".toList then
    return .preformatted (← getRichText (extractField fields "text")) (← getOptionalStringField fields "language")
  else if type = "footer".toList then return .footer (← getRichText (extractField fields "text"))
  else if type = "thinking".toList then return .thinking (← getRichText (extractField fields "text"))
  else if type = "divider".toList then return .divider
  else if type = "mathematical_expression".toList then
    return .mathematicalExpression (← getRequiredStringField fields "expression")
  else if type = "anchor".toList then return .anchor (← getRequiredStringField fields "name")
  else if type = "list".toList then return .list (← items)
  else if type = "blockquote".toList then
    return .blockQuote (← blocks) (← getRichText (extractField fields "credit"))
  else if type = "pullquote".toList then
    return .pullQuote (← getRichText (extractField fields "text")) (← getRichText (extractField fields "credit"))
  else if type = "collage".toList then
    return .collage (← blocks) (← getPageBlockCaption (extractField fields "caption"))
  else if type = "slideshow".toList then
    return .slideshow (← blocks) (← getPageBlockCaption (extractField fields "caption"))
  else if type = "table".toList then
    match ← extractRequiredField fields "cells" .array with
    | .array rows =>
      let cells ← rows.mapM (getArray "PageBlockTableCell" getPageBlockTableCell)
      let caption ← getRichText (extractField fields "caption")
      let isBordered ← getOptionalBoolField fields "is_bordered"
      let isStriped ← getOptionalBoolField fields "is_striped"
      return .table caption cells isBordered isStriped
    | _ => .error (mustBe "cells" "of type Array")
  else if type = "details".toList then
    return .details (← getRichText (extractField fields "summary")) (← blocks)
      (← getOptionalBoolField fields "is_open")
  else if type = "map".toList then
    match ← extractRequiredField fields "location" .object with
    | .object locationFields =>
      let location ← getLocation locationFields
      let zoom ← getOptionalIntField fields "zoom"
      let width ← getOptionalIntField fields "width"
      let height ← getOptionalIntField fields "height"
      let caption ← getPageBlockCaption (extractField fields "caption")
      return .map location zoom width height caption
    | _ => .error (mustBe "location" "of type Object")
  else getMediaPageBlock getInputMedia type fields

/-- `get_input_page_block_list_item`, with the blocks inside as they would be read. -/
def getListItem {Block : Type} (fields : JsonFields) (blocks : Except Status (List Block)) :
    Except Status (InputPageBlockListItem Block) := do
  let blocks ← blocks
  let hasCheckbox ← getOptionalBoolField fields "has_checkbox"
  let isChecked ← getOptionalBoolField fields "is_checked"
  let itemValue ← getOptionalIntField fields "value"
  let type ← getOptionalStringField fields "type"
  return ⟨blocks, hasCheckbox, isChecked, itemValue, type⟩

mutual

def getInputPageBlock : JsonValue → Except Status (InputPageBlock Location InputMedia)
  | .object fields => do
    let type ← getRequiredStringField fields "type"
    getTypedPageBlock getLocation getInputMedia type fields (getInputListItemsField fields "items")
      (getInputPageBlocksField fields "blocks")
  | _ => .error ⟨400, "Object expected as InputRichMessageBlock"⟩

def getInputPageBlocks : JsonValue → Except Status (List (InputPageBlock Location InputMedia))
  | .null => .ok []
  | .array values => getInputPageBlockArray values
  | _ => .error (expectedArray "InputRichBlock")

def getInputPageBlockArray : List JsonValue → Except Status (List (InputPageBlock Location InputMedia))
  | [] => .ok []
  | value :: values =>
    return (← cantParse "InputRichBlock" (getInputPageBlock value)) :: (← getInputPageBlockArray values)

def getInputPageBlocksField :
    List (Slice × JsonValue) → String → Except Status (List (InputPageBlock Location InputMedia))
  | [], _ => .ok []
  | (field, value) :: fields, name =>
    if field = name.toList then getInputPageBlocks value else getInputPageBlocksField fields name

def getInputPageBlockListItem :
    JsonValue → Except Status (InputPageBlockListItem (InputPageBlock Location InputMedia))
  | .object fields => getListItem fields (getInputPageBlocksField fields "blocks")
  | _ => .error ⟨400, "Object expected as InputRichBlockListItem"⟩

def getInputListItems :
    JsonValue → Except Status (List (InputPageBlockListItem (InputPageBlock Location InputMedia)))
  | .null => .ok []
  | .array values => getInputListItemArray values
  | _ => .error (expectedArray "InputRichBlockListItem")

def getInputListItemArray :
    List JsonValue → Except Status (List (InputPageBlockListItem (InputPageBlock Location InputMedia)))
  | [] => .ok []
  | value :: values =>
    return (← cantParse "InputRichBlockListItem" (getInputPageBlockListItem value)) ::
      (← getInputListItemArray values)

def getInputListItemsField :
    List (Slice × JsonValue) → String →
      Except Status (List (InputPageBlockListItem (InputPageBlock Location InputMedia)))
  | [], _ => .ok []
  | (field, value) :: fields, name =>
    if field = name.toList then getInputListItems value else getInputListItemsField fields name

end

end Reading

end TelegramBotApi
