import TelegramBotApi.RichBlocks
import TelegramBotApi.RichTextRoundTrip

/-!
# A stored page block is read back

The contents of a block are read back as they were, except for what is derived in its texts, for the labels of
list items, which are not read, and for spans of zero and one, which are not stored. TDLib gives no table cell
with a negative span.
-/

namespace TelegramBotApi

open JsonFields

/-! ### Fields -/

namespace JsonFields

def optionalField (name : String) (value : Option JsonValue) : JsonFields :=
  (value.map fun value => (name.toList, value)).toList

@[simp] theorem getField_optionalField (field : String) (value : Option JsonValue) (name : String) :
    getField (optionalField field value) name = if field = name then value else none := by
  cases value <;> simp [optionalField, String.toList_inj]

theorem flag_eq (name : String) (value : Bool) :
    flag name value = optionalField name (if value then some (.boolean true) else none) := by
  cases value <;> rfl

theorem nonEmpty_eq (name : String) (value : Slice) :
    nonEmpty name value = optionalField name (if value = [] then none else some (.string value)) := by
  cases value <;> rfl

theorem span_eq (name : String) (value : Int32) :
    span name value = optionalField name (if value > 1 then some (.ofInt value) else none) := by
  unfold span
  split_ifs <;> rfl

theorem getOptionalBoolField_of_flag {fields : JsonFields} {name : String} {value : Bool}
    (h : getField fields name = if value then some (.boolean true) else none) :
    getOptionalBoolField fields name = .ok value := by
  cases value <;> simp [getOptionalBoolField, h]

theorem getOptionalStringField_of_nonEmpty {fields : JsonFields} {name : String} {value : Slice}
    (h : getField fields name = if value = [] then none else some (.string value)) :
    getOptionalStringField fields name = .ok value := by
  cases value <;> simp [getOptionalStringField, getString, h]

end JsonFields

/-- A span that is not more than one is read back as zero. -/
def shownSpan (value : Int32) : Int32 := if value > 1 then value else 0

def SameSpan (span span' : Int32) : Prop := span = span' ∨ (span = 0 ∨ span = 1) ∧ (span' = 0 ∨ span' = 1)

theorem sameSpan_shownSpan {value : Int32} (h : 0 ≤ value) : SameSpan value (shownSpan value) := by
  unfold SameSpan shownSpan
  split_ifs with hmore
  · exact Or.inl rfl
  · refine Or.inr ⟨?_, Or.inl rfl⟩
    have hvalue : value.toInt = 0 ∨ value.toInt = 1 := by
      rw [Int32.le_iff_toInt_le] at h
      rw [gt_iff_lt, Int32.lt_iff_toInt_lt] at hmore
      have hzero : (0 : Int32).toInt = 0 := rfl
      have hone : (1 : Int32).toInt = 1 := rfl
      omega
    exact hvalue.imp Int32.toInt_inj.1 Int32.toInt_inj.1

theorem getOptionalIntField_of_span {fields : JsonFields} {name : String} {value : Int32}
    (h : getField fields name = if value > 1 then some (.ofInt value) else none) :
    getOptionalIntField fields name = .ok (shownSpan value) := by
  unfold getOptionalIntField shownSpan
  rw [h]
  split_ifs
  · exact getInteger_ofInt name value
  · rfl

/-! ### Contents of blocks -/

def OptionalComplete : Option RichText → Prop
  | none => True
  | some text => text.Complete

def PageBlockCaption.Complete (caption : PageBlockCaption) : Prop :=
  CompleteRichText caption.text ∧ OptionalComplete caption.credit

def PageBlockCaption.cleared (caption : PageBlockCaption) : PageBlockCaption :=
  ⟨clearedRichText caption.text, clearedRichText caption.credit⟩

def PageBlockTableCell.Complete (cell : PageBlockTableCell) : Prop :=
  OptionalComplete cell.text ∧ 0 ≤ cell.colspan ∧ 0 ≤ cell.rowspan

def PageBlockTableCell.cleared (cell : PageBlockTableCell) : PageBlockTableCell :=
  { cell with
    text := clearedRichText cell.text
    colspan := shownSpan cell.colspan
    rowspan := shownSpan cell.rowspan }

section Parts

variable (getUserInfo : Int64 → Option RichUserInfo)

theorem richTextField_stored (name : String) {text : Option RichText} (h : CompleteRichText text) :
    ∃ value, richTextField getUserInfo name text = some [(name.toList, value)] ∧
      getRichText value = .ok (clearedRichText text) := by
  obtain ⟨value, hvalue, hread⟩ := getRichText_storeRichText getUserInfo text h
  refine ⟨value, ?_, hread⟩
  rw [richTextField, hvalue, Option.map_some]

theorem optionalRichTextField_stored (name : String) {text : Option RichText} (h : OptionalComplete text) :
    ∃ value, optionalRichTextField getUserInfo name text = some (optionalField name value) ∧
      getRichText (value.getD .null) = .ok (clearedRichText text) := by
  cases text with
  | none => exact ⟨none, rfl, rfl⟩
  | some text =>
      obtain ⟨value, hvalue, hread⟩ := richTextField_stored getUserInfo name (show CompleteRichText (some text) from h)
      exact ⟨some value, hvalue, hread⟩

theorem getPageBlockCaption_store {caption : PageBlockCaption} (h : caption.Complete) :
    ∃ value, caption.store getUserInfo = some value ∧ getPageBlockCaption value = .ok (some caption.cleared) := by
  obtain ⟨text, htext, hread⟩ := richTextField_stored getUserInfo "text" h.1
  obtain ⟨credit, hcredit, hcreditRead⟩ := optionalRichTextField_stored getUserInfo "credit" h.2
  refine ⟨.object ([("text".toList, text)] ++ optionalField "credit" credit), ?_, ?_⟩
  · rw [PageBlockCaption.store, htext, hcredit]
    rfl
  · simp [getPageBlockCaption, extractField, hread, hcreditRead]
    rfl

theorem captionField_stored {caption : Option PageBlockCaption} (h : ∀ c ∈ caption, c.Complete) :
    ∃ value, captionField getUserInfo caption = some (optionalField "caption" value) ∧
      getPageBlockCaption (value.getD .null) = .ok (caption.map (·.cleared)) := by
  cases caption with
  | none => exact ⟨none, rfl, rfl⟩
  | some caption =>
      obtain ⟨value, hvalue, hread⟩ := getPageBlockCaption_store getUserInfo (h caption rfl)
      refine ⟨some value, ?_, hread⟩
      rw [captionField, hvalue]
      rfl

theorem getHorizontalAlignment_name (align : PageBlockHorizontalAlignment) (isHeader : Bool) :
    getHorizontalAlignment align.name.toList isHeader = .ok align := by
  cases align <;> simp [getHorizontalAlignment, PageBlockHorizontalAlignment.name]

theorem getVerticalAlignment_name (valign : PageBlockVerticalAlignment) :
    getVerticalAlignment valign.name.toList = .ok valign := by
  cases valign <;> simp [getVerticalAlignment, PageBlockVerticalAlignment.name]

theorem getPageBlockTableCell_store {cell : PageBlockTableCell} (h : OptionalComplete cell.text) :
    ∃ value, cell.store getUserInfo = some value ∧ getPageBlockTableCell value = .ok cell.cleared := by
  obtain ⟨text, htext, hread⟩ := optionalRichTextField_stored getUserInfo "text" h
  set fields : JsonFields := optionalField "text" text ++ flag "is_header" cell.isHeader ++
    span "colspan" cell.colspan ++ span "rowspan" cell.rowspan ++
    [JsonFields.text "align" cell.align.name.toList, JsonFields.text "valign" cell.valign.name.toList] with hfields
  have htextField : extractField fields "text" = text.getD .null := by
    simp [extractField, hfields, flag_eq, span_eq, JsonFields.text]
  have hheader : getOptionalBoolField fields "is_header" = .ok cell.isHeader :=
    getOptionalBoolField_of_flag (by simp [hfields, flag_eq, span_eq, JsonFields.text])
  have hcolspan : getOptionalIntField fields "colspan" = .ok (shownSpan cell.colspan) :=
    getOptionalIntField_of_span (by simp [hfields, flag_eq, span_eq, JsonFields.text])
  have hrowspan : getOptionalIntField fields "rowspan" = .ok (shownSpan cell.rowspan) :=
    getOptionalIntField_of_span (by simp [hfields, flag_eq, span_eq, JsonFields.text])
  have halign : getOptionalStringField fields "align" = .ok cell.align.name.toList := by
    simp [getOptionalStringField, hfields, flag_eq, span_eq, JsonFields.text, getString]
  have hvalign : getOptionalStringField fields "valign" = .ok cell.valign.name.toList := by
    simp [getOptionalStringField, hfields, flag_eq, span_eq, JsonFields.text, getString]
  refine ⟨.object fields, ?_, ?_⟩
  · rw [PageBlockTableCell.store, htext]
    rfl
  · rw [getPageBlockTableCell, htextField, hread, hheader, hcolspan, hrowspan, halign, hvalign]
    change (getHorizontalAlignment cell.align.name.toList cell.isHeader).bind _ = _
    rw [getHorizontalAlignment_name]
    change (getVerticalAlignment cell.valign.name.toList).bind _ = _
    rw [getVerticalAlignment_name]
    rfl

/-- The values of a list are stored and read one by one. -/
theorem mapM_stored {α β γ : Type} {store : α → Option β} {read : β → Except Status γ} {cleared : α → γ}
    {items : List α} (h : ∀ item ∈ items, ∃ value, store item = some value ∧ read value = .ok (cleared item)) :
    ∃ values, items.mapM store = some values ∧ values.mapM read = .ok (items.map cleared) := by
  induction items with
  | nil => exact ⟨[], rfl, rfl⟩
  | cons item items ih =>
      obtain ⟨hitem, hitems⟩ := List.forall_mem_cons.1 h
      obtain ⟨value, hstore, hread⟩ := hitem
      obtain ⟨values, hstores, hreads⟩ := ih hitems
      refine ⟨value :: values, ?_, ?_⟩
      · rw [List.mapM_cons, hstore, hstores]
        rfl
      · rw [List.mapM_cons, hread, hreads]
        rfl

theorem getTableRow_store {row : List PageBlockTableCell} (h : ∀ cell ∈ row, cell.Complete) :
    ∃ value, storeTableRow getUserInfo row = some value ∧
      getArray "PageBlockTableCell" getPageBlockTableCell value = .ok (row.map (·.cleared)) := by
  have hcell : ∀ cell ∈ row, ∃ value, PageBlockTableCell.store getUserInfo cell = some value ∧
      cantParse "PageBlockTableCell" (getPageBlockTableCell value) = .ok cell.cleared := by
    intro cell hmem
    obtain ⟨value, hstore, hread⟩ := getPageBlockTableCell_store getUserInfo (h cell hmem).1
    refine ⟨value, hstore, ?_⟩
    rw [hread, cantParse]
  obtain ⟨values, hstores, hreads⟩ := mapM_stored hcell
  refine ⟨.array values, ?_, hreads⟩
  rw [storeTableRow, hstores, Option.map_some]

theorem getTableRows_store {rows : List (List PageBlockTableCell)}
    (h : ∀ row ∈ rows, ∀ cell ∈ row, cell.Complete) :
    ∃ values, rows.mapM (storeTableRow getUserInfo) = some values ∧
      values.mapM (getArray "PageBlockTableCell" getPageBlockTableCell) =
        .ok (rows.map fun row => row.map (·.cleared)) :=
  mapM_stored fun row hmem => getTableRow_store getUserInfo (h row hmem)

end Parts

/-! ### Blocks -/

section Blocks

variable {Location Media InputMedia : Type}

mutual

/-- The block is of a kind without files and locations, no text is null that has to be there, and a list item
holds nothing that is not shown. -/
def PageBlock.Complete : PageBlock Location Media → Prop
  | .sectionHeading text _ | .paragraph text | .preformatted text _ | .footer text => CompleteRichText text
  | .divider | .mathematicalExpression _ | .anchor _ => True
  | .list items => CompleteListItems items
  | .blockQuote blocks credit => CompleteBlocks blocks ∧ OptionalComplete credit
  | .pullQuote text credit => CompleteRichText text ∧ OptionalComplete credit
  | .collage blocks caption | .slideshow blocks caption => CompleteBlocks blocks ∧ ∀ c ∈ caption, c.Complete
  | .table caption cells _ _ => OptionalComplete caption ∧ ∀ row ∈ cells, ∀ cell ∈ row, cell.Complete
  | .details header blocks _ => CompleteRichText header ∧ CompleteBlocks blocks
  | .animation .. | .audio .. | .photo .. | .video .. | .voiceNote .. | .map .. | .other => False

def CompleteBlocks : List (PageBlock Location Media) → Prop
  | [] => True
  | block :: blocks => block.Complete ∧ CompleteBlocks blocks

def CompleteListItem : PageBlockListItem (PageBlock Location Media) → Prop
  | ⟨_, blocks, hasCheckbox, isChecked, value, type⟩ =>
    CompleteBlocks blocks ∧ (isChecked = true → hasCheckbox = true) ∧ (type = [] → value = 0)

def CompleteListItems : List (PageBlockListItem (PageBlock Location Media)) → Prop
  | [] => True
  | item :: items => CompleteListItem item ∧ CompleteListItems items

end

mutual

/-- The input block of the same kind with the same contents, if there is one without files and locations. -/
def PageBlock.toInput : PageBlock Location Media → Option (InputPageBlock Location InputMedia)
  | .sectionHeading text size => some (.sectionHeading (clearedRichText text) size)
  | .paragraph text => some (.paragraph (clearedRichText text))
  | .preformatted text language => some (.preformatted (clearedRichText text) language)
  | .footer footer => some (.footer (clearedRichText footer))
  | .divider => some .divider
  | .mathematicalExpression expression => some (.mathematicalExpression expression)
  | .anchor name => some (.anchor name)
  | .list items => (listItemsToInput items).map .list
  | .blockQuote blocks credit => (blocksToInput blocks).map (.blockQuote · (clearedRichText credit))
  | .pullQuote text credit => some (.pullQuote (clearedRichText text) (clearedRichText credit))
  | .collage blocks caption => (blocksToInput blocks).map (.collage · (caption.map (·.cleared)))
  | .slideshow blocks caption => (blocksToInput blocks).map (.slideshow · (caption.map (·.cleared)))
  | .table caption cells isBordered isStriped =>
    some (.table (clearedRichText caption) (cells.map fun row => row.map (·.cleared)) isBordered isStriped)
  | .details header blocks isOpen => (blocksToInput blocks).map (.details (clearedRichText header) · isOpen)
  | .animation .. | .audio .. | .photo .. | .video .. | .voiceNote .. | .map .. | .other => none

def blocksToInput : List (PageBlock Location Media) → Option (List (InputPageBlock Location InputMedia))
  | [] => some []
  | block :: blocks => do
    let input ← block.toInput
    let inputs ← blocksToInput blocks
    return input :: inputs

def listItemToInput :
    PageBlockListItem (PageBlock Location Media) → Option (InputPageBlockListItem (InputPageBlock Location InputMedia))
  | ⟨_, blocks, hasCheckbox, isChecked, value, type⟩ =>
    (blocksToInput blocks).map (⟨·, hasCheckbox, isChecked, value, type⟩)

def listItemsToInput :
    List (PageBlockListItem (PageBlock Location Media)) →
      Option (List (InputPageBlockListItem (InputPageBlock Location InputMedia)))
  | [] => some []
  | item :: items => do
    let input ← listItemToInput item
    let inputs ← listItemsToInput items
    return input :: inputs

end

variable (getUserInfo : Int64 → Option RichUserInfo) (storeLocation : Location → JsonValue)
  (storeMedia : Media → JsonValue) (getLocation : JsonFields → Except Status Location)
  (getInputMedia : Slice → JsonFields → Except Status InputMedia)

theorem getInputPageBlocksField_eq (fields : JsonFields) (name : String) :
    getInputPageBlocksField getLocation getInputMedia fields name =
      getInputPageBlocks getLocation getInputMedia (extractField fields name) :=
  read_extractField (fun _ => by rw [getInputPageBlocksField, getInputPageBlocks])
    (fun _ _ _ _ => by rw [getInputPageBlocksField]) fields name

theorem getInputListItemsField_eq (fields : JsonFields) (name : String) :
    getInputListItemsField getLocation getInputMedia fields name =
      getInputListItems getLocation getInputMedia (extractField fields name) :=
  read_extractField (fun _ => by rw [getInputListItemsField, getInputListItems])
    (fun _ _ _ _ => by rw [getInputListItemsField]) fields name

/-- An object for a block is read by its type. -/
theorem getInputPageBlock_blockObject (type : String) (fields : JsonFields) :
    getInputPageBlock getLocation getInputMedia (blockObject type fields) =
      getTypedPageBlock getLocation getInputMedia type.toList (text "type" type.toList :: fields)
        (getInputListItems getLocation getInputMedia (extractField fields "items"))
        (getInputPageBlocks getLocation getInputMedia (extractField fields "blocks")) := by
  have htype : getRequiredStringField (text "type" type.toList :: fields) "type" = .ok type.toList := by
    simp [getRequiredStringField, JsonFields.text, getString]
  have hitems : extractField (text "type" type.toList :: fields) "items" = extractField fields "items" := by
    simp [extractField, JsonFields.text]
  have hblocks : extractField (text "type" type.toList :: fields) "blocks" = extractField fields "blocks" := by
    simp [extractField, JsonFields.text]
  unfold blockObject
  rw [getInputPageBlock, htype, getInputListItemsField_eq, getInputPageBlocksField_eq, hitems, hblocks]
  rfl

/-- The block is stored, it has an input block, and what is stored is read as the input block. -/
def BlockStored (block : PageBlock Location Media) : Prop :=
  ∃ value input, block.store getUserInfo storeLocation storeMedia = some value ∧ block.toInput = some input ∧
    getInputPageBlock getLocation getInputMedia value = .ok input

theorem getTypedPageBlock_details {value : JsonValue} {header : Option RichText}
    (hread : getRichText value = .ok header) (values : JsonValue) (isOpen : Bool)
    (items : Except Status (List (InputPageBlockListItem (InputPageBlock Location InputMedia))))
    (blocks : List (InputPageBlock Location InputMedia)) :
    getTypedPageBlock getLocation getInputMedia "details".toList
      (text "type" "details".toList :: ([("summary".toList, value)] ++ [("blocks".toList, values)] ++
        flag "is_open" isOpen)) items (.ok blocks) = .ok (.details header blocks isOpen) := by
  set fields := text "type" "details".toList :: ([("summary".toList, value)] ++ [("blocks".toList, values)] ++
    flag "is_open" isOpen) with hfields
  have hsummary : extractField fields "summary" = value := by
    simp [extractField, hfields, text]
  have hopen : getOptionalBoolField fields "is_open" = .ok isOpen :=
    getOptionalBoolField_of_flag (by simp [hfields, flag_eq, text])
  simp only [getTypedPageBlock, String.toList_inj, String.reduceEq, ↓reduceIte]
  rw [hsummary, hread, hopen]
  rfl

theorem getTypedPageBlock_table {values : List JsonValue} {cells : List (List PageBlockTableCell)}
    {captionValue : Option JsonValue} {caption : Option RichText}
    (hcellsRead : values.mapM (getArray "PageBlockTableCell" getPageBlockTableCell) = .ok cells)
    (hcaptionRead : getRichText (captionValue.getD .null) = .ok caption) (isBordered isStriped : Bool)
    (items : Except Status (List (InputPageBlockListItem (InputPageBlock Location InputMedia))))
    (blocks : Except Status (List (InputPageBlock Location InputMedia))) :
    getTypedPageBlock getLocation getInputMedia "table".toList
      (text "type" "table".toList :: (("cells".toList, .array values) :: optionalField "caption" captionValue ++
        flag "is_bordered" isBordered ++ flag "is_striped" isStriped)) items blocks =
      .ok (.table caption cells isBordered isStriped) := by
  set fields := text "type" "table".toList :: (("cells".toList, JsonValue.array values) ::
    optionalField "caption" captionValue ++ flag "is_bordered" isBordered ++ flag "is_striped" isStriped) with hfields
  have hcells : extractRequiredField fields "cells" .array = .ok (.array values) := by
    simp [extractRequiredField, hfields, text, JsonValue.type]
  have hcaption : extractField fields "caption" = captionValue.getD .null := by
    simp [extractField, hfields, flag_eq, text]
  have hbordered : getOptionalBoolField fields "is_bordered" = .ok isBordered :=
    getOptionalBoolField_of_flag (by simp [hfields, flag_eq, text])
  have hstriped : getOptionalBoolField fields "is_striped" = .ok isStriped :=
    getOptionalBoolField_of_flag (by simp [hfields, flag_eq, text])
  simp only [getTypedPageBlock, String.toList_inj, String.reduceEq, ↓reduceIte]
  rw [hcells, hcaption, hcaptionRead, hbordered, hstriped]
  change Except.bind (values.mapM _) _ = _
  rw [hcellsRead]
  rfl

/-- A list item that holds nothing that is not shown. -/
theorem listItemFields_eq {hasCheckbox isChecked : Bool} (hchecked : isChecked = true → hasCheckbox = true)
    (label : Slice) (blocks : JsonValue) (itemValue : Int32) (type : Slice) :
    listItemFields label blocks hasCheckbox isChecked itemValue type =
      [text "label" label, ("blocks".toList, blocks)] ++ flag "has_checkbox" hasCheckbox ++
        flag "is_checked" isChecked ++ nonEmpty "type" type ++
        optionalField "value" (if type = [] then none else some (.ofInt itemValue)) := by
  cases hasCheckbox <;> cases isChecked <;> cases type <;>
    simp_all [listItemFields, flag, nonEmpty, optionalField]

theorem getListItem_fields {Block : Type} {hasCheckbox isChecked : Bool} {itemValue : Int32} {type : Slice}
    (hchecked : isChecked = true → hasCheckbox = true) (hvalue : type = [] → itemValue = 0) (label : Slice)
    (values : JsonValue) (blocks : List Block) :
    getListItem (listItemFields label values hasCheckbox isChecked itemValue type) (.ok blocks) =
      .ok ⟨blocks, hasCheckbox, isChecked, itemValue, type⟩ := by
  set fields := listItemFields label values hasCheckbox isChecked itemValue type with hfields
  rw [listItemFields_eq hchecked] at hfields
  have hcheckbox : getOptionalBoolField fields "has_checkbox" = .ok hasCheckbox :=
    getOptionalBoolField_of_flag (by simp [hfields, flag_eq, nonEmpty_eq, text])
  have hisChecked : getOptionalBoolField fields "is_checked" = .ok isChecked :=
    getOptionalBoolField_of_flag (by simp [hfields, flag_eq, nonEmpty_eq, text])
  have htype : getOptionalStringField fields "type" = .ok type :=
    getOptionalStringField_of_nonEmpty (by simp [hfields, flag_eq, nonEmpty_eq, text])
  have hitem : getOptionalIntField fields "value" = .ok itemValue := by
    have hfield : getField fields "value" = if type = [] then none else some (.ofInt itemValue) := by
      simp [hfields, flag_eq, nonEmpty_eq, text]
    unfold getOptionalIntField
    rw [hfield]
    split_ifs with hempty
    · rw [hvalue hempty]
    · exact getInteger_ofInt "value" itemValue
  rw [getListItem, hcheckbox, hisChecked, hitem, htype]
  rfl

mutual

theorem getInputPageBlock_store (block : PageBlock Location Media) (h : block.Complete) :
    BlockStored getUserInfo storeLocation storeMedia getLocation getInputMedia block := by
  cases block with
  | animation | audio | photo | video | voiceNote | map | other => exact h.elim
  | sectionHeading text size =>
      obtain ⟨value, hstore, hread⟩ := richTextField_stored getUserInfo "text" h
      refine ⟨_, _, by rw [PageBlock.store, hstore]; rfl, rfl, ?_⟩
      rw [getInputPageBlock_blockObject]
      simp [getTypedPageBlock, extractField, getRequiredIntField, JsonFields.text, hread, bind, Except.bind, pure,
        Except.pure]
  | paragraph text | footer text =>
      obtain ⟨value, hstore, hread⟩ := richTextField_stored getUserInfo "text" h
      refine ⟨_, _, by rw [PageBlock.store, hstore]; rfl, rfl, ?_⟩
      rw [getInputPageBlock_blockObject]
      simp [getTypedPageBlock, extractField, JsonFields.text, hread]
  | preformatted text language =>
      obtain ⟨value, hstore, hread⟩ := richTextField_stored getUserInfo "text" h
      refine ⟨_, _, by rw [PageBlock.store, hstore]; rfl, rfl, ?_⟩
      set fields := JsonFields.text "type" "pre".toList :: ([("text".toList, value)] ++ nonEmpty "language" language)
        with hfields
      have htext : extractField fields "text" = value := by
        simp [extractField, hfields, JsonFields.text]
      have hlanguage : getOptionalStringField fields "language" = .ok language :=
        getOptionalStringField_of_nonEmpty (by simp [hfields, nonEmpty_eq, JsonFields.text])
      rw [getInputPageBlock_blockObject]
      simp only [getTypedPageBlock, String.toList_inj, String.reduceEq, ↓reduceIte]
      rw [htext, hread, hlanguage]
      rfl
  | divider =>
      refine ⟨_, _, rfl, rfl, ?_⟩
      rw [getInputPageBlock_blockObject]
      simp [getTypedPageBlock, pure, Except.pure]
  | mathematicalExpression content | anchor content =>
      refine ⟨_, _, rfl, rfl, ?_⟩
      rw [getInputPageBlock_blockObject]
      simp [getTypedPageBlock, getRequiredStringField, JsonFields.text, getString]
  | pullQuote text credit =>
      obtain ⟨value, hstore, hread⟩ := richTextField_stored getUserInfo "text" h.1
      obtain ⟨creditValue, hcredit, hcreditRead⟩ := optionalRichTextField_stored getUserInfo "credit" h.2
      refine ⟨_, _, by rw [PageBlock.store, hstore, hcredit]; rfl, rfl, ?_⟩
      rw [getInputPageBlock_blockObject]
      simp [getTypedPageBlock, extractField, JsonFields.text, hread, hcreditRead, bind, Except.bind, pure,
        Except.pure]
  | blockQuote blocks credit =>
      obtain ⟨values, inputs, hstores, hinputs, hreads⟩ := getInputPageBlocks_storeBlocks blocks h.1
      obtain ⟨creditValue, hcredit, hcreditRead⟩ := optionalRichTextField_stored getUserInfo "credit" h.2
      refine ⟨_, _, by rw [PageBlock.store, hstores, hcredit]; rfl, by rw [PageBlock.toInput, hinputs]; rfl, ?_⟩
      rw [getInputPageBlock_blockObject]
      simp [getTypedPageBlock, extractField, JsonFields.text, getInputPageBlocks, hreads, hcreditRead, bind,
        Except.bind, pure, Except.pure]
  | collage blocks caption | slideshow blocks caption =>
      obtain ⟨values, inputs, hstores, hinputs, hreads⟩ := getInputPageBlocks_storeBlocks blocks h.1
      obtain ⟨captionValue, hcaption, hcaptionRead⟩ := captionField_stored getUserInfo h.2
      refine ⟨_, _, by rw [PageBlock.store, hstores, hcaption]; rfl, by rw [PageBlock.toInput, hinputs]; rfl, ?_⟩
      rw [getInputPageBlock_blockObject]
      simp [getTypedPageBlock, extractField, JsonFields.text, getInputPageBlocks, hreads, hcaptionRead, bind,
        Except.bind, pure, Except.pure]
  | details header blocks isOpen =>
      obtain ⟨value, hstore, hread⟩ := richTextField_stored getUserInfo "summary" h.1
      obtain ⟨values, inputs, hstores, hinputs, hreads⟩ := getInputPageBlocks_storeBlocks blocks h.2
      refine ⟨_, _, by rw [PageBlock.store, hstore, hstores]; rfl, by rw [PageBlock.toInput, hinputs]; rfl, ?_⟩
      rw [getInputPageBlock_blockObject]
      have hblocks : extractField ([("summary".toList, value)] ++ [("blocks".toList, .array values)] ++
          flag "is_open" isOpen) "blocks" = .array values := by
        simp [extractField]
      rw [hblocks, getInputPageBlocks, hreads]
      exact getTypedPageBlock_details getLocation getInputMedia hread (.array values) isOpen _ inputs
  | table caption cells isBordered isStriped =>
      obtain ⟨values, hrows, hrowsRead⟩ := getTableRows_store getUserInfo h.2
      obtain ⟨captionValue, hcaption, hcaptionRead⟩ := optionalRichTextField_stored getUserInfo "caption" h.1
      refine ⟨_, _, by rw [PageBlock.store, hrows, hcaption]; rfl, rfl, ?_⟩
      rw [getInputPageBlock_blockObject]
      exact getTypedPageBlock_table getLocation getInputMedia hrowsRead hcaptionRead isBordered isStriped _ _
  | list items =>
      obtain ⟨values, inputs, hstores, hinputs, hreads⟩ := getInputListItems_storeListItems items h
      refine ⟨_, _, by rw [PageBlock.store, hstores]; rfl, by rw [PageBlock.toInput, hinputs]; rfl, ?_⟩
      rw [getInputPageBlock_blockObject]
      simp [getTypedPageBlock, extractField, getInputListItems, hreads]

theorem getInputListItem_storeListItem (item : PageBlockListItem (PageBlock Location Media))
    (h : CompleteListItem item) :
    ∃ value input, storeListItem getUserInfo storeLocation storeMedia item = some value ∧
      listItemToInput item = some input ∧ getInputPageBlockListItem getLocation getInputMedia value = .ok input := by
  obtain ⟨label, blocks, hasCheckbox, isChecked, itemValue, type⟩ := item
  obtain ⟨hblocks, hchecked, hvalue⟩ := h
  obtain ⟨values, inputs, hstores, hinputs, hreads⟩ := getInputPageBlocks_storeBlocks blocks hblocks
  refine ⟨_, _, by rw [storeListItem, hstores]; rfl, by rw [listItemToInput, hinputs]; rfl, ?_⟩
  have hfield : extractField (listItemFields label (.array values) hasCheckbox isChecked itemValue type) "blocks" =
      .array values := by
    rw [listItemFields_eq hchecked]
    simp [extractField, text]
  rw [getInputPageBlockListItem, getInputPageBlocksField_eq, hfield, getInputPageBlocks, hreads]
  exact getListItem_fields hchecked hvalue label (.array values) inputs

theorem getInputListItems_storeListItems (items : List (PageBlockListItem (PageBlock Location Media)))
    (h : CompleteListItems items) :
    ∃ values inputs, storeListItems getUserInfo storeLocation storeMedia items = some values ∧
      listItemsToInput items = some inputs ∧ getInputListItemArray getLocation getInputMedia values = .ok inputs := by
  cases items with
  | nil => exact ⟨[], [], rfl, rfl, rfl⟩
  | cons item items =>
      obtain ⟨value, input, hstore, hinput, hread⟩ := getInputListItem_storeListItem item h.1
      obtain ⟨values, inputs, hstores, hinputs, hreads⟩ := getInputListItems_storeListItems items h.2
      refine ⟨value :: values, input :: inputs, ?_, ?_, ?_⟩
      · rw [storeListItems, hstore, hstores]
        rfl
      · rw [listItemsToInput, hinput, hinputs]
        rfl
      · rw [getInputListItemArray, hread, hreads]
        rfl

theorem getInputPageBlocks_storeBlocks (blocks : List (PageBlock Location Media)) (h : CompleteBlocks blocks) :
    ∃ values inputs, storeBlocks getUserInfo storeLocation storeMedia blocks = some values ∧
      blocksToInput blocks = some inputs ∧ getInputPageBlockArray getLocation getInputMedia values = .ok inputs := by
  cases blocks with
  | nil => exact ⟨[], [], rfl, rfl, rfl⟩
  | cons block blocks =>
      obtain ⟨value, input, hstore, hinput, hread⟩ := getInputPageBlock_store block h.1
      obtain ⟨values, inputs, hstores, hinputs, hreads⟩ := getInputPageBlocks_storeBlocks blocks h.2
      refine ⟨value :: values, input :: inputs, ?_, ?_, ?_⟩
      · rw [storeBlocks, hstore, hstores]
        rfl
      · rw [blocksToInput, hinput, hinputs]
        rfl
      · rw [getInputPageBlockArray, hread, hreads]
        rfl

end

/-- A stored rich text is read back without what is derived in it, and a stored page block as its input block,
whose spans are those of the block up to zero and one. -/
theorem rich_messages_round_trip :
    (∀ t : RichText, t.Complete →
      ∃ value, t.store getUserInfo = some value ∧ getRichText value = .ok (some t.cleared)) ∧
    (∀ block : PageBlock Location Media, block.Complete →
      ∃ value input, block.store getUserInfo storeLocation storeMedia = some value ∧ block.toInput = some input ∧
        getInputPageBlock getLocation getInputMedia value = .ok input) ∧
    ∀ cell : PageBlockTableCell, cell.Complete →
      SameSpan cell.colspan cell.cleared.colspan ∧ SameSpan cell.rowspan cell.cleared.rowspan := by
  refine ⟨fun t h => ?_, fun block h => ?_, fun cell h => ?_⟩
  · exact getRichText_store getUserInfo t h
  · exact getInputPageBlock_store getUserInfo storeLocation storeMedia getLocation getInputMedia block h
  · exact ⟨sameSpan_shownSpan h.2.1, sameSpan_shownSpan h.2.2⟩

end Blocks

/-- A text with a date and a list with a checkbox. -/
theorem rich_messages_round_trip_list :
    let text : RichText := .texts [some (.hashtag (some (.plain ['#', 'a'])) ['a']),
      some (.dateTime (some (.plain ['b'])) 5 (some (.absolute (some .none) (some .short) true)))]
    let list : PageBlock Unit Unit := .list [⟨['1', '.'], [.paragraph (some text)], true, true, 3, ['1']⟩]
    let cleared : RichText := .texts [some (.hashtag (some (.plain ['#', 'a'])) []),
      some (.dateTime (some (.plain ['b'])) 5 (some (.absolute none (some .short) true)))]
    (∃ value, text.store (fun _ => none) = some value ∧ getRichText value = .ok (some cleared)) ∧
      ∃ value, list.store (fun _ => none) (fun _ => .null) (fun _ => .null) = some value ∧
        getInputPageBlock (fun _ => .ok ()) (fun _ _ => .ok ()) value =
          .ok (.list [⟨[.paragraph (some cleared)], true, true, 3, ['1']⟩] : InputPageBlock Unit Unit) := by
  intro text list cleared
  have htext : text.Complete := by
    simp [text, RichText.Complete, CompleteRichTexts, CompleteRichText, DateTimeFormattingType.Shown]
  have hlist : list.Complete := by
    simpa [list, PageBlock.Complete, CompleteListItems, CompleteListItem, CompleteBlocks, CompleteRichText] using htext
  obtain ⟨htexts, hblocks, -⟩ := rich_messages_round_trip (fun _ => none) (fun _ : Unit => .null)
    (fun _ : Unit => .null) (fun _ => .ok ()) (fun _ _ => .ok ())
  obtain ⟨value, input, hstore, hinput, hread⟩ := hblocks list hlist
  cases hinput
  exact ⟨htexts text htext, value, hstore, hread⟩

end TelegramBotApi
