import TelegramBotApi.JsonDecode

/-!
# Fields of JSON objects

The accessors of `td::JsonObject`, and the values that `td::JsonBuilder` stores for numbers. The fields of an
object are a list, in which the first one of a name counts. A field that was extracted once is not asked for
again by the callers here.
-/

namespace TelegramBotApi

inductive JsonValueType where
  | null
  | number
  | boolean
  | string
  | array
  | object
  deriving DecidableEq

namespace JsonValueType

def name : JsonValueType → String
  | .null => "Null"
  | .number => "Number"
  | .boolean => "Boolean"
  | .string => "String"
  | .array => "Array"
  | .object => "Object"

end JsonValueType

namespace JsonValue

def type : JsonValue → JsonValueType
  | .null => .null
  | .boolean _ => .boolean
  | .number _ => .number
  | .string _ => .string
  | .array _ => .array
  | .object _ => .object

def ofInt (value : Int32) : JsonValue := .number (toString value.toInt).toList

def ofLong (value : Int64) : JsonValue := .number (toString value.toInt).toList

end JsonValue

abbrev JsonFields := List (Slice × JsonValue)

namespace JsonFields

def missing (name : String) : Status := ⟨400, "Can't find field \"" ++ name ++ "\""⟩

def mustBe (name text : String) : Status := ⟨400, "Field \"" ++ name ++ "\" must be " ++ text⟩

def getField : JsonFields → String → Option JsonValue
  | [], _ => none
  | (field, value) :: fields, name => if field = name.toList then some value else getField fields name

variable (fields : JsonFields) (name : String)

def extractField : JsonValue := (getField fields name).getD .null

def extractRequiredField (type : JsonValueType) : Except Status JsonValue :=
  match getField fields name with
  | none => .error (missing name)
  | some value =>
    if type ≠ .null ∧ value.type ≠ type then .error (mustBe name ("of type " ++ type.name)) else .ok value

def getOptionalBoolField : Except Status Bool :=
  match getField fields name with
  | none => .ok false
  | some (.boolean value) => .ok value
  | some _ => .error (mustBe name "of type Boolean")

/-- `get_integer_field`, for the values that may hold a number. -/
def getInteger {α : Type} (toIntegerSafe : Slice → Option α) (name : String) : JsonValue → Except Status α
  | .string text | .number text =>
    match toIntegerSafe text with
    | none => .error (mustBe name "a valid Number")
    | some value => .ok value
  | _ => .error (mustBe name "a Number")

def toInt32Field (text : Slice) : Option Int32 := (toInt32Safe text).map Int32.ofInt

def toInt64Field (text : Slice) : Option Int64 := (toIntegerSafe text).map Int64.ofInt

def getOptionalIntField : Except Status Int32 :=
  match getField fields name with
  | none => .ok 0
  | some value => getInteger toInt32Field name value

def getRequiredIntField : Except Status Int32 :=
  match getField fields name with
  | none => .error (missing name)
  | some value => getInteger toInt32Field name value

def getRequiredLongField : Except Status Int64 :=
  match getField fields name with
  | none => .error (missing name)
  | some value => getInteger toInt64Field name value

def getString (name : String) : JsonValue → Except Status Slice
  | .string text | .number text => .ok text
  | _ => .error (mustBe name "of type String")

def getOptionalStringField : Except Status Slice :=
  match getField fields name with
  | none => .ok []
  | some value => getString name value

def getRequiredStringField : Except Status Slice :=
  match getField fields name with
  | none => .error (missing name)
  | some value => getString name value

/-! ### Fields by name -/

@[simp] theorem getField_nil (name : String) : getField [] name = none := rfl

@[simp] theorem getField_cons (field : Slice) (value : JsonValue) (fields : JsonFields) (name : String) :
    getField ((field, value) :: fields) name = if field = name.toList then some value else getField fields name := rfl

@[simp] theorem getField_append (fields fields' : JsonFields) (name : String) :
    getField (fields ++ fields') name = (getField fields name).or (getField fields' name) := by
  induction fields with
  | nil => rfl
  | cons field fields ih =>
      obtain ⟨key, value⟩ := field
      rw [List.cons_append, getField_cons, getField_cons]
      split_ifs with heq
      · rfl
      · exact ih

/-- To read the fields of an object up to a name is to read the extracted field. -/
theorem read_extractField {α : Type} {read : JsonValue → α} {readField : JsonFields → String → α}
    (hnil : ∀ name, readField [] name = read .null)
    (hcons : ∀ field value fields name, readField ((field, value) :: fields) name =
      if field = name.toList then read value else readField fields name) (fields : JsonFields) (name : String) :
    readField fields name = read (extractField fields name) := by
  induction fields with
  | nil => exact hnil name
  | cons field fields ih =>
      obtain ⟨key, value⟩ := field
      unfold extractField at ih ⊢
      rw [hcons, getField_cons]
      split_ifs with heq
      · rfl
      · exact ih

end JsonFields

/-! ### Numbers are read back -/

theorem toInt32Field_intText (value : Int32) : JsonFields.toInt32Field (toString value.toInt).toList = some value := by
  unfold JsonFields.toInt32Field toInt32Safe
  simp only [toInt32_intText value.le_toInt value.toInt_lt, if_true, Option.map_some, Int32.ofInt_toInt]

theorem toInt64Field_intText (value : Int64) : JsonFields.toInt64Field (toString value.toInt).toList = some value := by
  unfold JsonFields.toInt64Field toIntegerSafe
  simp only [toInteger_intText value.le_toInt value.toInt_lt, if_true, Option.map_some, Int64.ofInt_toInt]

namespace JsonFields

@[simp] theorem getInteger_ofInt (name : String) (value : Int32) :
    getInteger toInt32Field name (JsonValue.ofInt value) = .ok value := by
  simp only [getInteger, JsonValue.ofInt, toInt32Field_intText]

@[simp] theorem getInteger_ofLong (name : String) (value : Int64) :
    getInteger toInt64Field name (JsonValue.ofLong value) = .ok value := by
  simp only [getInteger, JsonValue.ofLong, toInt64Field_intText]

@[simp] theorem getInteger_longText (name : String) (value : Int64) :
    getInteger toInt64Field name (.string (toString value.toInt).toList) = .ok value := by
  simp only [getInteger, toInt64Field_intText]

end JsonFields

end TelegramBotApi
