import Mathlib.Algebra.Group.Int.Defs
import Mathlib.Data.List.Basic

/-! JSON values as the services build, publish and inspect them. -/

namespace OpenCord.Platform

/-- A JSON value. Integers are exact; any other number keeps its literal, since no modelled
function computes with it. An object lists its fields in writing order.

A string that the code makes of the plaintext token of an interaction is marked as such.
No function reads the mark; it is there to follow the copies of the token.
-/
inductive Json where
  | null
  | bool (value : Bool)
  | integer (value : Int)
  | float (literal : String)
  | string (value : String)
  | token (value : String)
  | array (items : List Json)
  | object (fields : List (String × Json))

namespace Json

/-- The field of an object under a key; any other value has no fields. -/
def get (value : Json) (key : String) : Option Json :=
  match value with
  | .object fields => (fields.find? fun field => field.1 == key).map Prod.snd
  | _ => none

/-- The text of a string value. -/
def asStr : Json → Option String
  | .string value => some value
  | .token value => some value
  | _ => none

/-- The text of a string value, copied as a value. -/
def asText (value : Json) : Option Json :=
  value.asStr.map fun _ => value

/-- The field of an object under a key, if it is a string, copied as a value. -/
def textAt (value : Json) (key : String) : Option Json :=
  (value.get key).bind asText

/-- The value of a number that fits a signed 64-bit integer. -/
def asI64 : Json → Option Int
  | .integer value => if -2 ^ 63 ≤ value ∧ value < 2 ^ 63 then some value else none
  | _ => none

/-- The value of a number that fits a signed 32-bit integer. -/
def asI32 (value : Json) : Option Int :=
  value.asI64.filter fun value => -2 ^ 31 ≤ value ∧ value < 2 ^ 31

/-- The value of a number that fits an unsigned 64-bit integer. -/
def asU64 : Json → Option Nat
  | .integer value => if 0 ≤ value ∧ value < 2 ^ 64 then some value.toNat else none
  | _ => none

def asBool : Json → Option Bool
  | .bool value => some value
  | _ => none

def isObject : Json → Bool
  | .object _ => true
  | _ => false

def asArray : Json → Option (List Json)
  | .array items => some items
  | _ => none

def isNull : Json → Bool
  | .null => true
  | _ => false

/-- The fields of an object. -/
def asObject : Json → Option (List (String × Json))
  | .object fields => some fields
  | _ => none

/-- An object with a field under a key, in place of the one it has there. -/
def insert (value : Json) (key : String) (field : Json) : Json :=
  match value with
  | .object fields =>
      if fields.any fun entry => entry.1 == key then
        .object (fields.map fun entry => if entry.1 == key then (key, field) else entry)
      else
        .object (fields ++ [(key, field)])
  | _ => value

/-- A field that is left out when there is nothing to write. -/
def optionalField (key : String) (value : Option Json) : List (String × Json) :=
  (value.map fun value => (key, value)).toList

/-- An optional text as a value, absent as null. -/
def ofOption (text : Option String) : Json :=
  match text with
  | some text => .string text
  | none => .null

-----------------------------------------------------------------------------------------
-- Fields
-----------------------------------------------------------------------------------------

@[simp] theorem get_nil (key : String) : (Json.object []).get key = none := rfl

@[simp] theorem get_cons (name : String) (field : Json) (fields : List (String × Json))
    (key : String)
    : (Json.object ((name, field) :: fields)).get key
        = if name = key then some field else (Json.object fields).get key := by
  by_cases same : name = key <;> simp [get, same]

/-- The first of two lists of fields is searched before the second. -/
@[simp] theorem get_append (fields others : List (String × Json)) (key : String)
    : (Json.object (fields ++ others)).get key
        = ((Json.object fields).get key).or ((Json.object others).get key) := by
  induction fields with
  | nil => rfl
  | cons entry fields ih =>
      rw [List.cons_append, get_cons, get_cons, ih]
      split <;> rfl

@[simp] theorem get_optionalField (name : String) (field : Option Json) (key : String)
    : (Json.object (optionalField name field)).get key = if name = key then field else none := by
  cases field with
  | none => exact (ite_self none).symm
  | some field => exact get_cons name field [] key

/-- A replaced field is found in place of the one before, by induction on the fields. -/
theorem get_replaced (fields : List (String × Json)) (name : String) (field : Json) (key : String)
    : (Json.object (fields.map fun entry => if entry.1 == name then (name, field) else entry)).get
          key
        = if name = key ∧ fields.any (fun entry => entry.1 == name) then some field
          else (Json.object fields).get key := by
  induction fields with
  | nil => simp
  | cons entry fields ih =>
      rcases entry with ⟨other, value⟩
      by_cases same : other = name
      · subst same
        simp only [List.map_cons, beq_self_eq_true, if_true, get_cons, List.any_cons, Bool.true_or,
          and_true]
        by_cases asked : other = key
        · rw [if_pos asked, if_pos asked]
        · rw [if_neg asked, if_neg asked, ih, if_neg fun found => asked found.1, if_neg asked]
      · have different : (other == name) = false := beq_eq_false_iff_ne.mpr same
        simp only [List.map_cons, different, Bool.false_eq_true, if_false, get_cons, ih,
          List.any_cons, Bool.false_or]
        by_cases asked : other = key
        · rw [if_pos asked, if_pos asked, if_neg fun found => same (asked.trans found.1.symm)]
        · rw [if_neg asked, if_neg asked]

@[simp] theorem isObject_object (fields : List (String × Json))
    : (Json.object fields).isObject = true := by
  simp only [isObject]

@[simp] theorem isObject_insert (value : Json) (name : String) (field : Json)
    : (value.insert name field).isObject = value.isObject := by
  cases value with
  | object fields =>
      rw [insert]
      split <;> rfl
  | _ => rfl

/-- An inserted field is found under its key, the others stay. -/
@[simp] theorem get_insert {value : Json} (isObject : value.isObject = true) (name : String)
    (field : Json) (key : String)
    : (value.insert name field).get key = if name = key then some field else value.get key := by
  cases value with
  | object fields =>
      rw [insert]
      split
      · next present =>
          rw [get_replaced]
          simp only [present, and_true]
      · next absent =>
          rw [get_append, get_cons, get_nil]
          by_cases same : name = key
          · subst same
            have missing : (Json.object fields).get name = none := by
              rw [get, Option.map_eq_none_iff, List.find?_eq_none]
              intro entry listed found
              exact absent (List.any_eq_true.mpr ⟨entry, listed, found⟩)
            rw [missing, Option.none_or]
          · rw [if_neg same, if_neg same, Option.or_none]
  | _ => cases isObject

-----------------------------------------------------------------------------------------
-- Marked strings
-----------------------------------------------------------------------------------------

mutual

/-- The marked strings inside a value. -/
def tokens : Json → List String
  | .token value => [value]
  | .array items => tokensOfItems items
  | .object fields => tokensOfFields fields
  | _ => []

def tokensOfItems : List Json → List String
  | [] => []
  | item :: items => item.tokens ++ tokensOfItems items

def tokensOfFields : List (String × Json) → List String
  | [] => []
  | field :: fields => field.2.tokens ++ tokensOfFields fields

end

@[simp] theorem tokens_null : Json.null.tokens = [] := rfl

@[simp] theorem tokens_bool (value : Bool) : (Json.bool value).tokens = [] := rfl

@[simp] theorem tokens_integer (value : Int) : (Json.integer value).tokens = [] := rfl

@[simp] theorem tokens_string (value : String) : (Json.string value).tokens = [] := rfl

@[simp] theorem tokens_token (value : String) : (Json.token value).tokens = [value] := rfl

@[simp] theorem tokens_ofOption (text : Option String) : (ofOption text).tokens = [] := by
  cases text <;> rfl

/-- The marked strings of an array are those of its items, by induction over them. -/
@[simp] theorem tokens_array (items : List Json)
    : (Json.array items).tokens = items.flatMap tokens := by
  rw [tokens]
  induction items with
  | nil => rfl
  | cons item items ih => rw [tokensOfItems, ih, List.flatMap_cons]

/-- The marked strings of an object are those of its fields, by induction over them. -/
@[simp] theorem tokens_object (fields : List (String × Json))
    : (Json.object fields).tokens = fields.flatMap fun field => field.2.tokens := by
  rw [tokens]
  induction fields with
  | nil => rfl
  | cons field fields ih => rw [tokensOfFields, ih, List.flatMap_cons]

/-- A field has no marked strings but those of its object. -/
theorem tokens_get {value field : Json} {key : String} (found : value.get key = some field)
    : field.tokens ⊆ value.tokens := by
  cases value with
  | object fields =>
      obtain ⟨entry, listed, rfl⟩ := Option.map_eq_some_iff.mp found
      intro token marked
      rw [tokens_object]
      exact List.mem_flatMap.mpr ⟨entry, List.mem_of_find?_eq_some listed, marked⟩
  | _ => cases found

/-- An item has no marked strings but those of its array. -/
theorem tokens_asArray {value item : Json} {items : List Json}
    (found : value.asArray = some items) (listed : item ∈ items)
    : item.tokens ⊆ value.tokens := by
  cases value with
  | array =>
      cases found
      intro token marked
      rw [tokens_array]
      exact List.mem_flatMap.mpr ⟨item, listed, marked⟩
  | _ => cases found

/-- A copied text has no marked strings but those of the value it was copied from. -/
theorem tokens_asText {value text : Json} (copied : value.asText = some text)
    : text.tokens ⊆ value.tokens := by
  obtain ⟨_, _, rfl⟩ := Option.map_eq_some_iff.mp copied
  exact List.Subset.refl _

theorem tokens_textAt {value text : Json} {key : String} (copied : value.textAt key = some text)
    : text.tokens ⊆ value.tokens := by
  obtain ⟨field, found, copied⟩ := Option.bind_eq_some_iff.mp copied
  exact List.Subset.trans (tokens_asText copied) (tokens_get found)

/-- An optional field brings the marked strings of its value. -/
theorem tokens_optionalField {key : String} {value : Option Json} {allowed : List String}
    (within : ∀ written, value = some written → written.tokens ⊆ allowed)
    : (optionalField key value).flatMap (fun field => field.2.tokens) ⊆ allowed := by
  cases value with
  | none => exact List.nil_subset _
  | some written =>
      simp only [optionalField, Option.map_some, Option.toList_some, List.flatMap_cons,
        List.flatMap_nil, List.append_nil]
      exact within written rfl

/-- An optional text as a field brings no marked strings. -/
@[simp] theorem tokens_optionalField_string (key : String) (text : Option String)
    : (optionalField key (text.map .string)).flatMap (fun field => field.2.tokens) = [] := by
  cases text <;> rfl

@[simp] theorem tokens_optionalField_integer (key : String) (number : Option Int)
    : (optionalField key (number.map .integer)).flatMap (fun field => field.2.tokens) = [] := by
  cases number <;> rfl

/-- A field is smaller than its object. -/
theorem sizeOf_get {value field : Json} {key : String} (found : value.get key = some field)
    : sizeOf field < sizeOf value := by
  cases value with
  | object fields =>
      obtain ⟨entry, listed, rfl⟩ := Option.map_eq_some_iff.mp found
      have smaller := List.sizeOf_lt_of_mem (List.mem_of_find?_eq_some listed)
      simp only [Json.object.sizeOf_spec]
      rcases entry with ⟨name, value⟩
      simp only [Prod.mk.sizeOf_spec] at smaller ⊢
      omega
  | _ => cases found

end Json

/-- A value without marked strings, such as clients send and stores keep. -/
structure PlainJson where
  value : Json
  plain : value.tokens = []

attribute [simp] PlainJson.plain

namespace PlainJson

def string (value : String) : PlainJson := ⟨.string value, rfl⟩

def integer (value : Int) : PlainJson := ⟨.integer value, rfl⟩

def bool (value : Bool) : PlainJson := ⟨.bool value, rfl⟩

def array (items : List PlainJson) : PlainJson where
  value := .array (items.map PlainJson.value)
  plain := by
    rw [Json.tokens_array, List.flatMap_eq_nil_iff]
    intro value listed
    obtain ⟨item, _, rfl⟩ := List.mem_map.mp listed
    exact item.plain

def object (fields : List (String × PlainJson)) : PlainJson where
  value := .object (fields.map fun field => (field.1, field.2.value))
  plain := by
    rw [Json.tokens_object, List.flatMap_eq_nil_iff]
    intro entry listed
    obtain ⟨field, _, rfl⟩ := List.mem_map.mp listed
    exact field.2.plain

end PlainJson

end OpenCord.Platform
