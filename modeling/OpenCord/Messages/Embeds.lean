import OpenCord.Messages.Message

/-! Embeds of messages: what clients may send, and how it is stored. -/

namespace OpenCord.Messages

open OpenCord.Library OpenCord.Platform

namespace MessageService

/-- A field that is left out when there is nothing to write. -/
def optionalEntry (key : String) (value : Option PlainJson) : List (String × PlainJson) :=
  (value.map fun value => (key, value)).toList

def isHttpUrl (value : String) : Bool :=
  value.utf8ByteSize ≤ 2048
    ∧ (Text.startsWith value "https://" ∨ Text.startsWith value "http://")

-----------------------------------------------------------------------------------------
-- Fields of embeds
-----------------------------------------------------------------------------------------

/-- A text under a key, trimmed, if it is there and not empty. -/
def optionalText (object : Json) (key : String) (accepts : String → Bool) (message : String)
    : Except MessageError (Option String) :=
  match object.get key with
  | none => .ok none
  | some value =>
      if value.isNull then
        .ok none
      else
        match value.asStr with
        | none => .error (.invalidInput message)
        | some value =>
            let value := Text.trim value
            if value = "" then
              .ok none
            else if accepts value then
              .ok (some value)
            else
              .error (.invalidInput message)

def optionalEmbedText (object : Json) (key : String) (maxChars : Nat) (message : String)
    : Except MessageError (Option String) :=
  optionalText object key (fun value => value.length ≤ maxChars) message

def optionalEmbedUrl (object : Json) (key message : String)
    : Except MessageError (Option String) :=
  optionalText object key isHttpUrl message

/-- A text that has to be there. -/
def requiredEmbedText (object : Json) (key : String) (maxChars : Nat)
    (message required : String) : Except MessageError String := do
  match ← optionalEmbedText object key maxChars message with
  | some text => return text
  | none => throw (.invalidInput required)

/-- A timestamp in RFC 3339, as the instant is written in UTC with milliseconds. -/
def optionalEmbedTimestamp (toUtcMillis : String → Option String) (object : Json)
    : Except MessageError (Option String) :=
  match object.get "timestamp" with
  | none => .ok none
  | some value =>
      if value.isNull then
        .ok none
      else
        match value.asStr.bind fun text => toUtcMillis (Text.trim text) with
        | none => .error (.invalidInput "embed timestamp must be RFC3339")
        | some timestamp => .ok (some timestamp)

def optionalEmbedColor (object : Json) : Except MessageError (Option Nat) :=
  match object.get "color" with
  | none => .ok none
  | some value =>
      if value.isNull then
        .ok none
      else
        match value.asU64.filter fun color => color ≤ 0xFFFFFF with
        | none =>
            .error (.invalidInput "embed color must be an integer between 0 and 16777215")
        | some color => .ok (some color)

/-- All keys of an object are among the given ones. -/
def hasOnlyKeys (fields : List (String × Json)) (keys : List String) : Bool :=
  fields.all fun field => field.1 ∈ keys

/-- An object with the given keys, if there is one under a key. -/
def optionalObject (object : Json) (key : String) (keys : List String)
    (notObject unsupported : String) : Except MessageError (Option Json) :=
  match object.get key with
  | none => .ok none
  | some value =>
      if value.isNull then
        .ok none
      else
        match value.asObject with
        | none => .error (.invalidInput notObject)
        | some fields =>
            if hasOnlyKeys fields keys then
              .ok (some value)
            else
              .error (.invalidInput unsupported)

/-- The footer, and the length of the text counted so far with it. -/
def optionalEmbedFooter (object : Json) (totalText : Nat)
    : Except MessageError (Option PlainJson × Nat) := do
  match ← optionalObject object "footer" ["text", "icon_url"] "embed footer must be an object"
      "embed footer contains unsupported fields" with
  | none => return (none, totalText)
  | some footer =>
      let text ← requiredEmbedText footer "text" 2048
        "embed footer text must be 2048 characters or fewer" "embed footer text is required"
      let iconUrl ← optionalEmbedUrl footer "icon_url"
        "embed footer icon_url must be an HTTP or HTTPS URL up to 2048 characters"
      return (some (.object ([("text", .string text)]
        ++ optionalEntry "icon_url" (iconUrl.map .string))), totalText + text.length)

def embedMediaUrlMessage (label : String) : String :=
  if label = "embed image" then
    "embed image url must be an HTTP or HTTPS URL up to 2048 characters"
  else if label = "embed thumbnail" then
    "embed thumbnail url must be an HTTP or HTTPS URL up to 2048 characters"
  else
    "embed media url must be an HTTP or HTTPS URL up to 2048 characters"

def optionalEmbedMedia (object : Json) (key label : String)
    : Except MessageError (Option PlainJson) := do
  match ← optionalObject object key ["url"] "embed media must be an object"
      "embed media contains unsupported fields" with
  | none => return none
  | some media =>
      match ← optionalEmbedUrl media "url" (embedMediaUrlMessage label) with
      | some url => return some (.object [("url", .string url)])
      | none => throw (.invalidInput (embedMediaUrlMessage label))

def optionalEmbedAuthor (object : Json) (totalText : Nat)
    : Except MessageError (Option PlainJson × Nat) := do
  match ← optionalObject object "author" ["name", "url", "icon_url"]
      "embed author must be an object" "embed author contains unsupported fields" with
  | none => return (none, totalText)
  | some author =>
      let name ← requiredEmbedText author "name" 256
        "embed author name must be 256 characters or fewer" "embed author name is required"
      let url ← optionalEmbedUrl author "url"
        "embed author url must be an HTTP or HTTPS URL up to 2048 characters"
      let iconUrl ← optionalEmbedUrl author "icon_url"
        "embed author icon_url must be an HTTP or HTTPS URL up to 2048 characters"
      return (some (.object ([("name", .string name)]
        ++ optionalEntry "url" (url.map .string)
        ++ optionalEntry "icon_url" (iconUrl.map .string))), totalText + name.length)

/-- Whether a field stands beside others. -/
def embedFieldInline (field : Json) : Except MessageError Bool :=
  match field.get "inline" with
  | some (.bool inline) => .ok inline
  | some .null => .ok false
  | none => .ok false
  | some _ => .error (.invalidInput "embed field inline must be a boolean")

def embedField (field : Json) : Except MessageError (PlainJson × Nat) :=
  match field.asObject with
  | none => .error (.invalidInput "embed fields must contain objects")
  | some entries =>
      if hasOnlyKeys entries ["name", "value", "inline"] then do
        let name ← requiredEmbedText field "name" 256
          "embed field name must be 256 characters or fewer" "embed field name is required"
        let value ← requiredEmbedText field "value" 1024
          "embed field value must be 1024 characters or fewer" "embed field value is required"
        let inline ← embedFieldInline field
        return (.object [("name", .string name), ("value", .string value),
          ("inline", .bool inline)], name.length + value.length)
      else
        .error (.invalidInput "embed fields contain unsupported fields")

def embedFields : List Json → Nat → Except MessageError (List PlainJson × Nat)
  | [], totalText => return ([], totalText)
  | field :: fields, totalText => do
      let (normalized, length) ← embedField field
      let (others, totalText) ← embedFields fields (totalText + length)
      return (normalized :: others, totalText)

def optionalEmbedFields (object : Json) (totalText : Nat)
    : Except MessageError (Option PlainJson × Nat) :=
  match object.get "fields" with
  | none => .ok (none, totalText)
  | some value =>
      if value.isNull then
        .ok (none, totalText)
      else
        match value.asArray with
        | none => .error (.invalidInput "embed fields must be an array")
        | some fields =>
            if 25 < fields.length then
              .error (.invalidInput "embed fields must contain 25 or fewer fields")
            else do
              let (normalized, totalText) ← embedFields fields totalText
              return (some (.array normalized), totalText)

/-- The type of an embed may only be given as the one that it gets. -/
def checkEmbedType (object : Json) : Except MessageError Unit :=
  match object.get "type" with
  | none => .ok ()
  | some value =>
      if value.asStr.any fun embedType => Text.trim embedType = "rich" then
        .ok ()
      else
        .error (.invalidInput "embed type must be rich")

-----------------------------------------------------------------------------------------
-- Embeds
-----------------------------------------------------------------------------------------

def supportedEmbedKeys : List String :=
  ["title", "type", "description", "url", "timestamp", "color", "footer", "image", "thumbnail",
    "author", "fields"]

/-- The fields that an embed is stored with, and the length of its texts. -/
def normalizedEmbedFields (toUtcMillis : String → Option String) (object : Json)
    : Except MessageError (List (String × PlainJson) × Nat) := do
  let title ← optionalEmbedText object "title" 256 "embed title must be 256 characters or fewer"
  checkEmbedType object
  let description ← optionalEmbedText object "description" 4096
    "embed description must be 4096 characters or fewer"
  let url ← optionalEmbedUrl object "url"
    "embed url must be an HTTP or HTTPS URL up to 2048 characters"
  let timestamp ← optionalEmbedTimestamp toUtcMillis object
  let color ← optionalEmbedColor object
  let totalText := (title.map String.length).getD 0 + (description.map String.length).getD 0
  let (footer, totalText) ← optionalEmbedFooter object totalText
  let image ← optionalEmbedMedia object "image" "embed image"
  let thumbnail ← optionalEmbedMedia object "thumbnail" "embed thumbnail"
  let (author, totalText) ← optionalEmbedAuthor object totalText
  let (fields, totalText) ← optionalEmbedFields object totalText
  return (optionalEntry "title" (title.map .string) ++ [("type", .string "rich")]
    ++ optionalEntry "description" (description.map .string)
    ++ optionalEntry "url" (url.map .string) ++ optionalEntry "timestamp" (timestamp.map .string)
    ++ optionalEntry "color" (color.map fun color => .integer color)
    ++ optionalEntry "footer" footer ++ optionalEntry "image" image
    ++ optionalEntry "thumbnail" thumbnail ++ optionalEntry "author" author
    ++ optionalEntry "fields" fields, totalText)

def normalizeEmbed (toUtcMillis : String → Option String) (embed : PlainJson)
    : Except MessageError PlainJson :=
  match embed.value.asObject with
  | none => .error (.invalidInput "message embeds must be objects")
  | some entries =>
      if hasOnlyKeys entries supportedEmbedKeys then do
        let (normalized, totalText) ← normalizedEmbedFields toUtcMillis embed.value
        if normalized.length = 1 then
          throw (.invalidInput "message embeds must include at least one supported field")
        else if 6000 < totalText then
          throw (.invalidInput "embed total text must be 6000 characters or fewer")
        else
          return .object normalized
      else
        .error (.invalidInput "message embeds contain unsupported fields")

def normalizeEmbeds (toUtcMillis : String → Option String) (embeds : List PlainJson)
    : Except MessageError (List PlainJson) :=
  if 10 < embeds.length then
    .error (.invalidInput "message embeds must contain 10 or fewer embeds")
  else
    embeds.mapM (normalizeEmbed toUtcMillis)

-----------------------------------------------------------------------------------------
-- What is stored
-----------------------------------------------------------------------------------------

theorem hasOnlyKeys_append {fields others : List (String × Json)} {keys : List String}
    : hasOnlyKeys (fields ++ others) keys = (hasOnlyKeys fields keys && hasOnlyKeys others keys) :=
  List.all_append

theorem hasOnlyKeys_optionalEntry {key : String} {keys : List String} (supported : key ∈ keys)
    (value : Option PlainJson)
    : hasOnlyKeys ((optionalEntry key value).map fun field => (field.1, field.2.value)) keys
        = true := by
  cases value with
  | none => rfl
  | some value => simp [hasOnlyKeys, optionalEntry, supported]

/-- The fields that an embed is stored with are supported ones. -/
theorem hasOnlyKeys_normalizedEmbedFields {toUtcMillis : String → Option String} {object : Json}
    {fields : List (String × PlainJson)} {totalText : Nat}
    (normalized : normalizedEmbedFields toUtcMillis object = .ok (fields, totalText))
    : hasOnlyKeys (fields.map fun field => (field.1, field.2.value)) supportedEmbedKeys
        = true := by
  obtain ⟨title, _, normalized⟩ := Eff.check_bind_eq_ok.mp normalized
  obtain ⟨_, _, normalized⟩ := Eff.check_bind_eq_ok.mp normalized
  obtain ⟨description, _, normalized⟩ := Eff.check_bind_eq_ok.mp normalized
  obtain ⟨url, _, normalized⟩ := Eff.check_bind_eq_ok.mp normalized
  obtain ⟨timestamp, _, normalized⟩ := Eff.check_bind_eq_ok.mp normalized
  obtain ⟨color, _, normalized⟩ := Eff.check_bind_eq_ok.mp normalized
  obtain ⟨⟨footer, _⟩, _, normalized⟩ := Eff.check_bind_eq_ok.mp normalized
  obtain ⟨image, _, normalized⟩ := Eff.check_bind_eq_ok.mp normalized
  obtain ⟨thumbnail, _, normalized⟩ := Eff.check_bind_eq_ok.mp normalized
  obtain ⟨⟨author, _⟩, _, normalized⟩ := Eff.check_bind_eq_ok.mp normalized
  obtain ⟨⟨fields, _⟩, _, normalized⟩ := Eff.check_bind_eq_ok.mp normalized
  cases normalized
  have embedType : hasOnlyKeys [("type", (PlainJson.string "rich").value)] supportedEmbedKeys
      = true := by decide
  simp only [List.map_append, List.map_cons, List.map_nil, hasOnlyKeys_append, Bool.and_eq_true,
    embedType, and_true]
  refine ⟨⟨⟨⟨⟨⟨⟨⟨⟨?_, ?_⟩, ?_⟩, ?_⟩, ?_⟩, ?_⟩, ?_⟩, ?_⟩, ?_⟩, ?_⟩ <;>
    exact hasOnlyKeys_optionalEntry (by decide) _

end MessageService

end OpenCord.Messages
