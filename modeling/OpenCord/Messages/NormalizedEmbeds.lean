import OpenCord.Library.Failures
import OpenCord.Messages.Embeds

/-! Embeds as they are stored. What the normalization answers are the records below, which carry
their limits, and the normalization answers each record with itself.
-/

namespace OpenCord.Messages

open OpenCord.Library OpenCord.Library.Text OpenCord.Platform

-----------------------------------------------------------------------------------------
-- Stored embeds
-----------------------------------------------------------------------------------------

/-- A text without whitespace at its ends that is not empty and passes a check. -/
structure EmbedText (accepts : String → Bool) where
  text : String
  trimmed : Trimmed text.toList
  nonempty : text ≠ ""
  accepted : accepts text = true

/-- A text of a limited number of characters. -/
abbrev BoundedText (maxChars : Nat) := EmbedText fun text => text.length ≤ maxChars

abbrev EmbedUrl := EmbedText MessageService.isHttpUrl

/-- The text of an instant that is read and written as itself. -/
abbrev EmbedTimestamp (toUtcMillis : String → Option String) :=
  EmbedText fun text => toUtcMillis text = some text

structure EmbedFooter where
  text : BoundedText 2048
  iconUrl : Option EmbedUrl

structure EmbedMedia where
  url : EmbedUrl

structure EmbedAuthor where
  name : BoundedText 256
  url : Option EmbedUrl
  iconUrl : Option EmbedUrl

structure EmbedField where
  name : BoundedText 256
  value : BoundedText 1024
  inline : Bool

/-- The fields of an embed before its limits on the whole. -/
structure EmbedParts (toUtcMillis : String → Option String) where
  title : Option (BoundedText 256)
  description : Option (BoundedText 4096)
  url : Option EmbedUrl
  timestamp : Option (EmbedTimestamp toUtcMillis)
  color : Option { color : Nat // color ≤ 0xFFFFFF }
  footer : Option EmbedFooter
  image : Option EmbedMedia
  thumbnail : Option EmbedMedia
  author : Option EmbedAuthor
  fields : Option { fields : List EmbedField // fields.length ≤ 25 }

section

variable {accepts : String → Bool} {toUtcMillis : String → Option String}

def EmbedText.toJson (text : EmbedText accepts) : PlainJson := .string text.text

def EmbedText.length (text : EmbedText accepts) : Nat := text.text.length

def EmbedFooter.toJson (footer : EmbedFooter) : PlainJson :=
  .object ([("text", footer.text.toJson)]
    ++ MessageService.optionalEntry "icon_url" (footer.iconUrl.map EmbedText.toJson))

def EmbedMedia.toJson (media : EmbedMedia) : PlainJson := .object [("url", media.url.toJson)]

def EmbedAuthor.toJson (author : EmbedAuthor) : PlainJson :=
  .object ([("name", author.name.toJson)]
    ++ MessageService.optionalEntry "url" (author.url.map EmbedText.toJson)
    ++ MessageService.optionalEntry "icon_url" (author.iconUrl.map EmbedText.toJson))

def EmbedField.toJson (field : EmbedField) : PlainJson :=
  .object [("name", field.name.toJson), ("value", field.value.toJson),
    ("inline", .bool field.inline)]

def EmbedField.length (field : EmbedField) : Nat := field.name.length + field.value.length

/-- A length that counts only if there is something. -/
def optionalLength {α : Type} (length : α → Nat) (value : Option α) : Nat :=
  (value.map length).getD 0

/-- The number of characters in a list of fields. -/
def fieldsLength (fields : List EmbedField) : Nat := (fields.map EmbedField.length).sum

namespace EmbedParts

/-- The fields under their keys; the type is always there. -/
def entries (parts : EmbedParts toUtcMillis) : List (String × PlainJson) :=
  MessageService.optionalEntry "title" (parts.title.map EmbedText.toJson)
    ++ [("type", .string "rich")]
    ++ MessageService.optionalEntry "description" (parts.description.map EmbedText.toJson)
    ++ MessageService.optionalEntry "url" (parts.url.map EmbedText.toJson)
    ++ MessageService.optionalEntry "timestamp" (parts.timestamp.map EmbedText.toJson)
    ++ MessageService.optionalEntry "color" (parts.color.map fun color => .integer color.val)
    ++ MessageService.optionalEntry "footer" (parts.footer.map EmbedFooter.toJson)
    ++ MessageService.optionalEntry "image" (parts.image.map EmbedMedia.toJson)
    ++ MessageService.optionalEntry "thumbnail" (parts.thumbnail.map EmbedMedia.toJson)
    ++ MessageService.optionalEntry "author" (parts.author.map EmbedAuthor.toJson)
    ++ MessageService.optionalEntry "fields"
      (parts.fields.map fun fields => .array (fields.val.map EmbedField.toJson))

/-- The number of characters in the title, the description, the footer, the author and the
fields.
-/
def totalText (parts : EmbedParts toUtcMillis) : Nat :=
  optionalLength EmbedText.length parts.title + optionalLength EmbedText.length parts.description
    + optionalLength (fun footer => footer.text.length) parts.footer
    + optionalLength (fun author => author.name.length) parts.author
    + optionalLength (fun fields => fieldsLength fields.val) parts.fields

end EmbedParts

/-- A stored embed has something besides its type, and not too much text. -/
structure Embed (toUtcMillis : String → Option String) extends EmbedParts toUtcMillis where
  furtherKey : 2 ≤ toEmbedParts.entries.length
  withinTotal : toEmbedParts.totalText ≤ 6000

def Embed.toJson (embed : Embed toUtcMillis) : PlainJson := .object embed.toEmbedParts.entries

end

namespace MessageService

-----------------------------------------------------------------------------------------
-- Texts
-----------------------------------------------------------------------------------------

/-- What is written of an object, as it is inspected. -/
@[simp] theorem value_object (fields : List (String × PlainJson))
    : (PlainJson.object fields).value
      = .object (fields.map fun field => (field.1, field.2.value)) := rfl

@[simp] theorem get_optionalEntry (name key : String) (value : Option PlainJson)
    : (Json.object ((optionalEntry name value).map fun field => (field.1, field.2.value))).get key
        = if name = key then value.map PlainJson.value else none := by
  cases value with
  | none => exact (ite_self none).symm
  | some value => exact Json.get_cons name value.value [] key

variable {accepts : String → Bool} {object : Json} {key message required : String}
  {toUtcMillis : String → Option String}

/-- A text that is accepted is a stored one. -/
theorem exists_of_optionalText {found : Option String}
    (read : optionalText object key accepts message = .ok found)
    : ∃ text : Option (EmbedText accepts), found = text.map EmbedText.text := by
  rw [optionalText] at read
  split at read
  · cases read
    exact ⟨none, rfl⟩
  · split at read
    · cases read
      exact ⟨none, rfl⟩
    · split at read
      · cases read
      · next value _ =>
          dsimp only at read
          split at read
          · cases read
            exact ⟨none, rfl⟩
          · next nonempty =>
              split at read
              · next accepted =>
                  cases read
                  have trimmed : Trimmed (trim value).toList := by
                    rw [toList_trim]
                    exact trimChars_trimmed _
                  exact ⟨some ⟨trim value, trimmed, nonempty, accepted⟩, rfl⟩
              · cases read

/-- A stored text is accepted as it is. -/
theorem optionalText_of_get {text : Option (EmbedText accepts)}
    (stored : object.get key = text.map fun text => text.toJson.value)
    : optionalText object key accepts message = .ok (text.map EmbedText.text) := by
  rw [optionalText, stored]
  cases text with
  | none => rfl
  | some text =>
      have same := trim_of_trimmed text.trimmed
      simp only [Option.map_some, EmbedText.toJson, PlainJson.string, Json.isNull, Json.asStr,
        Bool.false_eq_true, if_false, same, if_neg text.nonempty, text.accepted, if_true]

theorem exists_of_requiredEmbedText {maxChars : Nat} {found : String}
    (read : requiredEmbedText object key maxChars message required = .ok found)
    : ∃ text : BoundedText maxChars, found = text.text := by
  obtain ⟨optional, present, read⟩ := Eff.check_bind_eq_ok.mp read
  obtain ⟨text, rfl⟩ := exists_of_optionalText present
  cases text with
  | none => cases read
  | some text =>
      cases read
      exact ⟨text, rfl⟩

theorem requiredEmbedText_of_get {maxChars : Nat} {text : BoundedText maxChars}
    (stored : object.get key = some text.toJson.value)
    : requiredEmbedText object key maxChars message required = .ok text.text := by
  have read : optionalEmbedText object key maxChars message = .ok (some text.text) :=
    @optionalText_of_get _ object key message (some text) stored
  rw [requiredEmbedText, read]
  rfl

-----------------------------------------------------------------------------------------
-- Parts
-----------------------------------------------------------------------------------------

/-- An object that is absent is left out. -/
theorem optionalObject_of_none {keys : List String} {notObject unsupported : String}
    (absent : object.get key = none)
    : optionalObject object key keys notObject unsupported = .ok none := by
  rw [optionalObject, absent]

/-- An object with supported keys is accepted. -/
theorem optionalObject_of_some {keys : List String} {notObject unsupported : String}
    {fields : List (String × Json)} (present : object.get key = some (.object fields))
    (supported : hasOnlyKeys fields keys = true)
    : optionalObject object key keys notObject unsupported = .ok (some (.object fields)) := by
  rw [optionalObject, present]
  simp only [Json.isNull, Bool.false_eq_true, if_false, Json.asObject, supported, if_true]

theorem exists_of_optionalEmbedFooter {totalText total : Nat} {found : Option PlainJson}
    (read : optionalEmbedFooter object totalText = .ok (found, total))
    : ∃ footer : Option EmbedFooter, found = footer.map EmbedFooter.toJson
        ∧ total = totalText + optionalLength (fun footer => footer.text.length) footer := by
  obtain ⟨value, _, read⟩ := Eff.check_bind_eq_ok.mp read
  cases value with
  | none =>
      cases read
      exact ⟨none, rfl, rfl⟩
  | some value =>
      obtain ⟨_, present, read⟩ := Eff.check_bind_eq_ok.mp read
      obtain ⟨_, linked, read⟩ := Eff.check_bind_eq_ok.mp read
      obtain ⟨text, rfl⟩ := exists_of_requiredEmbedText present
      obtain ⟨iconUrl, rfl⟩ := exists_of_optionalText linked
      cases read
      refine ⟨some ⟨text, iconUrl⟩, ?_, rfl⟩
      rw [Option.map_map]
      rfl

theorem optionalEmbedFooter_of_get {totalText : Nat} {footer : Option EmbedFooter}
    (stored : object.get "footer" = footer.map fun footer => footer.toJson.value)
    : optionalEmbedFooter object totalText
      = .ok (footer.map EmbedFooter.toJson,
          totalText + optionalLength (fun footer => footer.text.length) footer) := by
  cases footer with
  | none =>
      rw [optionalEmbedFooter, optionalObject_of_none stored]
      rfl
  | some footer =>
      have supported : hasOnlyKeys (([("text", footer.text.toJson)]
          ++ optionalEntry "icon_url" (footer.iconUrl.map EmbedText.toJson)).map
            fun field => (field.1, field.2.value)) ["text", "icon_url"] = true := by
        rw [List.map_append, hasOnlyKeys_append, hasOnlyKeys_optionalEntry (by decide)]
        rfl
      have text := @requiredEmbedText_of_get footer.toJson.value "text"
        "embed footer text must be 2048 characters or fewer" "embed footer text is required" 2048
        footer.text (by simp [EmbedFooter.toJson])
      have iconUrl := @optionalText_of_get _ footer.toJson.value "icon_url"
        "embed footer icon_url must be an HTTP or HTTPS URL up to 2048 characters"
        footer.iconUrl (by simp [EmbedFooter.toJson]; rfl)
      rw [EmbedFooter.toJson, value_object] at text iconUrl
      rw [optionalEmbedFooter, optionalObject_of_some stored supported]
      simp only [bind, Except.bind, text, optionalEmbedUrl, iconUrl, Option.map_map]
      rfl

theorem exists_of_optionalEmbedMedia {label : String} {found : Option PlainJson}
    (read : optionalEmbedMedia object key label = .ok found)
    : ∃ media : Option EmbedMedia, found = media.map EmbedMedia.toJson := by
  obtain ⟨value, _, read⟩ := Eff.check_bind_eq_ok.mp read
  cases value with
  | none =>
      cases read
      exact ⟨none, rfl⟩
  | some value =>
      obtain ⟨_, linked, read⟩ := Eff.check_bind_eq_ok.mp read
      obtain ⟨url, rfl⟩ := exists_of_optionalText linked
      cases url with
      | none => cases read
      | some url =>
          cases read
          exact ⟨some ⟨url⟩, rfl⟩

theorem optionalEmbedMedia_of_get {label : String} {media : Option EmbedMedia}
    (stored : object.get key = media.map fun media => media.toJson.value)
    : optionalEmbedMedia object key label = .ok (media.map EmbedMedia.toJson) := by
  cases media with
  | none =>
      rw [optionalEmbedMedia, optionalObject_of_none stored]
      rfl
  | some media =>
      have url := @optionalText_of_get _ media.toJson.value "url" (embedMediaUrlMessage label)
        (some media.url) (by simp [EmbedMedia.toJson])
      rw [EmbedMedia.toJson, value_object] at url
      rw [optionalEmbedMedia, optionalObject_of_some stored rfl]
      simp only [bind, Except.bind, optionalEmbedUrl, url]
      rfl

theorem exists_of_optionalEmbedAuthor {totalText total : Nat} {found : Option PlainJson}
    (read : optionalEmbedAuthor object totalText = .ok (found, total))
    : ∃ author : Option EmbedAuthor, found = author.map EmbedAuthor.toJson
        ∧ total = totalText + optionalLength (fun author => author.name.length) author := by
  obtain ⟨value, _, read⟩ := Eff.check_bind_eq_ok.mp read
  cases value with
  | none =>
      cases read
      exact ⟨none, rfl, rfl⟩
  | some value =>
      obtain ⟨_, present, read⟩ := Eff.check_bind_eq_ok.mp read
      obtain ⟨_, linked, read⟩ := Eff.check_bind_eq_ok.mp read
      obtain ⟨_, pictured, read⟩ := Eff.check_bind_eq_ok.mp read
      obtain ⟨name, rfl⟩ := exists_of_requiredEmbedText present
      obtain ⟨url, rfl⟩ := exists_of_optionalText linked
      obtain ⟨iconUrl, rfl⟩ := exists_of_optionalText pictured
      cases read
      refine ⟨some ⟨name, url, iconUrl⟩, ?_, rfl⟩
      rw [Option.map_map, Option.map_map]
      rfl

theorem optionalEmbedAuthor_of_get {totalText : Nat} {author : Option EmbedAuthor}
    (stored : object.get "author" = author.map fun author => author.toJson.value)
    : optionalEmbedAuthor object totalText
      = .ok (author.map EmbedAuthor.toJson,
          totalText + optionalLength (fun author => author.name.length) author) := by
  cases author with
  | none =>
      rw [optionalEmbedAuthor, optionalObject_of_none stored]
      rfl
  | some author =>
      have supported : hasOnlyKeys (([("name", author.name.toJson)]
          ++ optionalEntry "url" (author.url.map EmbedText.toJson)
          ++ optionalEntry "icon_url" (author.iconUrl.map EmbedText.toJson)).map
            fun field => (field.1, field.2.value)) ["name", "url", "icon_url"] = true := by
        rw [List.map_append, List.map_append, hasOnlyKeys_append, hasOnlyKeys_append,
          hasOnlyKeys_optionalEntry (by decide), hasOnlyKeys_optionalEntry (by decide)]
        rfl
      have name := @requiredEmbedText_of_get author.toJson.value "name"
        "embed author name must be 256 characters or fewer" "embed author name is required" 256
        author.name (by simp [EmbedAuthor.toJson])
      have url := @optionalText_of_get _ author.toJson.value "url"
        "embed author url must be an HTTP or HTTPS URL up to 2048 characters"
        author.url (by simp [EmbedAuthor.toJson]; rfl)
      have iconUrl := @optionalText_of_get _ author.toJson.value "icon_url"
        "embed author icon_url must be an HTTP or HTTPS URL up to 2048 characters"
        author.iconUrl (by simp [EmbedAuthor.toJson]; rfl)
      rw [EmbedAuthor.toJson, value_object] at name url iconUrl
      rw [optionalEmbedAuthor, optionalObject_of_some stored supported]
      simp only [bind, Except.bind, name, optionalEmbedUrl, url, iconUrl, Option.map_map]
      rfl

-----------------------------------------------------------------------------------------
-- Lists of fields
-----------------------------------------------------------------------------------------

theorem exists_of_embedField {field : Json} {found : PlainJson} {length : Nat}
    (read : embedField field = .ok (found, length))
    : ∃ stored : EmbedField, found = stored.toJson ∧ length = stored.length := by
  rw [embedField] at read
  split at read
  · cases read
  · split at read
    · obtain ⟨_, named, read⟩ := Eff.check_bind_eq_ok.mp read
      obtain ⟨_, valued, read⟩ := Eff.check_bind_eq_ok.mp read
      obtain ⟨inline, _, read⟩ := Eff.check_bind_eq_ok.mp read
      obtain ⟨name, rfl⟩ := exists_of_requiredEmbedText named
      obtain ⟨value, rfl⟩ := exists_of_requiredEmbedText valued
      cases read
      exact ⟨⟨name, value, inline⟩, rfl, rfl⟩
    · cases read

theorem embedField_toJson (field : EmbedField)
    : embedField field.toJson.value = .ok (field.toJson, field.length) := by
  have name := @requiredEmbedText_of_get field.toJson.value "name"
    "embed field name must be 256 characters or fewer" "embed field name is required" 256
    field.name (by simp [EmbedField.toJson])
  have value := @requiredEmbedText_of_get field.toJson.value "value"
    "embed field value must be 1024 characters or fewer" "embed field value is required" 1024
    field.value (by simp [EmbedField.toJson])
  have inline : embedFieldInline field.toJson.value = .ok field.inline := by
    have stored : field.toJson.value.get "inline" = some (.bool field.inline) := by
      simp [EmbedField.toJson, PlainJson.bool]
    rw [embedFieldInline, stored]
  rw [embedField]
  simp only [bind, Except.bind, name, value, inline]
  rfl

theorem fieldsLength_cons (field : EmbedField) (fields : List EmbedField)
    : fieldsLength (field :: fields) = field.length + fieldsLength fields := by
  rw [fieldsLength, List.map_cons, List.sum_cons, fieldsLength]

/-- The fields are read one after another, by induction over them. -/
theorem exists_of_embedFields {fields : List Json} {totalText total : Nat}
    {found : List PlainJson} (read : embedFields fields totalText = .ok (found, total))
    : ∃ stored : List EmbedField, found = stored.map EmbedField.toJson
        ∧ stored.length = fields.length ∧ total = totalText + fieldsLength stored := by
  induction fields generalizing totalText found with
  | nil =>
      cases read
      exact ⟨[], rfl, rfl, rfl⟩
  | cons field fields ih =>
      obtain ⟨⟨_, _⟩, first, read⟩ := Eff.check_bind_eq_ok.mp read
      obtain ⟨⟨_, _⟩, others, read⟩ := Eff.check_bind_eq_ok.mp read
      cases read
      obtain ⟨one, rfl, rfl⟩ := exists_of_embedField first
      obtain ⟨rest, rfl, same, rfl⟩ := ih others
      exact ⟨one :: rest, rfl, congrArg Nat.succ same, by rw [fieldsLength_cons, Nat.add_assoc]⟩

theorem embedFields_map_toJson (fields : List EmbedField) (totalText : Nat)
    : embedFields (fields.map fun field => field.toJson.value) totalText
      = .ok (fields.map EmbedField.toJson, totalText + fieldsLength fields) := by
  induction fields generalizing totalText with
  | nil => rfl
  | cons field fields ih =>
      rw [List.map_cons, embedFields]
      simp only [bind, Except.bind, embedField_toJson, ih]
      rw [fieldsLength_cons, Nat.add_assoc]
      rfl

theorem exists_of_optionalEmbedFields {totalText total : Nat} {found : Option PlainJson}
    (read : optionalEmbedFields object totalText = .ok (found, total))
    : ∃ fields : Option { fields : List EmbedField // fields.length ≤ 25 },
        found = (fields.map fun fields => .array (fields.val.map EmbedField.toJson))
          ∧ total = totalText + optionalLength (fun fields => fieldsLength fields.val) fields := by
  rw [optionalEmbedFields] at read
  split at read
  · cases read
    exact ⟨none, rfl, rfl⟩
  · split at read
    · cases read
      exact ⟨none, rfl, rfl⟩
    · split at read
      · cases read
      · split at read
        · cases read
        · next few =>
            obtain ⟨⟨_, _⟩, listed, read⟩ := Eff.check_bind_eq_ok.mp read
            obtain ⟨stored, rfl, same, rfl⟩ := exists_of_embedFields listed
            cases read
            exact ⟨some ⟨stored, by omega⟩, rfl, rfl⟩

theorem optionalEmbedFields_of_get {totalText : Nat}
    {fields : Option { fields : List EmbedField // fields.length ≤ 25 }}
    (stored : object.get "fields"
      = fields.map fun fields => (PlainJson.array (fields.val.map EmbedField.toJson)).value)
    : optionalEmbedFields object totalText
      = .ok (fields.map fun fields => .array (fields.val.map EmbedField.toJson),
          totalText + optionalLength (fun fields => fieldsLength fields.val) fields) := by
  rw [optionalEmbedFields, stored]
  cases fields with
  | none => rfl
  | some fields =>
      have few : ¬ 25 < fields.val.length := Nat.not_lt.mpr fields.property
      have read := embedFields_map_toJson fields.val totalText
      have items : (PlainJson.array (fields.val.map EmbedField.toJson)).value
          = .array (fields.val.map fun field => field.toJson.value) := by
        simp [PlainJson.array]
      rw [Option.map_some, items]
      simp only [Json.isNull, Json.asArray, List.length_map, if_neg few, Bool.false_eq_true,
        if_false, bind, Except.bind, read]
      rfl

-----------------------------------------------------------------------------------------
-- Colors and timestamps
-----------------------------------------------------------------------------------------

theorem exists_of_optionalEmbedColor {found : Option Nat}
    (read : optionalEmbedColor object = .ok found)
    : ∃ color : Option { color : Nat // color ≤ 0xFFFFFF }, found = color.map Subtype.val := by
  rw [optionalEmbedColor] at read
  split at read
  · cases read
    exact ⟨none, rfl⟩
  · split at read
    · cases read
      exact ⟨none, rfl⟩
    · split at read
      · cases read
      · next color valid =>
          cases read
          have small := of_decide_eq_true (Option.filter_eq_some_iff.mp valid).2
          exact ⟨some ⟨color, small⟩, rfl⟩

/-- A stored color is read as its number. -/
theorem filter_asU64 (color : { color : Nat // color ≤ 0xFFFFFF })
    : ((Json.integer color.val).asU64.filter fun color => color ≤ 0xFFFFFF)
      = some color.val := by
  have small : color.val ≤ 0xFFFFFF := color.property
  have fits : (0 : Int) ≤ color.val ∧ (color.val : Int) < 2 ^ 64 := by omega
  rw [Json.asU64, if_pos fits, Int.toNat_natCast, Option.filter_some,
    if_pos (decide_eq_true small)]

theorem optionalEmbedColor_of_get {color : Option { color : Nat // color ≤ 0xFFFFFF }}
    (stored : object.get "color" = color.map fun color => .integer color.val)
    : optionalEmbedColor object = .ok (color.map Subtype.val) := by
  cases color with
  | none =>
      rw [Option.map_none] at stored
      rw [optionalEmbedColor, stored, Option.map_none]
  | some color =>
      rw [Option.map_some] at stored
      rw [optionalEmbedColor, stored, Option.map_some]
      simp only [Json.isNull, Bool.false_eq_true, if_false, filter_asU64]

/-- The instants of a text are written in UTC as a stored timestamp. -/
theorem exists_of_optionalEmbedTimestamp {found : Option String}
    (read : optionalEmbedTimestamp toUtcMillis object = .ok found)
    (rereads : ∀ value text printed, object.get "timestamp" = some value →
      value.asStr = some text → toUtcMillis (trim text) = some printed →
      Trimmed printed.toList ∧ printed ≠ "" ∧ toUtcMillis printed = some printed)
    : ∃ timestamp : Option (EmbedTimestamp toUtcMillis),
        found = timestamp.map EmbedText.text := by
  rw [optionalEmbedTimestamp] at read
  split at read
  · cases read
    exact ⟨none, rfl⟩
  · next value present =>
      split at read
      · cases read
        exact ⟨none, rfl⟩
      · split at read
        · cases read
        · next printed written =>
            cases read
            obtain ⟨text, isText, written⟩ := Option.bind_eq_some_iff.mp written
            obtain ⟨trimmed, nonempty, same⟩ := rereads value text printed present isText written
            exact ⟨some ⟨printed, trimmed, nonempty, decide_eq_true same⟩, rfl⟩

theorem optionalEmbedTimestamp_of_get {timestamp : Option (EmbedTimestamp toUtcMillis)}
    (stored : object.get "timestamp" = timestamp.map fun text => text.toJson.value)
    : optionalEmbedTimestamp toUtcMillis object = .ok (timestamp.map EmbedText.text) := by
  rw [optionalEmbedTimestamp, stored]
  cases timestamp with
  | none => rfl
  | some text =>
      have same := trim_of_trimmed text.trimmed
      have reread := of_decide_eq_true text.accepted
      simp only [Option.map_some, EmbedText.toJson, PlainJson.string, Json.isNull, Json.asStr,
        Bool.false_eq_true, if_false, Option.bind_some, same, reread]

-----------------------------------------------------------------------------------------
-- Embeds
-----------------------------------------------------------------------------------------

/-- The fields of an accepted embed are those of a stored one. -/
theorem exists_of_normalizedEmbedFields {fields : List (String × PlainJson)} {total : Nat}
    (read : normalizedEmbedFields toUtcMillis object = .ok (fields, total))
    (rereads : ∀ value text printed, object.get "timestamp" = some value →
      value.asStr = some text → toUtcMillis (trim text) = some printed →
      Trimmed printed.toList ∧ printed ≠ "" ∧ toUtcMillis printed = some printed)
    : ∃ parts : EmbedParts toUtcMillis, fields = parts.entries ∧ total = parts.totalText := by
  obtain ⟨_, titled, read⟩ := Eff.check_bind_eq_ok.mp read
  obtain ⟨_, _, read⟩ := Eff.check_bind_eq_ok.mp read
  obtain ⟨_, described, read⟩ := Eff.check_bind_eq_ok.mp read
  obtain ⟨_, linked, read⟩ := Eff.check_bind_eq_ok.mp read
  obtain ⟨_, dated, read⟩ := Eff.check_bind_eq_ok.mp read
  obtain ⟨_, colored, read⟩ := Eff.check_bind_eq_ok.mp read
  obtain ⟨⟨_, _⟩, footed, read⟩ := Eff.check_bind_eq_ok.mp read
  obtain ⟨_, pictured, read⟩ := Eff.check_bind_eq_ok.mp read
  obtain ⟨_, shown, read⟩ := Eff.check_bind_eq_ok.mp read
  obtain ⟨⟨_, _⟩, written, read⟩ := Eff.check_bind_eq_ok.mp read
  obtain ⟨⟨_, _⟩, listed, read⟩ := Eff.check_bind_eq_ok.mp read
  obtain ⟨title, rfl⟩ := exists_of_optionalText titled
  obtain ⟨description, rfl⟩ := exists_of_optionalText described
  obtain ⟨url, rfl⟩ := exists_of_optionalText linked
  obtain ⟨timestamp, rfl⟩ := exists_of_optionalEmbedTimestamp dated rereads
  obtain ⟨color, rfl⟩ := exists_of_optionalEmbedColor colored
  obtain ⟨footer, rfl, rfl⟩ := exists_of_optionalEmbedFooter footed
  obtain ⟨image, rfl⟩ := exists_of_optionalEmbedMedia pictured
  obtain ⟨thumbnail, rfl⟩ := exists_of_optionalEmbedMedia shown
  obtain ⟨author, rfl, rfl⟩ := exists_of_optionalEmbedAuthor written
  obtain ⟨fields, rfl, rfl⟩ := exists_of_optionalEmbedFields listed
  cases read
  refine ⟨⟨title, description, url, timestamp, color, footer, image, thumbnail, author, fields⟩,
    ?_, ?_⟩
  · cases color <;> simp only [EmbedParts.entries, Option.map_map] <;> rfl
  · simp only [EmbedParts.totalText, optionalLength, Option.map_map]
    rfl

/-- A stored embed is accepted with the fields that it has. -/
theorem normalizedEmbedFields_entries (parts : EmbedParts toUtcMillis)
    : normalizedEmbedFields toUtcMillis (PlainJson.object parts.entries).value
      = .ok (parts.entries, parts.totalText) := by
  -- each key is found behind the entries of the others
  have title := @optionalText_of_get _ (PlainJson.object parts.entries).value "title"
    "embed title must be 256 characters or fewer" parts.title
    (by simp [EmbedParts.entries]; rfl)
  have embedType : checkEmbedType (PlainJson.object parts.entries).value = .ok () := by
    have stored : (PlainJson.object parts.entries).value.get "type" = some (.string "rich") := by
      simp [EmbedParts.entries, PlainJson.string]
    rw [checkEmbedType, stored]
    rfl
  have description := @optionalText_of_get _ (PlainJson.object parts.entries).value "description"
    "embed description must be 4096 characters or fewer" parts.description
    (by simp [EmbedParts.entries]; rfl)
  have url := @optionalText_of_get _ (PlainJson.object parts.entries).value "url"
    "embed url must be an HTTP or HTTPS URL up to 2048 characters" parts.url
    (by simp [EmbedParts.entries]; rfl)
  have timestamp := @optionalEmbedTimestamp_of_get (PlainJson.object parts.entries).value
    toUtcMillis parts.timestamp (by simp [EmbedParts.entries]; rfl)
  have color := @optionalEmbedColor_of_get (PlainJson.object parts.entries).value parts.color
    (by simp [EmbedParts.entries]; rfl)
  have footer := fun total => @optionalEmbedFooter_of_get
    (PlainJson.object parts.entries).value total parts.footer
    (by simp [EmbedParts.entries]; rfl)
  have image := @optionalEmbedMedia_of_get (PlainJson.object parts.entries).value "image"
    "embed image" parts.image (by simp [EmbedParts.entries]; rfl)
  have thumbnail := @optionalEmbedMedia_of_get (PlainJson.object parts.entries).value "thumbnail"
    "embed thumbnail" parts.thumbnail (by simp [EmbedParts.entries]; rfl)
  have author := fun total => @optionalEmbedAuthor_of_get
    (PlainJson.object parts.entries).value total parts.author
    (by simp [EmbedParts.entries]; rfl)
  have fields := fun total => @optionalEmbedFields_of_get
    (PlainJson.object parts.entries).value total parts.fields
    (by simp [EmbedParts.entries]; rfl)
  rw [normalizedEmbedFields]
  generalize (PlainJson.object parts.entries).value = object at *
  simp only [optionalEmbedText, optionalEmbedUrl, title, embedType, description, url, timestamp,
    color, footer, image, thumbnail, author, fields, bind, Except.bind]
  rw [EmbedParts.entries, EmbedParts.totalText]
  simp only [Option.map_map]
  cases parts.color <;> rfl

theorem one_le_length_entries (parts : EmbedParts toUtcMillis) : 1 ≤ parts.entries.length := by
  simp only [EmbedParts.entries, List.length_append, List.length_cons, List.length_nil]
  omega

/-- An accepted embed is stored as a record with its limits. -/
theorem exists_of_normalizeEmbed {embed found : PlainJson}
    (read : normalizeEmbed toUtcMillis embed = .ok found)
    (rereads : ∀ value text printed, embed.value.get "timestamp" = some value →
      value.asStr = some text → toUtcMillis (trim text) = some printed →
      Trimmed printed.toList ∧ printed ≠ "" ∧ toUtcMillis printed = some printed)
    : ∃ stored : Embed toUtcMillis, found = stored.toJson := by
  rw [normalizeEmbed] at read
  split at read
  · cases read
  · split at read
    · obtain ⟨⟨_, _⟩, valid, read⟩ := Eff.check_bind_eq_ok.mp read
      obtain ⟨parts, rfl, rfl⟩ := exists_of_normalizedEmbedFields valid rereads
      dsimp only at read
      split at read
      · cases read
      · next further =>
          split at read
          · cases read
          · next within =>
              cases read
              have least := one_le_length_entries parts
              exact ⟨⟨parts, by omega, Nat.not_lt.mp within⟩, rfl⟩
    · cases read

/-- A stored embed is accepted as it is. -/
theorem normalizeEmbed_toJson (embed : Embed toUtcMillis)
    : normalizeEmbed toUtcMillis embed.toJson = .ok embed.toJson := by
  have read := normalizedEmbedFields_entries embed.toEmbedParts
  have supported := hasOnlyKeys_normalizedEmbedFields read
  have further : ¬ embed.toEmbedParts.entries.length = 1 := by
    have := embed.furtherKey
    omega
  have within : ¬ 6000 < embed.toEmbedParts.totalText := Nat.not_lt.mpr embed.withinTotal
  rw [normalizeEmbed, Embed.toJson]
  simp only [value_object, Json.asObject, supported, if_true]
  rw [← value_object, read]
  simp only [bind, Except.bind, if_neg further, if_neg within]
  rfl

end MessageService

-----------------------------------------------------------------------------------------
-- The fixpoint
-----------------------------------------------------------------------------------------

/-- What the embeds use of the calendar library: instants are read from timestamps and written in
UTC with milliseconds.
-/
structure EmbedChrono (Instant : Type) where
  parseFromRfc3339 : String → Option Instant
  toRfc3339Millis : Instant → String

namespace EmbedChrono

variable {Instant : Type} (chrono : EmbedChrono Instant)

def toUtcMillis (text : String) : Option String :=
  (chrono.parseFromRfc3339 text).map chrono.toRfc3339Millis

/-- What is written of an instant of the given ones is a trimmed text, and is read as an instant
that is written the same.
-/
def Rereads (inYears : Instant → Prop) : Prop :=
  ∀ instant, inYears instant →
    let text := chrono.toRfc3339Millis instant
    Trimmed text.toList ∧ text ≠ "" ∧ chrono.toUtcMillis text = some text

/-- The timestamp of an embed, if it has one that is read, is one of the given instants. -/
def DatedIn (inYears : Instant → Prop) (embed : PlainJson) : Prop :=
  ∀ value text instant, embed.value.get "timestamp" = some value → value.asStr = some text →
    chrono.parseFromRfc3339 (trim text) = some instant → inYears instant

end EmbedChrono

namespace MessageService

variable {Instant : Type} {chrono : EmbedChrono Instant} {inYears : Instant → Prop}

/-- Accepted embeds are stored as records with their limits, by induction over them. -/
theorem exists_of_mapM_normalizeEmbed (rereads : chrono.Rereads inYears)
    {embeds found : List PlainJson} (dated : ∀ embed ∈ embeds, chrono.DatedIn inYears embed)
    (read : embeds.mapM (normalizeEmbed chrono.toUtcMillis) = .ok found)
    : ∃ stored : List (Embed chrono.toUtcMillis), found = stored.map Embed.toJson
        ∧ stored.length = embeds.length := by
  induction embeds generalizing found with
  | nil =>
      cases read
      exact ⟨[], rfl, rfl⟩
  | cons embed embeds ih =>
      obtain ⟨first, later⟩ := List.forall_mem_cons.mp dated
      rw [List.mapM_cons] at read
      obtain ⟨_, one, read⟩ := Eff.check_bind_eq_ok.mp read
      obtain ⟨_, others, read⟩ := Eff.check_bind_eq_ok.mp read
      cases read
      obtain ⟨rest, rfl, same⟩ := ih later others
      obtain ⟨stored, rfl⟩ := exists_of_normalizeEmbed one fun value text printed present isText
          written => by
        obtain ⟨instant, parsed, rfl⟩ := Option.map_eq_some_iff.mp written
        exact rereads instant (first value text instant present isText parsed)
      exact ⟨stored :: rest, rfl, congrArg Nat.succ same⟩

theorem mapM_normalizeEmbed_toJson {toUtcMillis : String → Option String}
    (stored : List (Embed toUtcMillis))
    : (stored.map Embed.toJson).mapM (normalizeEmbed toUtcMillis)
      = .ok (stored.map Embed.toJson) := by
  induction stored with
  | nil => rfl
  | cons embed stored ih =>
      rw [List.map_cons, List.mapM_cons, normalizeEmbed_toJson, ih]
      rfl

/-- Accepted embeds are stored as at most ten records with their limits, and these are accepted
as they are.
-/
theorem normalizeEmbeds_fixpoint (rereads : chrono.Rereads inYears)
    {embeds result : List PlainJson} (dated : ∀ embed ∈ embeds, chrono.DatedIn inYears embed)
    (normalized : normalizeEmbeds chrono.toUtcMillis embeds = .ok result)
    : (∃ stored : List (Embed chrono.toUtcMillis), stored.length ≤ 10
          ∧ result = stored.map Embed.toJson)
        ∧ normalizeEmbeds chrono.toUtcMillis result = .ok result := by
  rw [normalizeEmbeds] at normalized
  split at normalized
  · cases normalized
  · next few =>
      obtain ⟨stored, rfl, same⟩ := exists_of_mapM_normalizeEmbed rereads dated normalized
      have length : ¬ 10 < (stored.map Embed.toJson).length := by
        rw [List.length_map]
        omega
      refine ⟨⟨stored, by omega, rfl⟩, ?_⟩
      rw [normalizeEmbeds, if_neg length]
      exact mapM_normalizeEmbed_toJson stored

namespace Release

/-- An instant, by the text that it has in UTC. -/
def clock : EmbedChrono String where
  parseFromRfc3339 text :=
    if text = "2026-06-24T11:00:00+02:00" ∨ text = "2026-06-24T09:00:00.000Z" then
      some "2026-06-24T09:00:00.000Z"
    else
      none
  toRfc3339Millis instant := instant

/-- What a bot sends. -/
def embed : PlainJson :=
  .object [("title", .string "  Release 1.0 "), ("type", .string "rich"),
    ("timestamp", .string "2026-06-24T11:00:00+02:00"),
    ("footer", .object [("text", .string "by the bot")])]

/-- What is stored of it. -/
def stored : PlainJson :=
  .object [("title", .string "Release 1.0"), ("type", .string "rich"),
    ("timestamp", .string "2026-06-24T09:00:00.000Z"),
    ("footer", .object [("text", .string "by the bot")])]

end Release

/-- The embed is accepted with its title trimmed and its time in UTC, and what is stored of it is
accepted as it is.
-/
theorem release_fixpoint
    : normalizeEmbeds Release.clock.toUtcMillis [Release.embed] = .ok [Release.stored]
        ∧ normalizeEmbeds Release.clock.toUtcMillis [Release.stored]
          = .ok [Release.stored] := by
  have normalized : normalizeEmbeds Release.clock.toUtcMillis [Release.embed]
      = .ok [Release.stored] := by
    rfl
  have rereads : Release.clock.Rereads fun instant => instant = "2026-06-24T09:00:00.000Z" := by
    rintro _ rfl
    decide +kernel
  have dated : ∀ embed ∈ [Release.embed], Release.clock.DatedIn
      (fun instant => instant = "2026-06-24T09:00:00.000Z") embed := by
    intro embed _ value text instant _ _ parsed
    simp only [Release.clock] at parsed
    split at parsed
    · exact (Option.some.inj parsed).symm
    · cases parsed
  exact ⟨normalized, (normalizeEmbeds_fixpoint rereads dated normalized).2⟩

end MessageService

end OpenCord.Messages
