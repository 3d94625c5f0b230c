import OpenCord.Attachments.Attachment
import OpenCord.Gateway.Payloads
import OpenCord.Messages.Message

/-! A message of a channel is shown to bots twice: as the response of a request, made of the
stored records, and as the payload of a gateway dispatch, decoded from a published event. Both
show the same.
-/

namespace OpenCord.Compat

open OpenCord.Platform OpenCord.Bots OpenCord.Attachments OpenCord.Messages OpenCord.Gateway

-----------------------------------------------------------------------------------------
-- Messages with attachments in responses and events
-----------------------------------------------------------------------------------------

def AttachmentStatus.asStr : AttachmentStatus → String
  | .pending => "pending"
  | .uploaded => "uploaded"
  | .linked => "linked"

def attachmentDownloadUrl (publicUrl : String) (attachmentId : Uuid) : String :=
  publicUrl ++ "/attachments/" ++ attachmentId.toString ++ "/content"

def attachmentResponse (publicUrl : String) (attachment : Attachment) : Json :=
  .object [("id", .string attachment.id.toString),
    ("organization_id", .string attachment.organizationId.toString),
    ("space_id", .string attachment.spaceId.toString),
    ("channel_id", .string attachment.channelId.toString),
    ("message_id", .ofOption (attachment.messageId.map Uuid.toString)),
    ("uploader_user_id", .string attachment.uploaderUserId.toString),
    ("file_name", .string attachment.fileName), ("content_type", .string attachment.contentType),
    ("size_bytes", .integer attachment.sizeBytes),
    ("status", .string (AttachmentStatus.asStr attachment.status)),
    ("download_url", .string (attachmentDownloadUrl publicUrl attachment.id))]

/-- A message with its attachments as native responses show it. -/
def messageResponse (message : Message) (attachments : List Attachment) (publicUrl : String)
    : Json :=
  .object ([("id", .string message.id.toString),
    ("organization_id", .string message.organizationId.toString),
    ("space_id", .ofOption (message.spaceId.map Uuid.toString)),
    ("channel_id", .string message.channelId.toString),
    ("author_user_id", .string message.authorUserId.toString),
    ("content", .string message.content), ("content_format", .string message.contentFormat),
    ("embeds", .array (message.embeds.map PlainJson.value)),
    ("components", .array (message.components.map PlainJson.value))]
    ++ Json.optionalField "webhook_username" (message.webhookUsername.map .string)
    ++ Json.optionalField "webhook_avatar_url" (message.webhookAvatarUrl.map .string)
    ++ [("reply_to_message_id", .ofOption (message.replyToMessageId.map Uuid.toString)),
      ("edited_at", .ofOption message.editedAt), ("deleted_at", .ofOption message.deletedAt),
      ("created_at", .string message.createdAt),
      ("attachments", .array (attachments.map (attachmentResponse publicUrl)))])

/-- A message without attachments is shown as component interactions show it. -/
theorem messageResponse_nil (message : Message) (publicUrl : String)
    : messageResponse message [] publicUrl = .object (Messages.messageResponse message) :=
  rfl

structure CompatUserResponse where
  id : String
  username : String
  bot : Bool

def CompatUserResponse.toJson (user : CompatUserResponse) : Json :=
  .object [("id", .string user.id), ("username", .string user.username), ("bot", .bool user.bot)]

/-- The mentions of a message that are shown. -/
structure CompatResolvedMentions where
  users : List CompatUserResponse
  roleIds : List String
  everyone : Bool

structure ReferencedCompatMessage where
  message : Message
  attachments : List Attachment
  mentions : CompatResolvedMentions

def realtimeMessageValue (message : Message) (attachments : List Attachment)
    (mentions : CompatResolvedMentions) (publicUrl : String) : Json :=
  ((((messageResponse message attachments publicUrl).insert "embeds"
          (.array (message.embeds.map PlainJson.value))).insert "components"
        (.array (message.components.map PlainJson.value))).insert "mention_everyone"
      (.bool mentions.everyone)).insert "mentions"
      (.array (mentions.users.map CompatUserResponse.toJson)) |>.insert "mention_roles"
    (.array (mentions.roleIds.map .string))

/-- The message of a published event. -/
def realtimeMessagePayload (message : Message) (attachments : List Attachment)
    (mentions : CompatResolvedMentions) (referencedMessage : Option ReferencedCompatMessage)
    (publicUrl : String) : Json :=
  let value := realtimeMessageValue message attachments mentions publicUrl
  match referencedMessage with
  | some referenced =>
      value.insert "referenced_message"
        (realtimeMessageValue referenced.message referenced.attachments referenced.mentions
          publicUrl)
  | none => value

-----------------------------------------------------------------------------------------
-- Messages in compatibility responses
-----------------------------------------------------------------------------------------

structure CompatMessageReferenceResponse where
  messageId : String
  channelId : String
  guildId : Option String
  deriving DecidableEq

def CompatMessageReferenceResponse.toJson (reference : CompatMessageReferenceResponse) : Json :=
  .object ([("message_id", .string reference.messageId),
    ("channel_id", .string reference.channelId)]
    ++ Json.optionalField "guild_id" (reference.guildId.map .string))

@[ext]
structure CompatMessageResponse where
  id : String
  channelId : String
  author : CompatUserResponse
  content : String
  timestamp : String
  editedTimestamp : Option String
  tts : Bool
  mentionEveryone : Bool
  mentions : List CompatUserResponse
  mentionRoles : List String
  attachments : List Json
  embeds : List Json
  components : List Json
  messageReference : Option CompatMessageReferenceResponse
  referencedMessage : Option CompatMessageResponse
  pinned : Bool
  kind : Int

/-- A response is larger than the one of the message it refers to. -/
theorem CompatMessageResponse.sizeOf_referenced {response referenced : CompatMessageResponse}
    (found : response.referencedMessage = some referenced)
    : sizeOf referenced < sizeOf response := by
  rcases response with ⟨⟩
  cases found
  simp only [CompatMessageResponse.mk.sizeOf_spec, Option.some.sizeOf_spec]
  omega

/-- A message response as it is written. -/
def CompatMessageResponse.toJson (response : CompatMessageResponse) : Json :=
  .object ([("id", .string response.id), ("channel_id", .string response.channelId),
    ("author", response.author.toJson), ("content", .string response.content),
    ("timestamp", .string response.timestamp),
    ("edited_timestamp", .ofOption response.editedTimestamp), ("tts", .bool response.tts),
    ("mention_everyone", .bool response.mentionEveryone),
    ("mentions", .array (response.mentions.map CompatUserResponse.toJson)),
    ("mention_roles", .array (response.mentionRoles.map .string)),
    ("attachments", .array response.attachments), ("embeds", .array response.embeds),
    ("components", .array response.components)]
    ++ Json.optionalField "message_reference"
      (response.messageReference.map CompatMessageReferenceResponse.toJson)
    ++ Json.optionalField "referenced_message" (match found : response.referencedMessage with
      | some referenced =>
          have := sizeOf_referenced found
          some referenced.toJson
      | none => none)
    ++ [("pinned", .bool response.pinned), ("type", .integer response.kind)])
termination_by sizeOf response

def compatUserResponse (bot : AuthenticatedBot) : CompatUserResponse :=
  ⟨bot.botUserId.toString, bot.name, true⟩

def compatAttachmentResponse (publicUrl : String) (attachment : Attachment) : Json :=
  let url := attachmentDownloadUrl publicUrl attachment.id
  .object [("id", .string attachment.id.toString), ("filename", .string attachment.fileName),
    ("size", .integer attachment.sizeBytes), ("url", .string url), ("proxy_url", .string url),
    ("content_type", .string attachment.contentType)]

def compatMessageAuthor (message : Message) (currentBot : AuthenticatedBot)
    : CompatUserResponse :=
  match message.webhookUsername with
  | some webhookUsername => ⟨message.authorUserId.toString, webhookUsername, true⟩
  | none =>
      if message.authorUserId = currentBot.botUserId then
        compatUserResponse currentBot
      else
        ⟨message.authorUserId.toString, "OpenCord User", false⟩

/-- The message a response refers to is shown without the one that it refers to itself. -/
def compatMessageResponse (message : Message) (attachments : List Attachment)
    (mentions : CompatResolvedMentions) (referencedMessage : Option ReferencedCompatMessage)
    (currentBot : AuthenticatedBot) (publicUrl : String) : CompatMessageResponse :=
  { id := message.id.toString
    channelId := message.channelId.toString
    author := compatMessageAuthor message currentBot
    content := message.content
    timestamp := message.createdAt
    editedTimestamp := message.editedAt
    tts := false
    mentionEveryone := mentions.everyone
    mentions := mentions.users
    mentionRoles := mentions.roleIds
    attachments := attachments.map (compatAttachmentResponse publicUrl)
    embeds := message.embeds.map PlainJson.value
    components := message.components.map PlainJson.value
    messageReference := message.replyToMessageId.map fun replyToMessageId =>
      ⟨replyToMessageId.toString, message.channelId.toString, message.spaceId.map Uuid.toString⟩
    referencedMessage := match referencedMessage with
      | some referenced => some (compatMessageResponse referenced.message referenced.attachments
          referenced.mentions none currentBot publicUrl)
      | none => none
    pinned := false
    kind := 0 }
termination_by referencedMessage.isSome.toNat

-----------------------------------------------------------------------------------------
-- Decoding what was published
-----------------------------------------------------------------------------------------

theorem CompatMessageResponse.toJson_eq (response : CompatMessageResponse)
    : response.toJson = .object ([("id", .string response.id),
        ("channel_id", .string response.channelId), ("author", response.author.toJson),
        ("content", .string response.content), ("timestamp", .string response.timestamp),
        ("edited_timestamp", .ofOption response.editedTimestamp), ("tts", .bool response.tts),
        ("mention_everyone", .bool response.mentionEveryone),
        ("mentions", .array (response.mentions.map CompatUserResponse.toJson)),
        ("mention_roles", .array (response.mentionRoles.map .string)),
        ("attachments", .array response.attachments), ("embeds", .array response.embeds),
        ("components", .array response.components)]
        ++ Json.optionalField "message_reference"
          (response.messageReference.map CompatMessageReferenceResponse.toJson)
        ++ Json.optionalField "referenced_message"
          (response.referencedMessage.map CompatMessageResponse.toJson)
        ++ [("pinned", .bool response.pinned), ("type", .integer response.kind)]) := by
  rw [CompatMessageResponse.toJson]
  split <;> next found => simp only [found, Option.map_some, Option.map_none]

theorem CompatUserResponse.toJson_injective : Function.Injective CompatUserResponse.toJson := by
  intro user other same
  rcases user with ⟨id, username, bot⟩
  rcases other with ⟨otherId, otherUsername, otherBot⟩
  simpa [CompatUserResponse.toJson] using same

theorem CompatMessageReferenceResponse.toJson_injective
    : Function.Injective CompatMessageReferenceResponse.toJson := by
  intro reference other same
  rcases reference with ⟨messageId, channelId, guildId⟩
  rcases other with ⟨otherMessageId, otherChannelId, otherGuildId⟩
  have guild := congrArg (Json.get · "guild_id") same
  have strings : Function.Injective Json.string := fun _ _ => Json.string.inj
  simp [CompatMessageReferenceResponse.toJson, (Option.map_injective strings).eq_iff]
    at same guild
  exact CompatMessageReferenceResponse.mk.injEq .. ▸ ⟨same.1, same.2.1, guild⟩

theorem ofOption_injective : Function.Injective Json.ofOption := by
  intro text other same
  cases text <;> cases other <;> cases same <;> rfl

/-- Responses that are written the same are the same, by induction on their size. -/
theorem CompatMessageResponse.toJson_injective {response other : CompatMessageResponse}
    (same : response.toJson = other.toJson) : response = other := by
  induction bound : sizeOf response using Nat.strong_induction_on generalizing response other with
  | _ size ih =>
      have reference := congrArg (Json.get · "message_reference") same
      have referenced := congrArg (Json.get · "referenced_message") same
      simp only [toJson_eq, Json.get_append, Json.get_cons, Json.get_optionalField, String.reduceEq,
        if_false, if_true, Json.get_nil, Option.none_or, Option.or_none] at reference referenced
      have referencedSame : response.referencedMessage = other.referencedMessage := by
        cases found : response.referencedMessage with
        | none =>
            rw [found, Option.map_none, eq_comm, Option.map_eq_none_iff] at referenced
            exact referenced.symm
        | some inner =>
            rw [found, Option.map_some, eq_comm, Option.map_eq_some_iff] at referenced
            obtain ⟨otherInner, stored, written⟩ := referenced
            have smaller : sizeOf inner < size := bound ▸ sizeOf_referenced found
            rw [stored, ih _ smaller written.symm rfl]
      have referenceSame :=
        Option.map_injective CompatMessageReferenceResponse.toJson_injective reference
      rw [toJson_eq, toJson_eq, referencedSame, referenceSame] at same
      simp only [List.append_assoc, List.cons_append, List.nil_append, Json.object.injEq,
        List.cons.injEq, Prod.mk.injEq, true_and, List.append_cancel_left_eq, Json.string.injEq,
        Json.bool.injEq, Json.array.injEq, Json.integer.injEq, and_true,
        CompatUserResponse.toJson_injective.eq_iff, ofOption_injective.eq_iff,
        (List.map_injective_iff.mpr CompatUserResponse.toJson_injective).eq_iff,
        (List.map_injective_iff.mpr fun _ _ => Json.string.inj).eq_iff] at same
      obtain ⟨id, channelId, author, content, timestamp, edited, tts, everyone, mentions, roles,
        attachments, embeds, components, pinned, kind⟩ := same
      exact CompatMessageResponse.ext id channelId author content timestamp edited tts everyone
        mentions roles attachments embeds components referenceSame referencedSame pinned kind

/-- A user that was mentioned is decoded as shown. -/
theorem compatMentionFromEvent_toJson (user : CompatUserResponse)
    : compatMentionFromEvent user.toJson = some user.toJson := by
  simp [compatMentionFromEvent, CompatUserResponse.toJson, Json.textAt, Json.asText, Json.asStr,
    Json.asBool]

/-- An attachment is decoded as responses show it, where its size fits the number. -/
theorem compatAttachmentFromEvent_response (publicUrl : String) {attachment : Attachment}
    (fits : -2 ^ 63 ≤ attachment.sizeBytes ∧ attachment.sizeBytes < 2 ^ 63)
    : compatAttachmentFromEvent (attachmentResponse publicUrl attachment)
        = some (compatAttachmentResponse publicUrl attachment) := by
  have size : (Json.integer attachment.sizeBytes).asI64 = some attachment.sizeBytes :=
    if_pos fits
  simp [compatAttachmentFromEvent, attachmentResponse, compatAttachmentResponse, Json.textAt,
    Json.asText, Json.asStr, size]

/-- The fields of a published message, the one of the message it refers to apart. -/
theorem get_realtimeMessageValue (message : Message) (attachments : List Attachment)
    (mentions : CompatResolvedMentions) (publicUrl key : String)
    : (realtimeMessageValue message attachments mentions publicUrl).get key
        = if "mention_roles" = key then some (.array (mentions.roleIds.map .string))
          else if "mentions" = key then
            some (.array (mentions.users.map CompatUserResponse.toJson))
          else if "mention_everyone" = key then some (.bool mentions.everyone)
          else (messageResponse message attachments publicUrl).get key := by
  have isObject : (messageResponse message attachments publicUrl).isObject = true := rfl
  have embeds : (messageResponse message attachments publicUrl).get "embeds"
      = some (.array (message.embeds.map PlainJson.value)) := by
    simp [messageResponse]
  have components : (messageResponse message attachments publicUrl).get "components"
      = some (.array (message.components.map PlainJson.value)) := by
    simp [messageResponse]
  simp only [realtimeMessageValue, Json.get_insert, Json.isObject_insert, isObject]
  split_ifs with _ _ _ atComponents atEmbeds
  · rfl
  · rfl
  · rfl
  · rw [← atComponents, components]
  · rw [← atEmbeds, embeds]
  · rfl

/-- Accepted items of a list that was published are the ones that were made of it. -/
theorem itemsAt_map {α : Type} {value : Json} {key : String} {item : Json → Option Json}
    {publish shown : α → Json} {items : List α}
    (published : value.get key = some (.array (items.map publish)))
    (decoded : ∀ source ∈ items, item (publish source) = some (shown source))
    : itemsAt value key item = .array (items.map shown) := by
  rw [itemsAt, published]
  simp only [Option.bind_some, Json.asArray, Option.getD_some, List.filterMap_map]
  exact congrArg Json.array (List.filterMap_eq_map_iff_forall_eq_some.mpr decoded)

/-- A value that has the fields of a published message, except perhaps for the message that it
refers to.
-/
def Publishes (payload : Json) (message : Message) (attachments : List Attachment)
    (mentions : CompatResolvedMentions) (publicUrl : String) : Prop :=
  ∀ key, "referenced_message" ≠ key
    → payload.get key = (realtimeMessageValue message attachments mentions publicUrl).get key

namespace Publishes

variable {payload : Json} {message : Message} {attachments : List Attachment}
  {mentions : CompatResolvedMentions} {publicUrl : String}

theorem of_referenced (message : Message) (attachments : List Attachment)
    (mentions : CompatResolvedMentions) (referencedMessage : Option ReferencedCompatMessage)
    (publicUrl : String)
    : Publishes (realtimeMessagePayload message attachments mentions referencedMessage publicUrl)
        message attachments mentions publicUrl := by
  intro key other
  cases referencedMessage with
  | none => rfl
  | some referenced =>
      have isObject
          : (realtimeMessageValue message attachments mentions publicUrl).isObject = true := by
        simp [realtimeMessageValue, messageResponse]
      rw [realtimeMessagePayload, Json.get_insert isObject, if_neg other]

/-- Every other field is the one of the response. -/
theorem kept (publishes : Publishes payload message attachments mentions publicUrl) {key : String}
    (other : key ∉ ["referenced_message", "mention_roles", "mentions", "mention_everyone"])
    : payload.get key = (messageResponse message attachments publicUrl).get key := by
  simp only [List.mem_cons, List.not_mem_nil, or_false, not_or] at other
  obtain ⟨refers, roles, users, everyone⟩ := other
  rw [publishes key (Ne.symm refers), get_realtimeMessageValue, if_neg (Ne.symm roles),
    if_neg (Ne.symm users), if_neg (Ne.symm everyone)]

/-- A text of the response is copied. -/
theorem textAt (publishes : Publishes payload message attachments mentions publicUrl)
    {key text : String}
    (other : key ∉ ["referenced_message", "mention_roles", "mentions", "mention_everyone"])
    (written : (messageResponse message attachments publicUrl).get key = some (.string text))
    : payload.textAt key = some (.string text) := by
  rw [Json.textAt, publishes.kept other, written]
  rfl

/-- A text of the response that may be missing is copied where there is one. -/
theorem textAt_ofOption (publishes : Publishes payload message attachments mentions publicUrl)
    {key : String} {text : Option String}
    (other : key ∉ ["referenced_message", "mention_roles", "mentions", "mention_everyone"])
    (written : (messageResponse message attachments publicUrl).get key = some (.ofOption text))
    : payload.textAt key = text.map .string := by
  rw [Json.textAt, publishes.kept other, written]
  cases text <;> rfl

theorem webhookUsername (publishes : Publishes payload message attachments mentions publicUrl)
    : payload.get "webhook_username" = message.webhookUsername.map .string := by
  rw [publishes.kept (by decide)]
  simp [messageResponse]

theorem users (publishes : Publishes payload message attachments mentions publicUrl)
    : itemsAt payload "mentions" compatMentionFromEvent
        = .array (mentions.users.map CompatUserResponse.toJson) := by
  refine itemsAt_map ?_ fun user _ => compatMentionFromEvent_toJson user
  rw [publishes _ (by decide), get_realtimeMessageValue]
  rfl

theorem roles (publishes : Publishes payload message attachments mentions publicUrl)
    : itemsAt payload "mention_roles" Json.asText = .array (mentions.roleIds.map .string) := by
  have written : payload.get "mention_roles" = some (.array (mentions.roleIds.map .string)) := by
    rw [publishes _ (by decide), get_realtimeMessageValue]
    rfl
  exact itemsAt_map written fun _ _ => rfl

theorem everyone (publishes : Publishes payload message attachments mentions publicUrl)
    : payload.get "mention_everyone" = some (.bool mentions.everyone) := by
  rw [publishes _ (by decide), get_realtimeMessageValue]
  rfl

theorem attached (publishes : Publishes payload message attachments mentions publicUrl)
    (fits : ∀ attachment ∈ attachments,
      -2 ^ 63 ≤ attachment.sizeBytes ∧ attachment.sizeBytes < 2 ^ 63)
    : itemsAt payload "attachments" compatAttachmentFromEvent
        = .array (attachments.map (compatAttachmentResponse publicUrl)) := by
  have written : payload.get "attachments"
      = some (.array (attachments.map (attachmentResponse publicUrl))) := by
    rw [publishes.kept (by decide)]
    simp [messageResponse]
  exact itemsAt_map written fun attachment listed =>
    compatAttachmentFromEvent_response publicUrl (fits attachment listed)

theorem embeds (publishes : Publishes payload message attachments mentions publicUrl)
    : itemsAt payload "embeds" some = .array (message.embeds.map PlainJson.value) := by
  refine itemsAt_map ?_ fun _ _ => rfl
  rw [publishes.kept (by decide)]
  simp [messageResponse]

theorem components (publishes : Publishes payload message attachments mentions publicUrl)
    : itemsAt payload "components" some = .array (message.components.map PlainJson.value) := by
  refine itemsAt_map ?_ fun _ _ => rfl
  rw [publishes.kept (by decide)]
  simp [messageResponse]

theorem channelId (publishes : Publishes payload message attachments mentions publicUrl)
    : payload.textAt "channel_id" = some (.string message.channelId.toString) :=
  publishes.textAt (by decide) (by simp [messageResponse])

/-- The reference is decoded as the response shows it, with the space where there is one. -/
theorem reference (publishes : Publishes payload message attachments mentions publicUrl)
    : compatMessageReferenceFromEvent payload
        = message.replyToMessageId.map fun replyToMessageId =>
            CompatMessageReferenceResponse.toJson ⟨replyToMessageId.toString,
              message.channelId.toString, message.spaceId.map Uuid.toString⟩ := by
  have replied : payload.textAt "reply_to_message_id"
      = (message.replyToMessageId.map Uuid.toString).map .string :=
    publishes.textAt_ofOption (by decide) (by simp [messageResponse])
  have space : payload.textAt "space_id" = (message.spaceId.map Uuid.toString).map .string :=
    publishes.textAt_ofOption (by decide) (by simp [messageResponse])
  rw [compatMessageReferenceFromEvent, replied, publishes.channelId, space]
  cases message.replyToMessageId with
  | none => rfl
  | some replyToMessageId => cases message.spaceId <;> rfl

/-- The message is decoded as the response shows it, next to whatever the field of the message
that it refers to is decoded as.
-/
theorem decoded (publishes : Publishes payload message attachments mentions publicUrl)
    {currentBot : AuthenticatedBot} {referenced : Option CompatMessageResponse}
    (refers : (payload.get "referenced_message").bind (compatMessageFromValue currentBot)
      = referenced.map CompatMessageResponse.toJson)
    (fits : ∀ attachment ∈ attachments,
      -2 ^ 63 ≤ attachment.sizeBytes ∧ attachment.sizeBytes < 2 ^ 63)
    : compatMessageFromValue currentBot payload
        = some { compatMessageResponse message attachments mentions none currentBot publicUrl with
            referencedMessage := referenced }.toJson := by
  have author : payload.textAt "author_user_id" = some (.string message.authorUserId.toString) :=
    publishes.textAt (by decide) (by simp [messageResponse])
  have id : payload.textAt "id" = some (.string message.id.toString) :=
    publishes.textAt (by decide) (by simp [messageResponse])
  have content : payload.textAt "content" = some (.string message.content) :=
    publishes.textAt (by decide) (by simp [messageResponse])
  have created : payload.textAt "created_at" = some (.string message.createdAt) :=
    publishes.textAt (by decide) (by simp [messageResponse])
  have edited : payload.textAt "edited_at" = message.editedAt.map .string :=
    publishes.textAt_ofOption (by decide) (by simp [messageResponse])
  have webhook : payload.textAt "webhook_username" = message.webhookUsername.map .string := by
    rw [Json.textAt, publishes.webhookUsername]
    cases message.webhookUsername <;> rfl
  have same : (Json.string message.authorUserId.toString).asStr = some currentBot.botUserId.toString
      ↔ message.authorUserId = currentBot.botUserId :=
    Option.some_inj.trans Uuid.toString_injective.eq_iff
  rw [compatMessageFromValue, author, id, publishes.channelId, content, created, edited,
    publishes.reference, publishes.everyone, publishes.users, publishes.roles,
    publishes.attached fits, publishes.embeds, publishes.components, webhook,
    publishes.webhookUsername, compatMessageResponse, CompatMessageResponse.toJson_eq]
  have shown : (message.editedAt.map Json.string).getD .null = .ofOption message.editedAt := by
    cases message.editedAt <;> rfl
  simp only [Option.bind_eq_bind, Option.bind_some, same, compatMessageAuthor, Option.map_map,
    shown]
  -- the author of a webhook, the bot itself, or any other user
  cases message.webhookUsername
  case' none => by_cases own : message.authorUserId = currentBot.botUserId
  case' pos => simp only [own, decide_true, if_true, Option.map_none, Option.isSome_none]
  case' neg => simp only [own, decide_false, Bool.false_eq_true, if_false, Option.map_none,
    Option.isSome_none]
  case' some => simp only [Option.map_some, Option.isSome_some, Bool.or_true]
  all_goals
    split
    · next source found =>
        rw [found, Option.bind_some] at refers
        rw [refers]
        rfl
    · next missing =>
        rw [missing, Option.bind_none] at refers
        rw [refers]
        rfl

end Publishes

/-- A published message that refers to none is decoded as the response shows it. -/
theorem compatMessageFromValue_realtimeMessageValue {message : Message}
    {attachments : List Attachment} {mentions : CompatResolvedMentions} {publicUrl : String}
    {currentBot : AuthenticatedBot}
    (fits : ∀ attachment ∈ attachments,
      -2 ^ 63 ≤ attachment.sizeBytes ∧ attachment.sizeBytes < 2 ^ 63)
    : compatMessageFromValue currentBot
          (realtimeMessageValue message attachments mentions publicUrl)
        = some (compatMessageResponse message attachments mentions none currentBot
            publicUrl).toJson := by
  have publishes : Publishes (realtimeMessageValue message attachments mentions publicUrl) message
      attachments mentions publicUrl :=
    .of_referenced message attachments mentions none publicUrl
  have refers : ((realtimeMessageValue message attachments mentions publicUrl).get
        "referenced_message").bind (compatMessageFromValue currentBot)
      = (none : Option CompatMessageResponse).map CompatMessageResponse.toJson := by
    simp [get_realtimeMessageValue, messageResponse]
  rw [publishes.decoded refers fits, compatMessageResponse]

/-- For every message, attachments, mentions, referenced message and bot, what the bot decodes
of the published message is the response that it gets to a request. Sizes are signed 64-bit
integers.
-/
theorem compatMessageFromValue_realtimeMessagePayload (message : Message)
    (attachments : List Attachment) (mentions : CompatResolvedMentions)
    (referencedMessage : Option ReferencedCompatMessage) (publicUrl : String)
    (currentBot : AuthenticatedBot)
    (fits : ∀ attachment ∈ attachments,
      -2 ^ 63 ≤ attachment.sizeBytes ∧ attachment.sizeBytes < 2 ^ 63)
    (referencedFits : ∀ referenced ∈ referencedMessage, ∀ attachment ∈ referenced.attachments,
      -2 ^ 63 ≤ attachment.sizeBytes ∧ attachment.sizeBytes < 2 ^ 63)
    (response : CompatMessageResponse)
    : compatMessageFromValue currentBot
          (realtimeMessagePayload message attachments mentions referencedMessage publicUrl)
        = some response.toJson
      ↔ response = compatMessageResponse message attachments mentions referencedMessage currentBot
          publicUrl := by
  have decoded : compatMessageFromValue currentBot
      (realtimeMessagePayload message attachments mentions referencedMessage publicUrl)
        = some (compatMessageResponse message attachments mentions referencedMessage currentBot
          publicUrl).toJson := by
    cases referencedMessage with
    | none => exact compatMessageFromValue_realtimeMessageValue fits
    | some referenced =>
        have publishes := Publishes.of_referenced message attachments mentions (some referenced)
          publicUrl
        have isObject
            : (realtimeMessageValue message attachments mentions publicUrl).isObject = true := by
          simp [realtimeMessageValue, messageResponse]
        have refers : ((realtimeMessagePayload message attachments mentions (some referenced)
              publicUrl).get "referenced_message").bind (compatMessageFromValue currentBot)
            = (some (compatMessageResponse referenced.message referenced.attachments
                referenced.mentions none currentBot publicUrl)).map
              CompatMessageResponse.toJson := by
          rw [realtimeMessagePayload, Json.get_insert isObject, if_pos rfl, Option.bind_some,
            compatMessageFromValue_realtimeMessageValue (referencedFits referenced rfl),
            Option.map_some]
        rw [publishes.decoded refers fits]
        conv_rhs => rw [compatMessageResponse]
        rw [compatMessageResponse]
  rw [decoded, Option.some_inj]
  exact ⟨fun same => (CompatMessageResponse.toJson_injective same).symm, fun same => same ▸ rfl⟩

/-- A picture of another message that a webhook posted, and the reply of a bot to it. -/
def picture : Attachment :=
  ⟨.ofNat 20, .ofNat 1, .ofNat 2, .ofNat 3, some (.ofNat 10), .ofNat 5, "chart.png", "image/png",
    2048, .linked, "2026-01-01T00:00:00.000Z"⟩

def posted : Message :=
  ⟨.ofNat 10, .ofNat 1, some (.ofNat 2), .ofNat 3, .ofNat 5, "Build 7 failed", "plain", [], [],
    some "CI", none, [], [], false, none, none, none, "2026-01-01T00:00:00.000Z"⟩

def reply : Message :=
  ⟨.ofNat 11, .ofNat 1, some (.ofNat 2), .ofNat 3, .ofNat 6, "Retrying", "plain", [], [], none,
    none, [], [], true, some (.ofNat 10), none, none, "2026-01-01T00:00:01.000Z"⟩

theorem compatMessageFromValue_reply
    : let attachments := [{ picture with id := .ofNat 21, messageId := some (.ofNat 11) }]
      let referenced : ReferencedCompatMessage := ⟨posted, [picture], ⟨[], [], false⟩⟩
      let bot : AuthenticatedBot := ⟨.ofNat 7, .ofNat 1, .ofNat 6, "Helper"⟩
      compatMessageFromValue bot (realtimeMessagePayload reply attachments ⟨[], [], true⟩
          (some referenced) "https://chat.example")
        = some (compatMessageResponse reply attachments ⟨[], [], true⟩ (some referenced) bot
            "https://chat.example").toJson :=
  (compatMessageFromValue_realtimeMessagePayload _ _ _ _ _ _ (by decide)
    (fun referenced given attachment listed => by
      cases given
      obtain rfl := List.mem_singleton.mp listed
      decide) _).mpr rfl

end OpenCord.Compat
