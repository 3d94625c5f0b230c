import OpenCord.Bots.Commands
import OpenCord.Realtime.Events

/-! What bots get of an event: the payloads of gateway dispatches, each made of the event
for the bot of the connection.
-/

namespace OpenCord.Gateway

open OpenCord.Platform OpenCord.Bots OpenCord.Realtime

-----------------------------------------------------------------------------------------
-- Messages
-----------------------------------------------------------------------------------------

def compatAttachmentFromEvent (attachment : Json) : Option Json := do
  let id ← attachment.textAt "id"
  let filename ← attachment.textAt "file_name"
  let size ← (attachment.get "size_bytes").bind Json.asI64
  let url ← attachment.textAt "download_url"
  let fields := [("id", id), ("filename", filename), ("size", .integer size), ("url", url),
    ("proxy_url", url)]
  match attachment.textAt "content_type" with
  | some contentType => return .object (fields ++ [("content_type", contentType)])
  | none => return .object fields

def compatMentionFromEvent (mention : Json) : Option Json := do
  let id ← mention.textAt "id"
  let username ← mention.textAt "username"
  let bot := ((mention.get "bot").bind Json.asBool).getD false
  return .object [("id", id), ("username", username), ("bot", .bool bot)]

/-- The items of an array field that a function accepts; none if there is no array. -/
def itemsAt (value : Json) (key : String) (item : Json → Option Json) : Json :=
  .array ((((value.get key).bind Json.asArray).getD []).filterMap item)

def compatMessageReferenceFromEvent (message : Json) : Option Json := do
  let messageId ← message.textAt "reply_to_message_id"
  let channelId ← message.textAt "channel_id"
  let fields := [("message_id", messageId), ("channel_id", channelId)]
  match message.textAt "space_id" with
  | some guildId => return .object (fields ++ [("guild_id", guildId)])
  | none => return .object fields

def compatMessageFromValue (currentBot : AuthenticatedBot) (message : Json) : Option Json := do
  let authorUserId ← message.textAt "author_user_id"
  let authorIsCurrentBot := decide (authorUserId.asStr = some currentBot.botUserId.toString)
  let referencedMessage := match found : message.get "referenced_message" with
    | some referenced =>
        have := Json.sizeOf_get found
        compatMessageFromValue currentBot referenced
    | none => none
  let authorUsername := match message.textAt "webhook_username" with
    | some username => username
    | none => .string (if authorIsCurrentBot then currentBot.name else "OpenCord User")
  let id ← message.textAt "id"
  let channelId ← message.textAt "channel_id"
  let content ← message.textAt "content"
  let timestamp ← message.textAt "created_at"
  return .object ([
    ("id", id), ("channel_id", channelId),
    ("author", .object [("id", authorUserId), ("username", authorUsername),
      ("bot", .bool (authorIsCurrentBot || (message.get "webhook_username").isSome))]),
    ("content", content), ("timestamp", timestamp),
    ("edited_timestamp", (message.textAt "edited_at").getD .null), ("tts", .bool false),
    ("mention_everyone", .bool (((message.get "mention_everyone").bind Json.asBool).getD false)),
    ("mentions", itemsAt message "mentions" compatMentionFromEvent),
    ("mention_roles", itemsAt message "mention_roles" Json.asText),
    ("attachments", itemsAt message "attachments" compatAttachmentFromEvent),
    ("embeds", itemsAt message "embeds" some),
    ("components", itemsAt message "components" some)]
    ++ Json.optionalField "message_reference" (compatMessageReferenceFromEvent message)
    ++ Json.optionalField "referenced_message" referencedMessage
    ++ [("pinned", .bool false), ("type", .integer 0)])
termination_by sizeOf message

def compatMessageFromEvent (currentBot : AuthenticatedBot) (event : RealtimeEvent)
    : Option Json := do
  let message ← event.data.get "message"
  compatMessageFromValue currentBot message

def compatMessageDeleteFromEvent (event : RealtimeEvent) : Option Json := do
  let id ← event.data.textAt "id"
  let channelId ← event.scope.channelId
  return .object ([("id", id), ("channel_id", .string channelId)]
    ++ Json.optionalField "guild_id" (event.scope.spaceId.map .string))

-----------------------------------------------------------------------------------------
-- Channels, guilds and members
-----------------------------------------------------------------------------------------

def compatChannelKind (kind : String) : Int :=
  if kind = "voice" then 2 else 0

def compatChannelFromEvent (event : RealtimeEvent) : Option Json := do
  let channel ← event.data.get "channel"
  let kind ← (channel.get "kind").bind Json.asStr
  let id ← channel.textAt "id"
  let guildId ← (event.scope.spaceId.map Json.string).or (channel.textAt "space_id")
  let name ← channel.textAt "name"
  return .object [("id", id), ("guild_id", guildId), ("name", name),
    ("type", .integer (compatChannelKind kind)),
    ("position", .integer (((channel.get "position").bind Json.asI64).getD 0)),
    ("topic", (channel.get "topic").getD .null), ("nsfw", .bool false)]

def compatGuildFromEvent (event : RealtimeEvent) : Option Json :=
  event.data.get "guild"

def compatGuildMemberFromEvent (event : RealtimeEvent) : Option Json :=
  event.data.get "member"

-----------------------------------------------------------------------------------------
-- Interactions
-----------------------------------------------------------------------------------------

/-- What an interaction is about: the command with its options, or the message with the
component.
-/
def compatInteractionTarget (event : RealtimeEvent) (currentBot : AuthenticatedBot)
    (interaction : Json) (interactionType : Int) : Option (List (String × Json)) :=
  if interactionType = interactionTypeApplicationCommand then do
    let command ← event.data.get "command"
    let id ← command.textAt "id"
    let name ← command.textAt "name"
    let type ← command.get "type"
    return [("data", .object [("id", id), ("name", name),
      ("type", .integer (type.asI64.getD 1)),
      ("options", (interaction.get "options").getD (.array []))])]
  else if interactionType = interactionTypeMessageComponent then do
    let message ← event.data.get "message"
    let message ← compatMessageFromValue currentBot message
    let customId ← interaction.textAt "custom_id"
    let componentType ← (interaction.get "component_type").bind Json.asI64
    return [("message", message),
      ("data", .object [("custom_id", customId), ("component_type", .integer componentType)])]
  else
    none

/-- An interaction is shown to the bot of its own application only. -/
def compatInteractionFromEvent (event : RealtimeEvent) (currentBot : AuthenticatedBot)
    : Option Json := do
  let interaction ← event.data.get "interaction"
  let applicationId ← interaction.textAt "application_id"
  if applicationId.asStr ≠ some currentBot.applicationId.toString then
    none
  else
    let interactionType :=
      ((interaction.get "type").bind Json.asI32).getD interactionTypeApplicationCommand
    let id ← interaction.textAt "id"
    let token ← interaction.textAt "token"
    let guildId ← interaction.textAt "space_id"
    let channelId ← interaction.textAt "channel_id"
    let invokingUserId ← interaction.textAt "invoking_user_id"
    let target ← compatInteractionTarget event currentBot interaction interactionType
    return .object ([("id", id), ("application_id", applicationId),
      ("type", .integer interactionType), ("token", token), ("guild_id", guildId),
      ("channel_id", channelId),
      ("member", .object [("user", .object [("id", invokingUserId)])])] ++ target)

-----------------------------------------------------------------------------------------
-- Marked strings of payloads
-----------------------------------------------------------------------------------------

/-- Accepted items bring no marked strings but those of the array, if each accepted item
brings none but its own.
-/
theorem tokens_itemsAt {value : Json} {key : String} {item : Json → Option Json}
    (copies : ∀ source copy, item source = some copy → copy.tokens ⊆ source.tokens)
    : (itemsAt value key item).tokens ⊆ value.tokens := by
  intro token marked
  rw [itemsAt, Json.tokens_array, List.mem_flatMap] at marked
  obtain ⟨copy, listed, marked⟩ := marked
  obtain ⟨source, listed, copied⟩ := List.mem_filterMap.mp listed
  cases found : (value.get key).bind Json.asArray with
  | none =>
      rw [found] at listed
      cases listed
  | some items =>
      rw [found] at listed
      obtain ⟨array, stored, items⟩ := Option.bind_eq_some_iff.mp found
      exact Json.tokens_get stored (Json.tokens_asArray items listed (copies _ _ copied marked))

theorem tokens_compatMentionFromEvent (mention payload : Json)
    (made : compatMentionFromEvent mention = some payload)
    : payload.tokens ⊆ mention.tokens := by
  obtain ⟨id, idCopied, made⟩ := Option.bind_eq_some_iff.mp made
  obtain ⟨username, usernameCopied, made⟩ := Option.bind_eq_some_iff.mp made
  cases made
  have ids := Json.tokens_textAt idCopied
  have usernames := Json.tokens_textAt usernameCopied
  simp only [Json.tokens_object, List.flatMap_cons, List.flatMap_nil, Json.tokens_bool,
    List.append_nil, List.append_subset]
  exact ⟨ids, usernames⟩

theorem tokens_compatAttachmentFromEvent (attachment payload : Json)
    (made : compatAttachmentFromEvent attachment = some payload)
    : payload.tokens ⊆ attachment.tokens := by
  obtain ⟨id, idCopied, made⟩ := Option.bind_eq_some_iff.mp made
  obtain ⟨filename, filenameCopied, made⟩ := Option.bind_eq_some_iff.mp made
  obtain ⟨size, _, made⟩ := Option.bind_eq_some_iff.mp made
  obtain ⟨url, urlCopied, made⟩ := Option.bind_eq_some_iff.mp made
  have ids := Json.tokens_textAt idCopied
  have filenames := Json.tokens_textAt filenameCopied
  have urls := Json.tokens_textAt urlCopied
  split at made
  · next contentType typeCopied =>
      cases made
      have types := Json.tokens_textAt typeCopied
      simp only [Json.tokens_object, List.flatMap_cons, List.flatMap_nil, Json.tokens_integer,
        List.cons_append, List.nil_append, List.append_nil, List.append_subset]
      exact ⟨ids, filenames, urls, urls, types⟩
  · cases made
    simp only [Json.tokens_object, List.flatMap_cons, List.flatMap_nil, Json.tokens_integer,
      List.nil_append, List.append_nil, List.append_subset]
    exact ⟨ids, filenames, urls, urls⟩

theorem tokens_compatMessageReferenceFromEvent {message payload : Json}
    (made : compatMessageReferenceFromEvent message = some payload)
    : payload.tokens ⊆ message.tokens := by
  obtain ⟨messageId, messageCopied, made⟩ := Option.bind_eq_some_iff.mp made
  obtain ⟨channelId, channelCopied, made⟩ := Option.bind_eq_some_iff.mp made
  have messages := Json.tokens_textAt messageCopied
  have channels := Json.tokens_textAt channelCopied
  split at made
  · next guildId guildCopied =>
      cases made
      have guilds := Json.tokens_textAt guildCopied
      simp only [Json.tokens_object, List.flatMap_cons, List.flatMap_nil, List.cons_append,
        List.nil_append, List.append_nil, List.append_subset]
      exact ⟨messages, channels, guilds⟩
  · cases made
    simp only [Json.tokens_object, List.flatMap_cons, List.flatMap_nil, List.append_nil,
      List.append_subset]
    exact ⟨messages, channels⟩

/-- A copied field that is null when absent brings the marked strings of its source. -/
theorem tokens_getD_null {value : Option Json} {allowed : List String}
    (within : ∀ written, value = some written → written.tokens ⊆ allowed)
    : (value.getD .null).tokens ⊆ allowed := by
  cases value with
  | none => exact List.nil_subset _
  | some written => exact within written rfl

/-- A message payload brings no marked strings but those of the message, by induction on the
size of the message, since it includes the message it refers to.
-/
theorem tokens_compatMessageFromValue {currentBot : AuthenticatedBot} {message payload : Json}
    (made : compatMessageFromValue currentBot message = some payload)
    : payload.tokens ⊆ message.tokens := by
  induction bound : sizeOf message using Nat.strong_induction_on generalizing message payload with
  | _ size ih =>
      rw [compatMessageFromValue] at made
      obtain ⟨authorUserId, authorCopied, made⟩ := Option.bind_eq_some_iff.mp made
      obtain ⟨id, idCopied, made⟩ := Option.bind_eq_some_iff.mp made
      obtain ⟨channelId, channelCopied, made⟩ := Option.bind_eq_some_iff.mp made
      obtain ⟨content, contentCopied, made⟩ := Option.bind_eq_some_iff.mp made
      obtain ⟨timestamp, timestampCopied, made⟩ := Option.bind_eq_some_iff.mp made
      cases made
      have texts {key : String} {text : Json} (copied : message.textAt key = some text)
          : text.tokens ⊆ message.tokens :=
        Json.tokens_textAt copied
      have username : (match message.textAt "webhook_username" with
          | some username => username
          | none => .string (if decide (authorUserId.asStr = some currentBot.botUserId.toString)
              then currentBot.name else "OpenCord User")).tokens ⊆ message.tokens := by
        split
        · next copied => exact texts copied
        · exact List.nil_subset _
      have unchanged (key : String) : (itemsAt message key some).tokens ⊆ message.tokens :=
        tokens_itemsAt fun source copy same => Option.some.inj same ▸ List.Subset.refl _
      simp only [Json.tokens_object, List.flatMap_append, List.flatMap_cons, List.flatMap_nil,
        Json.tokens_bool, Json.tokens_integer, List.nil_append, List.append_nil,
        List.append_subset]
      refine ⟨⟨⟨texts idCopied, texts channelCopied, ⟨texts authorCopied, username⟩,
        texts contentCopied, texts timestampCopied, tokens_getD_null fun _ => texts,
        tokens_itemsAt tokens_compatMentionFromEvent, tokens_itemsAt fun _ _ => Json.tokens_asText,
        tokens_itemsAt tokens_compatAttachmentFromEvent, unchanged _, unchanged _⟩, ?_⟩, ?_⟩
      · exact Json.tokens_optionalField fun _ => tokens_compatMessageReferenceFromEvent
      · refine Json.tokens_optionalField fun written referenced => ?_
        split at referenced
        · next source found =>
            have smaller : sizeOf source < size := bound ▸ Json.sizeOf_get found
            exact List.Subset.trans (ih _ smaller referenced rfl) (Json.tokens_get found)
        · cases referenced

theorem tokens_compatMessageFromEvent {currentBot : AuthenticatedBot} {event : RealtimeEvent}
    {payload : Json} (made : compatMessageFromEvent currentBot event = some payload)
    : payload.tokens ⊆ event.data.tokens := by
  obtain ⟨message, found, made⟩ := Option.bind_eq_some_iff.mp made
  exact List.Subset.trans (tokens_compatMessageFromValue made) (Json.tokens_get found)

theorem tokens_compatMessageDeleteFromEvent {event : RealtimeEvent} {payload : Json}
    (made : compatMessageDeleteFromEvent event = some payload)
    : payload.tokens ⊆ event.data.tokens := by
  obtain ⟨id, idCopied, made⟩ := Option.bind_eq_some_iff.mp made
  obtain ⟨channelId, _, made⟩ := Option.bind_eq_some_iff.mp made
  cases made
  simp only [Json.tokens_object, List.flatMap_append, List.flatMap_cons, List.flatMap_nil,
    Json.tokens_string, List.append_nil, List.append_subset]
  refine ⟨Json.tokens_textAt idCopied, Json.tokens_optionalField fun written named => ?_⟩
  obtain ⟨spaceId, _, rfl⟩ := Option.map_eq_some_iff.mp named
  exact List.nil_subset _

theorem tokens_compatChannelFromEvent {event : RealtimeEvent} {payload : Json}
    (made : compatChannelFromEvent event = some payload)
    : payload.tokens ⊆ event.data.tokens := by
  obtain ⟨channel, found, made⟩ := Option.bind_eq_some_iff.mp made
  obtain ⟨kind, _, made⟩ := Option.bind_eq_some_iff.mp made
  obtain ⟨id, idCopied, made⟩ := Option.bind_eq_some_iff.mp made
  obtain ⟨guildId, guildCopied, made⟩ := Option.bind_eq_some_iff.mp made
  obtain ⟨name, nameCopied, made⟩ := Option.bind_eq_some_iff.mp made
  cases made
  have guild : guildId.tokens ⊆ channel.tokens := by
    rcases Option.or_eq_some_iff.mp guildCopied with inScope | ⟨_, copied⟩
    · obtain ⟨spaceId, _, rfl⟩ := Option.map_eq_some_iff.mp inScope
      exact List.nil_subset _
    · exact Json.tokens_textAt copied
  refine List.Subset.trans ?_ (Json.tokens_get found)
  simp only [Json.tokens_object, List.flatMap_cons, List.flatMap_nil, Json.tokens_bool,
    Json.tokens_integer, List.nil_append, List.append_nil, List.append_subset]
  exact ⟨Json.tokens_textAt idCopied, guild, Json.tokens_textAt nameCopied,
    tokens_getD_null fun _ => Json.tokens_get⟩

theorem tokens_compatInteractionTarget {event : RealtimeEvent} {currentBot : AuthenticatedBot}
    {interaction : Json} {interactionType : Int} {target : List (String × Json)}
    (found : event.data.get "interaction" = some interaction)
    (made : compatInteractionTarget event currentBot interaction interactionType = some target)
    : target.flatMap (fun field => field.2.tokens) ⊆ event.data.tokens := by
  have inInteraction := Json.tokens_get found
  rw [compatInteractionTarget] at made
  split at made
  · obtain ⟨command, commandFound, made⟩ := Option.bind_eq_some_iff.mp made
    obtain ⟨id, idCopied, made⟩ := Option.bind_eq_some_iff.mp made
    obtain ⟨name, nameCopied, made⟩ := Option.bind_eq_some_iff.mp made
    obtain ⟨type, _, made⟩ := Option.bind_eq_some_iff.mp made
    cases made
    have inCommand := Json.tokens_get commandFound
    have options : ((interaction.get "options").getD (.array [])).tokens ⊆ event.data.tokens := by
      cases given : interaction.get "options" with
      | none => exact List.nil_subset _
      | some options => exact List.Subset.trans (Json.tokens_get given) inInteraction
    simp only [Json.tokens_object, List.flatMap_cons, List.flatMap_nil, Json.tokens_integer,
      List.nil_append, List.append_nil, List.append_subset]
    exact ⟨List.Subset.trans (Json.tokens_textAt idCopied) inCommand,
      List.Subset.trans (Json.tokens_textAt nameCopied) inCommand, options⟩
  · split at made
    · obtain ⟨message, messageFound, made⟩ := Option.bind_eq_some_iff.mp made
      obtain ⟨payload, messageMade, made⟩ := Option.bind_eq_some_iff.mp made
      obtain ⟨customId, customCopied, made⟩ := Option.bind_eq_some_iff.mp made
      obtain ⟨componentType, _, made⟩ := Option.bind_eq_some_iff.mp made
      cases made
      simp only [Json.tokens_object, List.flatMap_cons, List.flatMap_nil, Json.tokens_integer,
        List.append_nil, List.append_subset]
      exact ⟨List.Subset.trans (tokens_compatMessageFromValue messageMade)
          (Json.tokens_get messageFound),
        List.Subset.trans (Json.tokens_textAt customCopied) inInteraction⟩
    · cases made

/-- An interaction payload copies from the event, and is made for the bot of the application
that the event names only.
-/
theorem compatInteractionFromEvent_some {event : RealtimeEvent} {currentBot : AuthenticatedBot}
    {payload : Json} (made : compatInteractionFromEvent event currentBot = some payload)
    : payload.tokens ⊆ event.data.tokens
        ∧ ∃ interaction applicationId, event.data.get "interaction" = some interaction
            ∧ interaction.textAt "application_id" = some applicationId
            ∧ applicationId.asStr = some currentBot.applicationId.toString := by
  obtain ⟨interaction, found, made⟩ := Option.bind_eq_some_iff.mp made
  obtain ⟨applicationId, applicationCopied, made⟩ := Option.bind_eq_some_iff.mp made
  split at made
  · cases made
  · next own =>
      rw [not_not] at own
      refine ⟨?_, interaction, applicationId, found, applicationCopied, own⟩
      obtain ⟨id, idCopied, made⟩ := Option.bind_eq_some_iff.mp made
      obtain ⟨token, tokenCopied, made⟩ := Option.bind_eq_some_iff.mp made
      obtain ⟨guildId, guildCopied, made⟩ := Option.bind_eq_some_iff.mp made
      obtain ⟨channelId, channelCopied, made⟩ := Option.bind_eq_some_iff.mp made
      obtain ⟨invokingUserId, userCopied, made⟩ := Option.bind_eq_some_iff.mp made
      obtain ⟨target, targetMade, made⟩ := Option.bind_eq_some_iff.mp made
      cases made
      have texts {key : String} {text : Json} (copied : interaction.textAt key = some text)
          : text.tokens ⊆ event.data.tokens :=
        List.Subset.trans (Json.tokens_textAt copied) (Json.tokens_get found)
      simp only [Json.tokens_object, List.flatMap_append, List.flatMap_cons, List.flatMap_nil,
        Json.tokens_integer, List.nil_append, List.append_nil, List.append_subset]
      exact ⟨⟨texts idCopied, texts applicationCopied, texts tokenCopied, texts guildCopied,
        texts channelCopied, texts userCopied⟩, tokens_compatInteractionTarget found targetMade⟩

end OpenCord.Gateway
