import OpenCord.Server.State

/-! The controllers that register application commands and create interactions. -/

namespace OpenCord.Server

open OpenCord.Library OpenCord.Platform OpenCord.Auth OpenCord.Tenancy OpenCord.Bots
  OpenCord.Messages OpenCord.Realtime

variable (crypto : Crypto)

structure CreateCompatApplicationCommandRequest where
  name : String
  description : String
  kind : Option Int
  options : Option PlainJson

structure CreateCommandInteractionRequest where
  commandId : Uuid
  options : Option PlainJson

structure CreateComponentInteractionRequest where
  messageId : Uuid
  customId : String

namespace CommandController

-----------------------------------------------------------------------------------------
-- Responses
-----------------------------------------------------------------------------------------

/-- A command as responses and interaction events show it. -/
def compatApplicationCommandResponse (command : ApplicationCommand) : Json :=
  .object ([("id", .string command.id.toString),
    ("application_id", .string command.applicationId.toString)]
    ++ Json.optionalField "guild_id" ((command.spaceId.map Uuid.toString).map .string)
    ++ [("name", .string command.name), ("description", .string command.description),
      ("type", .integer command.kind), ("options", command.options.value),
      ("version", .string command.id.toString)])

/-- A new interaction with its token, for the response and for the event alike. -/
def commandInteractionResponse (created : CommandInteractionCreated) : Json :=
  let interaction := created.interaction
  .object ([("id", .string interaction.id.toString),
    ("application_id", .string interaction.applicationId.toString),
    ("space_id", .string interaction.spaceId.toString),
    ("channel_id", .string interaction.channelId.toString),
    ("type", .integer interaction.interactionType)]
    ++ Json.optionalField "command_id" ((interaction.commandId.map Uuid.toString).map .string)
    ++ Json.optionalField "message_id" ((interaction.messageId.map Uuid.toString).map .string)
    ++ [("invoking_user_id", .string interaction.invokingUserId.toString),
      ("token", .token created.token),
      ("token_last_four", .string interaction.tokenLastFour),
      ("status", .string interaction.status), ("options", interaction.options.value)]
    ++ Json.optionalField "custom_id" (interaction.customId.map .string)
    ++ Json.optionalField "component_type" (interaction.componentType.map .integer)
    ++ Json.optionalField "response_message_id"
      ((interaction.responseMessageId.map Uuid.toString).map .string)
    ++ [("created_at", .string interaction.createdAt),
      ("responded_at", .ofOption interaction.respondedAt)])

/-- The body that answers the user who creates an interaction. -/
def commandInteractionCreatedResponse (created : CommandInteractionCreated) : Json :=
  .object [("interaction", commandInteractionResponse created)]

/-- The event of a new interaction, with what it is about. -/
def interactionCreated (stamp : EventStamp) (channel : Channel)
    (created : CommandInteractionCreated) (about : String × PlainJson) : RealtimeEvent :=
  .channel stamp "interaction.created" channel.organizationId channel.spaceId channel.id
    (.object [("interaction", commandInteractionResponse created),
      (about.1, about.2.value)])

/-- A command has no marked strings. -/
@[simp] theorem tokens_compatApplicationCommandResponse (command : ApplicationCommand)
    : (compatApplicationCommandResponse command).tokens = [] := by
  simp only [compatApplicationCommandResponse, Json.tokens_object, List.flatMap_append,
    List.flatMap_cons, List.flatMap_nil, Json.tokens_string, Json.tokens_integer,
    Json.tokens_optionalField_string, PlainJson.plain, List.append_nil]

/-- The one marked string of an interaction is its token. -/
@[simp] theorem tokens_commandInteractionResponse (created : CommandInteractionCreated)
    : (commandInteractionResponse created).tokens = [created.token] := by
  simp only [commandInteractionResponse, Json.tokens_object, List.flatMap_append,
    List.flatMap_cons, List.flatMap_nil, Json.tokens_string, Json.tokens_integer,
    Json.tokens_token, Json.tokens_ofOption, Json.tokens_optionalField_string,
    Json.tokens_optionalField_integer, PlainJson.plain, List.append_nil, List.nil_append]

/-- The one marked string of the event of an interaction is the token. -/
@[simp] theorem tokens_interactionCreated (stamp : EventStamp) (channel : Channel)
    (created : CommandInteractionCreated) (about : String × PlainJson)
    : (interactionCreated stamp channel created about).data.tokens = [created.token] := by
  simp only [interactionCreated, RealtimeEvent.channel, Json.tokens_object,
    List.flatMap_cons, List.flatMap_nil, tokens_commandInteractionResponse, PlainJson.plain,
    List.append_nil]

/-- A command as an unmarked value. -/
def commandValue (command : ApplicationCommand) : PlainJson :=
  ⟨compatApplicationCommandResponse command, tokens_compatApplicationCommandResponse command⟩

/-- A message as an unmarked value. -/
def messageValue (message : Message) : PlainJson :=
  ⟨realtimeMessageValue message, tokens_realtimeMessageValue message⟩

-----------------------------------------------------------------------------------------
-- Commands
-----------------------------------------------------------------------------------------

def createCompatSpaceCommand (commandId : Uuid) (now botToken : String)
    (applicationId spaceId : Uuid) (request : CreateCompatApplicationCommandRequest)
    : Handler ApplicationCommand := do
  let state ← get
  let bot ← state.botForToken crypto botToken
  if bot.applicationId ≠ applicationId then
    throw (.command .notFound)
  else
    let space ← state.spaceForUser bot.botUserId spaceId
    if space.organizationId ≠ bot.organizationId then
      throw (.command .notFound)
    else
      Handler.onCommands (CommandService.createCommand commandId now
        ⟨bot, some spaceId, request.name, request.description, request.kind,
          request.options⟩)

def createCompatGlobalCommand (commandId : Uuid) (now botToken : String)
    (applicationId : Uuid) (request : CreateCompatApplicationCommandRequest)
    : Handler ApplicationCommand := do
  let state ← get
  let bot ← state.botForToken crypto botToken
  if bot.applicationId ≠ applicationId then
    throw (.command .notFound)
  else
    Handler.onCommands (CommandService.createCommand commandId now
      ⟨bot, none, request.name, request.description, request.kind, request.options⟩)

-----------------------------------------------------------------------------------------
-- Interactions
-----------------------------------------------------------------------------------------

/-- The bot that registered a command may still view the channel. -/
def commandBotMayView (state : AppState) (command : ApplicationCommand) (channel : Channel)
    : Except ApiError Unit := do
  let botSpace ← state.spaceForUser command.createdByBotUserId channel.spaceId
  if botSpace.organizationId ≠ channel.organizationId
      ∨ ¬ PermissionService.canInChannel state.permissions command.createdByBotUserId botSpace
          channel .viewChannel then
    throw (.command .notFound)
  else
    return ()

/-- The command of a request, if it can be used in the channel. -/
def commandFor (state : AppState) (commandId : Uuid) (channel : Channel)
    : Except ApiError ApplicationCommand := do
  let command ← (CommandService.getCommand state.commands commandId).mapError ApiError.command
  if command.organizationId ≠ channel.organizationId then
    throw (.command .notFound)
  else if command.spaceId.any (· ≠ channel.spaceId) then
    throw (.command .notFound)
  else
    commandBotMayView state command channel
    return command

def createChannelInteraction (stamp : EventStamp) (drawn : DrawnInteraction) (token : String)
    (channelId : Uuid) (request : CreateCommandInteractionRequest)
    : Handler CommandInteractionCreated := do
  let state ← get
  let user ← state.userForToken crypto token
  let (channel, _) ← state.enterChannel user.id channelId .viewChannel
  let command ← commandFor state request.commandId channel
  let created ← Handler.onCommands (CommandService.createInteraction crypto drawn
    ⟨request.commandId, channel.organizationId, channel.spaceId, channel.id, user.id,
      request.options⟩)
  Handler.publish (interactionCreated stamp channel created ("command", commandValue command))
  return created

def matchingComponentType (component : Json) (expectedCustomId : String) : Option Int := do
  let customId ← (component.get "custom_id").bind Json.asStr
  if customId ≠ expectedCustomId then
    none
  else
    (component.get "type").bind Json.asI32

/-- The type of the first component with an identifier, also inside a row of components. -/
def componentTypeForCustomId (components : List Json) (expectedCustomId : String)
    : Except CommandError Int :=
  let found := components.findSome? fun component =>
    (matchingComponentType component expectedCustomId).or
      ((((component.get "components").bind Json.asArray).getD []).findSome? fun child =>
        matchingComponentType child expectedCustomId)
  match found with
  | some componentType => .ok componentType
  | none => .error (.invalidInput "component custom_id was not found on the message")

def createComponentInteraction (stamp : EventStamp) (drawn : DrawnInteraction)
    (token : String) (channelId : Uuid) (request : CreateComponentInteractionRequest)
    : Handler CommandInteractionCreated := do
  let state ← get
  let user ← state.userForToken crypto token
  let (channel, _) ← state.enterChannel user.id channelId .viewChannel
  let message ← (MessageService.get state.messages request.messageId).mapError ApiError.message
  if message.channelId ≠ channel.id ∨ message.organizationId ≠ channel.organizationId
      ∨ message.spaceId ≠ some channel.spaceId then
    throw (.command .notFound)
  else
    let componentType ← (componentTypeForCustomId (message.components.map PlainJson.value)
      request.customId).mapError ApiError.command
    let application ← (BotService.applicationForBotUser state.bots message.authorUserId
      channel.organizationId).mapError ApiError.bot
    let created ← Handler.onCommands (CommandService.createComponentInteraction crypto drawn
      ⟨application.id, channel.organizationId, channel.spaceId, channel.id, message.id,
        user.id, request.customId, componentType⟩)
    Handler.publish (interactionCreated stamp channel created ("message", messageValue message))
    return created

end CommandController

end OpenCord.Server
