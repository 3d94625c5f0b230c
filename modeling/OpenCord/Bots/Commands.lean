import OpenCord.Bots.Store
import OpenCord.Platform.Json

/-! Application commands and the interactions users create with them: the in-memory store and
the service over it.
-/

namespace OpenCord.Bots

open OpenCord.Library OpenCord.Platform OpenCord.Auth

inductive CommandError where
  | invalidInput (message : String)
  | unauthorized
  | notFound
  | alreadyResponded
  | storeUnavailable
  deriving DecidableEq

structure ApplicationCommand where
  id : Uuid
  applicationId : Uuid
  organizationId : Uuid
  spaceId : Option Uuid
  createdByBotUserId : Uuid
  name : String
  description : String
  kind : Int
  options : PlainJson
  status : String
  createdAt : String
  updatedAt : String

structure CommandInteraction where
  id : Uuid
  applicationId : Uuid
  organizationId : Uuid
  spaceId : Uuid
  channelId : Uuid
  interactionType : Int
  commandId : Option Uuid
  messageId : Option Uuid
  invokingUserId : Uuid
  tokenHash : String
  tokenLastFour : String
  status : String
  options : PlainJson
  customId : Option String
  componentType : Option Int
  responseMessageId : Option Uuid
  createdAt : String
  respondedAt : Option String

/-- A new interaction with the plaintext of its token, of which only the digest is stored. -/
structure CommandInteractionCreated where
  interaction : CommandInteraction
  token : String

structure CreateApplicationCommandInput where
  bot : AuthenticatedBot
  spaceId : Option Uuid
  name : String
  description : String
  kind : Option Int
  options : Option PlainJson

structure CreateCommandInteractionInput where
  commandId : Uuid
  organizationId : Uuid
  spaceId : Uuid
  channelId : Uuid
  invokingUserId : Uuid
  options : Option PlainJson

structure CreateComponentInteractionInput where
  applicationId : Uuid
  organizationId : Uuid
  spaceId : Uuid
  channelId : Uuid
  messageId : Uuid
  invokingUserId : Uuid
  customId : String
  componentType : Int

/-- What creating an interaction draws: its identifier, its token and the time. -/
structure DrawnInteraction where
  id : Uuid
  token : String
  now : String

structure CommandStore where
  commands : Table Uuid ApplicationCommand
  interactions : Table Uuid CommandInteraction
  interactionFollowupMessages : List (Uuid × Uuid)

/-- The interaction once its answer is put off. -/
def CommandInteraction.deferred (interaction : CommandInteraction) (respondedAt : String)
    : CommandInteraction :=
  { interaction with status := "deferred", respondedAt := some respondedAt }

/-- The interaction once it is answered; a message that is not given leaves the earlier one. -/
def CommandInteraction.responded (interaction : CommandInteraction)
    (responseMessageId : Option Uuid) (respondedAt : String) : CommandInteraction :=
  { interaction with
    status := "responded"
    responseMessageId := responseMessageId.or interaction.responseMessageId
    respondedAt := some respondedAt }

/-- The interaction can still be marked as responded. -/
def CommandInteraction.Open (interaction : CommandInteraction) : Prop :=
  interaction.status = "pending" ∨ interaction.status = "deferred"

instance (interaction : CommandInteraction) : Decidable interaction.Open :=
  inferInstanceAs (Decidable (_ ∨ _))

/-- An answered interaction is not open. -/
theorem CommandInteraction.not_open_responded (interaction : CommandInteraction)
    (responseMessageId : Option Uuid) (respondedAt : String)
    : ¬ (interaction.responded responseMessageId respondedAt).Open := by
  have closed : ¬ ("responded" = "pending" ∨ "responded" = "deferred") := by decide
  exact closed

namespace CommandStore

def empty : CommandStore := ⟨∅, ∅, []⟩

def createCommand (command : ApplicationCommand) : Eff CommandStore CommandError Unit :=
  Eff.writes fun store => { store with commands := store.commands.insert command.id command }

def getCommand (store : CommandStore) (commandId : Uuid) : Option ApplicationCommand :=
  (store.commands.lookup commandId).filter fun command => command.status = "active"

def createInteraction (interaction : CommandInteraction)
    : Eff CommandStore CommandError Unit :=
  Eff.writes fun store =>
    { store with interactions := store.interactions.insert interaction.id interaction }

def getInteractionByTokenHash (store : CommandStore) (interactionId : Uuid)
    (tokenHash : String) : Option CommandInteraction :=
  (store.interactions.lookup interactionId).filter fun interaction =>
    interaction.tokenHash = tokenHash

/-- The first interaction with a token, in the order of the interaction map. -/
def findInteractionByTokenHash (store : CommandStore) (tokenHash : String)
    : Option CommandInteraction :=
  store.interactions.values.find? fun interaction => interaction.tokenHash = tokenHash

def markInteractionDeferred (interactionId : Uuid) (respondedAt : String)
    : Eff CommandStore CommandError CommandInteraction := do
  let store ← get
  match store.interactions.lookup interactionId with
  | none => throw .notFound
  | some interaction =>
      if interaction.status ≠ "pending" then
        throw .alreadyResponded
      else
        let interaction := interaction.deferred respondedAt
        set { store with interactions := store.interactions.insert interactionId interaction }
        return interaction

def markInteractionResponded (interactionId : Uuid) (responseMessageId : Option Uuid)
    (respondedAt : String) : Eff CommandStore CommandError CommandInteraction := do
  let store ← get
  match store.interactions.lookup interactionId with
  | none => throw .notFound
  | some interaction =>
      if interaction.status ≠ "pending" ∧ interaction.status ≠ "deferred" then
        throw .alreadyResponded
      else
        let interaction := interaction.responded responseMessageId respondedAt
        set { store with interactions := store.interactions.insert interactionId interaction }
        return interaction

def recordInteractionFollowupMessage (interactionId messageId : Uuid)
    : Eff CommandStore CommandError Unit := do
  let store ← get
  if interactionId ∈ store.interactions then
    set { store with
      interactionFollowupMessages :=
        store.interactionFollowupMessages.insert (interactionId, messageId) }
  else
    throw .notFound

/-- A pending interaction that has no messages yet. -/
def NewInteraction (store : CommandStore) (interactionId : Uuid) : Prop :=
  (∃ interaction ∈ store.interactions.lookup interactionId, interaction.id = interactionId
      ∧ interaction.status = "pending" ∧ interaction.responseMessageId = none)
    ∧ ∀ row ∈ store.interactionFollowupMessages, row.1 ≠ interactionId

instance (store : CommandStore) (interactionId : Uuid)
    : Decidable (store.NewInteraction interactionId) :=
  inferInstanceAs (Decidable (_ ∧ ∀ row ∈ store.interactionFollowupMessages, _))

/-- Only a pending interaction can be deferred. -/
theorem exec_markInteractionDeferred {store : CommandStore} {interactionId : Uuid}
    {interaction : CommandInteraction}
    (found : store.interactions.lookup interactionId = some interaction) (respondedAt : String)
    : (markInteractionDeferred interactionId respondedAt).exec store
        = if interaction.status = "pending" then
            (.ok (interaction.deferred respondedAt),
              { store with
                interactions := store.interactions.insert interactionId
                  (interaction.deferred respondedAt) })
          else (.error .alreadyResponded, store) := by
  rw [markInteractionDeferred, Eff.exec_get_bind, found]
  by_cases pending : interaction.status = "pending"
  · rw [if_pos pending]
    simp only [pending, ne_eq, not_true_eq_false, if_false]
    rfl
  · rw [if_neg pending]
    simp only [pending, ne_eq, not_false_eq_true, if_true]
    rfl

/-- Only an open interaction can be answered. -/
theorem exec_markInteractionResponded {store : CommandStore} {interactionId : Uuid}
    {interaction : CommandInteraction}
    (found : store.interactions.lookup interactionId = some interaction)
    (responseMessageId : Option Uuid) (respondedAt : String)
    : (markInteractionResponded interactionId responseMessageId respondedAt).exec store
        = if interaction.Open then
            (.ok (interaction.responded responseMessageId respondedAt),
              { store with
                interactions := store.interactions.insert interactionId
                  (interaction.responded responseMessageId respondedAt) })
          else (.error .alreadyResponded, store) := by
  rw [markInteractionResponded, Eff.exec_get_bind, found]
  have closed : (interaction.status ≠ "pending" ∧ interaction.status ≠ "deferred")
      ↔ ¬ interaction.Open := not_or.symm
  simp only [closed]
  by_cases isOpen : interaction.Open
  · rw [if_pos isOpen, if_neg (not_not_intro isOpen)]
    rfl
  · rw [if_neg isOpen, if_pos isOpen]
    rfl

/-- A message can be recorded for a stored interaction. -/
theorem exec_recordInteractionFollowupMessage {store : CommandStore} {interactionId : Uuid}
    (stored : interactionId ∈ store.interactions) (messageId : Uuid)
    : (recordInteractionFollowupMessage interactionId messageId).exec store
        = (.ok (), { store with
            interactionFollowupMessages :=
              store.interactionFollowupMessages.insert (interactionId, messageId) }) := by
  rw [recordInteractionFollowupMessage, Eff.exec_get_bind, if_pos stored]
  rfl

end CommandStore

def interactionTypeApplicationCommand : Int := 2
def interactionTypeMessageComponent : Int := 3
def interactionCallbackChannelMessage : Int := 4
def interactionCallbackDeferredChannelMessage : Int := 5

namespace CommandService

-----------------------------------------------------------------------------------------
-- Normalization
-----------------------------------------------------------------------------------------

def isCommandNameChar (character : Char) : Bool :=
  character.isLower || character.isDigit || character = '_' || character = '-'

def normalizeCommandName (name : String) : Except CommandError String :=
  let name := Text.toAsciiLowercase (Text.trim name)
  if ¬ (1 ≤ name.utf8ByteSize ∧ name.utf8ByteSize ≤ 32) then
    .error (.invalidInput "command name must be 1 to 32 characters")
  else if ¬ name.toList.all isCommandNameChar then
    .error (.invalidInput
      "command name must contain lowercase letters, numbers, underscores, or hyphens")
  else
    .ok name

/-- A trimmed text of 1 to 100 bytes. -/
def boundedText (message text : String) : Except CommandError String :=
  let text := Text.trim text
  if 1 ≤ text.utf8ByteSize ∧ text.utf8ByteSize ≤ 100 then
    .ok text
  else
    .error (.invalidInput message)

def normalizeDescription : String → Except CommandError String :=
  boundedText "command description must be 1 to 100 characters"

def normalizeCommandKind (kind : Option Int) : Except CommandError Int :=
  if kind.getD 1 = 1 then .ok 1
  else .error (.invalidInput "only chat input commands are supported")

/-- The options of a request that gives none. -/
def noOptions : PlainJson := ⟨.array [], rfl⟩

def normalizeOptions (options : Option PlainJson) : Except CommandError PlainJson :=
  let options := options.getD noOptions
  match options.value.asArray with
  | some values =>
      if values.length ≤ 25 then
        .ok options
      else
        .error (.invalidInput "command options cannot contain more than 25 entries")
  | none => .error (.invalidInput "command options must be an array")

def normalizeInteractionOptions (options : Option PlainJson)
    : Except CommandError PlainJson :=
  let options := options.getD noOptions
  if options.value.asArray.isSome then
    .ok options
  else
    .error (.invalidInput "interaction options must be an array")

def normalizeComponentCustomId : String → Except CommandError String :=
  boundedText "component custom_id must be 1 to 100 characters"

def normalizeComponentType (componentType : Int) : Except CommandError Int :=
  if 2 ≤ componentType ∧ componentType ≤ 8 then
    .ok componentType
  else
    .error (.invalidInput "component type must be a Discord message component type")

-----------------------------------------------------------------------------------------
-- Operations
-----------------------------------------------------------------------------------------

def createCommand (commandId : Uuid) (now : String) (input : CreateApplicationCommandInput)
    : Eff CommandStore CommandError ApplicationCommand := do
  let name ← normalizeCommandName input.name
  let description ← normalizeDescription input.description
  let kind ← normalizeCommandKind input.kind
  let options ← normalizeOptions input.options
  let command : ApplicationCommand :=
    ⟨commandId, input.bot.applicationId, input.bot.organizationId, input.spaceId,
      input.bot.botUserId, name, description, kind, options, "active", now, now⟩
  CommandStore.createCommand command
  return command

def getCommand (store : CommandStore) (commandId : Uuid)
    : Except CommandError ApplicationCommand :=
  match store.getCommand commandId with
  | some command => .ok command
  | none => .error .notFound

variable (crypto : Crypto)

def createInteraction (drawn : DrawnInteraction) (input : CreateCommandInteractionInput)
    : Eff CommandStore CommandError CommandInteractionCreated := do
  let store ← get
  let command ← getCommand store input.commandId
  if command.organizationId ≠ input.organizationId then
    throw .notFound
  else if command.spaceId.any (· ≠ input.spaceId) then
    throw .notFound
  else
    let options ← normalizeInteractionOptions input.options
    let interaction : CommandInteraction :=
      { id := drawn.id
        applicationId := command.applicationId
        organizationId := input.organizationId
        spaceId := input.spaceId
        channelId := input.channelId
        interactionType := interactionTypeApplicationCommand
        commandId := some command.id
        messageId := none
        invokingUserId := input.invokingUserId
        tokenHash := crypto.sha256 drawn.token
        tokenLastFour := Text.lastFour drawn.token
        status := "pending"
        options := options
        customId := none
        componentType := none
        responseMessageId := none
        createdAt := drawn.now
        respondedAt := none }
    CommandStore.createInteraction interaction
    return ⟨interaction, drawn.token⟩

def createComponentInteraction (drawn : DrawnInteraction)
    (input : CreateComponentInteractionInput)
    : Eff CommandStore CommandError CommandInteractionCreated := do
  let customId ← normalizeComponentCustomId input.customId
  let componentType ← normalizeComponentType input.componentType
  let interaction : CommandInteraction :=
    { id := drawn.id
      applicationId := input.applicationId
      organizationId := input.organizationId
      spaceId := input.spaceId
      channelId := input.channelId
      interactionType := interactionTypeMessageComponent
      commandId := none
      messageId := some input.messageId
      invokingUserId := input.invokingUserId
      tokenHash := crypto.sha256 drawn.token
      tokenLastFour := Text.lastFour drawn.token
      status := "pending"
      options := noOptions
      customId := some customId
      componentType := some componentType
      responseMessageId := none
      createdAt := drawn.now
      respondedAt := none }
  CommandStore.createInteraction interaction
  return ⟨interaction, drawn.token⟩

/-- The pending interaction whose token a callback gives. -/
def interactionForCallback (store : CommandStore) (interactionId : Uuid) (token : String)
    : Except CommandError CommandInteraction :=
  if ¬ Text.startsWith token "oci_" then
    .error .unauthorized
  else
    match store.getInteractionByTokenHash interactionId (crypto.sha256 token) with
    | none => .error .unauthorized
    | some interaction =>
        if interaction.status ≠ "pending" then
          .error .alreadyResponded
        else
          .ok interaction

/-- The answered or deferred interaction of an application, by its token alone. -/
def interactionForFollowup (store : CommandStore) (applicationId : Uuid) (token : String)
    : Except CommandError CommandInteraction :=
  if ¬ Text.startsWith token "oci_" then
    .error .unauthorized
  else
    match store.findInteractionByTokenHash (crypto.sha256 token) with
    | none => .error .unauthorized
    | some interaction =>
        if interaction.applicationId ≠ applicationId then
          .error .unauthorized
        else if interaction.status ≠ "deferred" ∧ interaction.status ≠ "responded" then
          .error .alreadyResponded
        else
          .ok interaction

variable {crypto}

/-- A command interaction is stored as a new one. -/
theorem newInteraction_of_createInteraction {drawn : DrawnInteraction}
    {input : CreateCommandInteractionInput} {store last : CommandStore}
    {created : CommandInteractionCreated}
    (new : ∀ row ∈ store.interactionFollowupMessages, row.1 ≠ drawn.id)
    (done : (createInteraction crypto drawn input).exec store = (.ok created, last))
    : last.NewInteraction drawn.id := by
  rw [createInteraction, Eff.exec_get_bind] at done
  obtain ⟨command, _, done⟩ := Eff.exec_check_bind_eq_ok.mp done
  split at done
  · cases done
  · split at done
    · cases done
    · obtain ⟨options, _, done⟩ := Eff.exec_check_bind_eq_ok.mp done
      cases done
      exact ⟨⟨_, AList.lookup_insert _, rfl, rfl, rfl⟩, new⟩

/-- So is a component interaction. -/
theorem newInteraction_of_createComponentInteraction {drawn : DrawnInteraction}
    {input : CreateComponentInteractionInput} {store last : CommandStore}
    {created : CommandInteractionCreated}
    (new : ∀ row ∈ store.interactionFollowupMessages, row.1 ≠ drawn.id)
    (done : (createComponentInteraction crypto drawn input).exec store = (.ok created, last))
    : last.NewInteraction drawn.id := by
  rw [createComponentInteraction] at done
  obtain ⟨customId, _, done⟩ := Eff.exec_check_bind_eq_ok.mp done
  obtain ⟨componentType, _, done⟩ := Eff.exec_check_bind_eq_ok.mp done
  cases done
  exact ⟨⟨_, AList.lookup_insert _, rfl, rfl, rfl⟩, new⟩

/-- A callback works on the interaction that is stored under the identifier. -/
theorem stored_of_interactionForCallback {store : CommandStore} {interactionId : Uuid}
    {token : String} {interaction : CommandInteraction}
    (found : interactionForCallback crypto store interactionId token = .ok interaction)
    : store.interactions.lookup interactionId = some interaction := by
  rw [interactionForCallback] at found
  split at found
  · cases found
  · split at found
    · cases found
    · next other answers =>
        split at found
        · cases found
        · cases found
          exact (Option.filter_eq_some_iff.mp answers).1

/-- A command interaction has the drawn token and is the invoking user's. -/
theorem createInteraction_ok {drawn : DrawnInteraction} {input : CreateCommandInteractionInput}
    {store last : CommandStore} {created : CommandInteractionCreated}
    (done : (createInteraction crypto drawn input).exec store = (.ok created, last))
    : created.token = drawn.token
      ∧ created.interaction.invokingUserId = input.invokingUserId := by
  rw [createInteraction, Eff.exec_get_bind] at done
  obtain ⟨command, _, done⟩ := Eff.exec_check_bind_eq_ok.mp done
  split at done
  · cases done
  · split at done
    · cases done
    · obtain ⟨options, _, done⟩ := Eff.exec_check_bind_eq_ok.mp done
      cases done
      exact ⟨rfl, rfl⟩

/-- A component interaction has the drawn token and is the invoking user's. -/
theorem createComponentInteraction_ok {drawn : DrawnInteraction}
    {input : CreateComponentInteractionInput} {store last : CommandStore}
    {created : CommandInteractionCreated}
    (done : (createComponentInteraction crypto drawn input).exec store = (.ok created, last))
    : created.token = drawn.token
      ∧ created.interaction.invokingUserId = input.invokingUserId := by
  rw [createComponentInteraction] at done
  obtain ⟨customId, _, done⟩ := Eff.exec_check_bind_eq_ok.mp done
  obtain ⟨componentType, _, done⟩ := Eff.exec_check_bind_eq_ok.mp done
  cases done
  exact ⟨rfl, rfl⟩

end CommandService

end OpenCord.Bots
