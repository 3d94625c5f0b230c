import OpenCord.Library.Interleaving
import OpenCord.Server.Requests

/-! Concurrent answers to one interaction, by its callback and follow-up endpoints. An answer
creates and publishes its message first, and marks the interaction as responded afterwards.
-/

namespace OpenCord.Server

open OpenCord.Library OpenCord.Platform OpenCord.Auth OpenCord.Tenancy OpenCord.Bots
  OpenCord.Messages OpenCord.Realtime

structure InteractionCallbackData where
  content : String

structure CreateInteractionCallbackRequest where
  kind : Int
  data : Option InteractionCallbackData

/-- The endpoint that answers. -/
inductive InteractionEndpoint where
  | callback
  | followup
  deriving DecidableEq

/-- Where a request stands. The interaction is the one that the request has read. -/
inductive InteractionTask where
  | idle
  | deferring (interaction : CommandInteraction)
  | creating (endpoint : InteractionEndpoint) (interaction : CommandInteraction)
      (content : String)
  | recording (interaction : CommandInteraction) (message : Message)
  | publishing (endpoint : InteractionEndpoint) (interaction : CommandInteraction)
      (message : Message)
  | marking (endpoint : InteractionEndpoint) (interaction : CommandInteraction)
      (messageId : Uuid)

/-- What a request that returned an error has left behind. -/
structure FailedRequest where
  messageId : Option Uuid
  published : Bool

/-- The stores, the messages that callbacks have created, and the requests that failed. -/
structure InteractionHistory where
  state : AppState
  callbackMessages : List Uuid
  failures : List FailedRequest

inductive InteractionMove where
  | callback (token : String) (request : CreateInteractionCallbackRequest)
  | followup (applicationId : Uuid) (token content : String)
  | defer (respondedAt : String)
  | create (messageId : Uuid) (createdAt : String)
  | record
  | publish (stamp : EventStamp)
  | mark (respondedAt : String)

namespace CommandController

/-- What a callback does with the interaction that it has found pending. -/
def callbackTask (interaction : CommandInteraction) (request : CreateInteractionCallbackRequest)
    : Except CommandError InteractionTask :=
  if request.kind = interactionCallbackDeferredChannelMessage then
    .ok (.deferring interaction)
  else if request.kind ≠ interactionCallbackChannelMessage then
    .error (.invalidInput
      "only channel message and deferred interaction callbacks are supported")
  else
    match request.data with
    | some data => .ok (.creating .callback interaction data.content)
    | none => .error (.invalidInput "interaction callback data is required")

/-- The bot user that answers in the channel of an interaction. -/
def answerAuthor (state : AppState) (interaction : CommandInteraction)
    : Except ApiError Uuid := do
  let application ← (BotService.applicationForOrganization state.bots
    interaction.applicationId interaction.organizationId).mapError ApiError.bot
  let channel ← state.channel interaction.channelId
  if channel.organizationId ≠ interaction.organizationId
      ∨ channel.spaceId ≠ interaction.spaceId then
    throw (.command .notFound)
  else
    return application.botUserId

/-- The message of an answer. No answer writes the applications and the channels, so looking
them up takes no step of its own.
-/
def createAnswer (messageId : Uuid) (createdAt : String) (interaction : CommandInteraction)
    (content : String) : Handler Message := do
  let state ← get
  let authorUserId ← answerAuthor state interaction
  Handler.onMessages (MessageService.create messageId createdAt interaction.organizationId
    (some interaction.spaceId) interaction.channelId authorUserId content false)

/-- Where the answer may be given, a message with valid content is stored. -/
theorem exec_createAnswer (state : AppState) (messageId : Uuid) (createdAt : String)
    (interaction : CommandInteraction) (content : String)
    : (∃ error, (createAnswer messageId createdAt interaction content).exec state
          = (.error error, state)
        ∧ ((answerAuthor state interaction).isOk →
            ¬ (MessageService.normalizeContent content false).isOk))
      ∨ ∃ message, (createAnswer messageId createdAt interaction content).exec state
          = (.ok message, { state with messages := state.messages.withMessage message })
        ∧ message.id = messageId ∧ (answerAuthor state interaction).isOk
        ∧ (MessageService.normalizeContent content false).isOk := by
  rw [createAnswer, Eff.exec_get_bind, Eff.exec_check_bind]
  cases answerAuthor state interaction with
  | error error => exact .inl ⟨error, rfl, nofun⟩
  | ok authorUserId =>
      rcases MessageService.exec_create state.messages messageId createdAt
        interaction.organizationId (some interaction.spaceId) interaction.channelId authorUserId
        content false with ⟨error, failed, invalid⟩ | ⟨message, done, key, valid⟩
      · exact .inl ⟨.message error, Eff.exec_zoom_of_error failed, fun _ => invalid⟩
      · exact .inr ⟨message, Eff.exec_zoom_eq_ok.mpr ⟨_, done, rfl⟩, key, rfl, valid⟩

def messageCreated (stamp : EventStamp) (interaction : CommandInteraction) (message : Message)
    : RealtimeEvent :=
  .channel stamp "message.created" interaction.organizationId interaction.spaceId
    interaction.channelId (.object [("message", .object (messageResponse message))])

end CommandController

/-- A follow-up answers an interaction that it has read as deferred, without a message. -/
def InteractionEndpoint.answers (interaction : CommandInteraction) : InteractionEndpoint → Bool
  | .callback => true
  | .followup => interaction.status = "deferred" ∧ interaction.responseMessageId = none

/-- A follow-up records its message before it publishes it. -/
def InteractionTask.created (interaction : CommandInteraction) (message : Message)
    : InteractionEndpoint → InteractionTask
  | .callback => .publishing .callback interaction message
  | .followup => .recording interaction message

namespace InteractionHistory

def notes (history : InteractionHistory) (messageId : Uuid) : InteractionEndpoint → List Uuid
  | .callback => messageId :: history.callbackMessages
  | .followup => history.callbackMessages

def fails (history : InteractionHistory) (failure : FailedRequest) : InteractionHistory :=
  { history with failures := failure :: history.failures }

/-- The history with other commands and interactions. -/
def withCommands (history : InteractionHistory) (commands : CommandStore)
    : InteractionHistory :=
  { history with state := { history.state with commands := commands } }

end InteractionHistory

/-- What a request on an interaction does next; new messages have new identifiers. -/
def InteractionTask.move (crypto : Crypto) (interactionId : Uuid) (history : InteractionHistory)
    : InteractionTask → InteractionMove → Option (InteractionHistory × InteractionTask)
  | .idle, .callback token request =>
      match CommandService.interactionForCallback crypto history.state.commands interactionId
          token with
      | .ok interaction =>
          match CommandController.callbackTask interaction request with
          | .ok task => some (history, task)
          | .error _ => some (history.fails ⟨none, false⟩, .idle)
      | .error _ => some (history.fails ⟨none, false⟩, .idle)
  | .deferring interaction, .defer respondedAt =>
      match (CommandStore.markInteractionDeferred interaction.id respondedAt).exec
          history.state.commands with
      | (.ok _, commands) => some (history.withCommands commands, .idle)
      | (.error _, commands) => some ((history.withCommands commands).fails ⟨none, false⟩, .idle)
  | .idle, .followup applicationId token content =>
      match CommandService.interactionForFollowup crypto history.state.commands applicationId
          token with
      | .ok interaction =>
          if interaction.id = interactionId then
            some (history, .creating .followup interaction content)
          else
            none
      | .error _ => some (history.fails ⟨none, false⟩, .idle)
  | .creating endpoint interaction content, .create messageId createdAt =>
      if messageId ∈ history.state.messages.messagesById then
        none
      else
        match (CommandController.createAnswer messageId createdAt interaction content).exec
            history.state with
        | (.ok message, state) =>
            some ({ history with
              state := state
              callbackMessages := history.notes message.id endpoint },
              .created interaction message endpoint)
        | (.error _, state) => some ({ history with state := state }.fails ⟨none, false⟩, .idle)
  | .recording interaction message, .record =>
      match (CommandStore.recordInteractionFollowupMessage interaction.id message.id).exec
          history.state.commands with
      | (.ok _, commands) =>
          some (history.withCommands commands, .publishing .followup interaction message)
      | (.error _, commands) =>
          some ((history.withCommands commands).fails ⟨some message.id, false⟩, .idle)
  | .publishing endpoint interaction message, .publish stamp =>
      let event := CommandController.messageCreated stamp interaction message
      let history := { history with state := (Handler.publish event).after history.state }
      if endpoint.answers interaction then
        some (history, .marking endpoint interaction message.id)
      else
        some (history, .idle)
  | .marking _ interaction messageId, .mark respondedAt =>
      match (CommandStore.markInteractionResponded interaction.id (some messageId)
          respondedAt).exec history.state.commands with
      | (.ok _, commands) => some (history.withCommands commands, .idle)
      | (.error _, commands) =>
          some ((history.withCommands commands).fails ⟨some messageId, true⟩, .idle)
  | _, _ => none

/-- The message of a callback that has been created, and is not yet the response. -/
def InteractionTask.answering : InteractionTask → Option Uuid
  | .publishing .callback _ message => some message.id
  | .marking .callback _ messageId => some messageId
  | _ => none

namespace InteractionHistory

def interaction (history : InteractionHistory) (interactionId : Uuid)
    : Option CommandInteraction :=
  history.state.commands.interactions.lookup interactionId

/-- The stored response of an interaction. -/
def response (history : InteractionHistory) (interactionId : Uuid) : Option Uuid :=
  (history.interaction interactionId).bind (·.responseMessageId)

def Followup (history : InteractionHistory) (interactionId messageId : Uuid) : Prop :=
  (interactionId, messageId) ∈ history.state.commands.interactionFollowupMessages

instance (history : InteractionHistory) (interactionId messageId : Uuid)
    : Decidable (history.Followup interactionId messageId) :=
  inferInstanceAs (Decidable (_ ∈ _))

end InteractionHistory

/-- Requests on one interaction, over the stores of the server. -/
abbrev InteractionRequests := Tasks InteractionHistory InteractionTask

namespace InteractionRequests

def start (state : AppState) : InteractionRequests := ⟨⟨state, [], []⟩, fun _ => .idle⟩

def step (crypto : Crypto) (interactionId : Uuid)
    : InteractionRequests → Nat × InteractionMove → Option InteractionRequests :=
  Tasks.step fun history task => task.move crypto interactionId history

/-- A callback is about to publish its message, or to mark the interaction with it. -/
def Answering (requests : InteractionRequests) : Prop :=
  ∃ index, (requests.tasks index).answering.isSome = true

/-- At most one message is created by callbacks; it is the response, unless its request is
still at work. Requests that fail leave nothing behind.
-/
structure AnsweredOnce (interactionId : Uuid) (requests : InteractionRequests) : Prop where
  atMostOne : requests.shared.callbackMessages.length ≤ 1
  isResponse : ∀ messageId ∈ requests.shared.callbackMessages,
    requests.shared.response interactionId = some messageId
      ∨ ∃ index, (requests.tasks index).answering = some messageId
  noTrace : ∀ failure ∈ requests.shared.failures, failure = ⟨none, false⟩

end InteractionRequests

/-- A callback creates its message only while no other callback answers and the response is
not that of another callback. A message is made the response only while the interaction is
open.
-/
def InteractionTask.AnswersFirst (interactionId : Uuid) (history : InteractionHistory)
    (answering : Prop) : InteractionTask → InteractionMove → Prop
  | .creating .callback interaction content, .create _ _ =>
      (CommandController.answerAuthor history.state interaction).isOk →
        (MessageService.normalizeContent content false).isOk →
          ¬ answering ∧ ∀ messageId ∈ history.response interactionId,
            history.Followup interactionId messageId
  | .marking _ _ _, .mark _ =>
      ∀ interaction ∈ history.interaction interactionId, interaction.Open
  | _, _ => True

def InteractionRequests.AnswersFirst (interactionId : Uuid) (requests : InteractionRequests)
    (action : Nat × InteractionMove) : Prop :=
  (requests.tasks action.1).AnswersFirst interactionId requests.shared requests.Answering
    action.2

namespace InteractionHistory

/-- The message of an answer, where its endpoint has noted it. -/
def Made (history : InteractionHistory) (interactionId messageId : Uuid)
    : InteractionEndpoint → Prop
  | .callback => messageId ∈ history.callbackMessages
  | .followup => history.Followup interactionId messageId

/-- What a request has read or created is known to the stores. -/
def OfTask (history : InteractionHistory) (interactionId : Uuid) : InteractionTask → Prop
  | .idle => True
  | .deferring interaction => interaction.id = interactionId
  | .creating _ interaction _ => interaction.id = interactionId
  | .recording interaction message =>
      interaction.id = interactionId ∧ message.id ∈ history.state.messages.messagesById
        ∧ message.id ∉ history.callbackMessages
  | .publishing endpoint interaction message =>
      interaction.id = interactionId ∧ history.Made interactionId message.id endpoint
  | .marking endpoint interaction messageId =>
      interaction.id = interactionId ∧ history.Made interactionId messageId endpoint

/-- An interaction has a response only once it is answered, and it is the message of a
callback or of a follow-up.
-/
structure Stores (history : InteractionHistory) (interactionId : Uuid)
    (interaction : CommandInteraction) : Prop where
  found : history.interaction interactionId = some interaction
  key : interaction.id = interactionId
  closed : interaction.responseMessageId ≠ none → ¬ interaction.Open
  response : ∀ messageId ∈ interaction.responseMessageId,
    messageId ∈ history.callbackMessages ∨ history.Followup interactionId messageId

end InteractionHistory

/-- A move changes nothing, or does one of the writes of an answer. -/
inductive AnswerHandled (interactionId : Uuid) (history : InteractionHistory)
    : InteractionTask → InteractionMove → InteractionHistory → InteractionTask → Prop where
  | kept (old task : InteractionTask) (move : InteractionMove) (failures : List FailedRequest)
      (quiet : old.answering = none ∧ task.answering = none)
      (ofTask : history.OfTask interactionId task)
      (noTrace : ∀ failure ∈ failures, failure = ⟨none, false⟩)
      (first : ∀ answering, old.AnswersFirst interactionId history answering move)
      : AnswerHandled interactionId history old move
          { history with failures := failures ++ history.failures } task
  | deferred (read interaction : CommandInteraction) (respondedAt : String)
      (found : history.interaction interactionId = some interaction)
      (pending : interaction.status = "pending")
      : AnswerHandled interactionId history (.deferring read) (.defer respondedAt)
          (history.withCommands { history.state.commands with
            interactions := history.state.commands.interactions.insert interactionId
              (interaction.deferred respondedAt) }) .idle
  | created (endpoint : InteractionEndpoint) (read : CommandInteraction) (content : String)
      (createdAt : String) (message : Message) (key : read.id = interactionId)
      (author : (CommandController.answerAuthor history.state read).isOk = true)
      (valid : (MessageService.normalizeContent content false).isOk = true)
      (new : message.id ∉ history.state.messages.messagesById)
      : AnswerHandled interactionId history (.creating endpoint read content)
          (.create message.id createdAt)
          { history with
            state := { history.state with
              messages := history.state.messages.withMessage message }
            callbackMessages := history.notes message.id endpoint }
          (.created read message endpoint)
  | recorded (read : CommandInteraction) (message : Message)
      : AnswerHandled interactionId history (.recording read message) .record
          (history.withCommands { history.state.commands with
            interactionFollowupMessages :=
              history.state.commands.interactionFollowupMessages.insert
                (interactionId, message.id) })
          (.publishing .followup read message)
  | published (endpoint : InteractionEndpoint) (read : CommandInteraction) (message : Message)
      (stamp : EventStamp) (published : List RealtimeEvent) (task : InteractionTask)
      (next : task = .marking endpoint read message.id ∨ endpoint = .followup ∧ task = .idle)
      : AnswerHandled interactionId history (.publishing endpoint read message)
          (.publish stamp)
          { history with state := { history.state with published := published } } task
  | marked (endpoint : InteractionEndpoint) (read interaction : CommandInteraction)
      (messageId : Uuid) (respondedAt : String)
      (found : history.interaction interactionId = some interaction)
      (isOpen : interaction.Open)
      : AnswerHandled interactionId history (.marking endpoint read messageId)
          (.mark respondedAt)
          (history.withCommands { history.state.commands with
            interactions := history.state.commands.interactions.insert interactionId
              (interaction.responded (some messageId) respondedAt) }) .idle
  | refused (endpoint : InteractionEndpoint) (read interaction : CommandInteraction)
      (messageId : Uuid) (respondedAt : String)
      (found : history.interaction interactionId = some interaction)
      (notOpen : ¬ interaction.Open)
      : AnswerHandled interactionId history (.marking endpoint read messageId)
          (.mark respondedAt) (history.fails ⟨some messageId, true⟩) .idle

/-- A request that fails before it creates a message leaves nothing. -/
theorem AnswerHandled.failed {interactionId : Uuid} {history : InteractionHistory}
    {old : InteractionTask} {move : InteractionMove} (quiet : old.answering = none)
    (first : ∀ answering, old.AnswersFirst interactionId history answering move)
    : AnswerHandled interactionId history old move (history.fails ⟨none, false⟩) .idle :=
  .kept old .idle move [⟨none, false⟩] ⟨quiet, rfl⟩ trivial
    (fun _ listed => List.mem_singleton.mp listed) first

theorem InteractionTask.move_handled {crypto : Crypto} {interactionId : Uuid}
    {history next : InteractionHistory} {task nextTask : InteractionTask}
    {move : InteractionMove} {stored : CommandInteraction}
    (stores : history.Stores interactionId stored)
    (ofTask : history.OfTask interactionId task)
    (moved : task.move crypto interactionId history move = some (next, nextTask))
    : AnswerHandled interactionId history task move next nextTask := by
  have found : history.state.commands.interactions.lookup interactionId = some stored :=
    stores.found
  rw [InteractionTask.move.eq_def] at moved
  split at moved
  · next token request =>
      split at moved
      · next interaction reads =>
          have same := CommandService.stored_of_interactionForCallback reads
          obtain rfl : stored = interaction := Option.some.inj (found.symm.trans same)
          rw [CommandController.callbackTask] at moved
          split at moved
          · next task passed =>
              cases moved
              split at passed
              · cases passed
                exact .kept _ _ _ [] ⟨rfl, rfl⟩ stores.key nofun fun _ => trivial
              · split at passed
                · cases passed
                · split at passed
                  · cases passed
                    exact .kept _ _ _ [] ⟨rfl, rfl⟩ stores.key nofun fun _ => trivial
                  · cases passed
          · cases moved
            exact .failed rfl fun _ => trivial
      · cases moved
        exact .failed rfl fun _ => trivial
  · next read respondedAt =>
      rw [show read.id = interactionId from ofTask,
        CommandStore.exec_markInteractionDeferred found] at moved
      by_cases pending : stored.status = "pending"
      · rw [if_pos pending] at moved
        cases moved
        exact .deferred read stored respondedAt found pending
      · rw [if_neg pending] at moved
        cases moved
        exact .failed rfl fun _ => trivial
  · next applicationId token content =>
      split at moved
      · split at moved
        · next key =>
            cases moved
            exact .kept _ _ _ [] ⟨rfl, rfl⟩ key nofun fun _ => trivial
        · cases moved
      · cases moved
        exact .failed rfl fun _ => trivial
  · next endpoint read content messageId createdAt =>
      split at moved
      · cases moved
      · next new =>
          rcases CommandController.exec_createAnswer history.state messageId createdAt read
            content with ⟨error, failed, invalid⟩ | ⟨message, done, rfl, author, valid⟩
          · rw [failed] at moved
            cases moved
            refine .failed rfl fun answering => ?_
            cases endpoint with
            | callback => exact fun author valid => absurd valid (invalid author)
            | followup => trivial
          · rw [done] at moved
            cases moved
            exact .created endpoint read content createdAt message ofTask author valid new
  · next read message =>
      obtain ⟨key, _⟩ := ofTask
      rw [key, CommandStore.exec_recordInteractionFollowupMessage
        (Table.mem_of_lookup found)] at moved
      cases moved
      exact .recorded read message
  · next endpoint read message stamp =>
      split at moved
      · cases moved
        exact .published endpoint read message stamp _ _ (.inl rfl)
      · next notAnswers =>
          cases moved
          refine .published endpoint read message stamp _ _ (.inr ⟨?_, rfl⟩)
          cases endpoint with
          | callback => exact absurd rfl notAnswers
          | followup => rfl
  · next endpoint read messageId respondedAt =>
      obtain ⟨key, _⟩ := ofTask
      rw [key, CommandStore.exec_markInteractionResponded found] at moved
      by_cases isOpen : stored.Open
      · rw [if_pos isOpen] at moved
        cases moved
        exact .marked endpoint read stored messageId respondedAt found isOpen
      · rw [if_neg isOpen] at moved
        cases moved
        exact .refused endpoint read stored messageId respondedAt found isOpen
  · cases moved

namespace InteractionHistory

/-- Messages and follow-ups only become more, and callbacks note only messages that are new. -/
structure Grows (history later : InteractionHistory) (interactionId : Uuid) : Prop where
  messages : ∀ messageId ∈ history.state.messages.messagesById,
    messageId ∈ later.state.messages.messagesById
  notes : history.callbackMessages ⊆ later.callbackMessages
  followups : ∀ messageId, history.Followup interactionId messageId →
    later.Followup interactionId messageId
  fresh : ∀ messageId ∈ later.callbackMessages, messageId ∈ history.callbackMessages
    ∨ messageId ∉ history.state.messages.messagesById

/-- Where neither messages nor follow-ups change, nothing is new. -/
theorem Grows.same {history later : InteractionHistory} (interactionId : Uuid)
    (messages : later.state.messages = history.state.messages)
    (notes : later.callbackMessages = history.callbackMessages)
    (followups : later.state.commands.interactionFollowupMessages
      = history.state.commands.interactionFollowupMessages)
    : history.Grows later interactionId where
  messages := by
    rw [messages]
    exact fun _ => id
  notes := by
    rw [notes]
    exact List.Subset.refl _
  followups := by
    intro messageId recorded
    rw [Followup, followups]
    exact recorded
  fresh := by
    rw [notes]
    exact fun _ => .inl

theorem Made.mono {history later : InteractionHistory} {interactionId messageId : Uuid}
    {endpoint : InteractionEndpoint} (made : history.Made interactionId messageId endpoint)
    (grows : history.Grows later interactionId)
    : later.Made interactionId messageId endpoint := by
  cases endpoint with
  | callback => exact grows.notes made
  | followup => exact grows.followups messageId made

theorem OfTask.mono {history later : InteractionHistory} {interactionId : Uuid}
    {task : InteractionTask} (ofTask : history.OfTask interactionId task)
    (grows : history.Grows later interactionId)
    : later.OfTask interactionId task := by
  cases task with
  | idle => trivial
  | deferring interaction => exact ofTask
  | creating endpoint interaction content => exact ofTask
  | recording interaction message =>
      obtain ⟨key, stored, notNoted⟩ := ofTask
      refine ⟨key, grows.messages _ stored, fun noted => ?_⟩
      rcases grows.fresh _ noted with earlier | new
      · exact notNoted earlier
      · exact new stored
  | publishing endpoint interaction message => exact ⟨ofTask.1, ofTask.2.mono grows⟩
  | marking endpoint interaction messageId => exact ⟨ofTask.1, ofTask.2.mono grows⟩

/-- What a callback is about to make the response is one of its messages. -/
theorem OfTask.noted {history : InteractionHistory} {interactionId messageId : Uuid}
    {task : InteractionTask} (ofTask : history.OfTask interactionId task)
    (answering : task.answering = some messageId)
    : messageId ∈ history.callbackMessages := by
  rw [InteractionTask.answering.eq_def] at answering
  split at answering
  · cases answering
    exact ofTask.2
  · cases answering
    exact ofTask.2
  · cases answering

/-- An open interaction has no response yet. -/
theorem Stores.response_of_open {history : InteractionHistory} {interactionId : Uuid}
    {interaction : CommandInteraction} (stores : history.Stores interactionId interaction)
    (isOpen : interaction.Open)
    : history.response interactionId = none := by
  rw [InteractionHistory.response, stores.found]
  by_contra answered
  exact stores.closed answered isOpen

end InteractionHistory

namespace InteractionRequests

/-- The messages of callbacks and of follow-ups are stored, and no message is both. -/
structure Invariant (interactionId : Uuid) (requests : InteractionRequests) : Prop where
  stores : ∃ interaction, requests.shared.Stores interactionId interaction
  ofTask : ∀ index, requests.shared.OfTask interactionId (requests.tasks index)
  known : ∀ messageId ∈ requests.shared.callbackMessages,
    messageId ∈ requests.shared.state.messages.messagesById
  recorded : ∀ messageId, requests.shared.Followup interactionId messageId →
    messageId ∈ requests.shared.state.messages.messagesById
  apart : ∀ messageId ∈ requests.shared.callbackMessages,
    ¬ requests.shared.Followup interactionId messageId

variable {crypto : Crypto} {interactionId : Uuid} {requests next : InteractionRequests}

/-- Where only the interaction changes, the invariant stays. -/
theorem Invariant.quiet (invariant : requests.Invariant interactionId) {index : Nat}
    {later : InteractionHistory} {task : InteractionTask}
    (messages : later.state.messages = requests.shared.state.messages)
    (notes : later.callbackMessages = requests.shared.callbackMessages)
    (followups : later.state.commands.interactionFollowupMessages
      = requests.shared.state.commands.interactionFollowupMessages)
    (stores : ∃ interaction, later.Stores interactionId interaction)
    (ofTask : requests.shared.OfTask interactionId task)
    : Invariant interactionId (requests.withTask index later task) := by
  have grows := InteractionHistory.Grows.same interactionId messages notes followups
  have recorded : ∀ messageId, later.Followup interactionId messageId
      ↔ requests.shared.Followup interactionId messageId := by
    intro messageId
    rw [InteractionHistory.Followup, followups]
    rfl
  refine {
    stores := stores
    ofTask := Tasks.forall_withTask _ (ofTask.mono grows)
      fun other => (invariant.ofTask other).mono grows
    known := fun messageId noted => ?_
    recorded := fun messageId followup => ?_
    apart := fun messageId noted followup => ?_ }
  · exact grows.messages _ (invariant.known messageId (notes ▸ noted))
  · exact grows.messages _ (invariant.recorded messageId ((recorded messageId).mp followup))
  · exact invariant.apart messageId (notes ▸ noted) ((recorded messageId).mp followup)

/-- A new message of a callback is noted, and one of a follow-up is about to be recorded. -/
theorem Invariant.creates (invariant : requests.Invariant interactionId) {index : Nat}
    {read : CommandInteraction} {message : Message} (endpoint : InteractionEndpoint)
    (key : read.id = interactionId)
    (new : message.id ∉ requests.shared.state.messages.messagesById)
    : Invariant interactionId (requests.withTask index
        { requests.shared with
          state := { requests.shared.state with
            messages := requests.shared.state.messages.withMessage message }
          callbackMessages := requests.shared.notes message.id endpoint }
        (.created read message endpoint)) := by
  have grown : ∀ messageId ∈ requests.shared.state.messages.messagesById,
      messageId ∈ (requests.shared.state.messages.withMessage message).messagesById :=
    fun messageId stored => (AList.mem_insert _).mpr (.inr stored)
  have stored : message.id
      ∈ (requests.shared.state.messages.withMessage message).messagesById :=
    (AList.mem_insert _).mpr (.inl rfl)
  have notes : ∀ messageId ∈ requests.shared.notes message.id endpoint,
      messageId ∈ requests.shared.callbackMessages
        ∨ endpoint = .callback ∧ messageId = message.id := by
    intro messageId noted
    cases endpoint with
    | callback => exact (List.mem_cons.mp noted).symm.imp_right fun same => ⟨rfl, same⟩
    | followup => exact .inl noted
  have grows : requests.shared.Grows
      { requests.shared with
        state := { requests.shared.state with
          messages := requests.shared.state.messages.withMessage message }
        callbackMessages := requests.shared.notes message.id endpoint } interactionId := by
    refine ⟨grown, ?_, fun _ => id, fun messageId noted => ?_⟩
    · cases endpoint with
      | callback => exact List.subset_cons_self ..
      | followup => exact List.Subset.refl _
    · refine (notes messageId noted).imp_right fun own => ?_
      rw [own.2]
      exact new
  obtain ⟨interaction, stores⟩ := invariant.stores
  refine {
    stores := ⟨interaction, stores.found, stores.key, stores.closed, fun messageId answered => ?_⟩
    ofTask := Tasks.forall_withTask _ ?_ fun other => (invariant.ofTask other).mono grows
    known := fun messageId noted => ?_
    recorded := fun messageId followup => grown _ (invariant.recorded messageId followup)
    apart := fun messageId noted followup => ?_ }
  · exact (stores.response messageId answered).imp_left fun noted => grows.notes noted
  · cases endpoint with
    | callback => exact ⟨key, List.mem_cons_self⟩
    | followup => exact ⟨key, stored, fun noted => new (invariant.known _ noted)⟩
  · rcases notes messageId noted with earlier | ⟨_, rfl⟩
    · exact grown _ (invariant.known messageId earlier)
    · exact stored
  · rcases notes messageId noted with earlier | ⟨_, rfl⟩
    · exact invariant.apart messageId earlier followup
    · exact new (invariant.recorded _ followup)

/-- A message is recorded as a follow-up only by the request that has created it. -/
theorem Invariant.records (invariant : requests.Invariant interactionId) {index : Nat}
    {read : CommandInteraction} {message : Message}
    (moving : requests.tasks index = .recording read message)
    : Invariant interactionId (requests.withTask index
        (requests.shared.withCommands { requests.shared.state.commands with
          interactionFollowupMessages :=
            requests.shared.state.commands.interactionFollowupMessages.insert
              (interactionId, message.id) })
        (.publishing .followup read message)) := by
  have own := invariant.ofTask index
  rw [moving] at own
  obtain ⟨key, stored, notNoted⟩ := own
  let later := requests.shared.withCommands { requests.shared.state.commands with
    interactionFollowupMessages :=
      requests.shared.state.commands.interactionFollowupMessages.insert
        (interactionId, message.id) }
  have followups : ∀ messageId, later.Followup interactionId messageId
      ↔ messageId = message.id ∨ requests.shared.Followup interactionId messageId := by
    intro messageId
    rw [InteractionHistory.Followup]
    refine List.mem_insert_iff.trans (or_congr_left ?_)
    rw [Prod.mk.injEq]
    exact and_iff_right rfl
  have grows : requests.shared.Grows later interactionId :=
    ⟨fun _ => id, List.Subset.refl _, fun messageId earlier =>
      (followups messageId).mpr (.inr earlier), fun _ => .inl⟩
  obtain ⟨interaction, stores⟩ := invariant.stores
  refine {
    stores := ⟨interaction, stores.found, stores.key, stores.closed, fun messageId answered => ?_⟩
    ofTask := Tasks.forall_withTask _ ⟨key, (followups _).mpr (.inl rfl)⟩
      fun other => (invariant.ofTask other).mono grows
    known := invariant.known
    recorded := fun messageId followup => ?_
    apart := fun messageId noted followup => ?_ }
  · exact (stores.response messageId answered).imp_right (grows.followups messageId)
  · rcases (followups messageId).mp followup with rfl | earlier
    · exact stored
    · exact invariant.recorded messageId earlier
  · rcases (followups messageId).mp followup with rfl | earlier
    · exact notNoted noted
    · exact invariant.apart messageId noted earlier

/-- Every step keeps the invariant. -/
theorem Invariant.step (invariant : requests.Invariant interactionId)
    {action : Nat × InteractionMove}
    (stepped : requests.step crypto interactionId action = some next)
    : next.Invariant interactionId := by
  obtain ⟨index, move⟩ := action
  obtain ⟨history, task, moved, rfl⟩ := Tasks.step_eq_some.mp stepped
  obtain ⟨interaction, stores⟩ := invariant.stores
  have own := invariant.ofTask index
  have handled := InteractionTask.move_handled stores own moved
  generalize moving : requests.tasks index = old at handled own
  cases handled with
  | kept _ task move failures quiet ofTask =>
      refine invariant.quiet rfl rfl rfl ⟨interaction, ?_⟩ ofTask
      exact ⟨stores.found, stores.key, stores.closed, stores.response⟩
  | deferred read interaction respondedAt found pending =>
      obtain rfl := Option.some.inj (stores.found.symm.trans found)
      refine invariant.quiet rfl rfl rfl ⟨_, AList.lookup_insert _, stores.key, ?_,
        stores.response⟩ trivial
      exact fun answered _ => stores.closed answered (.inl pending)
  | created endpoint read content createdAt message key author valid new =>
      exact invariant.creates endpoint key new
  | recorded read message => exact invariant.records moving
  | published endpoint read message stamp published task next =>
      refine invariant.quiet rfl rfl rfl ⟨interaction, ?_⟩ ?_
      · exact ⟨stores.found, stores.key, stores.closed, stores.response⟩
      · rcases next with rfl | ⟨_, rfl⟩
        · exact own
        · trivial
  | marked endpoint read interaction messageId respondedAt found isOpen =>
      obtain rfl := Option.some.inj (stores.found.symm.trans found)
      refine invariant.quiet rfl rfl rfl ⟨_, AList.lookup_insert _, stores.key, ?_, ?_⟩ trivial
      · exact fun _ => interaction.not_open_responded _ _
      · intro answered same
        cases same
        cases endpoint with
        | callback => exact .inl own.2
        | followup => exact .inr own.2
  | refused endpoint read interaction messageId respondedAt found notOpen =>
      refine invariant.quiet rfl rfl rfl ⟨interaction, ?_⟩ trivial
      obtain rfl := Option.some.inj (stores.found.symm.trans found)
      exact ⟨stores.found, stores.key, stores.closed, stores.response⟩

/-- A request that creates no message of a callback keeps what the claims about them say, if
the response stays and its own message becomes the response when it is done.
-/
theorem AnsweredOnce.moves (once : requests.AnsweredOnce interactionId) {index : Nat}
    {later : InteractionHistory} {task : InteractionTask}
    (notes : later.callbackMessages = requests.shared.callbackMessages)
    (noTrace : ∀ failure ∈ later.failures,
      failure ∈ requests.shared.failures ∨ failure = ⟨none, false⟩)
    (stays : ∀ messageId, requests.shared.response interactionId = some messageId →
      later.response interactionId = some messageId)
    (own : ∀ messageId, (requests.tasks index).answering = some messageId →
      task.answering = some messageId ∨ later.response interactionId = some messageId)
    : AnsweredOnce interactionId (requests.withTask index later task) := by
  refine {
    atMostOne := notes ▸ once.atMostOne
    isResponse := fun messageId noted => ?_
    noTrace := fun failure listed => (noTrace failure listed).elim (once.noTrace failure) id }
  rcases once.isResponse messageId (notes ▸ noted) with answered | ⟨other, answering⟩
  · exact .inl (stays messageId answered)
  · by_cases same : other = index
    · rw [same] at answering
      refine (own messageId answering).symm.imp_right fun answering => ⟨index, ?_⟩
      rw [Tasks.tasks_withTask_self]
      exact answering
    · refine .inr ⟨other, ?_⟩
      rw [Tasks.tasks_withTask_of_ne _ same]
      exact answering

/-- No callback has created a message exactly if none answers and none has answered. -/
theorem Invariant.callbackMessages_eq_nil (invariant : requests.Invariant interactionId)
    (once : requests.AnsweredOnce interactionId)
    : requests.shared.callbackMessages = []
      ↔ ¬ requests.Answering ∧ ∀ messageId ∈ requests.shared.response interactionId,
          requests.shared.Followup interactionId messageId := by
  constructor
  · intro none
    refine ⟨fun answering => ?_, fun messageId answered => ?_⟩
    · obtain ⟨index, isSome⟩ := answering
      obtain ⟨messageId, answering⟩ := Option.isSome_iff_exists.mp isSome
      have noted := (invariant.ofTask index).noted answering
      rw [none] at noted
      cases noted
    · obtain ⟨interaction, stores⟩ := invariant.stores
      rw [InteractionHistory.response, stores.found] at answered
      refine (stores.response messageId answered).resolve_left fun noted => ?_
      rw [none] at noted
      cases noted
  · intro free
    obtain ⟨quiet, followups⟩ := free
    refine List.eq_nil_iff_forall_not_mem.mpr fun messageId noted => ?_
    rcases once.isResponse messageId noted with answered | ⟨index, answering⟩
    · exact invariant.apart messageId noted (followups messageId answered)
    · exact quiet ⟨index, by rw [answering]; rfl⟩

/-- The first message of a callback is about to become the response. -/
theorem answeredOnce_creates (once : requests.AnsweredOnce interactionId) (index : Nat)
    (state : AppState) (read : CommandInteraction) (message : Message)
    : AnsweredOnce interactionId (requests.withTask index
          { requests.shared with
            state := state, callbackMessages := message.id :: requests.shared.callbackMessages }
          (.publishing .callback read message))
        ↔ requests.shared.callbackMessages = [] := by
  constructor
  · intro later
    exact List.length_eq_zero_iff.mp (Nat.le_zero.mp (Nat.le_of_succ_le_succ later.atMostOne))
  · intro first
    refine ⟨?_, fun messageId noted => ?_, once.noTrace⟩
    · show (message.id :: requests.shared.callbackMessages).length ≤ 1
      rw [first]
      rfl
    · right
      have noted : messageId ∈ message.id :: requests.shared.callbackMessages := noted
      rw [first, List.mem_singleton] at noted
      refine ⟨index, ?_⟩
      rw [Tasks.tasks_withTask_self, noted]
      rfl

/-- A step keeps the interaction answered once exactly if it answers first. -/
theorem answeredOnce_step (invariant : requests.Invariant interactionId)
    (once : requests.AnsweredOnce interactionId) {action : Nat × InteractionMove}
    (stepped : requests.step crypto interactionId action = some next)
    : next.AnsweredOnce interactionId ↔ requests.AnswersFirst interactionId action := by
  obtain ⟨index, move⟩ := action
  obtain ⟨history, task, moved, rfl⟩ := Tasks.step_eq_some.mp stepped
  obtain ⟨interaction, stores⟩ := invariant.stores
  have handled := InteractionTask.move_handled stores (invariant.ofTask index) moved
  rw [AnswersFirst]
  generalize moving : requests.tasks index = old at handled
  have silent : ∀ {task : InteractionTask} {later : InteractionHistory}, old.answering = none →
      ∀ messageId, (requests.tasks index).answering = some messageId →
        task.answering = some messageId ∨ later.response interactionId = some messageId := by
    intro task later quiet messageId answering
    rw [moving, quiet] at answering
    cases answering
  cases handled with
  | kept _ task move failures quiet ofTask noTrace first =>
      refine iff_of_true (once.moves rfl (fun failure listed => ?_) (fun _ => id)
        (silent quiet.1)) (first _)
      exact (List.mem_append.mp listed).symm.imp_right (noTrace failure)
  | deferred read interaction respondedAt found pending =>
      refine iff_of_true (once.moves rfl (fun _ => .inl) (fun messageId answered => ?_)
        (silent rfl)) trivial
      obtain rfl := Option.some.inj (stores.found.symm.trans found)
      rw [stores.response_of_open (.inl pending)] at answered
      cases answered
  | created endpoint read content createdAt message key author valid new =>
      cases endpoint with
      | callback =>
          refine (answeredOnce_creates once index _ read message).trans ?_
          rw [invariant.callbackMessages_eq_nil once]
          exact ⟨fun free _ _ => free, fun free => free author valid⟩
      | followup =>
          exact iff_of_true (once.moves rfl (fun _ => .inl) (fun _ => id) (silent rfl)) trivial
  | recorded read message =>
      exact iff_of_true (once.moves rfl (fun _ => .inl) (fun _ => id) (silent rfl)) trivial
  | published endpoint read message stamp published task next =>
      refine iff_of_true (once.moves rfl (fun _ => .inl) (fun _ => id)
        fun messageId answering => ?_) trivial
      rw [moving] at answering
      cases endpoint with
      | callback =>
          rcases next with rfl | ⟨isFollowup, _⟩
          · exact .inl answering
          · cases isFollowup
      | followup => cases answering
  | marked endpoint read interaction messageId respondedAt found isOpen =>
      obtain rfl := Option.some.inj (stores.found.symm.trans found)
      refine iff_of_true (once.moves rfl (fun _ => .inl) (fun earlier answered => ?_)
        fun own answering => ?_) fun other same => ?_
      · rw [stores.response_of_open isOpen] at answered
        cases answered
      · rw [moving] at answering
        cases endpoint with
        | callback =>
            cases answering
            refine .inr ?_
            rw [InteractionHistory.response]
            exact congrArg (Option.bind · _) (AList.lookup_insert _)
        | followup => cases answering
      · obtain rfl := Option.some.inj (stores.found.symm.trans same)
        exact isOpen
  | refused endpoint read interaction messageId respondedAt found notOpen =>
      refine iff_of_false (fun later => ?_) fun first => notOpen (first interaction found)
      have trace := later.noTrace ⟨some messageId, true⟩ List.mem_cons_self
      cases trace

theorem Invariant.start {state : AppState} (new : state.commands.NewInteraction interactionId)
    : Invariant interactionId (start state) := by
  obtain ⟨⟨interaction, found, key, _, unanswered⟩, noFollowups⟩ := new
  refine {
    stores := ⟨interaction, found, key, fun answered => absurd unanswered answered, ?_⟩
    ofTask := fun _ => trivial
    known := nofun
    recorded := fun messageId recorded => absurd rfl (noFollowups _ recorded)
    apart := nofun }
  intro messageId answered
  rw [unanswered] at answered
  cases answered

/-- Along a run of any callbacks and follow-ups on a new interaction, it is answered once
exactly if every answer is the first.
-/
theorem answeredOnce_iff_answersFirst {state : AppState}
    (new : state.commands.NewInteraction interactionId)
    {actions : List (Nat × InteractionMove)} {last : InteractionRequests}
    (ran : run (step crypto interactionId) (start state) actions = some last)
    : Always (step crypto interactionId) (AnsweredOnce interactionId) (start state) actions
      ↔ Allowed (step crypto interactionId) (AnswersFirst interactionId) (start state)
          actions := by
  refine @always_iff_allowed _ _ (step crypto interactionId) (AnswersFirst interactionId)
    (Invariant interactionId) (AnsweredOnce interactionId) ?_ ?_ _ _ _ (Invariant.start new)
    ⟨Nat.zero_le 1, nofun, nofun⟩ ran
  · intro requests action next invariant once stepped first
    exact invariant.step stepped
  · intro requests action next invariant once stepped
    exact answeredOnce_step invariant once stepped

end InteractionRequests

namespace Acme

/-- A request of the bot calls back with a message. -/
def callback (index : Nat) (content : String) : Nat × InteractionMove :=
  (index, .callback interactionToken ⟨interactionCallbackChannelMessage, some ⟨content⟩⟩)

/-- The steps of a callback that has read the interaction. -/
def answer (index messageId : Nat) : List (Nat × InteractionMove) :=
  [(index, .create (.ofNat messageId) "2026-01-01T00:01:00.000Z"),
    (index, .publish (stamp messageId)), (index, .mark "2026-01-01T00:01:00.000Z")]

/-- The bot answers with a callback, then follows up. -/
def answered : List (Nat × InteractionMove) :=
  callback 0 "hello" :: answer 0 50
    ++ [(1, .followup botApplication interactionToken "again"),
      (1, .create (.ofNat 51) "2026-01-01T00:02:00.000Z"), (1, .record),
      (1, .publish (stamp 51))]

/-- The bot calls back twice, and both requests read the interaction before one answers. -/
def answeredTwice : List (Nat × InteractionMove) :=
  callback 0 "hello" :: callback 1 "hello" :: answer 0 50 ++ answer 1 51

end Acme

namespace InteractionRequests

/-- The first `count` requests, and no others, take part and answer first. -/
def AnswersFirstAmong (count : Nat) (interactionId : Uuid) (requests : InteractionRequests)
    (action : Nat × InteractionMove) : Prop :=
  action.1 < count
    ∧ (requests.tasks action.1).AnswersFirst interactionId requests.shared
        (∃ index < count, (requests.tasks index).answering.isSome = true) action.2

instance (count : Nat) (interactionId : Uuid) (requests : InteractionRequests)
    (action : Nat × InteractionMove)
    : Decidable (requests.AnswersFirstAmong count interactionId action) := by
  unfold AnswersFirstAmong InteractionTask.AnswersFirst
  refine @instDecidableAnd _ _ inferInstance ?_
  split <;> infer_instance

theorem allowed_of_answersFirstAmong {crypto : Crypto} {interactionId : Uuid} {count : Nat}
    {state : AppState} {actions : List (Nat × InteractionMove)}
    (allowed : Allowed (step crypto interactionId) (AnswersFirstAmong count interactionId)
      (start state) actions)
    : Allowed (step crypto interactionId) (AnswersFirst interactionId) (start state)
        actions := by
  refine @Allowed.weaken _ _ (step crypto interactionId) (AnswersFirstAmong count interactionId)
    (AnswersFirst interactionId) (Tasks.QuietFrom count .idle) ?_ ?_ _ _ (fun _ _ => rfl) allowed
  · intro requests action next quiet among stepped
    exact quiet.step among.1 stepped
  · intro requests action quiet among
    have answering : requests.Answering
        ↔ ∃ index < count, (requests.tasks index).answering.isSome = true :=
      quiet.exists_tasks (fun task => task.answering.isSome = true) nofun
    rw [AnswersFirst, propext answering]
    exact among.2

theorem answered_once
    : ∃ state last, run (AppState.step Acme.botCrypto) .empty
          (Acme.requests ++ Acme.botRequests) = some state
        ∧ run (step Acme.botCrypto Acme.interaction) (start state) Acme.answered = some last
        ∧ last.shared.response Acme.interaction = some (.ofNat 50)
        ∧ Always (step Acme.botCrypto Acme.interaction) (AnsweredOnce Acme.interaction)
            (start state) Acme.answered := by
  have facts : (run (AppState.step Acme.botCrypto) .empty
      (Acme.requests ++ Acme.botRequests)).any fun state =>
        state.commands.NewInteraction Acme.interaction
          ∧ Allowed (step Acme.botCrypto Acme.interaction)
              (AnswersFirstAmong 2 Acme.interaction) (start state) Acme.answered
          ∧ (run (step Acme.botCrypto Acme.interaction) (start state) Acme.answered).any
              fun last => last.shared.response Acme.interaction = some (.ofNat 50) := by
    decide +kernel
  obtain ⟨state, reached, facts⟩ := (Option.any_eq_true _ _).mp facts
  obtain ⟨new, allowed, facts⟩ := of_decide_eq_true facts
  obtain ⟨last, ran, response⟩ := (Option.any_eq_true _ _).mp facts
  exact ⟨state, last, reached, ran, of_decide_eq_true response,
    (answeredOnce_iff_answersFirst new ran).mpr (allowed_of_answersFirstAmong allowed)⟩

/-- Two callbacks create and publish a message each, and the second one fails after that. -/
theorem answeredTwice_notOnce
    : ∃ state last, run (AppState.step Acme.botCrypto) .empty
          (Acme.requests ++ Acme.botRequests) = some state
        ∧ state.commands.NewInteraction Acme.interaction
        ∧ run (step Acme.botCrypto Acme.interaction) (start state) Acme.answeredTwice = some last
        ∧ last.shared.callbackMessages = [.ofNat 51, .ofNat 50]
        ∧ last.shared.failures.map (·.messageId) = [some (.ofNat 51)]
        ∧ last.shared.state.published.length = state.published.length + 2
        ∧ ¬ last.AnsweredOnce Acme.interaction := by
  have facts : (run (AppState.step Acme.botCrypto) .empty
      (Acme.requests ++ Acme.botRequests)).any fun state =>
        state.commands.NewInteraction Acme.interaction
          ∧ (run (step Acme.botCrypto Acme.interaction) (start state) Acme.answeredTwice).any
              fun last => last.shared.callbackMessages = [.ofNat 51, .ofNat 50]
                ∧ last.shared.failures.map (·.messageId) = [some (.ofNat 51)]
                ∧ last.shared.state.published.length = state.published.length + 2 := by
    decide +kernel
  obtain ⟨state, reached, facts⟩ := (Option.any_eq_true _ _).mp facts
  obtain ⟨new, facts⟩ := of_decide_eq_true facts
  obtain ⟨last, ran, facts⟩ := (Option.any_eq_true _ _).mp facts
  obtain ⟨messages, failures, published⟩ := of_decide_eq_true facts
  refine ⟨state, last, reached, new, ran, messages, failures, published, fun once => ?_⟩
  have atMostOne := once.atMostOne
  rw [messages] at atMostOne
  exact absurd atMostOne (by decide)

end InteractionRequests

end OpenCord.Server
