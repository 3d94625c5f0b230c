import OpenCord.Library.Runs
import OpenCord.Server.InteractionResponses

/-! The life cycle of interactions in their store, and the endpoints that change the messages of
an interaction: its original response, and its follow-ups.
-/

namespace OpenCord.Bots

open OpenCord.Library OpenCord.Platform OpenCord.Auth

def CommandStore.interactionHasFollowupMessage (store : CommandStore)
    (interactionId messageId : Uuid) : Bool :=
  store.interactionFollowupMessages.contains (interactionId, messageId)

/-- The interaction whose original response an application may change. -/
def CommandService.interactionForOriginalResponse (crypto : Crypto) (store : CommandStore)
    (applicationId : Uuid) (token : String) : Except CommandError CommandInteraction :=
  if ¬ Text.startsWith token "oci_" then
    .error .unauthorized
  else
    match store.findInteractionByTokenHash (crypto.sha256 token) with
    | none => .error .unauthorized
    | some interaction =>
        if interaction.applicationId ≠ applicationId then
          .error .unauthorized
        else if interaction.status ≠ "responded" ∨ interaction.responseMessageId = none then
          .error .notFound
        else
          .ok interaction

end OpenCord.Bots

namespace OpenCord.Server

open OpenCord.Library OpenCord.Platform OpenCord.Auth OpenCord.Tenancy OpenCord.Bots
  OpenCord.Messages OpenCord.Realtime

-----------------------------------------------------------------------------------------
-- Endpoints
-----------------------------------------------------------------------------------------

/-- What an endpoint that changes a message has looked up. -/
structure ChangedResponse where
  interaction : CommandInteraction
  application : BotApplication
  message : Message

namespace CommandController

/-- A message of the application's bot in the channel of the interaction. -/
def responseMessage (state : AppState) (interaction : CommandInteraction)
    (application : BotApplication) (messageId : Uuid) : Except ApiError Message := do
  let message ← (MessageService.get state.messages messageId).mapError ApiError.message
  if message.organizationId ≠ interaction.organizationId
      ∨ message.spaceId ≠ some interaction.spaceId
      ∨ message.channelId ≠ interaction.channelId
      ∨ message.authorUserId ≠ application.botUserId then
    throw (.command .notFound)
  else
    return message

/-- The original response of an interaction, with the identifier of its message. -/
def originalResponse (crypto : Crypto) (state : AppState) (applicationId : Uuid)
    (token : String) : Except ApiError (Uuid × ChangedResponse) := do
  let interaction ← (CommandService.interactionForOriginalResponse crypto state.commands
    applicationId token).mapError ApiError.command
  let application ← (BotService.applicationForOrganization state.bots
    interaction.applicationId interaction.organizationId).mapError ApiError.bot
  match interaction.responseMessageId with
  | none => throw (.command .notFound)
  | some responseMessageId =>
      let message ← responseMessage state interaction application responseMessageId
      return (responseMessageId, ⟨interaction, application, message⟩)

def interactionFollowupMessage (state : AppState) (interaction : CommandInteraction)
    (application : BotApplication) (messageId : Uuid) : Except ApiError Message :=
  if interaction.responseMessageId = some messageId then
    .error (.command .notFound)
  else if state.commands.interactionHasFollowupMessage interaction.id messageId = false then
    .error (.command .notFound)
  else
    responseMessage state interaction application messageId

/-- A follow-up of an interaction, by the identifier of its message. -/
def followupResponse (crypto : Crypto) (state : AppState) (applicationId : Uuid)
    (token : String) (messageId : Uuid) : Except ApiError ChangedResponse := do
  let interaction ← (CommandService.interactionForFollowup crypto state.commands applicationId
    token).mapError ApiError.command
  let application ← (BotService.applicationForOrganization state.bots
    interaction.applicationId interaction.organizationId).mapError ApiError.bot
  let message ← interactionFollowupMessage state interaction application messageId
  return ⟨interaction, application, message⟩

/-- A changed message as the endpoints answer with it. -/
def interactionFollowupResponse (message : Message) (application : BotApplication) : Json :=
  .object [("id", .string message.id.toString), ("channel_id", .string message.channelId.toString),
    ("author", .object [("id", .string application.botUserId.toString),
      ("username", .string application.name), ("bot", .bool true)]),
    ("content", .string message.content), ("timestamp", .string message.createdAt),
    ("edited_timestamp", .ofOption message.editedAt), ("tts", .bool false),
    ("mention_everyone", .bool false), ("mentions", .array []), ("mention_roles", .array []),
    ("attachments", .array []), ("embeds", .array (message.embeds.map PlainJson.value)),
    ("components", .array (message.components.map PlainJson.value)), ("pinned", .bool false),
    ("type", .integer 0)]

/-- Writes new content to the message and publishes it. -/
def updateResponse (stamp : EventStamp) (content : String) (changed : ChangedResponse)
    : Handler Json := do
  let interaction := changed.interaction
  let message ← Handler.onMessages (MessageService.update changed.message content)
  Handler.publish (.channel stamp "message.updated" interaction.organizationId
    interaction.spaceId interaction.channelId
    (.object [("message", .object (messageResponse message))]))
  return interactionFollowupResponse message changed.application

/-- Deletes the message and publishes its identifier. -/
def deleteResponse (stamp : EventStamp) (deletedAt : String) (messageId : Uuid)
    (changed : ChangedResponse) : Handler Unit := do
  let interaction := changed.interaction
  Handler.onMessages (MessageService.delete deletedAt changed.message)
  Handler.publish (.channel stamp "message.deleted" interaction.organizationId
    interaction.spaceId interaction.channelId
    (.object [("id", .string messageId.toString),
      ("channel_id", .string interaction.channelId.toString),
      ("guild_id", .string interaction.spaceId.toString)]))

variable (crypto : Crypto)

def updateOriginalInteractionResponse (stamp : EventStamp) (applicationId : Uuid)
    (token content : String) : Handler Json := do
  let state ← get
  let (_, changed) ← originalResponse crypto state applicationId token
  updateResponse stamp content changed

def deleteOriginalInteractionResponse (stamp : EventStamp) (deletedAt : String)
    (applicationId : Uuid) (token : String) : Handler Unit := do
  let state ← get
  let (responseMessageId, changed) ← originalResponse crypto state applicationId token
  deleteResponse stamp deletedAt responseMessageId changed

def updateInteractionFollowupResponse (stamp : EventStamp) (applicationId : Uuid)
    (token : String) (messageId : Uuid) (content : String) : Handler Json := do
  let state ← get
  let changed ← followupResponse crypto state applicationId token messageId
  updateResponse stamp content changed

def deleteInteractionFollowupResponse (stamp : EventStamp) (deletedAt : String)
    (applicationId : Uuid) (token : String) (messageId : Uuid) : Handler Unit := do
  let state ← get
  let changed ← followupResponse crypto state applicationId token messageId
  deleteResponse stamp deletedAt messageId changed

end CommandController

-----------------------------------------------------------------------------------------
-- Runs
-----------------------------------------------------------------------------------------

/-- The operations of the store and the service that write. -/
inductive LifecycleMove where
  | createCommand (commandId : Uuid) (now : String) (input : CreateApplicationCommandInput)
  | createInteraction (drawn : DrawnInteraction) (input : CreateCommandInteractionInput)
  | createComponentInteraction (drawn : DrawnInteraction)
      (input : CreateComponentInteractionInput)
  | markDeferred (interactionId : Uuid) (respondedAt : String)
  | markResponded (interactionId : Uuid) (responseMessageId : Option Uuid)
      (respondedAt : String)
  | recordFollowup (interactionId messageId : Uuid)

/-- How the status of an interaction may change. -/
def StatusLeads (status later : String) : Prop :=
  later = status
    ∨ (status = "pending" ∧ (later = "deferred" ∨ later = "responded"))
    ∨ (status = "deferred" ∧ later = "responded")

namespace InteractionLifecycle

variable (crypto : Crypto)

/-- One operation; a new interaction has an identifier that none had before. -/
def step (store : CommandStore) : LifecycleMove → Option CommandStore
  | .createCommand commandId now input =>
      some ((CommandService.createCommand commandId now input).after store)
  | .createInteraction drawn input =>
      if drawn.id ∈ store.interactions then none
      else some ((CommandService.createInteraction crypto drawn input).after store)
  | .createComponentInteraction drawn input =>
      if drawn.id ∈ store.interactions then none
      else some ((CommandService.createComponentInteraction crypto drawn input).after store)
  | .markDeferred interactionId respondedAt =>
      some ((CommandStore.markInteractionDeferred interactionId respondedAt).after store)
  | .markResponded interactionId responseMessageId respondedAt =>
      some ((CommandStore.markInteractionResponded interactionId responseMessageId
        respondedAt).after store)
  | .recordFollowup interactionId messageId =>
      some ((CommandStore.recordInteractionFollowupMessage interactionId messageId).after store)

/-- A later state of an interaction. -/
structure Follows (interaction later : CommandInteraction) : Prop where
  status : StatusLeads interaction.status later.status
  response : ∀ messageId, interaction.responseMessageId = some messageId →
    later.responseMessageId = some messageId

/-- Every interaction is still there, in a later state. -/
def Advances (store later : CommandStore) : Prop :=
  ∀ interactionId interaction, store.interactions.lookup interactionId = some interaction →
    ∃ next, later.interactions.lookup interactionId = some next ∧ Follows interaction next

/-- Interactions are stored under their identifiers with a status of the life cycle, and only
an answered one has a response.
-/
structure Sound (store : CommandStore) : Prop where
  keyed : ∀ interactionId interaction,
    store.interactions.lookup interactionId = some interaction →
      interaction.id = interactionId
  status : ∀ interactionId interaction,
    store.interactions.lookup interactionId = some interaction →
      interaction.Open ∨ interaction.status = "responded"
  answered : ∀ interactionId interaction,
    store.interactions.lookup interactionId = some interaction → interaction.Open →
      interaction.responseMessageId = none

/-- Interactions go through their life cycle, and no message is both the original response of
an interaction and one of its follow-ups for the endpoints.
-/
structure LifecycleKept (earlier later : CommandStore) : Prop where
  status : ∀ interactionId interaction,
    later.interactions.lookup interactionId = some interaction →
      interaction.status = "pending" ∨ interaction.status = "deferred"
        ∨ interaction.status = "responded"
  advances : Advances earlier later
  exclusive : ∀ (state : AppState) applicationId otherApplicationId token otherToken messageId
      original followup, state.commands = later →
    CommandController.originalResponse crypto state applicationId token
        = .ok (messageId, original) →
      CommandController.followupResponse crypto state otherApplicationId otherToken messageId
          = .ok followup →
        original.interaction.id ≠ followup.interaction.id

variable {crypto}

-----------------------------------------------------------------------------------------
-- Status
-----------------------------------------------------------------------------------------

theorem statusLeads_trans {status middle later : String} (first : StatusLeads status middle)
    (second : StatusLeads middle later)
    : StatusLeads status later := by
  rcases first with rfl | ⟨rfl, rfl | rfl⟩ | ⟨rfl, rfl⟩
  · exact second
  · rcases second with rfl | ⟨pending, -⟩ | ⟨-, rfl⟩
    · exact .inr (.inl ⟨rfl, .inl rfl⟩)
    · exact absurd pending (by decide)
    · exact .inr (.inl ⟨rfl, .inr rfl⟩)
  · rcases second with rfl | ⟨pending, -⟩ | ⟨deferred, -⟩
    · exact .inr (.inl ⟨rfl, .inr rfl⟩)
    · exact absurd pending (by decide)
    · exact absurd deferred (by decide)
  · rcases second with rfl | ⟨pending, -⟩ | ⟨deferred, -⟩
    · exact .inr (.inr ⟨rfl, rfl⟩)
    · exact absurd pending (by decide)
    · exact absurd deferred (by decide)

theorem Follows.refl (interaction : CommandInteraction) : Follows interaction interaction :=
  ⟨.inl rfl, fun _ same => same⟩

theorem Follows.trans {interaction middle later : CommandInteraction}
    (first : Follows interaction middle) (second : Follows middle later)
    : Follows interaction later :=
  ⟨statusLeads_trans first.status second.status,
    fun messageId same => second.response messageId (first.response messageId same)⟩

theorem Advances.refl (store : CommandStore) : Advances store store :=
  fun _ interaction stored => ⟨interaction, stored, .refl interaction⟩

theorem Advances.trans {store middle later : CommandStore} (first : Advances store middle)
    (second : Advances middle later)
    : Advances store later := by
  intro interactionId interaction stored
  obtain ⟨next, found, follows⟩ := first interactionId interaction stored
  obtain ⟨last, reached, further⟩ := second interactionId next found
  exact ⟨last, reached, follows.trans further⟩

-----------------------------------------------------------------------------------------
-- One operation
-----------------------------------------------------------------------------------------

variable {store next : CommandStore}

/-- A store after one operation. -/
structure Stepped (store next : CommandStore) : Prop where
  sound : Sound next
  advances : Advances store next

theorem Sound.refl (sound : Sound store) : Stepped store store := ⟨sound, .refl store⟩

/-- The interactions are as they were. -/
theorem Sound.same (sound : Sound store) (same : next.interactions = store.interactions)
    : Stepped store next := by
  refine ⟨⟨?_, ?_, ?_⟩, ?_⟩
  · rw [same]
    exact sound.keyed
  · rw [same]
    exact sound.status
  · rw [same]
    exact sound.answered
  · intro interactionId interaction stored
    exact ⟨interaction, same ▸ stored, .refl interaction⟩

/-- An interaction is written that follows the one in its place, if there is one. -/
theorem Sound.write (sound : Sound store) {interaction : CommandInteraction}
    (written : next.interactions = store.interactions.insert interaction.id interaction)
    (status : interaction.Open ∨ interaction.status = "responded")
    (answered : interaction.Open → interaction.responseMessageId = none)
    (follows : ∀ previous, store.interactions.lookup interaction.id = some previous →
      Follows previous interaction)
    : Stepped store next := by
  refine ⟨⟨?_, ?_, ?_⟩, ?_⟩
  · rw [written]
    exact Table.forall_insert rfl sound.keyed
  · rw [written]
    exact Table.forall_insert status sound.status
  · rw [written]
    exact Table.forall_insert answered sound.answered
  · intro interactionId previous stored
    rw [written, Table.lookup_insert_eq]
    split
    · next own =>
        rw [own] at stored
        exact ⟨interaction, rfl, follows previous stored⟩
    · exact ⟨previous, stored, .refl previous⟩

/-- A pending interaction is stored under a new identifier. -/
theorem Sound.create (sound : Sound store) {interaction : CommandInteraction}
    (new : interaction.id ∉ store.interactions) (pending : interaction.status = "pending")
    (unanswered : interaction.responseMessageId = none)
    (written : next.interactions = store.interactions.insert interaction.id interaction)
    : Stepped store next := by
  refine sound.write written (.inl (.inl pending)) (fun _ => unanswered) ?_
  intro previous stored
  exact absurd (Table.mem_of_lookup stored) new

theorem Sound.createCommand (sound : Sound store) (commandId : Uuid) (now : String)
    (input : CreateApplicationCommandInput)
    : Stepped store ((CommandService.createCommand commandId now input).after store) := by
  refine Eff.after_check_bind sound.refl fun name _ => ?_
  refine Eff.after_check_bind sound.refl fun description _ => ?_
  refine Eff.after_check_bind sound.refl fun kind _ => ?_
  exact Eff.after_check_bind sound.refl fun options _ => sound.same rfl

theorem Sound.createInteraction (sound : Sound store) {drawn : DrawnInteraction}
    (new : drawn.id ∉ store.interactions) (input : CreateCommandInteractionInput)
    : Stepped store ((CommandService.createInteraction crypto drawn input).after store) := by
  rw [CommandService.createInteraction, Eff.after_get_bind]
  refine Eff.after_check_bind sound.refl fun command _ => ?_
  split
  · exact sound.refl
  · split
    · exact sound.refl
    · refine Eff.after_check_bind sound.refl fun options _ => ?_
      exact sound.create new rfl rfl rfl

theorem Sound.createComponentInteraction (sound : Sound store) {drawn : DrawnInteraction}
    (new : drawn.id ∉ store.interactions) (input : CreateComponentInteractionInput)
    : Stepped store
        ((CommandService.createComponentInteraction crypto drawn input).after store) := by
  refine Eff.after_check_bind sound.refl fun customId _ => ?_
  refine Eff.after_check_bind sound.refl fun componentType _ => ?_
  exact sound.create new rfl rfl rfl

theorem Sound.markDeferred (sound : Sound store) (interactionId : Uuid) (respondedAt : String)
    : Stepped store
        ((CommandStore.markInteractionDeferred interactionId respondedAt).after store) := by
  cases stored : store.interactions.lookup interactionId with
  | none =>
      rw [CommandStore.markInteractionDeferred, Eff.after_get_bind, stored]
      exact sound.refl
  | some interaction =>
      rw [Eff.after, CommandStore.exec_markInteractionDeferred stored]
      split
      · next pending =>
          obtain rfl := sound.keyed interactionId interaction stored
          have unanswered := sound.answered _ _ stored (.inl pending)
          refine @Sound.write store _ sound (interaction.deferred respondedAt) rfl
            (.inl (.inr rfl)) (fun _ => unanswered) fun previous same => ?_
          obtain rfl := Option.some.inj (stored.symm.trans same)
          exact ⟨.inr (.inl ⟨pending, .inl rfl⟩), fun _ response => response⟩
      · exact sound.refl

theorem Sound.markResponded (sound : Sound store) (interactionId : Uuid)
    (responseMessageId : Option Uuid) (respondedAt : String)
    : Stepped store ((CommandStore.markInteractionResponded interactionId responseMessageId
        respondedAt).after store) := by
  cases stored : store.interactions.lookup interactionId with
  | none =>
      rw [CommandStore.markInteractionResponded, Eff.after_get_bind, stored]
      exact sound.refl
  | some interaction =>
      rw [Eff.after, CommandStore.exec_markInteractionResponded stored]
      split
      · next isOpen =>
          obtain rfl := sound.keyed interactionId interaction stored
          refine @Sound.write store _ sound (interaction.responded responseMessageId respondedAt)
            rfl (.inr rfl) (fun still => ?_) fun previous same => ?_
          · exact absurd still (interaction.not_open_responded _ _)
          · obtain rfl := Option.some.inj (stored.symm.trans same)
            refine ⟨?_, fun messageId response => ?_⟩
            · rcases isOpen with pending | deferred
              · exact .inr (.inl ⟨pending, .inr rfl⟩)
              · exact .inr (.inr ⟨deferred, rfl⟩)
            · -- an open interaction has no response yet
              rw [sound.answered _ _ stored isOpen] at response
              cases response
      · exact sound.refl

theorem Sound.recordFollowup (sound : Sound store) (interactionId messageId : Uuid)
    : Stepped store ((CommandStore.recordInteractionFollowupMessage interactionId
        messageId).after store) := by
  rw [CommandStore.recordInteractionFollowupMessage, Eff.after_get_bind]
  split
  · exact sound.same rfl
  · exact sound.refl

theorem Sound.step (sound : Sound store) {move : LifecycleMove}
    (stepped : InteractionLifecycle.step crypto store move = some next)
    : Stepped store next := by
  cases move with
  | createCommand commandId now input =>
      obtain rfl := Option.some.inj stepped
      exact sound.createCommand commandId now input
  | createInteraction drawn input =>
      rw [InteractionLifecycle.step] at stepped
      split at stepped
      · cases stepped
      · next new =>
          obtain rfl := Option.some.inj stepped
          exact sound.createInteraction new input
  | createComponentInteraction drawn input =>
      rw [InteractionLifecycle.step] at stepped
      split at stepped
      · cases stepped
      · next new =>
          obtain rfl := Option.some.inj stepped
          exact sound.createComponentInteraction new input
  | markDeferred interactionId respondedAt =>
      obtain rfl := Option.some.inj stepped
      exact sound.markDeferred interactionId respondedAt
  | markResponded interactionId responseMessageId respondedAt =>
      obtain rfl := Option.some.inj stepped
      exact sound.markResponded interactionId responseMessageId respondedAt
  | recordFollowup interactionId messageId =>
      obtain rfl := Option.some.inj stepped
      exact sound.recordFollowup interactionId messageId

theorem Sound.empty : Sound CommandStore.empty :=
  ⟨Table.forall_empty, Table.forall_empty, Table.forall_empty⟩

/-- What one operation does to the interactions, any sequence of operations does. -/
theorem Sound.continued (sound : Sound store) {later : CommandStore}
    (continued : Reachable (InteractionLifecycle.step crypto) store later)
    : Stepped store later := by
  refine @Reachable.invariant _ _ _ (Stepped store) _ _ continued sound.refl ?_
  intro middle move last before stepped
  have now := before.sound.step stepped
  exact ⟨now.sound, before.advances.trans now.advances⟩

-----------------------------------------------------------------------------------------
-- The endpoints
-----------------------------------------------------------------------------------------

theorem stored_of_find (sound : Sound store) {tokenHash : String}
    {interaction : CommandInteraction}
    (found : store.findInteractionByTokenHash tokenHash = some interaction)
    : store.interactions.lookup interaction.id = some interaction := by
  obtain ⟨interactionId, stored⟩ := Table.mem_values.mp (List.mem_of_find?_eq_some found)
  rw [sound.keyed interactionId interaction stored]
  exact stored

/-- The original response is the one that the stored interaction has. -/
theorem originalResponse_ok {state : AppState} (sound : Sound state.commands)
    {applicationId messageId : Uuid} {token : String} {changed : ChangedResponse}
    (accepted : CommandController.originalResponse crypto state applicationId token
      = .ok (messageId, changed))
    : state.commands.interactions.lookup changed.interaction.id = some changed.interaction
      ∧ changed.interaction.responseMessageId = some messageId := by
  obtain ⟨interaction, found, accepted⟩ := Eff.check_bind_eq_ok.mp accepted
  obtain ⟨application, -, accepted⟩ := Eff.check_bind_eq_ok.mp accepted
  split at accepted
  · cases accepted
  · next response =>
      obtain ⟨message, -, accepted⟩ := Eff.check_bind_eq_ok.mp accepted
      cases accepted
      refine ⟨?_, response⟩
      have passed := Eff.mapError_eq_ok.mp found
      rw [CommandService.interactionForOriginalResponse] at passed
      split at passed
      · cases passed
      · split at passed
        · cases passed
        · next other answers =>
            split at passed
            · cases passed
            · split at passed
              · cases passed
              · obtain rfl := Except.ok.inj passed
                exact stored_of_find sound answers

/-- A follow-up is never the original response of the stored interaction. -/
theorem followupResponse_ok {state : AppState} (sound : Sound state.commands)
    {applicationId messageId : Uuid} {token : String} {changed : ChangedResponse}
    (accepted : CommandController.followupResponse crypto state applicationId token messageId
      = .ok changed)
    : state.commands.interactions.lookup changed.interaction.id = some changed.interaction
      ∧ changed.interaction.responseMessageId ≠ some messageId := by
  obtain ⟨interaction, found, accepted⟩ := Eff.check_bind_eq_ok.mp accepted
  obtain ⟨application, -, accepted⟩ := Eff.check_bind_eq_ok.mp accepted
  obtain ⟨message, followup, accepted⟩ := Eff.check_bind_eq_ok.mp accepted
  cases accepted
  constructor
  · have passed := Eff.mapError_eq_ok.mp found
    rw [CommandService.interactionForFollowup] at passed
    split at passed
    · cases passed
    · split at passed
      · cases passed
      · next other answers =>
          split at passed
          · cases passed
          · split at passed
            · cases passed
            · obtain rfl := Except.ok.inj passed
              exact stored_of_find sound answers
  · rw [CommandController.interactionFollowupMessage] at followup
    split at followup
    · cases followup
    · next other => exact other

/-- Between a reachable store and any later one, interactions keep to their life cycle. -/
theorem lifecycleKept_of_reachable (crypto : Crypto) (earlier later : CommandStore)
    (reachable : Reachable (InteractionLifecycle.step crypto) .empty earlier)
    (continued : Reachable (InteractionLifecycle.step crypto) earlier later)
    : LifecycleKept crypto earlier later := by
  have sound := (Sound.empty.continued reachable).sound
  obtain ⟨soundLater, advances⟩ := sound.continued continued
  exact {
    status := by
      intro interactionId interaction stored
      rcases soundLater.status interactionId interaction stored with isOpen | responded
      · exact isOpen.imp_right .inl
      · exact .inr (.inr responded)
    advances := advances
    exclusive := by
      rintro state applicationId otherApplicationId token otherToken messageId original
        followup rfl accepted otherAccepted same
      obtain ⟨stored, response⟩ := originalResponse_ok soundLater accepted
      obtain ⟨otherStored, other⟩ := followupResponse_ok soundLater otherAccepted
      rw [← same, stored] at otherStored
      exact other (Option.some.inj otherStored ▸ response) }

namespace Poll

def digests : Crypto where
  sha256 text := "sha256:" ++ text
  hmacSha256 key message := "hmac:" ++ key ++ ":" ++ message
  hashPassword salt password := salt ++ ":" ++ password
  verifyPassword password hash := hash.endsWith password

def interactionId : Uuid := .ofNat 60

def input : CreateComponentInteractionInput :=
  ⟨.ofNat 30, .ofNat 10, .ofNat 20, .ofNat 21, .ofNat 50, .ofNat 1, "vote", 2⟩

/-- A component interaction is created and deferred. -/
def deferral : List LifecycleMove :=
  [.createComponentInteraction ⟨interactionId, "oci_60", "2026-01-01T00:00:00.000Z"⟩ input,
    .markDeferred interactionId "2026-01-01T00:00:01.000Z"]

/-- A follow-up answers the interaction, and another one comes after it. -/
def answers : List LifecycleMove :=
  [.recordFollowup interactionId (.ofNat 51),
    .markResponded interactionId (some (.ofNat 51)) "2026-01-01T00:00:02.000Z",
    .recordFollowup interactionId (.ofNat 52),
    .markResponded interactionId (some (.ofNat 52)) "2026-01-01T00:00:03.000Z"]

end Poll

theorem poll_lifecycleKept
    : ∃ earlier later, run (step Poll.digests) .empty Poll.deferral = some earlier
        ∧ run (step Poll.digests) earlier Poll.answers = some later
        ∧ LifecycleKept Poll.digests earlier later :=
  ⟨_, _, rfl, rfl, lifecycleKept_of_reachable _ _ _ ⟨Poll.deferral, rfl⟩ ⟨Poll.answers, rfl⟩⟩

end InteractionLifecycle

end OpenCord.Server
