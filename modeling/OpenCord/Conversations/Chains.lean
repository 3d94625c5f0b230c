import OpenCord.Conversations.BotWrites

/-! Every request is a chain of writes: the requests for interactions and webhooks, and from
them all requests.
-/

namespace OpenCord.Conversations

open Relation
open OpenCord.Library OpenCord.Platform OpenCord.Auth OpenCord.Tenancy OpenCord.Bots
  OpenCord.Messages OpenCord.Attachments OpenCord.Realtime OpenCord.RateLimits
  OpenCord.Webhooks OpenCord.Server

variable {deployment : Deployment} {start : ConversationState} {request : ConversationRequest}

-----------------------------------------------------------------------------------------
-- Writes to other stores
-----------------------------------------------------------------------------------------

/-- What no reader of messages or files notices. -/
structure Aside (before after : ConversationState) : Prop where
  quiet : before.messaging.app.Quiet after.messaging.app
  keyed : before.messaging.app.Keyed → after.messaging.app.Keyed
  attachments : after.attachments = before.attachments

instance : Std.Refl Aside := ⟨fun _ => ⟨Std.Refl.refl _, id, rfl⟩⟩

instance : IsTrans ConversationState Aside where
  trans _ _ _ first second :=
    ⟨IsTrans.trans _ _ _ first.quiet second.quiet, second.keyed ∘ first.keyed,
      second.attachments.trans first.attachments⟩

theorem Aside.writes {after : ConversationState} (aside : Aside start after)
    : Writes deployment start request start after :=
  .single (.elsewhere after aside.quiet aside.keyed aside.attachments)

theorem aside_onWebhooks {α : Type} (action : Eff IncomingWebhookStore WebhookError α)
    : (ConversationHandler.onWebhooks action).Within Aside :=
  .zoom fun _ => ⟨Std.Refl.refl _, id, rfl⟩

theorem aside_onAudit {α : Type} (action : Eff Audit.AuditStore Audit.AuditError α)
    : (ConversationHandler.onAudit action).Within Aside :=
  .zoom fun _ => ⟨Std.Refl.refl _, id, rfl⟩

/-- The user of a webhook is stored among the others. -/
theorem aside_onWebhookUsers {α : Type}
    (action : Eff (AuthStore × IncomingWebhookStore) WebhookError α)
    : (ConversationHandler.onWebhookUsers action).Within Aside :=
  .zoom fun _ => ⟨.elsewhere rfl rfl rfl, fun keyed => ⟨keyed.spaces, keyed.channels⟩, rfl⟩

variable {crypto : Crypto}

theorem aside_upsertWebhookPolicy (recorded : DrawnRecord) (authorization : Option String)
    (organizationId : Uuid) (allowIdentityOverrides : Bool)
    : (Server.OrganizationController.upsertWebhookPolicy crypto recorded authorization
        organizationId allowIdentityOverrides).Within Aside := by
  intro state
  rw [OrganizationController.upsertWebhookPolicy, Eff.after_get_bind]
  refine Eff.after_check_bind (Std.Refl.refl state) fun user _ => ?_
  dsimp only
  split
  · exact Std.Refl.refl state
  · refine Eff.after_bind_to rfl (IsTrans.trans _ _ _ ?_ (Eff.Within.bind (aside_onAudit _)
      (fun _ => .pure _) _))
    exact ⟨Std.Refl.refl _, id, rfl⟩

theorem aside_createWebhook (drawn : DrawnWebhook) (recorded : DrawnRecord)
    (authorization : Option String) (channelId : Uuid) (name : String)
    : (WebhookController.create crypto drawn recorded authorization channelId name).Within
        Aside := by
  refine .get_bind fun state => .check_bind fun ⟨userId, channel⟩ _ => ?_
  refine .bind (aside_onWebhookUsers _) fun ⟨webhook, token⟩ => ?_
  exact .bind (aside_onAudit _) fun _ => .pure _

theorem aside_rotateToken (bytes : BitVec 256) (recorded : DrawnRecord)
    (authorization : Option String) (channelId webhookId : Uuid)
    : (WebhookController.rotateToken crypto bytes recorded authorization channelId
        webhookId).Within Aside := by
  refine .get_bind fun state => .check_bind fun ⟨userId, channel⟩ _ => ?_
  refine .bind (aside_onWebhooks _) fun ⟨webhook, token⟩ => .check_bind fun _ _ => ?_
  exact .bind (aside_onAudit _) fun _ => .pure _

theorem aside_deleteWebhook (recorded : DrawnRecord) (authorization : Option String)
    (channelId webhookId : Uuid)
    : (WebhookController.delete crypto recorded authorization channelId webhookId).Within
        Aside := by
  refine .get_bind fun state => .check_bind fun ⟨userId, channel⟩ _ => ?_
  exact .bind (aside_onWebhooks _) fun webhook => .bind (aside_onAudit _) fun _ => .pure _

-----------------------------------------------------------------------------------------
-- Executing webhooks
-----------------------------------------------------------------------------------------

section

variable {α : Type} {state : ConversationState} {action : Eff MessageStore MessageError α}

theorem exec_onMessages_of_ok {value : α} {messages : MessageStore}
    (ran : action.exec state.messages = (.ok value, messages))
    : (ConversationHandler.onApp (Handler.onMessages action)).exec state
        = (.ok value, { state with messaging.app.messages := messages }) := by
  rw [ConversationHandler.onApp, ConversationHandler.onMessaging]
  exact Eff.exec_zoom_eq_ok.mpr ⟨_, MessageHandler.exec_onMessages_of_ok ran, rfl⟩

theorem exec_onMessages_of_error {error : MessageError}
    (failed : action.exec state.messages = (.error error, state.messages))
    : (ConversationHandler.onApp (Handler.onMessages action)).exec state
        = (.error (.service (.message error)), state) := by
  rw [ConversationHandler.onApp, ConversationHandler.onMessaging]
  exact Eff.exec_zoom_of_error (MessageHandler.exec_onMessages_of_error failed)

end

theorem executeWebhook_writes {drawn : DrawnRecord} {stamp : EventStamp}
    {rateLimit : RateLimitDecision} {webhookId : Uuid} {token : String}
    {executed : ExecuteIncomingWebhookRequest} (new : start.NewMessage drawn.id)
    : Writes deployment start (.executeWebhook drawn stamp rateLimit webhookId token executed)
        start
        ((WebhookController.execute deployment.crypto deployment.toUtcMillis
          deployment.publicUrl drawn stamp rateLimit webhookId token executed).after start) := by
  rw [WebhookController.execute, Eff.after_get_bind]
  refine Eff.after_check_bind .refl fun ⟨webhook, policy⟩ admitted => ?_
  obtain ⟨_, _, admitted⟩ := Eff.check_bind_eq_ok.mp admitted
  obtain ⟨_, verified, admitted⟩ := Eff.check_bind_eq_ok.mp admitted
  obtain ⟨_, _, admitted⟩ := Eff.check_bind_eq_ok.mp admitted
  obtain ⟨_, _, admitted⟩ := Eff.check_bind_eq_ok.mp admitted
  obtain ⟨_, governed, admitted⟩ := Eff.check_bind_eq_ok.mp admitted
  cases admitted
  rcases MessageService.createWithEmbeds_made start.messages deployment.toUtcMillis drawn.id
    drawn.createdAt (WebhookController.executedInput webhook policy executed) with
    ⟨error, failed⟩ | ⟨message, created, made⟩
  · exact Eff.after_bind_stop (exec_onMessages_of_error failed) .refl
  · refine Eff.after_bind_to (exec_onMessages_of_ok created) ?_
    refine .single (.posted message _ (made.id ▸ new) ?_ made.deletedAt ?_
      (tells_channel (shownBy_messageResponse message [] _) stamp "message.created" _ _
        made.channelId))
    · exact ⟨made.composed, webhook, policy, Eff.mapError_eq_ok.mp verified,
        Eff.mapError_eq_ok.mp governed, made.authorUserId, made.channelId,
        made.webhookUsername, made.webhookAvatarUrl⟩
    · have reply : message.replyToMessageId = none := made.replyToMessageId
      rw [reply]
      nofun

-----------------------------------------------------------------------------------------
-- Answering interactions
-----------------------------------------------------------------------------------------

/-- A chain of writes leads to other stores besides the files. -/
abbrev ReachesApp (deployment : Deployment) (start : ConversationState)
    (request : ConversationRequest) (app : AppState) : Prop :=
  Reaches deployment start request ⟨app, start.attachments⟩

/-- An answer is stored in the channel of its interaction, by the bot that answers. -/
theorem createAnswer_made (state : AppState) (drawn : DrawnRecord)
    (interaction : CommandInteraction) (content : String)
    : (∃ error, (CommandController.createAnswer drawn.id drawn.createdAt interaction content).exec
            state = (.error error, state))
      ∨ ∃ message, (CommandController.createAnswer drawn.id drawn.createdAt interaction
              content).exec state
            = (.ok message, { state with messages := state.messages.withMessage message })
          ∧ Composed message drawn content ∧ AnswersFor state interaction message.authorUserId
          ∧ message.channelId = interaction.channelId ∧ Plain message
          ∧ message.replyToMessageId = none ∧ message.deletedAt = none := by
  rw [CommandController.createAnswer, Eff.exec_get_bind, Eff.exec_check_bind]
  cases answers : CommandController.answerAuthor state interaction with
  | error error => exact .inl ⟨error, rfl⟩
  | ok authorUserId =>
      obtain ⟨application, found, answers⟩ := Eff.check_bind_eq_ok.mp answers
      obtain ⟨channel, _, answers⟩ := Eff.check_bind_eq_ok.mp answers
      split at answers
      · cases answers
      · cases answers
        rcases MessageService.create_made state.messages drawn.id drawn.createdAt
          interaction.organizationId (some interaction.spaceId) interaction.channelId
          application.botUserId content false with ⟨error, failed⟩ | ⟨message, done, made⟩
        · exact .inl ⟨.message error, Eff.exec_zoom_of_error failed⟩
        · exact .inr ⟨message, Eff.exec_zoom_eq_ok.mpr ⟨_, done, rfl⟩, made.composed,
            ⟨application, Eff.mapError_eq_ok.mp found, made.authorUserId.symm⟩, made.channelId,
            made.plain rfl rfl, made.replyToMessageId, made.deletedAt⟩

/-- An answer is posted together with its event. -/
theorem ReachesApp.post {message : Message} (new : start.NewMessage message.id)
    (may : MayPost deployment start message request) (undeleted : message.deletedAt = none)
    (plain : message.replyToMessageId = none) {interaction : CommandInteraction}
    (place : message.channelId = interaction.channelId) (stamp : EventStamp)
    : ReachesApp deployment start request
        { start.messaging.app with
          messages := start.messages.withMessage message
          published := start.messaging.app.published
            ++ [CommandController.messageCreated stamp interaction message] } := by
  refine .single (.posted message _ new may undeleted ?_ (tells_channel
    (shownBy_messageResponse message [] "") stamp "message.created" _ _ place))
  rw [plain]
  nofun

/-- Commands may be written as long as interactions stay under their identifiers. -/
theorem ReachesApp.commands {app : AppState} (reaches : ReachesApp deployment start request app)
    {commands : CommandStore} (keyed : app.commands.Keyed → commands.Keyed)
    : ReachesApp deployment start request { app with commands := commands } := by
  refine reaches.tail (.elsewhere _ ⟨rfl, ⟨[], (List.append_nil _).symm, nofun⟩, keyed⟩ ?_ rfl)
  exact fun app => ⟨app.spaces, app.channels⟩

theorem interactionCallback_writes {drawn : DrawnRecord} {stamp : EventStamp}
    {respondedAt : String} {interactionId : Uuid} {token : String}
    {callback : CreateInteractionCallbackRequest} (new : start.NewMessage drawn.id)
    : ReachesApp deployment start
        (.interactionCallback drawn stamp respondedAt interactionId token callback)
        ((CommandController.createInteractionCallback deployment.crypto drawn.id drawn.createdAt
          stamp respondedAt interactionId token callback).after start.messaging.app) := by
  rw [CommandController.createInteractionCallback, Eff.after_get_bind]
  refine Eff.after_check_bind .refl fun interaction found => ?_
  split
  · rw [Eff.after_map]
    exact ReachesApp.commands .refl fun keyed =>
      CommandStoreKeyed.markInteractionDeferred keyed interaction.id respondedAt
  · split
    · exact .refl
    · split
      · exact .refl
      · next data carried =>
          rcases createAnswer_made start.messaging.app drawn interaction data.content with
            ⟨error, failed⟩ | ⟨message, done, composed, answers, place, plain, reply, undeleted⟩
          · exact Eff.after_bind_stop failed .refl
          · refine Eff.after_bind_to done (Eff.after_bind_to rfl ?_)
            rw [Eff.after_map]
            refine ReachesApp.commands (ReachesApp.post (composed.id ▸ new) ?_ undeleted reply
              place stamp) fun keyed => CommandStoreKeyed.markInteractionResponded keyed
                interaction.id (some message.id) respondedAt
            exact ⟨⟨data, carried, composed⟩, interaction, Eff.mapError_eq_ok.mp found, answers,
              place.symm, plain⟩

/-- An interaction of a follow-up is stored under its own identifier. -/
theorem mem_of_interactionForFollowup {store : CommandStore} (keyed : store.Keyed)
    {applicationId : Uuid} {token : String} {interaction : CommandInteraction}
    (found : CommandService.interactionForFollowup crypto store applicationId token
      = .ok interaction)
    : interaction.id ∈ store.interactions := by
  rw [CommandService.interactionForFollowup] at found
  split at found
  · cases found
  · split at found
    · cases found
    · next other answers =>
        split at found
        · cases found
        · split at found
          · cases found
          · cases found
            obtain ⟨interactionId, stored⟩ :=
              Table.mem_values.mp (List.mem_of_find?_eq_some answers)
            obtain rfl := keyed interactionId _ stored
            exact Table.mem_of_lookup stored

theorem interactionFollowup_writes (keyed : start.Keyed) {drawn : DrawnRecord}
    {stamp : EventStamp} {respondedAt : String} {applicationId : Uuid} {token content : String}
    (new : start.NewMessage drawn.id)
    : ReachesApp deployment start
        (.interactionFollowup drawn stamp respondedAt applicationId token content)
        ((CommandController.createInteractionFollowup deployment.crypto drawn.id drawn.createdAt
          stamp respondedAt applicationId token content).after start.messaging.app) := by
  rw [CommandController.createInteractionFollowup, Eff.after_get_bind]
  refine Eff.after_check_bind .refl fun interaction found => ?_
  refine Eff.after_check_bind .refl fun application _ => ?_
  rcases createAnswer_made start.messaging.app drawn interaction content with
    ⟨error, failed⟩ | ⟨message, done, composed, answers, place, plain, reply, undeleted⟩
  · exact Eff.after_bind_stop failed .refl
  · refine Eff.after_bind_to done ?_
    have stored := mem_of_interactionForFollowup keyed.commands (Eff.mapError_eq_ok.mp found)
    have recorded : (CommandStore.recordInteractionFollowupMessage interaction.id
        message.id).exec start.messaging.app.commands
          = (.ok (), { start.messaging.app.commands with
            interactionFollowupMessages :=
              start.messaging.app.commands.interactionFollowupMessages.insert
                (interaction.id, message.id) }) := by
      rw [CommandStore.recordInteractionFollowupMessage, Eff.exec_get_bind, if_pos stored]
      rfl
    refine Eff.after_bind_to (Eff.exec_zoom_eq_ok.mpr ⟨_, recorded, rfl⟩) ?_
    have may : MayPost deployment start message
        (.interactionFollowup drawn stamp respondedAt applicationId token content) :=
      ⟨composed, interaction, Eff.mapError_eq_ok.mp found, answers, place.symm, plain⟩
    have posted := ReachesApp.commands (ReachesApp.post (composed.id ▸ new) may undeleted reply
      place stamp) fun keyed => CommandStoreKeyed.recordInteractionFollowupMessage keyed
        interaction.id message.id
    rw [Eff.after, recorded] at posted
    refine Eff.after_bind_to rfl ?_
    split
    · rw [Eff.after_map]
      exact ReachesApp.commands posted fun keyed =>
        CommandStoreKeyed.markInteractionResponded keyed interaction.id (some message.id)
          respondedAt
    · exact posted

-----------------------------------------------------------------------------------------
-- Changing answers
-----------------------------------------------------------------------------------------

/-- A response is stored, in the channel of its interaction and by the bot of the application. -/
theorem responseMessage_ok (keyed : start.Keyed) {interaction : CommandInteraction}
    {application : BotApplication} {messageId : Uuid} {message : Message}
    (found : CommandController.responseMessage start.messaging.app interaction application
      messageId = .ok message)
    : message.id = messageId ∧ start.messages.getMessage message.id = some message
      ∧ message.channelId = interaction.channelId
      ∧ message.authorUserId = application.botUserId := by
  obtain ⟨_, got, found⟩ := Eff.check_bind_eq_ok.mp found
  split at found
  · cases found
  · next fits =>
      cases found
      simp only [not_or, not_not] at fits
      obtain ⟨own, stored, -⟩ :=
        keyed.messages.found (MessageService.get_eq_ok.mp (Eff.mapError_eq_ok.mp got))
      exact ⟨own, stored, fits.2.2⟩

/-- The original response of an interaction may be changed. -/
theorem originalResponse_made (keyed : start.Keyed) {applicationId : Uuid} {token : String}
    {responseMessageId : Uuid} {changed : ChangedResponse}
    (found : CommandController.originalResponse crypto start.messaging.app applicationId token
      = .ok (responseMessageId, changed))
    : changed.message.id = responseMessageId
      ∧ start.messages.getMessage changed.message.id = some changed.message
      ∧ changed.message.channelId = changed.interaction.channelId
      ∧ CommandService.interactionForOriginalResponse crypto start.messaging.app.commands
          applicationId token = .ok changed.interaction
      ∧ AnswersFor start.messaging.app changed.interaction changed.message.authorUserId
      ∧ changed.interaction.responseMessageId = some changed.message.id := by
  obtain ⟨interaction, answered, found⟩ := Eff.check_bind_eq_ok.mp found
  obtain ⟨application, owned, found⟩ := Eff.check_bind_eq_ok.mp found
  split at found
  · cases found
  · next response =>
      obtain ⟨message, stored, found⟩ := Eff.check_bind_eq_ok.mp found
      cases found
      obtain ⟨own, stored, place, author⟩ := responseMessage_ok keyed stored
      exact ⟨own, stored, place, Eff.mapError_eq_ok.mp answered,
        ⟨application, Eff.mapError_eq_ok.mp owned, author.symm⟩, own ▸ response⟩

/-- A follow-up of an interaction may be changed. -/
theorem followupResponse_made (keyed : start.Keyed) {applicationId messageId : Uuid}
    {token : String} {changed : ChangedResponse}
    (found : CommandController.followupResponse crypto start.messaging.app applicationId token
      messageId = .ok changed)
    : changed.message.id = messageId
      ∧ start.messages.getMessage changed.message.id = some changed.message
      ∧ changed.message.channelId = changed.interaction.channelId
      ∧ CommandService.interactionForFollowup crypto start.messaging.app.commands applicationId
          token = .ok changed.interaction
      ∧ AnswersFor start.messaging.app changed.interaction changed.message.authorUserId
      ∧ start.messaging.app.commands.interactionHasFollowupMessage changed.interaction.id
          changed.message.id := by
  obtain ⟨interaction, answered, found⟩ := Eff.check_bind_eq_ok.mp found
  obtain ⟨application, owned, found⟩ := Eff.check_bind_eq_ok.mp found
  obtain ⟨message, followup, found⟩ := Eff.check_bind_eq_ok.mp found
  cases found
  rw [CommandController.interactionFollowupMessage] at followup
  split at followup
  · cases followup
  · split at followup
    · cases followup
    · next recorded =>
        obtain ⟨rfl, stored, place, author⟩ := responseMessage_ok keyed followup
        exact ⟨rfl, stored, place, Eff.mapError_eq_ok.mp answered,
          ⟨application, Eff.mapError_eq_ok.mp owned, author.symm⟩,
          Bool.eq_true_of_not_eq_false recorded⟩

/-- A response is changed together with its event, or nothing is. -/
theorem updateResponse_writes {changed : ChangedResponse}
    (stored : start.messages.getMessage changed.message.id = some changed.message)
    (place : changed.message.channelId = changed.interaction.channelId)
    (may : MayChange deployment start changed.message request) (stamp : EventStamp)
    (content : String)
    : ReachesApp deployment start request
        ((CommandController.updateResponse stamp content changed).after start.messaging.app) := by
  obtain ⟨found, undeleted⟩ := MessageStore.getMessage_eq_some.mp stored
  rcases MessageService.updateWithMentions_made (Table.mem_of_lookup found)
    ⟨content, [], [], false, none⟩ with ⟨error, failed⟩ | ⟨message, done, same, kept⟩
  · exact Eff.after_bind_stop (Eff.exec_zoom_of_error failed) .refl
  · refine Eff.after_bind_to (Eff.exec_zoom_eq_ok.mpr ⟨_, done, rfl⟩) ?_
    exact .single (.changed changed.message message _ stored may same (kept.trans undeleted)
      (tells_channel (shownBy_messageResponse message [] "") stamp "message.updated" _ _
        (same.channelId.trans place)))

/-- A response is deleted together with its event. -/
theorem deleteResponse_writes {changed : ChangedResponse}
    (stored : start.messages.getMessage changed.message.id = some changed.message)
    (place : changed.message.channelId = changed.interaction.channelId)
    (may : MayChange deployment start changed.message request) (stamp : EventStamp)
    (deletedAt : String)
    : ReachesApp deployment start request
        ((CommandController.deleteResponse stamp deletedAt changed.message.id changed).after
          start.messaging.app) := by
  obtain ⟨found, undeleted⟩ := MessageStore.getMessage_eq_some.mp stored
  have deleted := MessageService.exec_delete deletedAt (Table.mem_of_lookup found)
  refine Eff.after_bind_to (Eff.exec_zoom_eq_ok.mpr ⟨_, deleted, rfl⟩) ?_
  exact .single (.deleted changed.message deletedAt _ stored may
    (tellsDeletion_channel stamp _ _ place _))

section

variable {stamp : EventStamp} {deletedAt content token : String} {applicationId messageId : Uuid}

theorem updateOriginalResponse_writes (keyed : start.Keyed)
    : ReachesApp deployment start (.updateOriginalResponse stamp applicationId token content)
        ((CommandController.updateOriginalInteractionResponse deployment.crypto stamp
          applicationId token content).after start.messaging.app) := by
  rw [CommandController.updateOriginalInteractionResponse, Eff.after_get_bind]
  refine Eff.after_check_bind .refl fun ⟨responseMessageId, changed⟩ found => ?_
  obtain ⟨own, stored, place, answered, answers, response⟩ := originalResponse_made keyed found
  have may : MayChange deployment start changed.message
      (.updateOriginalResponse stamp applicationId token content) :=
    ⟨changed.interaction, answered, answers, place.symm, response⟩
  exact updateResponse_writes stored place may stamp content

theorem deleteOriginalResponse_writes (keyed : start.Keyed)
    : ReachesApp deployment start (.deleteOriginalResponse stamp deletedAt applicationId token)
        ((CommandController.deleteOriginalInteractionResponse deployment.crypto stamp deletedAt
          applicationId token).after start.messaging.app) := by
  rw [CommandController.deleteOriginalInteractionResponse, Eff.after_get_bind]
  refine Eff.after_check_bind .refl fun ⟨responseMessageId, changed⟩ found => ?_
  obtain ⟨rfl, stored, place, answered, answers, response⟩ := originalResponse_made keyed found
  have may : MayChange deployment start changed.message
      (.deleteOriginalResponse stamp deletedAt applicationId token) :=
    ⟨changed.interaction, answered, answers, place.symm, response⟩
  exact deleteResponse_writes stored place may stamp deletedAt

theorem updateFollowup_writes (keyed : start.Keyed)
    : ReachesApp deployment start
        (.updateFollowup stamp applicationId token messageId content)
        ((CommandController.updateInteractionFollowupResponse deployment.crypto stamp
          applicationId token messageId content).after start.messaging.app) := by
  rw [CommandController.updateInteractionFollowupResponse, Eff.after_get_bind]
  refine Eff.after_check_bind .refl fun changed found => ?_
  obtain ⟨own, stored, place, answered, answers, followup⟩ := followupResponse_made keyed found
  have may : MayChange deployment start changed.message
      (.updateFollowup stamp applicationId token messageId content) :=
    ⟨own.symm, changed.interaction, answered, answers, place.symm, followup⟩
  exact updateResponse_writes stored place may stamp content

theorem deleteFollowup_writes (keyed : start.Keyed)
    : ReachesApp deployment start
        (.deleteFollowup stamp deletedAt applicationId token messageId)
        ((CommandController.deleteInteractionFollowupResponse deployment.crypto stamp deletedAt
          applicationId token messageId).after start.messaging.app) := by
  rw [CommandController.deleteInteractionFollowupResponse, Eff.after_get_bind]
  refine Eff.after_check_bind .refl fun changed found => ?_
  obtain ⟨rfl, stored, place, answered, answers, followup⟩ := followupResponse_made keyed found
  have may : MayChange deployment start changed.message
      (.deleteFollowup stamp deletedAt applicationId token changed.message.id) :=
    ⟨rfl, changed.interaction, answered, answers, place.symm, followup⟩
  exact deleteResponse_writes stored place may stamp deletedAt

end

-----------------------------------------------------------------------------------------
-- All requests
-----------------------------------------------------------------------------------------

/-- A purge erases messages, unless it is dry. -/
theorem purgeMessages_writes (organizationId : Uuid) (createdBefore deletedBefore : Option String)
    (dryRun : Bool)
    : ReachesApp deployment start
        (.purgeMessages organizationId createdBefore deletedBefore dryRun)
        ((Handler.onMessages (MessageStore.purgeForRetention organizationId createdBefore
          deletedBefore dryRun)).after start.messaging.app) := by
  rw [Handler.onMessages, Eff.after_zoom, Eff.after, MessageStore.exec_purgeForRetention]
  cases dryRun with
  | true => exact .refl
  | false => exact .single (.purged _ rfl)

/-- A purge erases files, unless it is dry. -/
theorem purgeAttachments_writes (organizationId : Uuid) (createdBefore : Option String)
    (dryRun : Bool)
    : Reaches deployment start (.purgeAttachments organizationId createdBefore dryRun)
        ((MessageHandler.onAttachments (AttachmentStore.purgeForRetention organizationId
          createdBefore dryRun)).after start.messaging) := by
  rw [MessageHandler.onAttachments, Eff.after_zoom, Eff.after,
    AttachmentStore.exec_purgeForRetention]
  cases dryRun with
  | true => exact .refl
  | false => exact .single (.filesPurged _ rfl)

/-- By cases of the requests. -/
theorem perform_writes (keyed : start.Keyed) (admissible : request.Admissible start)
    : Writes deployment start request start (request.perform deployment start) := by
  cases request with
  | app request =>
      refine .single (.elsewhere _ (request.perform_quiet admissible.2 _) ?_ rfl)
      intro app
      have stepped : start.messaging.app.step deployment.crypto request
          = some (request.perform deployment.crypto start.messaging.app) :=
        if_pos admissible.1
      exact (app.step stepped).1
  | createMessage => exact createMessage_writes keyed admissible
  | updateMessage => exact updateMessage_writes keyed
  | deleteMessage => exact deleteMessage_writes keyed
  | createBotMessage => exact createBotMessage_writes keyed admissible.1 admissible.2
  | updateBotMessage => exact updateBotMessage_writes keyed
  | deleteBotMessage => exact deleteBotMessage_writes keyed
  | presignAttachment => exact presign_writes keyed admissible
  | uploadAttachment => exact uploadContent_writes keyed
  | upsertWebhookPolicy => exact (aside_upsertWebhookPolicy _ _ _ _ start).writes
  | createWebhook => exact (aside_createWebhook _ _ _ _ _ start).writes
  | rotateWebhookToken => exact (aside_rotateToken _ _ _ _ _ start).writes
  | deleteWebhook => exact (aside_deleteWebhook _ _ _ _ start).writes
  | executeWebhook => exact executeWebhook_writes admissible
  | interactionCallback => exact interactionCallback_writes admissible
  | interactionFollowup => exact interactionFollowup_writes keyed admissible
  | updateOriginalResponse => exact updateOriginalResponse_writes keyed
  | deleteOriginalResponse => exact deleteOriginalResponse_writes keyed
  | updateFollowup => exact updateFollowup_writes keyed
  | deleteFollowup => exact deleteFollowup_writes keyed
  | purgeMessages => exact purgeMessages_writes _ _ _ _
  | purgeAttachments => exact purgeAttachments_writes _ _ _

end OpenCord.Conversations
