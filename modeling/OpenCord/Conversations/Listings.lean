import OpenCord.Conversations.Containment
import OpenCord.Library.Grouping

/-! Listings of channels. What belongs to the messages is looked up for all of them together, and
every message is answered as if it were looked up alone; nothing of another channel comes along.
-/

namespace OpenCord.Server

open OpenCord.Library OpenCord.Platform OpenCord.Auth OpenCord.Bots OpenCord.Messages
  OpenCord.Attachments OpenCord.Compat OpenCord.RateLimits

-----------------------------------------------------------------------------------------
-- One message
-----------------------------------------------------------------------------------------

/-- The response of a message whose attachments are looked up for it alone, as after a change of
it.
-/
def MessageController.responseOf (state : MessagingState) (publicUrl : String)
    (message : Message) : Json :=
  Compat.messageResponse message (state.attachments.listForMessageIds [message.id]) publicUrl

namespace CompatController

/-- A message that another one refers to, looked up for that one alone. -/
def referencedMessageOf (state : MessagingState) (bot : AuthenticatedBot) (message : Message)
    : Option ReferencedCompatMessage :=
  (referencedMessageById state.app.messages message.replyToMessageId).map fun referenced =>
    ⟨referenced, state.attachments.listForMessageIds [referenced.id],
      compatMentionsForMessage state.app.auth referenced bot⟩

/-- The response of a message whose attachments, mentions and reference are looked up for it
alone, as after a change of it.
-/
def responseOf (state : MessagingState) (bot : AuthenticatedBot) (publicUrl : String)
    (message : Message) : CompatMessageResponse :=
  compatMessageResponse message (state.attachments.listForMessageIds [message.id])
    (compatMentionsForMessage state.app.auth message bot) (referencedMessageOf state bot message)
    bot publicUrl

end CompatController

section

variable (crypto : Crypto) (publicUrl : String) (state : MessagingState)

/-- The listing of a channel as single look-ups. -/
def MessageController.listOneByOne (authorization : Option String) (channelId : Uuid)
    : Except MessageApiError (List Json) := do
  let token ← bearerToken authorization
  let user ← (state.app.userForToken crypto token).mapError .service
  let _ ← (state.app.enterChannel user.id channelId .viewChannel).mapError .service
  return (state.app.messages.listForChannel channelId).map (responseOf state publicUrl)

/-- The listing of a channel for a bot as single look-ups. -/
def CompatController.listOneByOne (rateLimit : RateLimitDecision)
    (authorization : Option String) (channelId : Uuid)
    : Except MessageApiError (RateLimitDecision × List CompatMessageResponse) := do
  let (bot, channel, space) ←
    visibleChannel crypto state.app rateLimit authorization channelId
  (state.app.requireChannel bot.botUserId space channel .viewChannel).mapError .service
  return (rateLimit,
    (state.app.messages.listForChannel channel.id).map (responseOf state bot publicUrl))

end

-----------------------------------------------------------------------------------------
-- Attachments
-----------------------------------------------------------------------------------------

theorem attachmentsOf_grouped (attachments : List Attachment) (messageId : Uuid)
    : ((attachmentsByMessageId attachments).lookup messageId).getD []
        = attachments.filter fun attachment => attachment.messageId = some messageId := by
  rw [attachmentsByMessageId, Table.getD_lookup_foldl Attachment.messageId]
  · rfl
  · intro grouped attachment
    cases attachment.messageId <;> rfl

/-- The attachments of a message are the same whether they are looked up alone or with those of
other messages.
-/
theorem filter_listForMessageIds {store : AttachmentStore} (keyed : store.Keyed)
    {messageIds : List Uuid} {messageId : Uuid} (listed : messageId ∈ messageIds)
    : (store.listForMessageIds messageIds).filter
          (fun attachment => attachment.messageId = some messageId)
        = store.listForMessageIds [messageId] := by
  have distinct : ∀ first ∈ store.attachmentsById.values,
      ∀ second ∈ store.attachmentsById.values, first.id = second.id → first = second :=
    fun first there second also same =>
      List.inj_on_of_nodup_map (Table.nodup_map_values keyed) there also same
  rw [AttachmentStore.listForMessageIds, Table.filter_insertionSort, List.filter_filter]
  · rw [AttachmentStore.listForMessageIds]
    congr 1
    refine List.filter_congr fun attachment _ => ?_
    cases attachment.messageId with
    | none => simp
    | some other =>
        simp only [Option.some.injEq, Option.any_some, List.mem_singleton]
        by_cases same : other = messageId
        · simp [same, listed]
        · simp [same]
  · intro first kept second alsoKept below above
    refine distinct first (List.mem_filter.mp kept).1 second (List.mem_filter.mp alsoKept).1 ?_
    exact congrArg Uuid.mk (BitVec.le_antisymm below above)

-----------------------------------------------------------------------------------------
-- Messages of a channel
-----------------------------------------------------------------------------------------

theorem mem_listForChannel {store : MessageStore} (keyed : store.Keyed) {channelId : Uuid}
    {message : Message}
    : message ∈ store.listForChannel channelId
      ↔ store.getMessage message.id = some message ∧ message.channelId = channelId := by
  simp only [MessageStore.listForChannel, List.mem_insertionSort, List.mem_filter,
    Table.mem_values, MessageStore.getMessage_eq_some, Bool.decide_and, Bool.and_eq_true,
    decide_eq_true_eq, Option.isNone_iff_eq_none]
  constructor
  · rintro ⟨⟨messageId, stored⟩, channel, undeleted⟩
    obtain rfl := keyed messageId message stored
    exact ⟨⟨stored, undeleted⟩, channel⟩
  · rintro ⟨⟨stored, undeleted⟩, channel⟩
    exact ⟨⟨message.id, stored⟩, channel, undeleted⟩

/-- No message of a channel is listed twice. -/
theorem nodup_listForChannel {store : MessageStore} (keyed : store.Keyed) (channelId : Uuid)
    : ((store.listForChannel channelId).map fun message => message.id).Nodup := by
  have distinct := Table.nodup_map_values keyed
  refine ((List.perm_insertionSort _ _).map _).nodup_iff.mpr (distinct.sublist ?_)
  exact List.filter_sublist.map _

/-- A message takes out of the table what belongs to it, by induction over the messages. -/
theorem listed_eq_map (publicUrl : String) (grouped : Table Uuid (List Attachment))
    {messages : List Message} (distinct : (messages.map fun message => message.id).Nodup)
    : MessageController.listed publicUrl grouped messages
        = messages.map fun message =>
            Compat.messageResponse message ((grouped.lookup message.id).getD []) publicUrl := by
  induction messages generalizing grouped with
  | nil => rfl
  | cons message messages ih =>
      obtain ⟨new, distinct⟩ := List.nodup_cons.mp distinct
      rw [MessageController.listed, ih _ distinct, List.map_cons]
      congr 1
      refine List.map_congr_left fun other listed => ?_
      have different : other.id ≠ message.id := by
        intro same
        exact new (List.mem_map.mpr ⟨other, listed, same⟩)
      rw [AList.lookup_erase_ne different]

theorem MessageController.listed_oneByOne {state : MessagingState}
    (messages : state.app.messages.Keyed) (attachments : state.attachments.Keyed)
    (publicUrl : String) (channelId : Uuid)
    : listed publicUrl
          (attachmentsByMessageId (state.attachments.listForMessageIds
            ((state.app.messages.listForChannel channelId).map fun message => message.id)))
          (state.app.messages.listForChannel channelId)
        = (state.app.messages.listForChannel channelId).map (responseOf state publicUrl) := by
  rw [listed_eq_map publicUrl _ (nodup_listForChannel messages channelId)]
  refine List.map_congr_left fun message listed => ?_
  have mem := List.mem_map_of_mem (f := fun message => message.id) listed
  rw [attachmentsOf_grouped, filter_listForMessageIds attachments mem, responseOf]

namespace CompatController

variable {state : MessagingState} {bot : AuthenticatedBot} {messages : List Message}

/-- The messages that are referred to, looked up once each. -/
theorem lookup_referencedMessagesById {store : MessageStore} (keyed : store.Keyed)
    (messageIds : List Uuid) (messageId : Uuid)
    : (referencedMessagesById store messageIds).lookup messageId
        = if messageId ∈ messageIds then store.getMessage messageId else none := by
  rw [referencedMessagesById, Table.lookup_foldl_found store.getMessage
    fun message => message.id]
  · simp
  · intro found asked
    cases store.getMessage asked <;> rfl
  · exact fun asked message found => (keyed.found found).1
  · exact .inl (AList.lookup_empty _)

/-- What is looked up of a listed message or of one that is referred to. -/
structure LookedUp (state : MessagingState) (bot : AuthenticatedBot) (messages : List Message)
    (message : Message) : Prop where
  attachments : (lookedUp state bot messages).attachmentsOf message
    = state.attachments.listForMessageIds [message.id]
  mentions : (lookedUp state bot messages).mentionsOf message
    = compatMentionsForMessage state.app.auth message bot

theorem lookedUp_of_mem (bot : AuthenticatedBot) (attachments : state.attachments.Keyed)
    (stored : ∀ message ∈ messages, state.app.messages.getMessage message.id = some message)
    (keyed : state.app.messages.Keyed) {message : Message}
    (mem : message ∈ messages
      ∨ message ∈ (referencedMessagesById state.app.messages
          (messages.filterMap fun message => message.replyToMessageId)).values)
    : LookedUp state bot messages message := by
  have found : ∀ other ∈ (referencedMessagesById state.app.messages
      (messages.filterMap fun message => message.replyToMessageId)).values,
        state.app.messages.getMessage other.id = some other := by
    intro other listed
    obtain ⟨asked, there⟩ := Table.mem_values.mp listed
    rw [lookup_referencedMessagesById keyed] at there
    split at there
    · exact (keyed.found there).2.1
    · cases there
  constructor
  · rw [ListedChannel.attachmentsOf, lookedUp, attachmentsOf_grouped]
    refine filter_listForMessageIds attachments (List.mem_append.mpr (mem.imp ?_ ?_))
    · exact fun listed => List.mem_map_of_mem listed
    · intro listed
      obtain ⟨asked, there⟩ := Table.mem_values.mp listed
      have own : message.id = asked := by
        rw [lookup_referencedMessagesById keyed] at there
        split at there
        · exact (keyed.found there).1
        · cases there
      exact own ▸ AList.mem_keys.mpr (Table.mem_of_lookup there)
  · rw [ListedChannel.mentionsOf, lookedUp, compatMentionsByMessageId]
    dsimp only
    rw [Table.lookup_foldl_insert (compatMentionsForMessage state.app.auth message bot)]
    · rfl
    · intro other listed same
      have there : state.app.messages.getMessage other.id = some other :=
        (List.mem_append.mp listed).elim (stored other) (found other)
      have here : state.app.messages.getMessage message.id = some message :=
        mem.elim (stored message) (found message)
      rw [same, here] at there
      cases there
      rfl
    · exact .inr ⟨message, List.mem_append.mpr mem, rfl⟩

/-- What is looked up together answers a message as if it were looked up alone. -/
theorem compatMessageResponse_lookedUp (attachments : state.attachments.Keyed)
    (stored : ∀ message ∈ messages, state.app.messages.getMessage message.id = some message)
    (keyed : state.app.messages.Keyed) (publicUrl : String) {message : Message}
    (mem : message ∈ messages)
    : compatMessageResponse message ((lookedUp state bot messages).attachmentsOf message)
          ((lookedUp state bot messages).mentionsOf message)
          ((lookedUp state bot messages).referencedBy message) bot publicUrl
        = responseOf state bot publicUrl message := by
  have own := lookedUp_of_mem bot attachments stored keyed (.inl mem)
  have referenced : (lookedUp state bot messages).referencedBy message
      = referencedMessageOf state bot message := by
    rw [ListedChannel.referencedBy, referencedMessageOf, referencedMessageById]
    cases refers : message.replyToMessageId with
    | none => rfl
    | some referencedId =>
        have asked : referencedId
            ∈ messages.filterMap fun message => message.replyToMessageId :=
          List.mem_filterMap.mpr ⟨message, mem, refers⟩
        have found := lookup_referencedMessagesById keyed
          (messages.filterMap fun message => message.replyToMessageId) referencedId
        rw [if_pos asked] at found
        rw [Option.bind_some, Option.bind_some, ← found]
        cases there : (referencedMessagesById state.app.messages
            (messages.filterMap fun message => message.replyToMessageId)).lookup referencedId with
        | none =>
            rw [Option.map_none, lookedUp]
            dsimp only
            rw [there, Option.map_none]
        | some other =>
            have known := lookedUp_of_mem bot attachments stored keyed
              (.inr (Table.mem_values.mpr ⟨referencedId, there⟩))
            rw [Option.map_some, ← known.attachments, ← known.mentions]
            rw [lookedUp]
            dsimp only
            rw [there, Option.map_some]
  rw [own.attachments, own.mentions, referenced, responseOf]

end CompatController

end OpenCord.Server

namespace OpenCord.Conversations

open OpenCord.Library OpenCord.Platform OpenCord.Auth OpenCord.Tenancy OpenCord.Bots
  OpenCord.Messages OpenCord.Attachments OpenCord.Compat OpenCord.RateLimits OpenCord.Server

variable {deployment : Deployment} {state : ConversationState}

-----------------------------------------------------------------------------------------
-- Together and one by one
-----------------------------------------------------------------------------------------

theorem list_oneByOne (keyed : state.Keyed) (crypto : Crypto) (publicUrl : String)
    (authorization : Option String) (channelId : Uuid)
    : MessageController.list crypto publicUrl state.messaging authorization channelId
        = MessageController.listOneByOne crypto publicUrl state.messaging authorization
            channelId := by
  rw [MessageController.list, MessageController.listOneByOne]
  refine bind_congr fun token => bind_congr fun user => bind_congr fun _ => ?_
  exact congrArg pure (MessageController.listed_oneByOne keyed.messages keyed.attachments
    publicUrl channelId)

theorem compat_oneByOne (keyed : state.Keyed) (crypto : Crypto) (publicUrl : String)
    (rateLimit : RateLimitDecision) (authorization : Option String) (channelId : Uuid)
    : CompatController.listMessages crypto publicUrl state.messaging rateLimit authorization
          channelId
        = CompatController.listOneByOne crypto publicUrl state.messaging rateLimit authorization
            channelId := by
  rw [CompatController.listMessages, CompatController.listOneByOne]
  refine bind_congr fun ⟨bot, channel, space⟩ => bind_congr fun _ => ?_
  refine congrArg (fun responses => pure (rateLimit, responses)) ?_
  refine List.map_congr_left fun message listed => ?_
  refine CompatController.compatMessageResponse_lookedUp keyed.attachments ?_ keyed.messages
    publicUrl listed
  exact fun message listed => ((mem_listForChannel keyed.messages).mp listed).1

/-- Both listings of a channel answer every message as if what belongs to it were looked up for it
alone, and fail in the same way.
-/
def ListsOneByOne (deployment : Deployment) (state : ConversationState)
    (authorization : Option String) (channelId : Uuid) : Prop :=
  MessageController.list deployment.crypto deployment.publicUrl state.messaging authorization
      channelId
    = MessageController.listOneByOne deployment.crypto deployment.publicUrl state.messaging
        authorization channelId
  ∧ ∀ rateLimit, CompatController.listMessages deployment.crypto deployment.publicUrl
        state.messaging rateLimit authorization channelId
      = CompatController.listOneByOne deployment.crypto deployment.publicUrl state.messaging
          rateLimit authorization channelId

theorem listings_oneByOne (reachable : Reachable (step deployment) .empty state)
    (authorization : Option String) (channelId : Uuid)
    : ListsOneByOne deployment state authorization channelId :=
  have keyed := keyed_of_reachable reachable
  ⟨list_oneByOne keyed _ _ authorization channelId,
    fun rateLimit => compat_oneByOne keyed _ _ rateLimit authorization channelId⟩

-----------------------------------------------------------------------------------------
-- What a listing shows
-----------------------------------------------------------------------------------------

/-- A message of a channel is stored with files that its author brought into the channel. -/
structure InChannel (state : ConversationState) (channelId : Uuid) (message : Message)
    (attachments : List Attachment) : Prop where
  stored : state.messages.getMessage message.id = some message
  channel : message.channelId = channelId
  files : ∀ attachment ∈ attachments,
    state.attachments.attachmentsById.lookup attachment.id = some attachment
      ∧ attachment.messageId = some message.id ∧ attachment.channelId = channelId
      ∧ attachment.uploaderUserId = message.authorUserId

theorem inChannel_of_found (keyed : state.Keyed) (contained : Contained state) {channelId : Uuid}
    {message : Message} (stored : state.messages.getMessage message.id = some message)
    (channel : message.channelId = channelId)
    : InChannel state channelId message (state.attachments.listForMessageIds [message.id]) := by
  refine ⟨stored, channel, fun attachment listed => ?_⟩
  rw [AttachmentStore.listForMessageIds, List.mem_insertionSort, List.mem_filter,
    Table.mem_values] at listed
  obtain ⟨⟨attachmentId, found⟩, links⟩ := listed
  obtain rfl := keyed.attachments attachmentId attachment found
  have linked : attachment.messageId = some message.id := by
    cases refers : attachment.messageId with
    | none => simp [refers] at links
    | some other => simpa [refers] using links
  have together := contained.files attachment.id attachment found message.id linked message
    (MessageStore.getMessage_eq_some.mp stored).1
  exact ⟨found, linked, together.1.trans channel, together.2⟩

/-- Whoever lists a channel has a session, and may view the channel. All that is listed are
messages of the channel, with files that their authors brought into it; what they reply to is one
of the channel.
-/
def ListsWithin (deployment : Deployment) (state : ConversationState)
    (authorization : Option String) (channelId : Uuid) : Prop :=
  ∀ responses, MessageController.list deployment.crypto deployment.publicUrl state.messaging
      authorization channelId = .ok responses →
    ∃ userId, SessionOf deployment.crypto state.messaging.app authorization userId
      ∧ Enters state.messaging.app userId channelId .viewChannel
      ∧ ∀ response ∈ responses, ∃ message attachments,
          response = Compat.messageResponse message attachments deployment.publicUrl
            ∧ InChannel state channelId message attachments
            ∧ ∀ referencedId ∈ message.replyToMessageId, ∀ referenced,
                state.messages.messagesById.lookup referencedId = some referenced →
                  referenced.channelId = channelId

/-- The same of bots. A message that is shown as referred to is also one of the channel. -/
def BotListsWithin (deployment : Deployment) (state : ConversationState)
    (authorization : Option String) (channelId : Uuid) : Prop :=
  ∀ rateLimit limited responses,
    CompatController.listMessages deployment.crypto deployment.publicUrl state.messaging rateLimit
        authorization channelId = .ok (limited, responses) →
      ∃ bot, BotOf deployment.crypto state.messaging.app authorization bot.botUserId
        ∧ Enters state.messaging.app bot.botUserId channelId .viewChannel
        ∧ ∀ response ∈ responses, ∃ message attachments mentions referenced,
            response = compatMessageResponse message attachments mentions referenced bot
                deployment.publicUrl
              ∧ InChannel state channelId message attachments
              ∧ ∀ shown ∈ referenced,
                  InChannel state channelId shown.message shown.attachments

theorem listsWithin_of_reachable (reachable : Reachable (step deployment) .empty state)
    (authorization : Option String) (channelId : Uuid)
    : ListsWithin deployment state authorization channelId
      ∧ BotListsWithin deployment state authorization channelId := by
  have keyed := keyed_of_reachable reachable
  have contained := contained_of_reachable reachable
  have together := list_oneByOne keyed deployment.crypto deployment.publicUrl authorization
    channelId
  constructor
  · intro responses listed
    rw [together] at listed
    obtain ⟨token, bearer, listed⟩ := Eff.check_bind_eq_ok.mp listed
    obtain ⟨user, session, listed⟩ := Eff.check_bind_eq_ok.mp listed
    obtain ⟨⟨channel, space⟩, entered, listed⟩ := Eff.check_bind_eq_ok.mp listed
    cases listed
    refine ⟨user.id, ⟨token, user, bearer, Eff.mapError_eq_ok.mp session, rfl⟩,
      ⟨channel, space, Eff.mapError_eq_ok.mp entered⟩, fun response answered => ?_⟩
    obtain ⟨message, member, rfl⟩ := List.mem_map.mp answered
    obtain ⟨stored, place⟩ := (mem_listForChannel keyed.messages).mp member
    have here := inChannel_of_found keyed contained stored place
    refine ⟨message, _, rfl, here, fun referencedId refers referenced found => ?_⟩
    have there := (MessageStore.getMessage_eq_some.mp stored).1
    exact (contained.replies message.id message there referencedId refers referenced found).trans
      place
  · intro rateLimit limited responses listed
    rw [compat_oneByOne keyed] at listed
    obtain ⟨⟨bot, channel, space⟩, visible, listed⟩ := Eff.check_bind_eq_ok.mp listed
    obtain ⟨⟨⟩, required, listed⟩ := Eff.check_bind_eq_ok.mp listed
    cases listed
    obtain ⟨token, bearer, visible⟩ := Eff.check_bind_eq_ok.mp visible
    obtain ⟨_, known, visible⟩ := Eff.check_bind_eq_ok.mp visible
    obtain ⟨_, _, visible⟩ := Eff.check_bind_eq_ok.mp visible
    obtain ⟨⟨_, _⟩, sees, visible⟩ := Eff.check_bind_eq_ok.mp visible
    cases visible
    obtain ⟨channelFound, enters⟩ :=
      enters_of_visible (Eff.mapError_eq_ok.mp sees) (Eff.mapError_eq_ok.mp required)
    obtain rfl := keyed_channel keyed channelFound
    refine ⟨bot, ⟨token, bot, bearer, Eff.mapError_eq_ok.mp known, rfl⟩, enters,
      fun response answered => ?_⟩
    obtain ⟨message, member, rfl⟩ := List.mem_map.mp answered
    obtain ⟨stored, place⟩ := (mem_listForChannel keyed.messages).mp member
    refine ⟨message, _, _, _, rfl, inChannel_of_found keyed contained stored place, ?_⟩
    intro shown refers
    obtain ⟨referenced, found, rfl⟩ := Option.map_eq_some_iff.mp refers
    obtain ⟨referencedId, asked, found⟩ := Option.bind_eq_some_iff.mp found
    obtain ⟨own, there, -⟩ := keyed.messages.found found
    refine inChannel_of_found keyed contained there (Eq.trans ?_ place)
    exact contained.replies message.id message (MessageStore.getMessage_eq_some.mp stored).1
      referencedId asked referenced (MessageStore.getMessage_eq_some.mp found).1

theorem listings_contained (reachable : Reachable (step deployment) .empty state)
    : ∀ authorization channelId, ListsWithin deployment state authorization channelId
        ∧ BotListsWithin deployment state authorization channelId :=
  listsWithin_of_reachable reachable

-----------------------------------------------------------------------------------------
-- A bot that replies
-----------------------------------------------------------------------------------------

namespace Acme

open OpenCord.Server.Acme

def botPresents : Option String := some ("Bot " ++ Server.Acme.botToken)

/-- Alice invites the bot and asks whether all is well, and the bot replies with a report. -/
def botReplied : List ConversationRequest :=
  conversation ++ (botRequests.take 2).map .app ++
    [.createMessage ⟨.ofNat 99, noon⟩ (stamp 305) withinLimit alicePresents general
        ⟨"Is all well?", []⟩,
      .createBotMessage drawnMessage withinLimit general replyMessage.asRequest]

/-- Both listings of the channel answer, with the reply. -/
theorem botReplied_listed
    : ∃ state responses answered, run (step server) .empty botReplied = some state
        ∧ MessageController.list server.crypto server.publicUrl state.messaging alicePresents
            general = .ok responses
        ∧ responses.length = 4
        ∧ CompatController.listMessages server.crypto server.publicUrl state.messaging
            withinLimit botPresents general = .ok answered
        ∧ answered.2.length = 4 := by
  have facts : (run (step server) .empty botReplied).any fun state =>
      ((MessageController.list server.crypto server.publicUrl state.messaging alicePresents
          general).toOption.any fun responses => responses.length = 4)
        ∧ ((CompatController.listMessages server.crypto server.publicUrl state.messaging
          withinLimit botPresents general).toOption.any fun answered =>
            answered.2.length = 4) := by
    decide +kernel
  obtain ⟨state, ran, facts⟩ := (Option.any_eq_true _ _).mp facts
  obtain ⟨listed, botListed⟩ := of_decide_eq_true facts
  obtain ⟨responses, listed, length⟩ := (Option.any_eq_true _ _).mp listed
  obtain ⟨answered, botListed, botLength⟩ := (Option.any_eq_true _ _).mp botListed
  exact ⟨state, responses, answered, ran, Eff.toOption_eq_some.mp listed,
    of_decide_eq_true length, Eff.toOption_eq_some.mp botListed, of_decide_eq_true botLength⟩

end Acme

theorem conversation_oneByOne
    : ∃ state responses answered, Reachable (step Acme.server) .empty state
        ∧ MessageController.listOneByOne Acme.server.crypto Acme.server.publicUrl
            state.messaging Acme.alicePresents Server.Acme.general = .ok responses
        ∧ responses.length = 4
        ∧ CompatController.listOneByOne Acme.server.crypto Acme.server.publicUrl state.messaging
            Server.Acme.withinLimit Acme.botPresents Server.Acme.general = .ok answered
        ∧ answered.2.length = 4 := by
  obtain ⟨state, responses, answered, ran, listed, length, botListed, botLength⟩ :=
    Acme.botReplied_listed
  refine ⟨state, responses, answered, ⟨_, ran⟩, ?_, length, ?_, botLength⟩
  · exact (listings_oneByOne ⟨_, ran⟩ Acme.alicePresents _).1.symm.trans listed
  · exact ((listings_oneByOne ⟨_, ran⟩ Acme.botPresents _).2 _).symm.trans botListed

theorem conversation_contained
    : ∃ state responses answered, Reachable (step Acme.server) .empty state
        ∧ MessageController.list Acme.server.crypto Acme.server.publicUrl state.messaging
            Acme.alicePresents Server.Acme.general = .ok responses
        ∧ responses.length = 4
        ∧ ListsWithin Acme.server state Acme.alicePresents Server.Acme.general
        ∧ CompatController.listMessages Acme.server.crypto Acme.server.publicUrl state.messaging
            Server.Acme.withinLimit Acme.botPresents Server.Acme.general = .ok answered
        ∧ answered.2.length = 4
        ∧ BotListsWithin Acme.server state Acme.botPresents Server.Acme.general := by
  obtain ⟨state, responses, answered, ran, listed, length, botListed, botLength⟩ :=
    Acme.botReplied_listed
  exact ⟨state, responses, answered, ⟨_, ran⟩, listed, length,
    (listings_contained ⟨_, ran⟩ _ _).1, botListed, botLength,
    (listings_contained ⟨_, ran⟩ _ _).2⟩

end OpenCord.Conversations
