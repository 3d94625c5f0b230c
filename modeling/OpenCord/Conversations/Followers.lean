import OpenCord.Conversations.Listings
import OpenCord.Library.Replay

/-! Whoever follows the events of a channel holds the messages that a listing of it shows. -/

namespace OpenCord.Realtime

open OpenCord.Library OpenCord.Platform

/-- What an event of a message says to a follower: a message as it is now, or one that is gone. -/
def RealtimeEvent.messageChange (event : RealtimeEvent) : Change String Json :=
  if event.eventType = "message.created" ∨ event.eventType = "message.updated" then
    match event.data.get "message" with
    | some payload =>
        match payload.get "id" with
        | some (.string messageId) => .put messageId payload
        | _ => .nothing
    | none => .nothing
  else if event.eventType = "message.deleted" then
    match event.data.get "id" with
    | some (.string messageId) => .drop messageId
    | _ => .nothing
  else
    .nothing

/-- What the events of a channel say, one after another. -/
def messageChanges (published : List RealtimeEvent) (channelId : Uuid)
    : List (Change String Json) :=
  (published.filter fun event => event.scope.channelId = some channelId.toString).map
    RealtimeEvent.messageChange

/-- The messages that a follower of a channel holds. -/
def followed (published : List RealtimeEvent) (channelId : Uuid) : Table String Json :=
  Change.replay (messageChanges published channelId)

theorem messageChange_of_not_isMessage {event : RealtimeEvent} (other : ¬ event.IsMessage)
    : event.messageChange = .nothing := by
  simp only [RealtimeEvent.IsMessage, messageEventTypes, List.mem_cons, List.not_mem_nil,
    or_false, not_or] at other
  rw [RealtimeEvent.messageChange, if_neg (by tauto), if_neg other.2.2]

/-- Events that tell of no message are not noticed. -/
theorem followed_append_quiet {published events : List RealtimeEvent}
    (quiet : ∀ event ∈ events, ¬ event.IsMessage) (channelId : Uuid)
    : followed (published ++ events) channelId = followed published channelId := by
  rw [followed, messageChanges, List.filter_append, List.map_append]
  refine Change.replay_append_nothing _ fun change listed => ?_
  obtain ⟨event, kept, rfl⟩ := List.mem_map.mp listed
  exact messageChange_of_not_isMessage (quiet event (List.mem_filter.mp kept).1)

/-- An event is applied by the followers of its channel. -/
theorem followed_concat (published : List RealtimeEvent) (event : RealtimeEvent)
    {place : Uuid} (inPlace : event.scope.channelId = some place.toString) (channelId : Uuid)
    : followed (published ++ [event]) channelId
        = if place = channelId then event.messageChange.apply (followed published channelId)
          else followed published channelId := by
  rw [followed, messageChanges, List.filter_append, List.map_append, followed, messageChanges]
  by_cases same : place = channelId
  · subst same
    rw [if_pos rfl, List.filter_singleton]
    simp [inPlace]
  · have other : event.scope.channelId ≠ some channelId.toString := by
      rw [inPlace]
      exact fun equal => same (Uuid.toString_injective (Option.some.inj equal))
    rw [if_neg same, List.filter_singleton]
    simp [other]

end OpenCord.Realtime

namespace OpenCord.Conversations

open Relation
open OpenCord.Library OpenCord.Platform OpenCord.Messages OpenCord.Attachments
  OpenCord.Realtime OpenCord.Server

variable {deployment : Deployment} {start before after state next : ConversationState}
  {request : ConversationRequest} {message : Message}

theorem shownBy_id {payload : Json} (shown : message.ShownBy payload)
    : payload.get "id" = some (.string message.id.toString) := by
  rw [shown "id" (by decide)]
  rfl

/-- An event of a created or updated message puts it under its identifier. -/
theorem messageChange_of_tells {event : RealtimeEvent} {eventType : String}
    (tells : event.Tells eventType message)
    (kind : eventType = "message.created" ∨ eventType = "message.updated")
    : ∃ payload, message.ShownBy payload
        ∧ event.messageChange = .put message.id.toString payload := by
  obtain ⟨payload, found, shown⟩ := tells.payload
  refine ⟨payload, shown, ?_⟩
  rw [RealtimeEvent.messageChange, tells.eventType, if_pos kind, found]
  dsimp only
  rw [shownBy_id shown]

theorem messageChange_of_tellsDeletion {event : RealtimeEvent}
    (tells : event.TellsDeletion message)
    : event.messageChange = .drop message.id.toString := by
  rw [RealtimeEvent.messageChange, tells.eventType, if_neg (by decide), if_pos rfl, tells.id]

-----------------------------------------------------------------------------------------
-- What writes tell
-----------------------------------------------------------------------------------------

/-- A record is written over an old one of its channel, if there is one, and the followers of the
channel are told of it.
-/
structure Told (before after : ConversationState) (record : Message) : Prop where
  stored : ∀ messageId, after.messages.messagesById.lookup messageId
    = if messageId = record.id then some record
      else before.messages.messagesById.lookup messageId
  place : ∀ old, before.messages.messagesById.lookup record.id = some old →
    old.channelId = record.channelId
  applied : ∃ change : Change String Json,
    (∀ channelId, followed after.messaging.app.published channelId
      = if record.channelId = channelId then
          change.apply (followed before.messaging.app.published channelId)
        else followed before.messaging.app.published channelId)
      ∧ (record.deletedAt = none ∧ (∃ payload, record.ShownBy payload
            ∧ change = .put record.id.toString payload)
          ∨ record.deletedAt ≠ none ∧ change = .drop record.id.toString)

/-- What a write tells the followers: nothing, if no message changes or messages are erased, or
the one message that changes.
-/
inductive Telling (request : ConversationRequest) (before after : ConversationState)
    : Prop where
  | quiet (stored : after.messages = before.messages)
      (same : ∀ channelId, followed after.messaging.app.published channelId
        = followed before.messaging.app.published channelId)
  | told (record : Message) (told : Told before after record)
  | erased (purges : request.PurgesMessages)
      (stored : ∀ messageId message, after.messages.messagesById.lookup messageId = some message →
        before.messages.messagesById.lookup messageId = some message)
      (same : ∀ channelId, followed after.messaging.app.published channelId
        = followed before.messaging.app.published channelId)

/-- By cases of the writes. -/
theorem Write.telling (write : Write deployment start request before after)
    : Telling request before after := by
  cases write with
  | elsewhere _ quiet =>
      obtain ⟨messages, ⟨events, published, idle⟩, -⟩ := quiet
      refine .quiet messages fun channelId => ?_
      rw [published, followed_append_quiet idle]
  | posted message event new may undeleted reply tells =>
      obtain ⟨payload, shown, change⟩ := messageChange_of_tells tells (.inl rfl)
      refine .told message ⟨fun messageId => lookup_withMessages, fun old found => ?_,
        event.messageChange, followed_concat _ event tells.channel,
        .inl ⟨undeleted, payload, shown, change⟩⟩
      exact absurd (Table.mem_of_lookup found) new.1
  | changed old message event stored may same undeleted tells =>
      obtain ⟨payload, shown, change⟩ := messageChange_of_tells tells (.inr rfl)
      refine .told message ⟨fun messageId => lookup_withMessages, fun other found => ?_,
        event.messageChange, followed_concat _ event tells.channel,
        .inl ⟨undeleted, payload, shown, change⟩⟩
      rw [same.id, (MessageStore.getMessage_eq_some.mp stored).1] at found
      cases found
      exact same.channelId.symm
  | deleted message deletedAt event stored may tells =>
      have tellsRecord : event.TellsDeletion { message with deletedAt := some deletedAt } :=
        ⟨tells.eventType, tells.channel, tells.id⟩
      refine .told { message with deletedAt := some deletedAt } ⟨fun messageId =>
        lookup_withMessages, fun other found => ?_, event.messageChange,
        followed_concat _ event tells.channel,
        .inr ⟨nofun, messageChange_of_tellsDeletion tellsRecord⟩⟩
      rw [(MessageStore.getMessage_eq_some.mp stored).1] at found
      cases found
      rfl
  | purged messageIds purges =>
      exact .erased purges (fun _ _ => Table.lookup_of_eraseAll) fun _ => rfl
  | presigned => exact .quiet rfl fun _ => rfl
  | uploaded => exact .quiet rfl fun _ => rfl
  | linked => exact .quiet rfl fun _ => rfl
  | filesPurged => exact .quiet rfl fun _ => rfl

-----------------------------------------------------------------------------------------
-- What followers hold
-----------------------------------------------------------------------------------------

/-- The followers of its channel hold a message as it is stored, unless it is deleted. -/
def Message.HeldBy (message : Message) (published : List RealtimeEvent) : Prop :=
  (message.deletedAt = none → ∃ payload,
      (followed published message.channelId).lookup message.id.toString = some payload
        ∧ message.ShownBy payload)
    ∧ (message.deletedAt ≠ none →
      (followed published message.channelId).lookup message.id.toString = none)

/-- Every stored message is held by the followers of its channel, unless it is deleted. -/
def Followed (state : ConversationState) : Prop :=
  ∀ messageId message, state.messages.messagesById.lookup messageId = some message →
    Message.HeldBy message state.messaging.app.published

/-- Followers of a channel hold nothing but stored messages of the channel. -/
def OnlyStored (state : ConversationState) : Prop :=
  ∀ channelId text payload,
    (followed state.messaging.app.published channelId).lookup text = some payload →
      ∃ messageId message, state.messages.messagesById.lookup messageId = some message
        ∧ messageId.toString = text ∧ message.channelId = channelId

theorem Message.HeldBy.congr {published other : List RealtimeEvent}
    (held : Message.HeldBy message published)
    (same : (followed other message.channelId).lookup message.id.toString
      = (followed published message.channelId).lookup message.id.toString)
    : Message.HeldBy message other := by
  rw [Message.HeldBy, same]
  exact held

/-- A written record is held as it is told. -/
theorem Told.held {record : Message} (told : Told before after record)
    : Message.HeldBy record after.messaging.app.published := by
  obtain ⟨change, same, ⟨undeleted, payload, shown, rfl⟩ | ⟨deleted, rfl⟩⟩ := told.applied
  · refine ⟨fun _ => ⟨payload, ?_, shown⟩, fun deleted => absurd undeleted deleted⟩
    rw [same, if_pos rfl, Change.lookup_apply_put]
  · refine ⟨fun undeleted => absurd undeleted deleted, fun _ => ?_⟩
    rw [same, if_pos rfl, Change.lookup_apply_drop]

/-- What is told of one message leaves the others with the followers. -/
theorem Told.lookup_of_ne {record : Message} (told : Told before after record) (channelId : Uuid)
    {text : String} (other : text ≠ record.id.toString)
    : (followed after.messaging.app.published channelId).lookup text
        = (followed before.messaging.app.published channelId).lookup text := by
  obtain ⟨change, same, kind⟩ := told.applied
  have about : change.key? ≠ some text := by
    rcases kind with ⟨-, payload, -, rfl⟩ | ⟨-, rfl⟩
    · exact fun same => other (Option.some.inj same).symm
    · exact fun same => other (Option.some.inj same).symm
  rw [same]
  split
  · exact Change.lookup_apply_of_ne about
  · rfl

theorem Followed.write (keyed : before.Keyed) (held : Followed before)
    (write : Write deployment start request before after)
    : Followed after := by
  intro messageId message stored
  cases write.telling with
  | quiet messages same =>
      rw [messages] at stored
      exact (held messageId message stored).congr (by rw [same])
  | told record told =>
      rw [told.stored] at stored
      split at stored
      · cases stored
        exact told.held
      · next different =>
          refine (held messageId message stored).congr (told.lookup_of_ne _ fun same => ?_)
          obtain rfl := keyed.messages messageId message stored
          exact different (Uuid.toString_injective same)
  | erased purges earlier same =>
      exact (held messageId message (earlier messageId message stored)).congr (by rw [same])

/-- Only a purge leaves followers with messages that are not stored. -/
theorem OnlyStored.write (only : OnlyStored before)
    (write : Write deployment start request before after)
    : OnlyStored after ∨ request.PurgesMessages := by
  cases write.telling with
  | quiet messages same =>
      refine .inl fun channelId text payload held => ?_
      rw [same] at held
      rw [messages]
      exact only channelId text payload held
  | told record told =>
      refine .inl fun channelId text payload held => ?_
      by_cases own : text = record.id.toString
      · subst own
        refine ⟨record.id, record, (told.stored record.id).trans (if_pos rfl), rfl, ?_⟩
        by_contra elsewhere
        obtain ⟨change, same, -⟩ := told.applied
        rw [same, if_neg elsewhere] at held
        obtain ⟨messageId, old, stored, named, place⟩ := only channelId _ payload held
        obtain rfl := Uuid.toString_injective named
        exact elsewhere ((told.place old stored).symm.trans place)
      · rw [told.lookup_of_ne channelId own] at held
        obtain ⟨messageId, message, stored, rfl, place⟩ := only channelId text payload held
        refine ⟨messageId, message, ?_, rfl, place⟩
        have different : messageId ≠ record.id := by
          rintro rfl
          exact own rfl
        rw [told.stored, if_neg different]
        exact stored
  | erased purges => exact .inr purges

theorem followed_of_reachable (reachable : Reachable (step deployment) .empty state)
    : Followed state :=
  holds_of_reachable Followed (fun _ _ stored => by cases stored)
    (fun _ _ _ _ keyed held write => held.write keyed write) reachable

/-- Whoever follows the events of a channel holds its listed messages as they are, and nothing
else, unless the run purges messages.
-/
theorem followers_hold_listed {requests : List ConversationRequest}
    (ran : run (step deployment) .empty requests = some state) (channelId : Uuid)
    : (∀ message ∈ state.messages.listForChannel channelId, ∃ payload,
          (followed state.messaging.app.published channelId).lookup message.id.toString
              = some payload
            ∧ message.ShownBy payload)
        ∧ (Happened (step deployment) .empty requests (fun _ request => request.PurgesMessages)
          ∨ ∀ text payload,
              (followed state.messaging.app.published channelId).lookup text = some payload →
                ∃ message ∈ state.messages.listForChannel channelId,
                  message.id.toString = text) := by
  have reachable : Reachable (step deployment) .empty state := ⟨requests, ran⟩
  have keyed := keyed_of_reachable reachable
  have held := followed_of_reachable reachable
  constructor
  · intro message listed
    obtain ⟨found, rfl⟩ := (mem_listForChannel keyed.messages).mp listed
    obtain ⟨stored, undeleted⟩ := MessageStore.getMessage_eq_some.mp found
    exact (held message.id message stored).1 undeleted
  · by_cases only : OnlyStored state
    · refine .inr fun text payload shown => ?_
      obtain ⟨messageId, message, stored, rfl, rfl⟩ := only channelId text payload shown
      obtain rfl := keyed.messages messageId message stored
      refine ⟨message, (mem_listForChannel keyed.messages).mpr ⟨?_, rfl⟩, rfl⟩
      refine MessageStore.getMessage_eq_some.mpr ⟨stored, ?_⟩
      by_contra deleted
      cases shown.symm.trans ((held message.id message stored).2 deleted)
    · exact .inl (happened_of_lost _ (fun _ _ _ _ write _ there => there.write write) keyed_empty
        ran (fun _ _ _ shown => by cases shown) only)

theorem conversation_followed
    : ∃ state, run (step Acme.server) .empty Acme.conversation = some state
        ∧ (∀ message ∈ state.messages.listForChannel Server.Acme.general, ∃ payload,
            (followed state.messaging.app.published Server.Acme.general).lookup
                message.id.toString = some payload
              ∧ message.ShownBy payload)
        ∧ (Happened (step Acme.server) .empty Acme.conversation
              (fun _ request => request.PurgesMessages)
            ∨ ∀ text payload,
                (followed state.messaging.app.published Server.Acme.general).lookup text
                    = some payload →
                  ∃ message ∈ state.messages.listForChannel Server.Acme.general,
                    message.id.toString = text) := by
  have facts : (run (step Acme.server) .empty Acme.conversation).isSome := by decide +kernel
  obtain ⟨state, ran⟩ := Option.isSome_iff_exists.mp facts
  exact ⟨state, ran, followers_hold_listed ran _⟩

end OpenCord.Conversations
