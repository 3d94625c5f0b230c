import OpenCord.Conversations.Fates

/-! Whose the messages of a run are: somebody who might post in the channel posted every stored
message, and nobody else but those who may change a message ever changes it.
-/

namespace OpenCord.Conversations

open Relation
open OpenCord.Library OpenCord.Platform OpenCord.Messages OpenCord.Webhooks OpenCord.Server

variable {deployment : Deployment} {start before after state next : ConversationState}
  {request : ConversationRequest} {message : Message} {messageId : Uuid}

-----------------------------------------------------------------------------------------
-- Where messages come from
-----------------------------------------------------------------------------------------

/-- A message of the same origin is stored under an identifier. -/
def Present (message : Message) (messageId : Uuid) (state : ConversationState) : Prop :=
  ∃ stored, state.messages.messagesById.lookup messageId = some stored
    ∧ stored.SameOrigin message

/-- A request posts a message of the same origin: it may do so, nothing was known under the
identifier before, and the message is stored afterwards as the request composed it.
-/
def Posts (deployment : Deployment) (message : Message) (state : ConversationState)
    (request : ConversationRequest) : Prop :=
  ∃ posted, state.NewMessage posted.id ∧ MayPost deployment state posted request
    ∧ (request.perform deployment state).messages.messagesById.lookup posted.id = some posted
    ∧ posted.SameOrigin message

/-- No request posts one message and changes another. -/
theorem MayPost.not_mayChange {posted : Message} (may : MayPost deployment start posted request)
    : ¬ MayChange deployment start message request := by
  cases request
  all_goals first
    | exact id
    | exact may.elim

theorem ConversationRequest.PurgesMessages.not_mayPost (purges : request.PurgesMessages)
    : ¬ MayPost deployment start message request := by
  cases request
  all_goals first
    | exact id
    | exact purges.elim

theorem ConversationRequest.PurgesMessages.not_mayChange (purges : request.PurgesMessages)
    : ¬ MayChange deployment start message request := by
  cases request
  all_goals first
    | exact id
    | exact purges.elim

/-- A message is posted under the identifier that was drawn for it, which is new. -/
theorem MayPost.newMessage (may : MayPost deployment state message request)
    (admissible : request.Admissible state)
    : state.NewMessage message.id := by
  cases request with
  | createMessage => exact may.1.id ▸ admissible
  | createBotMessage =>
      obtain ⟨⟨_, _, composed⟩, _⟩ := may
      exact composed.id ▸ admissible.1
  | executeWebhook => exact may.1.id ▸ admissible
  | interactionCallback =>
      obtain ⟨⟨_, _, composed⟩, _⟩ := may
      exact composed.id ▸ admissible
  | interactionFollowup => exact may.1.id ▸ admissible
  | _ => exact may.elim

/-- Where no message of an origin was, a request that leaves one has posted it. -/
theorem step_posts (keyed : state.Keyed) (stepped : step deployment state request = some next)
    (absent : ¬ Present message messageId state) (present : Present message messageId next)
    : Posts deployment message state request := by
  have posted : ∀ stored, next.messages.messagesById.lookup messageId = some stored →
      stored.SameOrigin message → MayPost deployment state stored request := by
    refine step_preserves (fun before => ∀ stored,
      before.messages.messagesById.lookup messageId = some stored →
        stored.SameOrigin message → MayPost deployment state stored request) ?_ keyed
      (fun stored there origin => absurd ⟨stored, there, origin⟩ absent) stepped
    intro before after held write last there origin
    cases write.message messageId with
    | kept same => exact held last (same ▸ there) origin
    | posted made own new may undeleted reply stored =>
        cases stored.symm.trans there
        exact may
    | changed old changed own found may same stored =>
        cases stored.symm.trans there
        have earlier := (MessageStore.getMessage_eq_some.mp found).1
        exact absurd may (held old earlier (same.trans origin)).not_mayChange
    | purged purges erased => cases erased.symm.trans there
  obtain ⟨stored, there, origin⟩ := present
  have may := posted stored there origin
  obtain rfl := (step_keyed keyed stepped).messages messageId stored there
  obtain ⟨admissible, rfl⟩ := step_eq_some.mp stepped
  exact ⟨stored, may.newMessage admissible, may, there, origin⟩

/-- A request of the run posted the message, under its drawn identifier and with its text, with the
credential of its author; since then the message has been stored.
-/
theorem message_posted {requests : List ConversationRequest}
    (ran : run (step deployment) .empty requests = some state)
    (stored : state.messages.messagesById.lookup messageId = some message)
    : Gained (step deployment) .empty requests (Present message messageId)
        (Posts deployment message) := by
  have present : Present message messageId state := ⟨message, stored, .refl message⟩
  refine gained_of_run ConversationState.Keyed _ ?_ ?_ keyed_empty ?_ ran present
  · exact fun _ _ _ => step_keyed
  · exact fun _ _ _ => step_posts
  · rintro ⟨_, there, -⟩
    cases there

/-- An execution of a webhook, with a valid token of it, posts a message as the webhook's bot and
in its channel, under the name and the avatar that the execution gives, when the policy of the
organization allows that.
-/
def OverridesIdentity (deployment : Deployment) (message : Message) (state : ConversationState)
    (request : ConversationRequest) : Prop :=
  Posts deployment message state request
    ∧ ∃ drawn stamp rateLimit webhookId token executed webhook policy,
        request = .executeWebhook drawn stamp rateLimit webhookId token executed
          ∧ IncomingWebhookService.verify deployment.crypto state.webhooks webhookId token
            = .ok webhook
          ∧ webhook.botUserId = message.authorUserId ∧ webhook.channelId = message.channelId
          ∧ state.webhookPolicyForOrganization webhook.organizationId = .ok policy
          ∧ policy.allowIdentityOverrides
          ∧ MessageService.normalizeWebhookUsername executed.username
            = .ok message.webhookUsername
          ∧ MessageService.normalizeWebhookAvatarUrl executed.avatarUrl
            = .ok message.webhookAvatarUrl

/-- A message without another name or avatar is plain. -/
theorem ShowsIdentity.plain {policy : OrganizationWebhookPolicy}
    {executed : ExecuteIncomingWebhookRequest} (shows : ShowsIdentity message policy executed)
    (denied : ¬ policy.allowIdentityOverrides)
    : Plain message := by
  obtain ⟨username, avatarUrl⟩ := shows
  rw [if_neg denied] at username avatarUrl
  exact ⟨(Except.ok.inj username).symm, (Except.ok.inj avatarUrl).symm⟩

/-- Only executions of webhooks post messages that are not plain. -/
theorem Posts.overridesIdentity (posts : Posts deployment message state request)
    (shown : message.webhookUsername.isSome ∨ message.webhookAvatarUrl.isSome)
    : OverridesIdentity deployment message state request := by
  refine ⟨posts, ?_⟩
  obtain ⟨posted, new, may, stored, origin⟩ := posts
  rw [origin.webhookUsername, origin.webhookAvatarUrl] at shown
  have decorated : ¬ Plain posted := by
    rintro ⟨username, avatarUrl⟩
    simp [username, avatarUrl] at shown
  cases request with
  | executeWebhook drawn stamp rateLimit webhookId token executed =>
      obtain ⟨composed, webhook, policy, verified, governed, author, channel, shows⟩ := may
      have allowed : policy.allowIdentityOverrides := by
        by_contra denied
        exact decorated (shows.plain denied)
      obtain ⟨username, avatarUrl⟩ := shows
      rw [if_pos allowed] at username avatarUrl
      exact ⟨drawn, stamp, rateLimit, webhookId, token, executed, webhook, policy, rfl, verified,
        (origin.authorUserId.trans author).symm, (origin.channelId.trans channel).symm, governed,
        allowed, origin.webhookUsername ▸ username, origin.webhookAvatarUrl ▸ avatarUrl⟩
  | createMessage => exact absurd may.2.2.2.2 decorated
  | createBotMessage => exact absurd may.2.2.2.2 decorated
  | interactionCallback =>
      obtain ⟨_, _, _, _, _, plain⟩ := may
      exact absurd plain decorated
  | interactionFollowup =>
      obtain ⟨_, _, _, _, _, plain⟩ := may
      exact absurd plain decorated
  | _ => exact may.elim

/-- A message that shows another name or avatar was posted with the token of a webhook, when the
policy of the organization allowed that.
-/
theorem identity_overridden {requests : List ConversationRequest}
    (ran : run (step deployment) .empty requests = some state)
    (stored : state.messages.messagesById.lookup messageId = some message)
    (shown : message.webhookUsername.isSome ∨ message.webhookAvatarUrl.isSome)
    : Gained (step deployment) .empty requests (Present message messageId)
        (OverridesIdentity deployment message) :=
  (message_posted ran stored).imp fun _ _ posts => posts.overridesIdentity shown

-----------------------------------------------------------------------------------------
-- What becomes of messages
-----------------------------------------------------------------------------------------

/-- What a request leaves of a stored message. -/
inductive MessageLeft (deployment : Deployment) (state : ConversationState)
    (request : ConversationRequest) (message : Message) (messageId : Uuid)
    (next : ConversationState) : Prop where
  | kept (same : next.messages.messagesById.lookup messageId = some message)
  | erased (purges : request.PurgesMessages)
      (gone : next.messages.messagesById.lookup messageId = none)
  | changed (later : Message) (undeleted : message.deletedAt = none)
      (may : MayChange deployment state message request) (same : message.SameOrigin later)
      (stored : next.messages.messagesById.lookup messageId = some later)

/-- By cases of what a write does to the message. -/
theorem MessageLeft.write (left : MessageLeft deployment start request message messageId before)
    (write : Write deployment start request before after)
    : MessageLeft deployment start request message messageId after := by
  cases left with
  | kept there =>
      cases write.message messageId with
      | kept same => exact .kept (same.trans there)
      | posted made own new => exact absurd (Table.mem_of_lookup there) new.1
      | changed old changed own found may same stored =>
          obtain ⟨earlier, undeleted⟩ := MessageStore.getMessage_eq_some.mp found
          cases earlier.symm.trans there
          exact .changed changed undeleted may same stored
      | purged purges erased => exact .erased purges erased
  | erased purges gone =>
      cases write.message messageId with
      | kept same => exact .erased purges (same.trans gone)
      | posted made own new may => exact absurd may purges.not_mayPost
      | changed old changed own found may => exact absurd may purges.not_mayChange
      | purged _ erased => exact .erased purges erased
  | changed later undeleted may origin there =>
      cases write.message messageId with
      | kept same => exact .changed later undeleted may origin (same.trans there)
      | posted made own new => exact absurd (Table.mem_of_lookup there) new.1
      | changed old changed own found _ same stored =>
          cases (MessageStore.getMessage_eq_some.mp found).1.symm.trans there
          exact .changed changed undeleted may (origin.trans same) stored
      | purged purges => exact absurd may purges.not_mayChange

theorem step_left (keyed : state.Keyed) (stepped : step deployment state request = some next)
    (stored : state.messages.messagesById.lookup messageId = some message)
    : MessageLeft deployment state request message messageId next :=
  step_preserves _ (fun _ _ left write => left.write write) keyed (.kept stored) stepped

/-- What a run loses, a request of the run took away that every write of it may take away. -/
theorem happened_of_lost (has : ConversationState → Prop)
    {property : ConversationState → ConversationRequest → Prop}
    (write : ∀ start request before after, Write deployment start request before after →
      has start → has before → has after ∨ property start request)
    {first last : ConversationState} {requests : List ConversationRequest} (keyed : first.Keyed)
    (ran : run (step deployment) first requests = some last) (initially : has first)
    (lost : ¬ has last)
    : Happened (step deployment) first requests property := by
  refine (gained_of_run ConversationState.Keyed (fun state => ¬ has state)
    (fun _ _ _ => step_keyed) ?_ keyed (not_not_intro initially) ran lost).happened
  intro state request next keyed stepped there gone
  have initially := not_not.mp there
  by_contra untouched
  refine gone (step_preserves _ (fun before after there written => ?_) keyed initially stepped)
  exact (write _ _ before after written initially there).resolve_right untouched

/-- A purge erases a version of a message. -/
def Erases (deployment : Deployment) (message : Message) (messageId : Uuid)
    (state : ConversationState) (request : ConversationRequest) : Prop :=
  request.PurgesMessages
    ∧ (∃ stored, state.messages.messagesById.lookup messageId = some stored
      ∧ message.SameOrigin stored)
    ∧ (request.perform deployment state).messages.messagesById.lookup messageId = none

section

variable {last : ConversationState} {requests : List ConversationRequest} (keyed : state.Keyed)
  (ran : run (step deployment) state requests = some last)
  (stored : state.messages.messagesById.lookup messageId = some message)

include keyed ran stored

/-- Where no version of a message is left, a purge has erased it. -/
theorem erased_of_absent
    (absent : ¬ ∃ later, last.messages.messagesById.lookup messageId = some later
      ∧ message.SameOrigin later)
    : Happened (step deployment) state requests (Erases deployment message messageId) := by
  refine (gained_of_run ConversationState.Keyed (fun state => ¬ ∃ later,
    state.messages.messagesById.lookup messageId = some later ∧ message.SameOrigin later)
    (fun _ _ _ => step_keyed) ?_ keyed (not_not_intro ⟨message, stored, .refl message⟩) ran
    absent).happened
  intro state request next keyed stepped there gone
  obtain ⟨version, found, origin⟩ := not_not.mp there
  cases step_left keyed stepped found with
  | kept same => exact absurd ⟨version, same, origin⟩ gone
  | erased purges lost =>
      obtain ⟨_, rfl⟩ := step_eq_some.mp stepped
      exact ⟨purges, ⟨version, found, origin⟩, lost⟩
  | changed later undeleted may same found => exact absurd ⟨later, found, origin.trans same⟩ gone

/-- Where a message is not as it was, a purge has erased it, or a request that might has changed
it.
-/
theorem touched_of_differs
    (differs : last.messages.messagesById.lookup messageId ≠ some message)
    : Gained (step deployment) state requests
        (fun state => state.messages.messagesById.lookup messageId ≠ some message)
        (fun state request => Erases deployment message messageId state request
          ∨ message.deletedAt = none ∧ MayChange deployment state message request) := by
  refine gained_of_run ConversationState.Keyed _ (fun _ _ _ => step_keyed) ?_ keyed
    (not_not_intro stored) ran differs
  intro state request next keyed stepped there gone
  have found := not_not.mp there
  cases step_left keyed stepped found with
  | kept same => exact absurd same gone
  | erased purges lost =>
      obtain ⟨_, rfl⟩ := step_eq_some.mp stepped
      exact .inl ⟨purges, ⟨message, found, .refl message⟩, lost⟩
  | changed later undeleted may => exact .inr ⟨undeleted, may⟩

end

/-- Unless a purge of the run erases it, a stored message stays under its identifier and keeps its
origin. It changes only if it was not deleted, and by a request that might change it.
-/
theorem message_integrity {last : ConversationState} {requests : List ConversationRequest}
    (reachable : Reachable (step deployment) .empty state)
    (ran : run (step deployment) state requests = some last)
    (stored : state.messages.messagesById.lookup messageId = some message)
    : Happened (step deployment) state requests (Erases deployment message messageId)
      ∨ ∃ later, last.messages.messagesById.lookup messageId = some later
          ∧ message.SameOrigin later
          ∧ (later = message ∨ message.deletedAt = none
              ∧ Gained (step deployment) state requests
                (fun state => state.messages.messagesById.lookup messageId ≠ some message)
                (fun state request => MayChange deployment state message request)) := by
  have keyed := keyed_of_reachable reachable
  refine or_iff_not_imp_left.mpr fun kept => ?_
  obtain ⟨later, there, origin⟩ :=
    not_not.mp fun absent => kept (erased_of_absent keyed ran stored absent)
  refine ⟨later, there, origin, or_iff_not_imp_left.mpr fun differs => ?_⟩
  have changed : last.messages.messagesById.lookup messageId ≠ some message := by
    rw [there]
    exact fun same => differs (Option.some.inj same)
  rcases (touched_of_differs keyed ran stored changed).or with purged | entitled
  · exact absurd purged.happened kept
  · obtain ⟨_, _, _, _, _, _, undeleted, _⟩ := entitled.happened
    exact ⟨undeleted, entitled.imp fun _ _ may => may.2⟩

-----------------------------------------------------------------------------------------
-- A conversation at Acme
-----------------------------------------------------------------------------------------

namespace Acme

open OpenCord.Server.Acme

def webhookBytes : BitVec 256 := BitVec.ofNat 256 (7 * ((16 ^ 64 - 1) / 15))
def webhookToken : String := token "ocw_" '7'

def server : Deployment where
  crypto :=
    { botCrypto with
      sha256 := fun text =>
        if text = webhookToken then
          "2a7ad37d79db6a7a99327c42791f5431d4ee9af83c2f098cc62c1013ca11eb68"
        else
          botCrypto.sha256 text }
  readers := readers
  toUtcMillis _ := none
  publicUrl := "https://opencord.test"

def noon : String := "2026-01-01T12:00:00.000Z"
def alicePresents : Option String := some ("Bearer " ++ aliceToken)
def greeting : Uuid := .ofNat 51
def announcement : Uuid := .ofNat 52
def webhook : Uuid := .ofNat 80

/-- Alice founds Acme, greets everybody, and adds a webhook that announces under its own name. -/
def conversation : List ConversationRequest :=
  requests.map .app ++
    [.createMessage ⟨greeting, noon⟩ (stamp 301) withinLimit alicePresents general ⟨"Hello", []⟩,
      .createWebhook ⟨webhook, .ofNat 81, webhookBytes, noon⟩ ⟨.ofNat 401, noon⟩ alicePresents
        general "Builds",
      .executeWebhook ⟨announcement, noon⟩ (stamp 302) withinLimit webhook webhookToken
        ⟨some "Passed", [], some "Release", none⟩]

/-- Alice corrects the greeting. -/
def aliceCorrects : ConversationRequest :=
  .updateMessage (stamp 303) alicePresents greeting "Hello, all"

end Acme

theorem greeting_posted
    : ∃ state message, run (step Acme.server) .empty Acme.conversation = some state
        ∧ state.messages.messagesById.lookup Acme.greeting = some message
        ∧ Gained (step Acme.server) .empty Acme.conversation (Present message Acme.greeting)
            (Posts Acme.server message) := by
  have facts : (run (step Acme.server) .empty Acme.conversation).any fun state =>
      (state.messages.messagesById.lookup Acme.greeting).isSome := by
    decide +kernel
  obtain ⟨state, ran, facts⟩ := (Option.any_eq_true _ _).mp facts
  obtain ⟨message, stored⟩ := Option.isSome_iff_exists.mp facts
  exact ⟨state, message, ran, stored, message_posted ran stored⟩

theorem announcement_overridden
    : ∃ state message, run (step Acme.server) .empty Acme.conversation = some state
        ∧ state.messages.messagesById.lookup Acme.announcement = some message
        ∧ message.webhookUsername = some "Release"
        ∧ Gained (step Acme.server) .empty Acme.conversation
            (Present message Acme.announcement) (OverridesIdentity Acme.server message) := by
  have facts : (run (step Acme.server) .empty Acme.conversation).any fun state =>
      (state.messages.messagesById.lookup Acme.announcement).any fun message =>
        message.webhookUsername = some "Release" := by
    decide +kernel
  obtain ⟨state, ran, facts⟩ := (Option.any_eq_true _ _).mp facts
  obtain ⟨message, stored, facts⟩ := (Option.any_eq_true _ _).mp facts
  have shown := of_decide_eq_true facts
  exact ⟨state, message, ran, stored, shown,
    identity_overridden ran stored (.inl (shown ▸ rfl))⟩

/-- The greeting is corrected by a request that might do so. -/
theorem greeting_integrity
    : ∃ state message last, Reachable (step Acme.server) .empty state
        ∧ state.messages.messagesById.lookup Acme.greeting = some message
        ∧ run (step Acme.server) state [Acme.aliceCorrects] = some last
        ∧ (last.messages.messagesById.lookup Acme.greeting).map Message.content
          = some "Hello, all"
        ∧ (Happened (step Acme.server) state [Acme.aliceCorrects]
              (Erases Acme.server message Acme.greeting)
            ∨ ∃ later, last.messages.messagesById.lookup Acme.greeting = some later
                ∧ message.SameOrigin later
                ∧ (later = message ∨ message.deletedAt = none
                    ∧ Gained (step Acme.server) state [Acme.aliceCorrects]
                      (fun state =>
                        state.messages.messagesById.lookup Acme.greeting ≠ some message)
                      (fun state request => MayChange Acme.server state message request))) := by
  have facts : (run (step Acme.server) .empty Acme.conversation).any fun state =>
      (state.messages.messagesById.lookup Acme.greeting).isSome
        ∧ (run (step Acme.server) state [Acme.aliceCorrects]).any fun last =>
          (last.messages.messagesById.lookup Acme.greeting).map Message.content
            = some "Hello, all" := by
    decide +kernel
  obtain ⟨state, ran, facts⟩ := (Option.any_eq_true _ _).mp facts
  obtain ⟨found, facts⟩ := of_decide_eq_true facts
  obtain ⟨message, stored⟩ := Option.isSome_iff_exists.mp found
  obtain ⟨last, corrected, content⟩ := (Option.any_eq_true _ _).mp facts
  exact ⟨state, message, last, ⟨_, ran⟩, stored, corrected, of_decide_eq_true content,
    message_integrity ⟨_, ran⟩ corrected stored⟩

end OpenCord.Conversations
