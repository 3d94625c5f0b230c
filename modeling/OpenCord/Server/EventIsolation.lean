import OpenCord.Server.Invariants

/-! Which events reach the WebSocket connections of users. Events about channels pass the
gate of the channel; all other events reach every connection.
-/

namespace OpenCord.Server

open OpenCord.Library OpenCord.Platform OpenCord.Auth OpenCord.Tenancy OpenCord.Realtime

variable {crypto : Crypto} {state : AppState}

/-- The user has an active row in the event's space, stored or archived. -/
def AppState.InSpaceOf (state : AppState) (userId : Uuid) (event : RealtimeEvent) : Prop :=
  ∃ spaceId : Uuid, event.scope.spaceId = some spaceId.toString
    ∧ state.spaces.ActiveMember spaceId userId

/-- The user is a member of the event's space and, for an event about a channel, may view
the channel.
-/
structure AppState.MaySee (state : AppState) (userId : Uuid) (event : RealtimeEvent)
    : Prop where
  inSpace : state.InSpaceOf userId event
  viewsChannel : ∀ channelId : Uuid, event.scope.channelId = some channelId.toString →
    (state.enterChannel userId channelId .viewChannel).isOk

/-- An event about a channel passes the filter exactly for those who may view the channel. -/
theorem canReceiveEvent_eq_enterChannel {userId channelId : Uuid} {event : RealtimeEvent}
    (about : event.scope.channelId = some channelId.toString)
    : RealtimeController.canReceiveEvent state userId event
      = (state.enterChannel userId channelId .viewChannel).isOk := by
  rw [RealtimeController.canReceiveEvent, about, AppState.enterChannel]
  simp only [Uuid.parseStr_toString]
  cases state.channel channelId with
  | error => rfl
  | ok channel =>
      simp only [bind, Except.bind]
      cases state.spaceForUser userId channel.spaceId with
      | error => rfl
      | ok space =>
          simp only [AppState.requireChannel, PermissionService.requireChannel]
          cases PermissionService.canInChannel state.permissions userId space channel .viewChannel
          · rfl
          · rfl

/-- Whoever enters a channel has an active row in its space. -/
theorem activeMember_of_enterChannel {userId channelId : Uuid} {permission : Permission}
    {channel : Channel}
    (stored : state.channels.channelsById.lookup channelId = some channel)
    (enters : (state.enterChannel userId channelId permission).isOk)
    : state.spaces.ActiveMember channel.spaceId userId := by
  cases entered : state.enterChannel userId channelId permission with
  | error error =>
      rw [entered] at enters
      cases enters
  | ok entry =>
      obtain ⟨known, visible, _⟩ := enterChannel_ok entered
      rw [stored, Option.some.injEq] at known
      rw [known]
      exact activeMember_of_spaceForUser visible

/-- A forwarded event about a channel goes to a member of its space who may view the channel:
the channel is where the event says it is.
-/
theorem AppState.Concerns.maySee {event : RealtimeEvent} (concerns : state.Concerns event)
    (aboutChannel : event.scope.channelId.isSome) {userId : Uuid}
    (receives : RealtimeController.canReceiveEvent state userId event)
    : state.MaySee userId event := by
  cases concerns with
  | space => cases aboutChannel
  | channel stamp eventType organizationId spaceId channelId data located =>
      rw [canReceiveEvent_eq_enterChannel rfl] at receives
      refine ⟨⟨spaceId, rfl, ?_⟩, fun other same => ?_⟩
      · have entered := receives
        cases found : state.channels.channelsById.lookup channelId with
        | none =>
            rw [AppState.enterChannel, AppState.channel, ChannelService.get, found] at entered
            cases entered
        | some channel =>
            rw [← (located channel found).2]
            exact activeMember_of_enterChannel found receives
      · obtain rfl : channelId = other := Uuid.toString_injective (Option.some.inj same)
        exact receives

/-- Whoever gets a published event may see it, if and only if the event is about a channel
or the user is a member of its space.
-/
theorem forwarded_maySee_iff (reached : state.Reached crypto) {event : RealtimeEvent}
    (sent : event ∈ state.published) (userId : Uuid)
    : (RealtimeController.canReceiveEvent state userId event → state.MaySee userId event)
      ↔ event.scope.channelId.isSome ∨ state.InSpaceOf userId event := by
  have concerns : state.Concerns event :=
    (reached.invariant nofun fun _ _ _ write events => write.events events).2 event sent
  refine ⟨fun isolated => ?_, fun condition receives => ?_⟩
  · cases about : event.scope.channelId with
    | none =>
        have receives : RealtimeController.canReceiveEvent state userId event := by
          rw [RealtimeController.canReceiveEvent, about]
        exact .inr (isolated receives).inSpace
    | some channelId => exact .inl rfl
  · rcases condition with aboutChannel | inSpace
    · exact concerns.maySee aboutChannel receives
    · refine ⟨inSpace, fun channelId about => ?_⟩
      rw [canReceiveEvent_eq_enterChannel about] at receives
      exact receives

namespace Acme

/-- Mallory, in no organization, has an account when Alice renames the space of Acme. -/
def strangerPresent : List AppRequest :=
  requests ++
    [.register ⟨mallory, .ofNat 107, .ofNat 108, malloryToken, "c2FsdHNhbHRzYWx0c2FsdA"⟩
      "mallory@rival.test" "Mallory" "password-123",
    .updateSpace (stamp 203) aliceToken main ⟨some "Lobby"⟩]

end Acme

theorem memberAdded_maySee_iff
    : ∃ state, AppState.Reached Acme.crypto state ∧ ∃ event ∈ state.published,
        event.eventType = "space.member.added"
          ∧ ((RealtimeController.canReceiveEvent state Acme.bob event →
                state.MaySee Acme.bob event)
              ↔ event.scope.channelId.isSome ∨ state.InSpaceOf Acme.bob event) := by
  have facts : (run (AppState.step Acme.crypto) .empty Acme.requests).any fun state =>
      state.published.any fun event => event.eventType = "space.member.added" := by
    decide +kernel
  obtain ⟨state, ran, facts⟩ := (Option.any_eq_true _ _).mp facts
  obtain ⟨event, sent, eventType⟩ := List.any_eq_true.mp facts
  exact ⟨state, ⟨_, ran⟩, event, sent, of_decide_eq_true eventType,
    forwarded_maySee_iff ⟨_, ran⟩ sent Acme.bob⟩

/-- Mallory's connection gets the event of the renamed space. -/
theorem strangerPresent_receives
    : ∃ state, run (AppState.step Acme.crypto) .empty Acme.strangerPresent = some state
        ∧ (state.userForToken Acme.crypto Acme.malloryToken).map AuthUser.id = .ok Acme.mallory
        ∧ ∃ event ∈ state.published, event.eventType = "space.updated"
          ∧ RealtimeController.canReceiveEvent state Acme.mallory event
          ∧ ¬ state.MaySee Acme.mallory event := by
  have facts : (run (AppState.step Acme.crypto) .empty Acme.strangerPresent).any fun state =>
      (state.userForToken Acme.crypto Acme.malloryToken).map AuthUser.id = .ok Acme.mallory
        ∧ (∀ row ∈ state.spaces.membersBySpaceUser.keys, row.2 ≠ Acme.mallory)
        ∧ state.published.any fun event => event.eventType = "space.updated"
            ∧ RealtimeController.canReceiveEvent state Acme.mallory event := by
    decide +kernel
  obtain ⟨state, ran, facts⟩ := (Option.any_eq_true _ _).mp facts
  obtain ⟨authenticated, noRow, facts⟩ := of_decide_eq_true facts
  obtain ⟨event, sent, facts⟩ := List.any_eq_true.mp facts
  obtain ⟨eventType, receives⟩ := of_decide_eq_true facts
  refine ⟨state, ran, authenticated, event, sent, eventType, receives, fun maySee => ?_⟩
  obtain ⟨spaceId, _, member, row, _⟩ := maySee.inSpace
  have listed : (spaceId, Acme.mallory) ∈ state.spaces.membersBySpaceUser.keys :=
    Table.mem_of_lookup row
  exact noRow _ listed rfl

end OpenCord.Server
