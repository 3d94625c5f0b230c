import OpenCord.Server.RequestWrites

/-! What holds in every state the server can reach: stored spaces and channels lie under
their identifiers, channels belong to the organization of their space, and events carry the
place of what they are about.
-/

namespace OpenCord.Server

open Relation
open OpenCord.Library OpenCord.Platform OpenCord.Auth OpenCord.Tenancy OpenCord.Realtime

variable {crypto : Crypto} {may : SpaceStore → MemberWrite → Prop}

/-- No restriction on membership rows. -/
abbrev AnyMember : SpaceStore → MemberWrite → Prop := fun _ _ => True

/-- Spaces and channels stay under their identifiers. -/
theorem Write.keyed {before after : AppState} (write : Write may before after)
    (keyed : before.Keyed)
    : after.Keyed := by
  cases write with
  | elsewhere _ _ spaces channels _ =>
      exact ⟨by rw [spaces]; exact keyed.spaces, by rw [channels]; exact keyed.channels⟩
  | organizationCreated | memberWritten | spaceJoined | spaceLeft | published =>
      exact ⟨keyed.spaces, keyed.channels⟩
  | spaceCreated => exact ⟨Table.forall_insert rfl keyed.spaces, keyed.channels⟩
  | spaceUpdated spaces space _ _ _ _ byId =>
      refine ⟨?_, keyed.channels⟩
      rw [byId]
      exact Table.forall_insert rfl keyed.spaces
  | spaceArchived =>
      exact ⟨fun other space found => keyed.spaces other space (Table.lookup_of_erase found),
        keyed.channels⟩
  | channelCreated => exact ⟨keyed.spaces, Table.forall_insert rfl keyed.channels⟩
  | channelUpdated channels channel _ _ _ byId =>
      refine ⟨keyed.spaces, ?_⟩
      rw [byId]
      exact Table.forall_insert rfl keyed.channels
  | channelArchived =>
      exact ⟨keyed.spaces,
        fun other channel found => keyed.channels other channel (Table.lookup_of_erase found)⟩

/-- What every write keeps in stores under their identifiers, a chain of writes keeps, by
induction over the chain.
-/
theorem Writes.preserves {invariant : AppState → Prop}
    (preserved : ∀ before after, before.Keyed → Write may before after → invariant before →
      invariant after)
    {before after : AppState} (writes : Writes may before after) (keyed : before.Keyed)
    (holds : invariant before)
    : after.Keyed ∧ invariant after := by
  induction writes with
  | refl => exact ⟨keyed, holds⟩
  | tail _ write ih => exact ⟨write.keyed ih.1, preserved _ _ ih.1 write ih.2⟩

/-- What every write keeps, a request keeps that writes no other rows. -/
theorem AppState.step_preserves {invariant : AppState → Prop}
    (preserved : ∀ before after, before.Keyed → Write may before after → invariant before →
      invariant after)
    {state next : AppState} {request : AppRequest} (keyed : state.Keyed)
    (holds : invariant state)
    (admits : ∀ write ∈ request.admission crypto state, may state.spaces write)
    (provisions : ∀ write ∈ request.scimWrite crypto state, may state.spaces write)
    (stepped : state.step crypto request = some next)
    : next.Keyed ∧ invariant next := by
  rw [AppState.step] at stepped
  split at stepped
  · next admissible =>
      cases stepped
      exact (request.perform_writes keyed admissible admits provisions).preserves preserved
        keyed holds
  · cases stepped

theorem AppState.empty_keyed : AppState.empty.Keyed :=
  ⟨nofun, nofun⟩

/-- A state that some requests lead to from empty stores. -/
abbrev AppState.Reached (crypto : Crypto) : AppState → Prop :=
  Reachable (AppState.step crypto) .empty

/-- What holds at the start and every write keeps holds in every reachable state. -/
theorem AppState.Reached.invariant {invariant : AppState → Prop}
    (initially : invariant .empty)
    (preserved : ∀ before after, before.Keyed → Write AnyMember before after →
      invariant before → invariant after)
    {state : AppState} (reached : state.Reached crypto)
    : state.Keyed ∧ invariant state := by
  refine @Reachable.invariant _ _ _ (fun state => state.Keyed ∧ invariant state) _ _ reached
    ⟨AppState.empty_keyed, initially⟩ ?_
  intro before request after holds stepped
  exact AppState.step_preserves preserved holds.1 holds.2 (fun _ _ => trivial)
    (fun _ _ => trivial) stepped

theorem AppState.Reached.keyed {state : AppState} (reached : state.Reached crypto)
    : state.Keyed :=
  (reached.invariant trivial fun _ _ _ _ _ => trivial).1

/-- Published events stay published, at their positions. -/
theorem Write.publishes {before after : AppState} (write : Write may before after)
    : before.published <+: after.published := by
  cases write with
  | elsewhere _ _ _ _ published => rw [published]
  | published => exact List.prefix_append ..
  | _ => exact List.prefix_refl _

theorem Writes.publishes {before after : AppState} (writes : Writes may before after)
    (keyed : before.Keyed)
    : after.Keyed ∧ before.published <+: after.published :=
  writes.preserves (fun _ _ _ write earlier => List.IsPrefix.trans earlier write.publishes) keyed
    (List.prefix_refl _)

theorem AppState.Keyed.step {state next : AppState} (keyed : state.Keyed) {request : AppRequest}
    (stepped : state.step crypto request = some next)
    : next.Keyed ∧ state.published <+: next.published :=
  AppState.step_preserves
    (fun _ _ _ (write : Write AnyMember _ _) earlier => List.IsPrefix.trans earlier write.publishes)
    keyed (List.prefix_refl state.published) (fun _ _ => trivial) (fun _ _ => trivial)
    stepped

theorem AppState.Keyed.step_publishes {state next : AppState} (keyed : state.Keyed)
    {request : AppRequest} (stepped : state.step crypto request = some next)
    : state.published <+: next.published :=
  (keyed.step stepped).2

/-- Channels belong to the organization of their space, as long as it is stored. -/
def AppState.Placed (state : AppState) : Prop :=
  ∀ channelId channel, state.channels.channelsById.lookup channelId = some channel →
    ∀ space, state.spaces.spacesById.lookup channel.spaceId = some space →
      channel.organizationId = space.organizationId

theorem Write.placed {before after : AppState} (write : Write may before after)
    (placed : before.Placed)
    : after.Placed := by
  cases write with
  | elsewhere _ _ spaces channels _ =>
      rw [AppState.Placed, spaces, channels]
      exact placed
  | organizationCreated | memberWritten | spaceJoined | spaceLeft | published => exact placed
  | spaceCreated space ownerMember own new active =>
      intro channelId channel found other stored
      have elsewhere : channel.spaceId ≠ space.id :=
        new.2.2 channel (Table.mem_values.mpr ⟨channelId, found⟩)
      rw [SpaceStore.withSpace, AList.lookup_insert_ne elsewhere] at stored
      exact placed channelId channel found other stored
  | spaceUpdated spaces space previous known sameOrganization members byId =>
      intro channelId channel found other stored
      rw [byId, Table.lookup_insert_eq] at stored
      split at stored
      · next same =>
          cases stored
          rw [sameOrganization]
          exact placed channelId channel found previous (same ▸ known)
      · exact placed channelId channel found other stored
  | spaceArchived spaceId =>
      intro channelId channel found other stored
      exact placed channelId channel found other (Table.lookup_of_erase stored)
  | channelCreated channel space new known sameOrganization =>
      refine Table.forall_insert (fun other stored => ?_) placed
      rw [known] at stored
      cases stored
      exact sameOrganization
  | channelUpdated channels channel previous known same byId =>
      rw [AppState.Placed, byId]
      refine Table.forall_insert (fun space stored => ?_) placed
      rw [same.spaceId] at stored
      rw [same.organizationId]
      exact placed channel.id previous known space stored
  | channelArchived channelId =>
      intro other channel found
      exact placed other channel (Table.lookup_of_erase found)

/-- The published events are about the places they name. -/
def AppState.Published (state : AppState) : Prop :=
  ∀ event ∈ state.published, state.Concerns event

/-- What an event is about stays, as long as channels keep their places. -/
theorem AppState.Concerns.mono {before after : AppState} {event : RealtimeEvent}
    (concerns : before.Concerns event)
    (located : ∀ organizationId spaceId channelId,
      event.scope.channelId = some channelId.toString →
        before.Locates organizationId spaceId channelId →
          after.Locates organizationId spaceId channelId)
    : after.Concerns event := by
  cases concerns with
  | space => exact .space ..
  | channel stamp eventType organizationId spaceId channelId data placed =>
      exact .channel _ _ _ _ _ _ (located _ _ _ rfl placed)

theorem Write.events {before after : AppState} (write : Write may before after)
    (events : before.Published)
    : after.Published := by
  intro event sent
  cases write with
  | elsewhere _ _ _ channels published =>
      rw [published] at sent
      refine (events event sent).mono fun organizationId spaceId channelId _ located => ?_
      rw [AppState.Locates, channels]
      exact located
  | organizationCreated | memberWritten | spaceJoined | spaceLeft | spaceCreated | spaceUpdated
  | spaceArchived =>
      exact (events event sent).mono fun _ _ _ _ located => located
  | channelCreated channel space new known sameOrganization =>
      refine (events event sent).mono fun organizationId spaceId channelId about located => ?_
      intro other found
      rw [ChannelStore.withChannel, Option.mem_def, Table.lookup_insert_eq] at found
      split at found
      · next same =>
          rw [same] at about
          exact absurd about (new.2 event sent)
      · exact located other found
  | channelUpdated channels channel previous known same byId =>
      refine (events event sent).mono fun organizationId spaceId channelId _ located => ?_
      intro other found
      rw [byId, Option.mem_def, Table.lookup_insert_eq] at found
      split at found
      · next sameId =>
          cases found
          rw [same.organizationId, same.spaceId]
          exact located previous (by rw [sameId, Option.mem_def, known])
      · exact located other found
  | channelArchived channelId =>
      refine (events event sent).mono fun organizationId spaceId other _ located => ?_
      intro channel found
      exact located channel (Table.lookup_of_erase found)
  | published new concerns tokens =>
      rcases List.mem_append.mp sent with earlier | last
      · exact (events event earlier).mono fun _ _ _ _ located => located
      · rw [List.mem_singleton] at last
        rw [last]
        exact concerns.mono fun _ _ _ _ located => located

end OpenCord.Server
