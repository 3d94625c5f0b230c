import OpenCord.Library.Runs
import OpenCord.Library.UniqueIndex
import OpenCord.Tenancy.Channels

/-! The slug indexes of channels and spaces over whole runs. Requests create, update and
archive; an update writes a record made from any copy, which may be out of date.
-/

namespace OpenCord.Tenancy

open OpenCord.Library OpenCord.Platform

-----------------------------------------------------------------------------------------
-- Channels
-----------------------------------------------------------------------------------------

/-- What the slug index of channels goes by. -/
def Channel.slugKey (channel : Channel) : Uuid × String := (channel.spaceId, channel.slug)

/-- The store, and the channels that were archived as they were at that time. -/
structure ChannelHistory where
  store : ChannelStore
  archived : Table Uuid Channel

inductive ChannelMove where
  | create (channelId organizationId spaceId : Uuid) (kind : Option String) (name : String)
      (topic : Option String) (isPrivate : Bool)
  | update (existing : Channel) (patch : ChannelPatch)
  | delete (existing : Channel)

namespace ChannelHistory

def empty : ChannelHistory := ⟨.empty, ∅⟩

/-- The archive after a channel leaves the store. -/
def withArchived (history : ChannelHistory) (channelId : Uuid) : Table Uuid Channel :=
  match history.store.channelsById.lookup channelId with
  | some channel => history.archived.insert channelId channel
  | none => history.archived

/-- One request; a new channel has an identifier that no channel had before. -/
def step (history : ChannelHistory) : ChannelMove → Option ChannelHistory
  | .create channelId organizationId spaceId kind name topic isPrivate =>
      if channelId ∈ history.store.channelsById ∨ channelId ∈ history.archived then
        none
      else
        let store := (ChannelService.create channelId organizationId spaceId kind name topic
          isPrivate).after history.store
        some { history with store := store }
  | .update existing patch =>
      some { history with
        store := (ChannelService.update existing patch).after history.store }
  | .delete existing =>
      match (ChannelService.delete existing).exec history.store with
      | (.ok _, store) => some ⟨store, history.withArchived existing.id⟩
      | (.error _, store) => some { history with store := store }

/-- A channel, live or archived, has the slug in the space. -/
def HoldsSlug (history : ChannelHistory) (channelId : Uuid) (slugKey : Uuid × String) : Prop :=
  UniqueIndex.Holds Channel.slugKey history.store.channelsById history.archived channelId slugKey

/-- Slugs are as unique as under a uniqueness constraint over live and archived channels. -/
structure SlugsUnique (history : ChannelHistory) : Prop where
  apart : ∀ channelId otherId channel other,
    history.store.channelsById.lookup channelId = some channel →
      history.store.channelsById.lookup otherId = some other →
        channel.spaceId = other.spaceId → channel.slug = other.slug → channelId = otherId
  indexed : ∀ channelId channel,
    history.store.channelsById.lookup channelId = some channel →
      channel.id = channelId
        ∧ history.store.channelIdBySpaceSlug.lookup (channel.spaceId, channel.slug)
          = some channel.id
  createRefused : ∀ channel,
    ((ChannelStore.createChannel channel).exec history.store).1 = .error .slugAlreadyExists
      ↔ ∃ other, history.HoldsSlug other (channel.spaceId, channel.slug)
  updateRefused : ∀ channel,
    ((ChannelStore.updateChannel channel).exec history.store).1 = .error .slugAlreadyExists
      ↔ channel.id ∈ history.store.channelsById
        ∧ ∃ other, other ≠ channel.id
          ∧ history.HoldsSlug other (channel.spaceId, channel.slug)
  updateOfArchived : ∀ channel, channel.id ∉ history.store.channelsById →
    (ChannelStore.updateChannel channel).exec history.store = (.error .notFound, history.store)
  failureKeeps :
    (∀ channelId organizationId spaceId kind name topic isPrivate,
        (ChannelService.create channelId organizationId spaceId kind name topic
          isPrivate).Atomic)
      ∧ (∀ existing patch, (ChannelService.update existing patch).Atomic)
      ∧ ∀ existing, (ChannelService.delete existing).Atomic

end ChannelHistory

namespace ChannelStore

/-- A channel is created under a free slug. -/
theorem createChannel_ok {channel : Channel} {store next : ChannelStore}
    (created : (createChannel channel).exec store = (.ok (), next))
    : channel.slugKey ∉ store.channelIdBySpaceSlug ∧ next = store.withChannel channel := by
  rw [createChannel, Eff.exec_get_bind] at created
  split at created
  · cases created
  · next free =>
      cases created
      exact ⟨free, rfl⟩

/-- A channel is updated in the place of another version, under a slug that no other channel
is indexed with.
-/
theorem updateChannel_ok {channel updated : Channel} {store next : ChannelStore}
    (done : (updateChannel channel).exec store = (.ok updated, next))
    : ∃ previous, store.channelsById.lookup channel.id = some previous
        ∧ (store.channelIdBySpaceSlug.lookup channel.slugKey).any (· ≠ channel.id) = false
        ∧ next = { store with
            channelIdBySpaceSlug :=
              (store.channelIdBySpaceSlug.erase previous.slugKey).insert channel.slugKey
                channel.id
            channelsById := store.channelsById.insert channel.id channel } := by
  rw [updateChannel, Eff.exec_get_bind] at done
  split at done
  · cases done
  · next previous stored =>
      dsimp only at done
      split at done
      · cases done
      · next free =>
          cases done
          exact ⟨previous, stored, Bool.eq_false_iff.mpr free, rfl⟩

theorem archiveChannel_ok {channelId : Uuid} {store next : ChannelStore}
    (archived : (archiveChannel channelId).exec store = (.ok (), next))
    : ∃ channel, store.channelsById.lookup channelId = some channel
        ∧ next = { store with channelsById := store.channelsById.erase channelId } := by
  rw [archiveChannel, Eff.exec_get_bind] at archived
  split at archived
  · next stored =>
      cases archived
      obtain ⟨channel, found⟩ := Option.isSome_iff_exists.mp (AList.lookup_isSome.mpr stored)
      exact ⟨channel, found, rfl⟩
  · cases archived

/-- Channels are stored under their own identifiers, and the index is exact for them and for
the archived ones.
-/
structure Indexed (archived : Table Uuid Channel) (store : ChannelStore) : Prop where
  keyed : ∀ channelId channel,
    store.channelsById.lookup channelId = some channel → channel.id = channelId
  exact : UniqueIndex.Exact Channel.slugKey store.channelsById archived
    store.channelIdBySpaceSlug

variable {archived : Table Uuid Channel} {store : ChannelStore}

theorem Indexed.empty : ChannelStore.empty.Indexed ∅ :=
  ⟨nofun, .empty⟩

theorem Indexed.create (indexed : store.Indexed archived) {channelId : Uuid}
    (new : channelId ∉ store.channelsById) (neverArchived : channelId ∉ archived)
    (organizationId spaceId : Uuid) (kind : Option String) (name : String)
    (topic : Option String) (isPrivate : Bool)
    : Indexed archived ((ChannelService.create channelId organizationId spaceId kind name topic
        isPrivate).after store) := by
  have atomic := ChannelService.create_atomic channelId organizationId spaceId kind name topic
    isPrivate
  refine Eff.after_atomic atomic indexed fun channel next created => ?_
  obtain ⟨name, _, created⟩ := Eff.exec_check_bind_eq_ok.mp created
  obtain ⟨kind, _, created⟩ := Eff.exec_check_bind_eq_ok.mp created
  obtain ⟨slug, _, created⟩ := Eff.exec_check_bind_eq_ok.mp created
  obtain ⟨topic, _, created⟩ := Eff.exec_check_bind_eq_ok.mp created
  obtain ⟨_, middle, stored, created⟩ := Eff.exec_bind_eq_ok.mp created
  cases created
  obtain ⟨free, rfl⟩ := createChannel_ok stored
  exact ⟨Table.forall_insert rfl indexed.keyed, indexed.exact.insert new neverArchived free⟩

theorem Indexed.update (indexed : store.Indexed archived) (existing : Channel)
    (patch : ChannelPatch)
    : Indexed archived ((ChannelService.update existing patch).after store) := by
  have atomic := ChannelService.update_atomic existing patch
  refine Eff.after_atomic atomic indexed fun updated next done => ?_
  obtain ⟨channel, _, done⟩ := Eff.exec_check_bind_eq_ok.mp done
  obtain ⟨previous, stored, free, rfl⟩ := updateChannel_ok done
  refine ⟨Table.forall_insert rfl indexed.keyed,
    indexed.exact.replace stored fun other holds => ?_⟩
  by_contra differs
  rw [indexed.exact.any_ne.mpr ⟨other, differs, holds⟩] at free
  cases free

/-- An erased channel is a key of the table no more. -/
theorem Indexed.archive (indexed : store.Indexed archived) {channelId : Uuid}
    {channel : Channel} (stored : store.channelsById.lookup channelId = some channel)
    : Indexed (archived.insert channelId channel)
        { store with channelsById := store.channelsById.erase channelId } :=
  ⟨fun other row found => indexed.keyed other row (Table.lookup_of_erase found),
    indexed.exact.archive stored⟩

/-- A creation is refused when some channel has the slug. -/
theorem Indexed.createRefused (indexed : store.Indexed archived) (channel : Channel)
    : ((createChannel channel).exec store).1 = .error .slugAlreadyExists
      ↔ ∃ other, UniqueIndex.Holds Channel.slugKey store.channelsById archived other
          channel.slugKey := by
  rw [← indexed.exact.mem_index, createChannel, Eff.exec_get_bind]
  split
  · next taken => exact iff_of_true rfl taken
  · next free =>
      refine iff_of_false (fun refused => ?_) free
      cases refused

/-- The update of a live channel is refused when another channel has the slug. -/
theorem Indexed.updateRefused (indexed : store.Indexed archived) (channel : Channel)
    : ((updateChannel channel).exec store).1 = .error .slugAlreadyExists
      ↔ channel.id ∈ store.channelsById
        ∧ ∃ other, other ≠ channel.id
          ∧ UniqueIndex.Holds Channel.slugKey store.channelsById archived other
            channel.slugKey := by
  rw [← indexed.exact.any_ne, updateChannel, Eff.exec_get_bind]
  split
  · next missing =>
      refine iff_of_false (fun refused => ?_) fun refused => ?_
      · cases refused
      · exact AList.lookup_eq_none.mp missing refused.1
  · next previous stored =>
      dsimp only
      have live := Table.mem_of_lookup stored
      split
      · next taken => exact iff_of_true rfl ⟨live, taken⟩
      · next free =>
          refine iff_of_false (fun refused => ?_) fun refused => free refused.2
          cases refused

/-- A channel that is not live is not found. -/
theorem exec_updateChannel_of_notMem {channel : Channel}
    (missing : channel.id ∉ store.channelsById)
    : (updateChannel channel).exec store = (.error .notFound, store) := by
  rw [updateChannel, Eff.exec_get_bind, AList.lookup_eq_none.mpr missing]
  rfl

end ChannelStore

namespace ChannelHistory

theorem indexed_step {history next : ChannelHistory} {move : ChannelMove}
    (indexed : history.store.Indexed history.archived) (stepped : history.step move = some next)
    : next.store.Indexed next.archived := by
  cases move with
  | create channelId organizationId spaceId kind name topic isPrivate =>
      rw [ChannelHistory.step] at stepped
      split at stepped
      · cases stepped
      · next new =>
          obtain ⟨new, neverArchived⟩ := not_or.mp new
          obtain rfl := Option.some.inj stepped
          dsimp only
          exact indexed.create new neverArchived organizationId spaceId kind name topic isPrivate
  | update existing patch =>
      obtain rfl := Option.some.inj stepped
      dsimp only
      exact indexed.update existing patch
  | delete existing =>
      rw [ChannelHistory.step] at stepped
      split at stepped
      · next deleted store done =>
          cases stepped
          obtain ⟨_, middle, archived, done⟩ := Eff.exec_bind_eq_ok.mp done
          cases done
          obtain ⟨channel, stored, rfl⟩ := ChannelStore.archiveChannel_ok archived
          simp only [withArchived, stored]
          exact indexed.archive stored
      · next error store failed =>
          cases stepped
          rw [ChannelService.delete_atomic existing _ _ _ failed]
          exact indexed

theorem indexed_of_reachable {history : ChannelHistory}
    (reachable : Reachable step empty history)
    : history.store.Indexed history.archived := by
  obtain ⟨moves, ran⟩ := reachable
  refine @run_preserves _ _ step (fun history => history.store.Indexed history.archived) ?_
    _ _ _ .empty ran
  intro state move next indexed stepped
  exact indexed_step indexed stepped

/-- An exact index makes slugs unique. -/
theorem SlugsUnique.of_indexed {history : ChannelHistory}
    (indexed : history.store.Indexed history.archived)
    : history.SlugsUnique where
  apart := by
    intro channelId otherId channel other stored otherStored sameSpace sameSlug
    apply indexed.exact.unique (.of_live stored)
    have sameKey : other.slugKey = channel.slugKey := Prod.ext sameSpace.symm sameSlug.symm
    exact sameKey ▸ .of_live otherStored
  indexed := by
    intro channelId channel stored
    obtain rfl := indexed.keyed channelId channel stored
    exact ⟨rfl, (indexed.exact.indexed _ _).mpr (.of_live stored)⟩
  createRefused := indexed.createRefused
  updateRefused := indexed.updateRefused
  updateOfArchived _ missing := ChannelStore.exec_updateChannel_of_notMem missing
  failureKeeps :=
    ⟨ChannelService.create_atomic, ChannelService.update_atomic, ChannelService.delete_atomic⟩

end ChannelHistory

-----------------------------------------------------------------------------------------
-- Spaces
-----------------------------------------------------------------------------------------

/-- What the slug index of spaces goes by. -/
def StoredSpace.slugKey (space : StoredSpace) : Uuid × String :=
  (space.organizationId, space.slug)

/-- The store, and the spaces that were archived as they were at that time. -/
structure SpaceHistory where
  store : SpaceStore
  archived : Table Uuid StoredSpace

inductive SpaceMove where
  | create (spaceId ownerId organizationId : Uuid) (name : String)
  | update (existing : SpaceMembership) (patch : SpacePatch)
  | delete (existing : SpaceMembership)

namespace SpaceHistory

def empty : SpaceHistory := ⟨.empty, ∅⟩

/-- The archive after a space leaves the store. -/
def withArchived (history : SpaceHistory) (spaceId : Uuid) : Table Uuid StoredSpace :=
  match history.store.spacesById.lookup spaceId with
  | some space => history.archived.insert spaceId space
  | none => history.archived

/-- One request; a new space has an identifier that no space had before. -/
def step (history : SpaceHistory) : SpaceMove → Option SpaceHistory
  | .create spaceId ownerId organizationId name =>
      if spaceId ∈ history.store.spacesById ∨ spaceId ∈ history.archived then
        none
      else
        some { history with
          store := (SpaceService.create spaceId ownerId organizationId name).after
            history.store }
  | .update existing patch =>
      some { history with store := (SpaceService.update existing patch).after history.store }
  | .delete existing =>
      match (SpaceService.delete existing).exec history.store with
      | (.ok _, store) => some ⟨store, history.withArchived existing.id⟩
      | (.error _, store) => some { history with store := store }

/-- A space, live or archived, has the slug in the organization. -/
def HoldsSlug (history : SpaceHistory) (spaceId : Uuid) (slugKey : Uuid × String) : Prop :=
  UniqueIndex.Holds StoredSpace.slugKey history.store.spacesById history.archived spaceId slugKey

/-- Slugs are as unique as under a uniqueness constraint over live and archived spaces. -/
structure SlugsUnique (history : SpaceHistory) : Prop where
  apart : ∀ spaceId otherId space other,
    history.store.spacesById.lookup spaceId = some space →
      history.store.spacesById.lookup otherId = some other →
        space.organizationId = other.organizationId → space.slug = other.slug →
          spaceId = otherId
  indexed : ∀ spaceId space,
    history.store.spacesById.lookup spaceId = some space →
      space.id = spaceId
        ∧ history.store.spaceIdByOrgSlug.lookup (space.organizationId, space.slug)
          = some space.id
  createRefused : ∀ space ownerMember,
    ((SpaceStore.createSpace space ownerMember).exec history.store).1
        = .error .slugAlreadyExists
      ↔ ∃ other, history.HoldsSlug other (space.organizationId, space.slug)
  updateRefused : ∀ membership,
    ((SpaceStore.updateSpace membership).exec history.store).1 = .error .slugAlreadyExists
      ↔ membership.id ∈ history.store.spacesById
        ∧ ∃ other, other ≠ membership.id
          ∧ history.HoldsSlug other (membership.organizationId, membership.slug)
  updateOfArchived : ∀ membership, membership.id ∉ history.store.spacesById →
    (SpaceStore.updateSpace membership).exec history.store = (.error .notFound, history.store)
  failureKeeps :
    (∀ spaceId ownerId organizationId name,
        (SpaceService.create spaceId ownerId organizationId name).Atomic)
      ∧ (∀ existing patch, (SpaceService.update existing patch).Atomic)
      ∧ ∀ existing, (SpaceService.delete existing).Atomic

end SpaceHistory

namespace SpaceStore

/-- A space is created under a free slug. -/
theorem free_of_createSpace {space : StoredSpace} {ownerMember : StoredSpaceMember}
    {store next : SpaceStore}
    (created : (createSpace space ownerMember).exec store = (.ok (), next))
    : space.slugKey ∉ store.spaceIdByOrgSlug := by
  rw [createSpace, Eff.exec_get_bind] at created
  split at created
  · cases created
  · next free => exact free

/-- A space is updated under a slug that no other space is indexed with. -/
theorem index_of_updateSpace {membership updated : SpaceMembership} {store next : SpaceStore}
    {previous : StoredSpace} (stored : store.spacesById.lookup membership.id = some previous)
    (done : (updateSpace membership).exec store = (.ok updated, next))
    : (store.spaceIdByOrgSlug.lookup (membership.organizationId, membership.slug)).any
          (· ≠ membership.id) = false
        ∧ next.spaceIdByOrgSlug
          = (store.spaceIdByOrgSlug.erase previous.slugKey).insert
            (membership.organizationId, membership.slug) membership.id := by
  simp only [updateSpace, Eff.exec_get_bind, stored] at done
  split at done
  · cases done
  · next free =>
      cases done
      exact ⟨Bool.eq_false_iff.mpr free, rfl⟩

theorem stored_of_archiveSpace {spaceId organizationId : Uuid} {store next : SpaceStore}
    (archived : (archiveSpace spaceId organizationId).exec store = (.ok (), next))
    : ∃ space, store.spacesById.lookup spaceId = some space := by
  rw [archiveSpace, Eff.exec_get_bind] at archived
  split at archived
  · cases archived
  · next space stored => exact ⟨space, stored⟩

/-- Spaces are stored under their own identifiers, and the index is exact for them and for the
archived ones.
-/
structure Indexed (archived : Table Uuid StoredSpace) (store : SpaceStore) : Prop where
  keyed : ∀ spaceId space, store.spacesById.lookup spaceId = some space → space.id = spaceId
  exact : UniqueIndex.Exact StoredSpace.slugKey store.spacesById archived store.spaceIdByOrgSlug

variable {archived : Table Uuid StoredSpace} {store : SpaceStore}

theorem Indexed.empty : SpaceStore.empty.Indexed ∅ :=
  ⟨nofun, .empty⟩

theorem Indexed.create (indexed : store.Indexed archived) {spaceId : Uuid}
    (new : spaceId ∉ store.spacesById) (neverArchived : spaceId ∉ archived)
    (ownerId organizationId : Uuid) (name : String)
    : Indexed archived ((SpaceService.create spaceId ownerId organizationId name).after
        store) := by
  have atomic := SpaceService.create_atomic spaceId ownerId organizationId name
  refine Eff.after_atomic atomic indexed fun membership next created => ?_
  obtain ⟨name, _, created⟩ := Eff.exec_check_bind_eq_ok.mp created
  obtain ⟨slug, _, created⟩ := Eff.exec_check_bind_eq_ok.mp created
  obtain ⟨_, middle, stored, created⟩ := Eff.exec_bind_eq_ok.mp created
  cases created
  have free := free_of_createSpace stored
  obtain rfl := createSpace_ok stored
  exact ⟨Table.forall_insert rfl indexed.keyed, indexed.exact.insert new neverArchived free⟩

theorem Indexed.update (indexed : store.Indexed archived) (existing : SpaceMembership)
    (patch : SpacePatch)
    : Indexed archived ((SpaceService.update existing patch).after store) := by
  have atomic := SpaceService.update_atomic existing patch
  refine Eff.after_atomic atomic indexed fun updated next done => ?_
  obtain ⟨_, _, done⟩ := SpaceService.update_ok done
  obtain ⟨_, _, previous, stored, byId⟩ := updateSpace_ok done
  obtain ⟨free, index⟩ := index_of_updateSpace stored done
  refine ⟨?_, ?_⟩
  · rw [byId]
    exact Table.forall_insert rfl indexed.keyed
  · rw [byId, index]
    refine indexed.exact.replace stored fun other holds => ?_
    by_contra differs
    have taken := indexed.exact.any_ne.mpr ⟨other, differs, holds⟩
    exact absurd taken (Bool.eq_false_iff.mp free)

theorem Indexed.archive (indexed : store.Indexed archived) {spaceId : Uuid}
    {space : StoredSpace} (stored : store.spacesById.lookup spaceId = some space)
    : Indexed (archived.insert spaceId space)
        { store with spacesById := store.spacesById.erase spaceId } :=
  ⟨fun other row found => indexed.keyed other row (Table.lookup_of_erase found),
    indexed.exact.archive stored⟩

/-- A creation is refused when some space has the slug. -/
theorem Indexed.createRefused (indexed : store.Indexed archived) (space : StoredSpace)
    (ownerMember : StoredSpaceMember)
    : ((createSpace space ownerMember).exec store).1 = .error .slugAlreadyExists
      ↔ ∃ other, UniqueIndex.Holds StoredSpace.slugKey store.spacesById archived other
          space.slugKey := by
  rw [← indexed.exact.mem_index, createSpace, Eff.exec_get_bind]
  split
  · next taken => exact iff_of_true rfl taken
  · next free =>
      refine iff_of_false (fun refused => ?_) free
      cases refused

/-- The update of a live space is refused when another space has the slug. -/
theorem Indexed.updateRefused (indexed : store.Indexed archived) (membership : SpaceMembership)
    : ((updateSpace membership).exec store).1 = .error .slugAlreadyExists
      ↔ membership.id ∈ store.spacesById
        ∧ ∃ other, other ≠ membership.id
          ∧ UniqueIndex.Holds StoredSpace.slugKey store.spacesById archived other
            (membership.organizationId, membership.slug) := by
  rw [← indexed.exact.any_ne, updateSpace, Eff.exec_get_bind]
  split
  · next missing =>
      refine iff_of_false (fun refused => ?_) fun refused => ?_
      · cases refused
      · exact AList.lookup_eq_none.mp missing refused.1
  · next previous stored =>
      dsimp only
      have live := Table.mem_of_lookup stored
      split
      · next taken => exact iff_of_true rfl ⟨live, taken⟩
      · next free =>
          refine iff_of_false (fun refused => ?_) fun refused => free refused.2
          cases refused

/-- A space that is not live is not found. -/
theorem exec_updateSpace_of_notMem {membership : SpaceMembership}
    (missing : membership.id ∉ store.spacesById)
    : (updateSpace membership).exec store = (.error .notFound, store) := by
  rw [updateSpace, Eff.exec_get_bind, AList.lookup_eq_none.mpr missing]
  rfl

end SpaceStore

namespace SpaceHistory

theorem indexed_step {history next : SpaceHistory} {move : SpaceMove}
    (indexed : history.store.Indexed history.archived) (stepped : history.step move = some next)
    : next.store.Indexed next.archived := by
  cases move with
  | create spaceId ownerId organizationId name =>
      rw [SpaceHistory.step] at stepped
      split at stepped
      · cases stepped
      · next new =>
          obtain ⟨new, neverArchived⟩ := not_or.mp new
          obtain rfl := Option.some.inj stepped
          dsimp only
          exact indexed.create new neverArchived ownerId organizationId name
  | update existing patch =>
      obtain rfl := Option.some.inj stepped
      dsimp only
      exact indexed.update existing patch
  | delete existing =>
      rw [SpaceHistory.step] at stepped
      split at stepped
      · next deleted store done =>
          cases stepped
          obtain ⟨_, middle, archived, done⟩ := Eff.exec_bind_eq_ok.mp done
          cases done
          obtain ⟨space, stored⟩ := SpaceStore.stored_of_archiveSpace archived
          obtain rfl := SpaceStore.archiveSpace_ok archived
          simp only [withArchived, stored]
          exact indexed.archive stored
      · next error store failed =>
          cases stepped
          rw [SpaceService.delete_atomic existing _ _ _ failed]
          exact indexed

theorem indexed_of_reachable {history : SpaceHistory}
    (reachable : Reachable step empty history)
    : history.store.Indexed history.archived := by
  obtain ⟨moves, ran⟩ := reachable
  refine @run_preserves _ _ step (fun history => history.store.Indexed history.archived) ?_
    _ _ _ .empty ran
  intro state move next indexed stepped
  exact indexed_step indexed stepped

/-- An exact index makes slugs unique. -/
theorem SlugsUnique.of_indexed {history : SpaceHistory}
    (indexed : history.store.Indexed history.archived)
    : history.SlugsUnique where
  apart := by
    intro spaceId otherId space other stored otherStored sameOrganization sameSlug
    apply indexed.exact.unique (.of_live stored)
    have sameKey : other.slugKey = space.slugKey :=
      Prod.ext sameOrganization.symm sameSlug.symm
    exact sameKey ▸ .of_live otherStored
  indexed := by
    intro spaceId space stored
    obtain rfl := indexed.keyed spaceId space stored
    exact ⟨rfl, (indexed.exact.indexed _ _).mpr (.of_live stored)⟩
  createRefused := indexed.createRefused
  updateRefused := indexed.updateRefused
  updateOfArchived _ missing := SpaceStore.exec_updateSpace_of_notMem missing
  failureKeeps :=
    ⟨SpaceService.create_atomic, SpaceService.update_atomic, SpaceService.delete_atomic⟩

end SpaceHistory

-----------------------------------------------------------------------------------------
-- Every run
-----------------------------------------------------------------------------------------

/-- In every store that requests reach, slugs are as unique as under the constraint of the
database, for channels and for spaces.
-/
theorem slugsUnique_of_reachable
    : (∀ history, Reachable ChannelHistory.step .empty history → history.SlugsUnique)
      ∧ ∀ history, Reachable SpaceHistory.step .empty history → history.SlugsUnique := by
  constructor
  · intro history reachable
    exact .of_indexed (ChannelHistory.indexed_of_reachable reachable)
  · intro history reachable
    exact .of_indexed (SpaceHistory.indexed_of_reachable reachable)

namespace Lobby

def alphaId : Uuid := .ofNat 41
def betaId : Uuid := .ofNat 42
def organizationId : Uuid := .ofNat 10
def spaceId : Uuid := .ofNat 20

/-- The first channel as it is created. -/
def alpha : Channel :=
  ⟨alphaId, organizationId, spaceId, "text", "alpha", "alpha", 0, none, false⟩

/-- Two channels are created, and the first is archived. -/
def moves : List ChannelMove :=
  [.create alphaId organizationId spaceId none "alpha" none false,
    .create betaId organizationId spaceId none "beta" none false, .delete alpha]

/-- A space is created, renamed and archived. -/
def spaceMoves : List SpaceMove :=
  [.create spaceId (.ofNat 1) organizationId "Lobby",
    .update ⟨spaceId, organizationId, "lobby", "Lobby", "owner"⟩ ⟨some "Hall"⟩,
    .delete ⟨spaceId, organizationId, "hall", "Hall", "owner"⟩]

end Lobby

theorem lobby_slugsUnique
    : (∃ history, run ChannelHistory.step .empty Lobby.moves = some history
          ∧ history.SlugsUnique)
      ∧ ∃ history, run SpaceHistory.step .empty Lobby.spaceMoves = some history
          ∧ history.SlugsUnique :=
  ⟨⟨_, rfl, slugsUnique_of_reachable.1 _ ⟨Lobby.moves, rfl⟩⟩,
    ⟨_, rfl, slugsUnique_of_reachable.2 _ ⟨Lobby.spaceMoves, rfl⟩⟩⟩

/-- Renaming a copy of the archived channel to the slug of the other is not refused for the
slug: the channel is not found.
-/
theorem archivedUpdate_notFound
    : ∃ history renamed, run ChannelHistory.step .empty Lobby.moves = some history
        ∧ ChannelService.patched Lobby.alpha ⟨some "beta", none, none, none⟩ = .ok renamed
        ∧ renamed.id ≠ Lobby.betaId
        ∧ history.HoldsSlug Lobby.betaId (renamed.spaceId, renamed.slug)
        ∧ ((ChannelService.update Lobby.alpha ⟨some "beta", none, none, none⟩).exec
            history.store).1 = .error .notFound := by
  refine ⟨_, _, rfl, rfl, by decide, ?_, ?_⟩
  · refine ⟨⟨Lobby.betaId, Lobby.organizationId, Lobby.spaceId, "text", "beta", "beta", 0, none,
      false⟩, .inl ?_, ?_⟩
    · decide +kernel
    · decide +kernel
  · decide +kernel

end OpenCord.Tenancy
