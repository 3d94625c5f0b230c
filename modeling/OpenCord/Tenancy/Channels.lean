import OpenCord.Tenancy.Spaces

/-! Channels of spaces: the in-memory store and the service over it. -/

namespace OpenCord.Tenancy

open OpenCord.Library OpenCord.Platform

inductive ChannelError where
  | invalidInput (message : String)
  | slugAlreadyExists
  | notFound
  deriving DecidableEq

structure Channel where
  id : Uuid
  organizationId : Uuid
  spaceId : Uuid
  kind : String
  name : String
  slug : String
  position : Int
  topic : Option String
  isPrivate : Bool
  deriving DecidableEq

structure ChannelPatch where
  name : Option String
  topic : Option String
  position : Option Int
  isPrivate : Option Bool

structure ChannelStore where
  channelsById : Table Uuid Channel
  channelIdBySpaceSlug : Table (Uuid × String) Uuid

namespace ChannelStore

def empty : ChannelStore := ⟨∅, ∅⟩

/-- The store with a new channel. -/
def withChannel (store : ChannelStore) (channel : Channel) : ChannelStore :=
  { store with
    channelIdBySpaceSlug :=
      store.channelIdBySpaceSlug.insert (channel.spaceId, channel.slug) channel.id
    channelsById := store.channelsById.insert channel.id channel }

def createChannel (channel : Channel) : Eff ChannelStore ChannelError Unit := do
  let store ← get
  if (channel.spaceId, channel.slug) ∈ store.channelIdBySpaceSlug then
    throw .slugAlreadyExists
  else
    set (store.withChannel channel)

def updateChannel (channel : Channel) : Eff ChannelStore ChannelError Channel := do
  let store ← get
  match store.channelsById.lookup channel.id with
  | none => throw .notFound
  | some previous =>
      let nextKey := (channel.spaceId, channel.slug)
      if (store.channelIdBySpaceSlug.lookup nextKey).any (· ≠ channel.id) then
        throw .slugAlreadyExists
      else
        set { store with
          channelIdBySpaceSlug :=
            (store.channelIdBySpaceSlug.erase (previous.spaceId, previous.slug)).insert
              nextKey channel.id
          channelsById := store.channelsById.insert channel.id channel }
        return channel

def archiveChannel (channelId : Uuid) : Eff ChannelStore ChannelError Unit := do
  let store ← get
  if channelId ∈ store.channelsById then
    set { store with channelsById := store.channelsById.erase channelId }
  else
    throw .notFound

end ChannelStore

namespace ChannelService

def normalizeKind (kind : Option String) : Except ChannelError String :=
  match kind with
  | none => .ok "text"
  | some kind =>
      let kind := Text.toAsciiLowercase (Text.trim kind)
      if kind = "" ∨ kind = "text" then .ok "text"
      else if kind = "voice" then .ok "voice"
      else .error (.invalidInput "channel kind must be text or voice")

def normalizeName (name : String) : Except ChannelError String :=
  (boundedName 1 100 "channel name must be between 1 and 100 characters" name).mapError
    .invalidInput

def normalizeTopic (topic : Option String) : Except ChannelError (Option String) :=
  match topic with
  | none => .ok none
  | some topic =>
      let topic := Text.collapseWhitespace topic
      if 1024 < topic.utf8ByteSize then
        .error (.invalidInput "channel topic must be 1024 characters or fewer")
      else if topic = "" then
        .ok none
      else
        .ok (some topic)

def slugify (name : String) : Except ChannelError String :=
  (slugifyOr "channel name must include letters or numbers" name).mapError .invalidInput

/-- Creates a channel under a drawn identifier. -/
def create (channelId organizationId spaceId : Uuid) (kind : Option String) (name : String)
    (topic : Option String) (isPrivate : Bool) : Eff ChannelStore ChannelError Channel := do
  let name ← normalizeName name
  let kind ← normalizeKind kind
  let slug ← slugify name
  let topic ← normalizeTopic topic
  let channel : Channel :=
    ⟨channelId, organizationId, spaceId, kind, name, slug, 0, topic, isPrivate⟩
  ChannelStore.createChannel channel
  return channel

def get (store : ChannelStore) (channelId : Uuid) : Except ChannelError Channel :=
  match store.channelsById.lookup channelId with
  | some channel => .ok channel
  | none => .error .notFound

/-- The channel under a patched name and its slug. -/
def withName (channel : Channel) : Option String → Except ChannelError Channel
  | none => .ok channel
  | some name => do
      let name ← normalizeName name
      let slug ← slugify name
      return { channel with slug := slug, name := name }

/-- The channel with a patched topic. -/
def withTopic (channel : Channel) : Option String → Except ChannelError Channel
  | none => .ok channel
  | some topic => do
      let topic ← normalizeTopic (some topic)
      return { channel with topic := topic }

/-- The channel at a patched position. -/
def withPosition (channel : Channel) : Option Int → Except ChannelError Channel
  | none => .ok channel
  | some position =>
      if position < 0 then
        .error (.invalidInput "channel position must be greater than or equal to 0")
      else
        .ok { channel with position := position }

/-- The channel a patch describes, its fields checked in their order. -/
def patched (existing : Channel) (patch : ChannelPatch) : Except ChannelError Channel := do
  let channel ← withName existing patch.name
  let channel ← withTopic channel patch.topic
  let channel ← withPosition channel patch.position
  return { channel with isPrivate := patch.isPrivate.getD channel.isPrivate }

def update (existing : Channel) (patch : ChannelPatch)
    : Eff ChannelStore ChannelError Channel := do
  let channel ← patched existing patch
  ChannelStore.updateChannel channel

def delete (existing : Channel) : Eff ChannelStore ChannelError Channel := do
  ChannelStore.archiveChannel existing.id
  return existing

end ChannelService

-----------------------------------------------------------------------------------------
-- What the writes do
-----------------------------------------------------------------------------------------

/-- Two versions of a channel, under one identifier in one space. -/
structure Channel.SamePlace (before after : Channel) : Prop where
  id : after.id = before.id
  organizationId : after.organizationId = before.organizationId
  spaceId : after.spaceId = before.spaceId

theorem Channel.SamePlace.refl (channel : Channel) : channel.SamePlace channel :=
  ⟨rfl, rfl, rfl⟩

theorem Channel.SamePlace.trans {first second third : Channel}
    (before : first.SamePlace second) (after : second.SamePlace third)
    : first.SamePlace third :=
  ⟨after.id.trans before.id, after.organizationId.trans before.organizationId,
    after.spaceId.trans before.spaceId⟩

namespace ChannelService

theorem withName_samePlace {channel renamed : Channel} {name : Option String}
    (done : withName channel name = .ok renamed)
    : channel.SamePlace renamed := by
  cases name with
  | none =>
      cases done
      exact .refl channel
  | some name =>
      obtain ⟨_, _, rest⟩ := Eff.check_bind_eq_ok.mp done
      obtain ⟨_, _, rest⟩ := Eff.check_bind_eq_ok.mp rest
      cases rest
      exact ⟨rfl, rfl, rfl⟩

theorem withTopic_samePlace {channel described : Channel} {topic : Option String}
    (done : withTopic channel topic = .ok described)
    : channel.SamePlace described := by
  cases topic with
  | none =>
      cases done
      exact .refl channel
  | some topic =>
      obtain ⟨_, _, rest⟩ := Eff.check_bind_eq_ok.mp done
      cases rest
      exact ⟨rfl, rfl, rfl⟩

theorem withPosition_samePlace {channel placed : Channel} {position : Option Int}
    (done : withPosition channel position = .ok placed)
    : channel.SamePlace placed := by
  cases position with
  | none =>
      cases done
      exact .refl channel
  | some position =>
      rw [withPosition] at done
      split at done
      · cases done
      · cases done
        exact ⟨rfl, rfl, rfl⟩

/-- A patch keeps the place of a channel, field by field. -/
theorem patched_samePlace {existing channel : Channel} {patch : ChannelPatch}
    (done : patched existing patch = .ok channel)
    : existing.SamePlace channel := by
  obtain ⟨named, nameDone, rest⟩ := Eff.check_bind_eq_ok.mp done
  obtain ⟨described, topicDone, rest⟩ := Eff.check_bind_eq_ok.mp rest
  obtain ⟨placed, positionDone, rest⟩ := Eff.check_bind_eq_ok.mp rest
  cases rest
  have same := ((withName_samePlace nameDone).trans (withTopic_samePlace topicDone)).trans
    (withPosition_samePlace positionDone)
  exact ⟨same.id, same.organizationId, same.spaceId⟩

theorem get_eq_ok {store : ChannelStore} {channelId : Uuid} {channel : Channel}
    : get store channelId = .ok channel ↔ store.channelsById.lookup channelId = some channel := by
  rw [get]
  split
  · next found => simp [found]
  · next missing => simp [missing]

theorem create_atomic (channelId organizationId spaceId : Uuid) (kind : Option String)
    (name : String) (topic : Option String) (isPrivate : Bool)
    : (create channelId organizationId spaceId kind name topic isPrivate).Atomic := by
  refine .check_bind fun name => .check_bind fun kind => .check_bind fun slug =>
    .check_bind fun topic => ?_
  refine Eff.Atomic.map (.get_bind fun store => ?_) _
  split
  · exact .throw _
  · exact .set _

theorem create_ok {channelId organizationId spaceId : Uuid} {kind : Option String}
    {name : String} {topic : Option String} {isPrivate : Bool} {channel : Channel}
    {store next : ChannelStore}
    (created : (create channelId organizationId spaceId kind name topic isPrivate).exec store
      = (.ok channel, next))
    : channel.id = channelId ∧ channel.organizationId = organizationId
        ∧ channel.spaceId = spaceId ∧ next = store.withChannel channel := by
  obtain ⟨name, _, created⟩ := Eff.exec_check_bind_eq_ok.mp created
  obtain ⟨kind, _, created⟩ := Eff.exec_check_bind_eq_ok.mp created
  obtain ⟨slug, _, created⟩ := Eff.exec_check_bind_eq_ok.mp created
  obtain ⟨topic, _, created⟩ := Eff.exec_check_bind_eq_ok.mp created
  obtain ⟨_, middle, stored, created⟩ := Eff.exec_bind_eq_ok.mp created
  cases created
  rw [ChannelStore.createChannel, Eff.exec_get_bind] at stored
  split at stored
  · cases stored
  · cases stored
    exact ⟨rfl, rfl, rfl, rfl⟩

theorem update_atomic (existing : Channel) (patch : ChannelPatch)
    : (update existing patch).Atomic := by
  refine .check_bind fun channel => .get_bind fun store => ?_
  split
  · exact .throw _
  · dsimp only
    split
    · exact .throw _
    · exact (Eff.Atomic.set _).map _

/-- Updating a channel stores another version of it in its place. -/
theorem update_ok {existing channel : Channel} {patch : ChannelPatch}
    {store next : ChannelStore}
    (done : (update existing patch).exec store = (.ok channel, next))
    : existing.SamePlace channel
        ∧ next.channelsById = store.channelsById.insert channel.id channel := by
  obtain ⟨version, checked, done⟩ := Eff.exec_check_bind_eq_ok.mp done
  rw [ChannelStore.updateChannel, Eff.exec_get_bind] at done
  split at done
  · cases done
  · dsimp only at done
    split at done
    · cases done
    · cases done
      exact ⟨patched_samePlace checked, rfl⟩

theorem delete_atomic (existing : Channel) : (delete existing).Atomic := by
  refine Eff.Atomic.map (.get_bind fun store => ?_) _
  split
  · exact .set _
  · exact .throw _

theorem delete_ok {existing deleted : Channel} {store next : ChannelStore}
    (done : (delete existing).exec store = (.ok deleted, next))
    : deleted = existing
        ∧ next = { store with channelsById := store.channelsById.erase existing.id } := by
  obtain ⟨_, middle, archived, done⟩ := Eff.exec_bind_eq_ok.mp done
  cases done
  rw [ChannelStore.archiveChannel, Eff.exec_get_bind] at archived
  split at archived
  · cases archived
    exact ⟨rfl, rfl⟩
  · cases archived

end ChannelService

end OpenCord.Tenancy
