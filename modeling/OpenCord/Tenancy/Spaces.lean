import Mathlib.Data.List.Sort
import OpenCord.Tenancy.Organizations

/-! Spaces and their members: the in-memory store and the service over it. -/

namespace OpenCord.Tenancy

open OpenCord.Library OpenCord.Platform

inductive SpaceError where
  | invalidInput (message : String)
  | slugAlreadyExists
  | notFound
  | storeUnavailable
  deriving DecidableEq

structure StoredSpace where
  id : Uuid
  organizationId : Uuid
  slug : String
  name : String
  ownerUserId : Uuid
  deriving DecidableEq

structure StoredSpaceMember where
  spaceId : Uuid
  userId : Uuid
  role : String
  status : MemberStatus
  deriving DecidableEq

structure SpaceMembership where
  id : Uuid
  organizationId : Uuid
  slug : String
  name : String
  role : String
  deriving DecidableEq

/-- A space as one of its members sees it. -/
def SpaceMembership.of (space : StoredSpace) (role : String) : SpaceMembership :=
  ⟨space.id, space.organizationId, space.slug, space.name, role⟩

structure SpacePatch where
  name : Option String

structure SpaceStore where
  spacesById : Table Uuid StoredSpace
  spaceIdByOrgSlug : Table (Uuid × String) Uuid
  membersBySpaceUser : Table (Uuid × Uuid) StoredSpaceMember

namespace SpaceStore

def empty : SpaceStore := ⟨∅, ∅, ∅⟩

/-- The membership row of a user in a space. -/
def member? (store : SpaceStore) (spaceId userId : Uuid) : Option StoredSpaceMember :=
  store.membersBySpaceUser.lookup (spaceId, userId)

/-- The store with a membership row in place of the one its user had. -/
def withMember (store : SpaceStore) (spaceId userId : Uuid) (member : StoredSpaceMember)
    : SpaceStore :=
  { store with
    membersBySpaceUser := store.membersBySpaceUser.insert (spaceId, userId) member }

/-- The store with a new space and its owner. -/
def withSpace (store : SpaceStore) (space : StoredSpace) (ownerMember : StoredSpaceMember)
    : SpaceStore :=
  { store with
    spaceIdByOrgSlug :=
      store.spaceIdByOrgSlug.insert (space.organizationId, space.slug) space.id
    membersBySpaceUser :=
      store.membersBySpaceUser.insert (ownerMember.spaceId, ownerMember.userId) ownerMember
    spacesById := store.spacesById.insert space.id space }

def createSpace (space : StoredSpace) (ownerMember : StoredSpaceMember)
    : Eff SpaceStore SpaceError Unit := do
  let store ← get
  if (space.organizationId, space.slug) ∈ store.spaceIdByOrgSlug then
    throw .slugAlreadyExists
  else
    set (store.withSpace space ownerMember)

def getForUser (store : SpaceStore) (userId spaceId : Uuid) : Option SpaceMembership :=
  match store.member? spaceId userId with
  | none => none
  | some member =>
      if member.status = .active then
        (store.spacesById.lookup spaceId).map fun space => .of space member.role
      else
        none

/-- The spaces of an organization that a user is an active member of, sorted by name. -/
def listForUser (store : SpaceStore) (userId organizationId : Uuid) : List SpaceMembership :=
  let spaces := store.membersBySpaceUser.values.filterMap fun member =>
    if member.userId = userId ∧ member.status = .active then
      ((store.spacesById.lookup member.spaceId).filter fun space =>
        space.organizationId = organizationId).map fun space => .of space member.role
    else
      none
  spaces.insertionSort fun left right => left.name ≤ right.name

/-- The row that adding a member leaves: an existing row becomes active and takes the new
role unless it is the owner's.
-/
def joined (store : SpaceStore) (member : StoredSpaceMember) : StoredSpaceMember :=
  match store.member? member.spaceId member.userId with
  | some existing =>
      { existing with
        role := if existing.role = "owner" then existing.role else member.role
        status := .active }
  | none => member

def addMember (member : StoredSpaceMember) : Eff SpaceStore SpaceError SpaceMembership := do
  let store ← get
  match store.spacesById.lookup member.spaceId with
  | none => throw .notFound
  | some space =>
      set (store.withMember member.spaceId member.userId (store.joined member))
      return .of space (store.joined member).role

def removeMember (spaceId userId : Uuid) : Eff SpaceStore SpaceError Unit := do
  let store ← get
  match store.member? spaceId userId with
  | none => throw .notFound
  | some member =>
      if member.status = .active then
        set (store.withMember spaceId userId { member with status := .inactive })
      else
        throw .notFound

/-- The users with an active row, in the order of the member map. -/
def activeMemberUserIds (store : SpaceStore) (spaceId : Uuid) : Except SpaceError (List Uuid) :=
  if spaceId ∈ store.spacesById then
    .ok ((store.membersBySpaceUser.values.filter fun member =>
      member.spaceId = spaceId ∧ member.status = .active).map StoredSpaceMember.userId)
  else
    .error .notFound

def updateSpace (membership : SpaceMembership) : Eff SpaceStore SpaceError SpaceMembership := do
  let store ← get
  match store.spacesById.lookup membership.id with
  | none => throw .notFound
  | some previous =>
      let nextKey := (membership.organizationId, membership.slug)
      if (store.spaceIdByOrgSlug.lookup nextKey).any (· ≠ membership.id) then
        throw .slugAlreadyExists
      else
        set { store with
          spaceIdByOrgSlug :=
            (store.spaceIdByOrgSlug.erase (previous.organizationId, previous.slug)).insert
              nextKey membership.id
          spacesById :=
            store.spacesById.insert membership.id
              ⟨membership.id, membership.organizationId, membership.slug, membership.name,
                previous.ownerUserId⟩ }
        return membership

def archiveSpace (spaceId organizationId : Uuid) : Eff SpaceStore SpaceError Unit := do
  let store ← get
  match store.spacesById.lookup spaceId with
  | none => throw .notFound
  | some space =>
      if space.organizationId = organizationId then
        set { store with spacesById := store.spacesById.erase spaceId }
      else
        throw .notFound

/-- A user's row in a space exists and is active; archiving a space keeps its rows. -/
def ActiveMember (store : SpaceStore) (spaceId userId : Uuid) : Prop :=
  ∃ member, store.member? spaceId userId = some member ∧ member.status = .active

instance (store : SpaceStore) (spaceId userId : Uuid)
    : Decidable (store.ActiveMember spaceId userId) :=
  inferInstanceAs (Decidable (∃ member ∈ store.member? spaceId userId, _))

end SpaceStore

namespace SpaceService

def normalizeName (name : String) : Except SpaceError String :=
  (boundedName 2 100 "space name must be between 2 and 100 characters" name).mapError
    .invalidInput

def slugify (name : String) : Except SpaceError String :=
  (slugifyOr "space name must include letters or numbers" name).mapError .invalidInput

def normalizeMemberRole (role : String) : Except SpaceError String :=
  (oneOf ["member", "guest"] "space member role must be member or guest" role).mapError
    .invalidInput

/-- Creates a space under a drawn identifier. -/
def create (spaceId ownerId organizationId : Uuid) (name : String)
    : Eff SpaceStore SpaceError SpaceMembership := do
  let name ← normalizeName name
  let slug ← slugify name
  let space : StoredSpace := ⟨spaceId, organizationId, slug, name, ownerId⟩
  SpaceStore.createSpace space ⟨spaceId, ownerId, "owner", .active⟩
  return .of space "owner"

def getForUser (store : SpaceStore) (userId spaceId : Uuid)
    : Except SpaceError SpaceMembership :=
  match store.getForUser userId spaceId with
  | some membership => .ok membership
  | none => .error .notFound

def addMember (spaceId userId : Uuid) (role : String)
    : Eff SpaceStore SpaceError SpaceMembership := do
  let role ← normalizeMemberRole role
  SpaceStore.addMember ⟨spaceId, userId, role, .active⟩

def removeMember (spaceId userId : Uuid) : Eff SpaceStore SpaceError SpaceMembership := do
  let store ← get
  let membership ← getForUser store userId spaceId
  if membership.role = "owner" then
    throw (.invalidInput "space owner cannot be removed")
  else
    SpaceStore.removeMember spaceId userId
    return membership

def update (existing : SpaceMembership) (patch : SpacePatch)
    : Eff SpaceStore SpaceError SpaceMembership :=
  match patch.name with
  | none => SpaceStore.updateSpace existing
  | some name => do
      let name ← normalizeName name
      let slug ← slugify name
      SpaceStore.updateSpace { existing with slug := slug, name := name }

def delete (existing : SpaceMembership) : Eff SpaceStore SpaceError SpaceMembership := do
  SpaceStore.archiveSpace existing.id existing.organizationId
  return existing

end SpaceService

-----------------------------------------------------------------------------------------
-- What the writes do
-----------------------------------------------------------------------------------------

namespace SpaceStore

@[simp] theorem member?_withMember (store : SpaceStore) (spaceId userId space user : Uuid)
    (member : StoredSpaceMember)
    : (store.withMember spaceId userId member).member? space user
        = if (space, user) = (spaceId, userId) then some member
          else store.member? space user :=
  Table.lookup_insert_eq ..

/-- Whoever sees a space as a member has an active row in it, and the space is stored. -/
theorem getForUser_eq_some {store : SpaceStore} {userId spaceId : Uuid}
    {membership : SpaceMembership}
    : store.getForUser userId spaceId = some membership
      ↔ ∃ member space, store.member? spaceId userId = some member ∧ member.status = .active
          ∧ store.spacesById.lookup spaceId = some space
          ∧ membership = .of space member.role := by
  rw [getForUser]
  split
  · next missing => simp [missing]
  · next member row =>
      simp only [row, Option.some.injEq]
      split
      · next active => simp [active, eq_comm]
      · next inactive => simp [inactive]

theorem createSpace_atomic (space : StoredSpace) (ownerMember : StoredSpaceMember)
    : (createSpace space ownerMember).Atomic := by
  refine .get_bind fun store => ?_
  split
  · exact .throw _
  · exact .set _

theorem createSpace_ok {space : StoredSpace} {ownerMember : StoredSpaceMember}
    {store next : SpaceStore}
    (created : (createSpace space ownerMember).exec store = (.ok (), next))
    : next = store.withSpace space ownerMember := by
  rw [createSpace, Eff.exec_get_bind] at created
  split at created
  · cases created
  · cases created
    rfl

theorem addMember_atomic (member : StoredSpaceMember) : (addMember member).Atomic := by
  refine .get_bind fun store => ?_
  split
  · exact .throw _
  · exact (Eff.Atomic.set _).map _

theorem addMember_ok {member : StoredSpaceMember} {membership : SpaceMembership}
    {store next : SpaceStore}
    (added : (addMember member).exec store = (.ok membership, next))
    : ∃ space, store.spacesById.lookup member.spaceId = some space
        ∧ next = store.withMember member.spaceId member.userId (store.joined member) := by
  rw [addMember, Eff.exec_get_bind] at added
  split at added
  · cases added
  · next space stored =>
      cases added
      exact ⟨space, stored, rfl⟩

theorem removeMember_atomic (spaceId userId : Uuid) : (removeMember spaceId userId).Atomic := by
  refine .get_bind fun store => ?_
  split
  · exact .throw _
  · split
    · exact .set _
    · exact .throw _

theorem removeMember_ok {spaceId userId : Uuid} {store next : SpaceStore}
    (removed : (removeMember spaceId userId).exec store = (.ok (), next))
    : ∃ member, store.member? spaceId userId = some member
        ∧ next = store.withMember spaceId userId { member with status := .inactive } := by
  rw [removeMember, Eff.exec_get_bind] at removed
  split at removed
  · cases removed
  · next member row =>
      split at removed
      · cases removed
        exact ⟨member, row, rfl⟩
      · cases removed

theorem updateSpace_atomic (membership : SpaceMembership) : (updateSpace membership).Atomic := by
  refine .get_bind fun store => ?_
  split
  · exact .throw _
  · dsimp only
    split
    · exact .throw _
    · exact (Eff.Atomic.set _).map _

/-- Updating a space keeps its rows and its owner. -/
theorem updateSpace_ok {membership updated : SpaceMembership} {store next : SpaceStore}
    (done : (updateSpace membership).exec store = (.ok updated, next))
    : updated = membership ∧ next.membersBySpaceUser = store.membersBySpaceUser
        ∧ ∃ previous, store.spacesById.lookup membership.id = some previous
            ∧ next.spacesById = store.spacesById.insert membership.id
                ⟨membership.id, membership.organizationId, membership.slug, membership.name,
                  previous.ownerUserId⟩ := by
  rw [updateSpace, Eff.exec_get_bind] at done
  split at done
  · cases done
  · next previous stored =>
      dsimp only at done
      split at done
      · cases done
      · cases done
        exact ⟨rfl, rfl, previous, stored, rfl⟩

theorem archiveSpace_atomic (spaceId organizationId : Uuid)
    : (archiveSpace spaceId organizationId).Atomic := by
  refine .get_bind fun store => ?_
  split
  · exact .throw _
  · split
    · exact .set _
    · exact .throw _

theorem archiveSpace_ok {spaceId organizationId : Uuid} {store next : SpaceStore}
    (archived : (archiveSpace spaceId organizationId).exec store = (.ok (), next))
    : next = { store with spacesById := store.spacesById.erase spaceId } := by
  rw [archiveSpace, Eff.exec_get_bind] at archived
  split at archived
  · cases archived
  · split at archived
    · cases archived
      rfl
    · cases archived

end SpaceStore

namespace SpaceService

theorem getForUser_eq_ok {store : SpaceStore} {userId spaceId : Uuid}
    {membership : SpaceMembership}
    : getForUser store userId spaceId = .ok membership
      ↔ store.getForUser userId spaceId = some membership := by
  rw [getForUser]
  split
  · next found => simp [found]
  · next missing => simp [missing]

theorem create_atomic (spaceId ownerId organizationId : Uuid) (name : String)
    : (create spaceId ownerId organizationId name).Atomic := by
  refine .check_bind fun name => .check_bind fun slug => ?_
  exact (SpaceStore.createSpace_atomic _ _).map _

theorem create_ok {spaceId ownerId organizationId : Uuid} {name : String}
    {membership : SpaceMembership} {store next : SpaceStore}
    (created : (create spaceId ownerId organizationId name).exec store = (.ok membership, next))
    : ∃ space : StoredSpace, space.id = spaceId ∧ space.organizationId = organizationId
        ∧ space.ownerUserId = ownerId
        ∧ next = store.withSpace space ⟨spaceId, ownerId, "owner", .active⟩ := by
  obtain ⟨name, _, created⟩ := Eff.exec_check_bind_eq_ok.mp created
  obtain ⟨slug, _, created⟩ := Eff.exec_check_bind_eq_ok.mp created
  obtain ⟨_, middle, stored, created⟩ := Eff.exec_bind_eq_ok.mp created
  cases created
  exact ⟨⟨spaceId, organizationId, slug, name, ownerId⟩, rfl, rfl, rfl,
    SpaceStore.createSpace_ok stored⟩

theorem addMember_atomic (spaceId userId : Uuid) (role : String)
    : (addMember spaceId userId role).Atomic :=
  .check_bind fun _ => SpaceStore.addMember_atomic _

theorem addMember_ok {spaceId userId : Uuid} {role : String} {membership : SpaceMembership}
    {store next : SpaceStore}
    (added : (addMember spaceId userId role).exec store = (.ok membership, next))
    : ∃ member space, member.spaceId = spaceId ∧ member.userId = userId
        ∧ member.status = .active ∧ store.spacesById.lookup spaceId = some space
        ∧ next = store.withMember spaceId userId (store.joined member) := by
  obtain ⟨role, _, added⟩ := Eff.exec_check_bind_eq_ok.mp added
  obtain ⟨space, stored, same⟩ := SpaceStore.addMember_ok added
  exact ⟨⟨spaceId, userId, role, .active⟩, space, rfl, rfl, rfl, stored, same⟩

theorem removeMember_atomic (spaceId userId : Uuid) : (removeMember spaceId userId).Atomic := by
  refine .get_bind fun store => .check_bind fun membership => ?_
  split
  · exact .throw _
  · exact (SpaceStore.removeMember_atomic spaceId userId).map _

theorem removeMember_ok {spaceId userId : Uuid} {membership : SpaceMembership}
    {store next : SpaceStore}
    (removed : (removeMember spaceId userId).exec store = (.ok membership, next))
    : ∃ member, store.member? spaceId userId = some member
        ∧ next = store.withMember spaceId userId { member with status := .inactive } := by
  rw [removeMember, Eff.exec_get_bind] at removed
  obtain ⟨found, _, removed⟩ := Eff.exec_check_bind_eq_ok.mp removed
  split at removed
  · cases removed
  · obtain ⟨_, middle, done, removed⟩ := Eff.exec_bind_eq_ok.mp removed
    cases removed
    exact SpaceStore.removeMember_ok done

theorem update_atomic (existing : SpaceMembership) (patch : SpacePatch)
    : (update existing patch).Atomic := by
  rw [update]
  split
  · exact SpaceStore.updateSpace_atomic _
  · exact .check_bind fun _ => .check_bind fun _ => SpaceStore.updateSpace_atomic _

/-- A patch keeps the identifier and the organization of a space. -/
theorem update_ok {existing updated : SpaceMembership} {patch : SpacePatch}
    {store next : SpaceStore}
    (done : (update existing patch).exec store = (.ok updated, next))
    : updated.id = existing.id ∧ updated.organizationId = existing.organizationId
        ∧ (SpaceStore.updateSpace updated).exec store = (.ok updated, next) := by
  rw [update] at done
  split at done
  · have same := (SpaceStore.updateSpace_ok done).1
    rw [same] at done ⊢
    exact ⟨rfl, rfl, done⟩
  · obtain ⟨name, _, done⟩ := Eff.exec_check_bind_eq_ok.mp done
    obtain ⟨slug, _, done⟩ := Eff.exec_check_bind_eq_ok.mp done
    have same := (SpaceStore.updateSpace_ok done).1
    rw [same] at done ⊢
    exact ⟨rfl, rfl, done⟩

theorem delete_atomic (existing : SpaceMembership) : (delete existing).Atomic :=
  (SpaceStore.archiveSpace_atomic _ _).map _

theorem delete_ok {existing deleted : SpaceMembership} {store next : SpaceStore}
    (done : (delete existing).exec store = (.ok deleted, next))
    : deleted = existing
        ∧ next = { store with spacesById := store.spacesById.erase existing.id } := by
  obtain ⟨_, middle, archived, done⟩ := Eff.exec_bind_eq_ok.mp done
  cases done
  exact ⟨rfl, SpaceStore.archiveSpace_ok archived⟩

end SpaceService

end OpenCord.Tenancy
