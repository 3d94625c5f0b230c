import OpenCord.Library.Effects
import OpenCord.Library.Tables
import OpenCord.Platform.Uuid
import OpenCord.Tenancy.Names

/-! Organizations and their members: the in-memory store and the service over it. -/

namespace OpenCord.Tenancy

open OpenCord.Library OpenCord.Platform

inductive OrganizationError where
  | invalidInput (message : String)
  | slugAlreadyExists
  | customDomainAlreadyExists
  | forbidden
  | notFound
  deriving DecidableEq

/-- The two states of a membership row. -/
inductive MemberStatus where
  | active
  | inactive
  deriving DecidableEq

structure StoredOrganization where
  id : Uuid
  slug : String
  name : String
  plan : String
  deploymentMode : String
  primaryRegion : String
  deriving DecidableEq

structure StoredOrganizationMember where
  organizationId : Uuid
  userId : Uuid
  role : String
  status : MemberStatus
  deriving DecidableEq

structure OrganizationMembership where
  id : Uuid
  slug : String
  name : String
  role : String
  plan : String
  deploymentMode : String
  primaryRegion : String
  deriving DecidableEq

/-- An organization as one of its members sees it. -/
def OrganizationMembership.of (organization : StoredOrganization) (role : String)
    : OrganizationMembership :=
  ⟨organization.id, organization.slug, organization.name, role, organization.plan,
    organization.deploymentMode, organization.primaryRegion⟩

structure OrganizationStore where
  organizationsById : Table Uuid StoredOrganization
  organizationIdBySlug : Table String Uuid
  membersByOrgUser : Table (Uuid × Uuid) StoredOrganizationMember

namespace OrganizationStore

def empty : OrganizationStore := ⟨∅, ∅, ∅⟩

/-- The membership row of a user in an organization. -/
def member? (store : OrganizationStore) (organizationId userId : Uuid)
    : Option StoredOrganizationMember :=
  store.membersByOrgUser.lookup (organizationId, userId)

/-- The store with a membership row in place of the one its user had. -/
def withMember (store : OrganizationStore) (organizationId userId : Uuid)
    (member : StoredOrganizationMember) : OrganizationStore :=
  { store with
    membersByOrgUser := store.membersByOrgUser.insert (organizationId, userId) member }

/-- The store with a new organization and its owner. -/
def withOrganization (store : OrganizationStore) (organization : StoredOrganization)
    (ownerMember : StoredOrganizationMember) : OrganizationStore :=
  { store with
    organizationIdBySlug := store.organizationIdBySlug.insert organization.slug organization.id
    membersByOrgUser :=
      store.membersByOrgUser.insert (ownerMember.organizationId, ownerMember.userId) ownerMember
    organizationsById := store.organizationsById.insert organization.id organization }

def createOrganization (organization : StoredOrganization)
    (ownerMember : StoredOrganizationMember) : Eff OrganizationStore OrganizationError Unit := do
  let store ← get
  if organization.slug ∈ store.organizationIdBySlug then
    throw .slugAlreadyExists
  else
    set (store.withOrganization organization ownerMember)

def getForUser (store : OrganizationStore) (userId organizationId : Uuid)
    : Option OrganizationMembership :=
  match store.member? organizationId userId with
  | none => none
  | some member =>
      if member.status = .active then
        (store.organizationsById.lookup organizationId).map fun organization =>
          .of organization member.role
      else
        none

def updatePlan (organizationId : Uuid) (plan : String)
    : Eff OrganizationStore OrganizationError Unit := do
  let store ← get
  match store.organizationsById.lookup organizationId with
  | none => throw .notFound
  | some organization =>
      set { store with
        organizationsById :=
          store.organizationsById.insert organizationId { organization with plan := plan } }

/-- The row that adding a member leaves: an existing row keeps its role and becomes
active.
-/
def joined (store : OrganizationStore) (member : StoredOrganizationMember)
    : StoredOrganizationMember :=
  match store.member? member.organizationId member.userId with
  | some existing => { existing with status := .active }
  | none => member

def addMemberIfMissing (member : StoredOrganizationMember)
    : Eff OrganizationStore OrganizationError Unit := do
  let store ← get
  if member.organizationId ∈ store.organizationsById then
    set (store.withMember member.organizationId member.userId (store.joined member))
  else
    throw .notFound

def setMemberStatus (organizationId userId : Uuid) (status : MemberStatus)
    : Eff OrganizationStore OrganizationError Unit := do
  let store ← get
  match store.member? organizationId userId with
  | none => throw .notFound
  | some member =>
      set (store.withMember organizationId userId { member with status := status })

/-- A user's membership row exists and is active. -/
def ActiveMember (store : OrganizationStore) (organizationId userId : Uuid) : Prop :=
  ∃ member, store.member? organizationId userId = some member ∧ member.status = .active

/-- A user's membership row exists and is inactive. -/
def InactiveMember (store : OrganizationStore) (organizationId userId : Uuid) : Prop :=
  ∃ member, store.member? organizationId userId = some member ∧ member.status = .inactive

instance (store : OrganizationStore) (organizationId userId : Uuid)
    : Decidable (store.InactiveMember organizationId userId) :=
  inferInstanceAs (Decidable (∃ member ∈ store.member? organizationId userId, _))

end OrganizationStore

namespace OrganizationService

def normalizeName (name : String) : Except OrganizationError String :=
  (boundedName 2 100 "organization name must be between 2 and 100 characters" name).mapError
    .invalidInput

def slugify (name : String) : Except OrganizationError String :=
  (slugifyOr "organization name must include letters or numbers" name).mapError .invalidInput

def normalizeMemberRole (role : String) : Except OrganizationError String :=
  (oneOf ["owner", "admin", "member", "guest"]
    "organization member role must be owner, admin, member, or guest" role).mapError
    .invalidInput

def normalizePlan (plan : String) : Except OrganizationError String :=
  (oneOf ["free", "team", "business", "enterprise"]
    "tenant plan must be free, team, business, or enterprise" plan).mapError .invalidInput

def normalizeDeploymentMode (deploymentMode : String) : Except OrganizationError String :=
  (oneOf ["self_hosted", "cloud"] "tenant deployment_mode must be self_hosted or cloud"
    deploymentMode).mapError .invalidInput

def normalizeRegion (region : String) : Except OrganizationError String :=
  let region := Text.toAsciiLowercase (Text.trim region)
  if 2 ≤ region.utf8ByteSize ∧ region.utf8ByteSize ≤ 64
      ∧ region.toList.all (fun character => character.isAlphanum || character == '-') then
    .ok region
  else
    .error (.invalidInput
      "tenant primary_region must be 2 to 64 lowercase letters, numbers, or hyphens")

/-- Creates an organization under a drawn identifier. -/
def createWithOptions (organizationId ownerId : Uuid)
    (name plan deploymentMode primaryRegion : String)
    : Eff OrganizationStore OrganizationError OrganizationMembership := do
  let name ← normalizeName name
  let slug ← slugify name
  let organization : StoredOrganization :=
    ⟨organizationId, slug, name, plan, deploymentMode, primaryRegion⟩
  OrganizationStore.createOrganization organization ⟨organizationId, ownerId, "owner", .active⟩
  return .of organization "owner"

def create (organizationId ownerId : Uuid) (name : String)
    : Eff OrganizationStore OrganizationError OrganizationMembership :=
  createWithOptions organizationId ownerId name "free" "self_hosted" "local"

def provisionTenant (organizationId ownerId : Uuid)
    (name plan deploymentMode primaryRegion : String)
    : Eff OrganizationStore OrganizationError OrganizationMembership := do
  let plan ← normalizePlan plan
  let deploymentMode ← normalizeDeploymentMode deploymentMode
  let primaryRegion ← normalizeRegion primaryRegion
  createWithOptions organizationId ownerId name plan deploymentMode primaryRegion

def getForUser (store : OrganizationStore) (userId organizationId : Uuid)
    : Except OrganizationError OrganizationMembership :=
  match store.getForUser userId organizationId with
  | some membership => .ok membership
  | none => .error .notFound

def requireAdmin (store : OrganizationStore) (userId organizationId : Uuid)
    : Except OrganizationError OrganizationMembership := do
  let membership ← getForUser store userId organizationId
  if membership.role = "owner" ∨ membership.role = "admin" then
    .ok membership
  else
    .error .forbidden

def addMemberIfMissing (organizationId userId : Uuid) (role : String)
    : Eff OrganizationStore OrganizationError Unit := do
  let role ← normalizeMemberRole role
  OrganizationStore.addMemberIfMissing ⟨organizationId, userId, role, .active⟩

end OrganizationService

-----------------------------------------------------------------------------------------
-- What the writes do
-----------------------------------------------------------------------------------------

namespace OrganizationStore

@[simp] theorem member?_withMember (store : OrganizationStore)
    (organizationId userId organization user : Uuid) (member : StoredOrganizationMember)
    : (store.withMember organizationId userId member).member? organization user
        = if (organization, user) = (organizationId, userId) then some member
          else store.member? organization user :=
  Table.lookup_insert_eq ..

@[simp] theorem organizationsById_withMember (store : OrganizationStore)
    (organizationId userId : Uuid) (member : StoredOrganizationMember)
    : (store.withMember organizationId userId member).organizationsById
        = store.organizationsById :=
  rfl

/-- An active member is not inactive. -/
theorem InactiveMember.not_active {store : OrganizationStore} {organizationId userId : Uuid}
    (inactive : store.InactiveMember organizationId userId)
    : ¬ store.ActiveMember organizationId userId := by
  intro active
  obtain ⟨member, found, isInactive⟩ := inactive
  obtain ⟨other, sameRow, isActive⟩ := active
  rw [found, Option.some.injEq] at sameRow
  rw [← sameRow, isInactive] at isActive
  cases isActive

/-- Whoever is added has an active row. -/
theorem joined_status (store : OrganizationStore) {member : StoredOrganizationMember}
    (active : member.status = .active)
    : (store.joined member).status = .active := by
  rw [joined]
  split
  · rfl
  · exact active

/-- Writing an active row makes its user an active member. -/
theorem activeMember_withMember (store : OrganizationStore) (organizationId userId : Uuid)
    {member : StoredOrganizationMember} (active : member.status = .active)
    : (store.withMember organizationId userId member).ActiveMember organizationId userId :=
  ⟨member, by simp, active⟩

/-- Writing a row keeps a member active, unless it is the member's and inactive. -/
theorem ActiveMember.withMember {store : OrganizationStore}
    {organization user organizationId userId : Uuid} {member : StoredOrganizationMember}
    (active : store.ActiveMember organization user)
    (stays : organization = organizationId → user = userId → member.status = .active)
    : (store.withMember organizationId userId member).ActiveMember organization user := by
  obtain ⟨row, found, isActive⟩ := active
  by_cases same : (organization, user) = (organizationId, userId)
  · refine ⟨member, ?_, ?_⟩
    · rw [member?_withMember, if_pos same]
    · cases same
      exact stays rfl rfl
  · exact ⟨row, by rw [member?_withMember, if_neg same]; exact found, isActive⟩

/-- Whoever sees an organization as a member has an active row in it. -/
theorem activeMember_of_getForUser {store : OrganizationStore} {userId organizationId : Uuid}
    {membership : OrganizationMembership}
    (found : store.getForUser userId organizationId = some membership)
    : store.ActiveMember organizationId userId := by
  rw [getForUser] at found
  split at found
  · cases found
  · next member row =>
      split at found
      · next active => exact ⟨member, row, active⟩
      · cases found

theorem createOrganization_atomic (organization : StoredOrganization)
    (ownerMember : StoredOrganizationMember)
    : (createOrganization organization ownerMember).Atomic := by
  refine .get_bind fun store => ?_
  split
  · exact .throw _
  · exact .set _

theorem updatePlan_atomic (organizationId : Uuid) (plan : String)
    : (updatePlan organizationId plan).Atomic := by
  refine .get_bind fun store => ?_
  split
  · exact .throw _
  · exact .set _

/-- Changing a plan leaves the members. -/
theorem updatePlan_ok {organizationId : Uuid} {plan : String} {store next : OrganizationStore}
    (updated : (updatePlan organizationId plan).exec store = (.ok (), next))
    : next.membersByOrgUser = store.membersByOrgUser := by
  rw [updatePlan, Eff.exec_get_bind] at updated
  split at updated
  · cases updated
  · cases updated
    rfl

theorem addMemberIfMissing_atomic (member : StoredOrganizationMember)
    : (addMemberIfMissing member).Atomic := by
  refine .get_bind fun store => ?_
  split
  · exact .set _
  · exact .throw _

theorem setMemberStatus_atomic (organizationId userId : Uuid) (status : MemberStatus)
    : (setMemberStatus organizationId userId status).Atomic := by
  refine .get_bind fun store => ?_
  split
  · exact .throw _
  · exact .set _

theorem addMemberIfMissing_ok {member : StoredOrganizationMember}
    {store next : OrganizationStore}
    (added : (addMemberIfMissing member).exec store = (.ok (), next))
    : member.organizationId ∈ store.organizationsById
        ∧ next = store.withMember member.organizationId member.userId (store.joined member) := by
  rw [addMemberIfMissing, Eff.exec_get_bind] at added
  split at added
  · next stored =>
      cases added
      exact ⟨stored, rfl⟩
  · cases added

theorem exec_setMemberStatus {organizationId userId : Uuid} (status : MemberStatus)
    {store : OrganizationStore} {member : StoredOrganizationMember}
    (found : store.member? organizationId userId = some member)
    : (setMemberStatus organizationId userId status).exec store
      = (.ok (), store.withMember organizationId userId { member with status := status }) := by
  rw [setMemberStatus, Eff.exec_get_bind, found]
  rfl

theorem setMemberStatus_ok {organizationId userId : Uuid} {status : MemberStatus}
    {store next : OrganizationStore}
    (done : (setMemberStatus organizationId userId status).exec store = (.ok (), next))
    : ∃ member, store.member? organizationId userId = some member
        ∧ next = store.withMember organizationId userId { member with status := status } := by
  rw [setMemberStatus, Eff.exec_get_bind] at done
  split at done
  · cases done
  · next member row =>
      cases done
      exact ⟨member, row, rfl⟩

end OrganizationStore

namespace OrganizationService

theorem getForUser_eq_ok {store : OrganizationStore} {userId organizationId : Uuid}
    {membership : OrganizationMembership}
    : getForUser store userId organizationId = .ok membership
      ↔ store.getForUser userId organizationId = some membership := by
  rw [getForUser]
  split
  · next found => simp [found]
  · next missing => simp [missing]

theorem createWithOptions_atomic (organizationId ownerId : Uuid)
    (name plan deploymentMode primaryRegion : String)
    : (createWithOptions organizationId ownerId name plan deploymentMode
        primaryRegion).Atomic := by
  refine .check_bind fun name => .check_bind fun slug => ?_
  exact (OrganizationStore.createOrganization_atomic _ _).map _

theorem createWithOptions_ok {organizationId ownerId : Uuid}
    {name plan deploymentMode primaryRegion : String} {membership : OrganizationMembership}
    {store next : OrganizationStore}
    (created : (createWithOptions organizationId ownerId name plan deploymentMode
      primaryRegion).exec store = (.ok membership, next))
    : ∃ organization : StoredOrganization, organization.id = organizationId
        ∧ next = store.withOrganization organization
            ⟨organizationId, ownerId, "owner", .active⟩ := by
  obtain ⟨name, _, created⟩ := Eff.exec_check_bind_eq_ok.mp created
  obtain ⟨slug, _, created⟩ := Eff.exec_check_bind_eq_ok.mp created
  obtain ⟨_, middle, stored, created⟩ := Eff.exec_bind_eq_ok.mp created
  cases created
  rw [OrganizationStore.createOrganization, Eff.exec_get_bind] at stored
  split at stored
  · cases stored
  · cases stored
    exact ⟨_, rfl, rfl⟩

theorem provisionTenant_atomic (organizationId ownerId : Uuid)
    (name plan deploymentMode primaryRegion : String)
    : (provisionTenant organizationId ownerId name plan deploymentMode primaryRegion).Atomic :=
  .check_bind fun _ => .check_bind fun _ => .check_bind fun _ =>
    createWithOptions_atomic _ _ _ _ _ _

theorem provisionTenant_ok {organizationId ownerId : Uuid}
    {name plan deploymentMode primaryRegion : String} {membership : OrganizationMembership}
    {store next : OrganizationStore}
    (created : (provisionTenant organizationId ownerId name plan deploymentMode
      primaryRegion).exec store = (.ok membership, next))
    : ∃ organization : StoredOrganization, organization.id = organizationId
        ∧ next = store.withOrganization organization
            ⟨organizationId, ownerId, "owner", .active⟩ := by
  obtain ⟨plan, _, created⟩ := Eff.exec_check_bind_eq_ok.mp created
  obtain ⟨deploymentMode, _, created⟩ := Eff.exec_check_bind_eq_ok.mp created
  obtain ⟨primaryRegion, _, created⟩ := Eff.exec_check_bind_eq_ok.mp created
  exact createWithOptions_ok created

theorem addMemberIfMissing_atomic (organizationId userId : Uuid) (role : String)
    : (addMemberIfMissing organizationId userId role).Atomic :=
  .check_bind fun _ => OrganizationStore.addMemberIfMissing_atomic _

/-- Adding a member leaves an active row. -/
theorem addMemberIfMissing_ok {organizationId userId : Uuid} {role : String}
    {store next : OrganizationStore}
    (added : (addMemberIfMissing organizationId userId role).exec store = (.ok (), next))
    : ∃ member : StoredOrganizationMember, member.status = .active
        ∧ next = store.withMember organizationId userId member := by
  obtain ⟨role, _, added⟩ := Eff.exec_check_bind_eq_ok.mp added
  obtain ⟨_, same⟩ := OrganizationStore.addMemberIfMissing_ok added
  exact ⟨_, OrganizationStore.joined_status store rfl, same⟩

end OrganizationService

end OpenCord.Tenancy
