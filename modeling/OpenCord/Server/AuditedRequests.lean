import OpenCord.Audit.Trails
import OpenCord.Library.Logging
import OpenCord.Server.Escalation
import OpenCord.Server.MessageEndpoints

/-! The endpoints that change who may do what in a space, with the audit events that they record
of it.
-/

namespace OpenCord.Audit

open OpenCord.Library OpenCord.Platform

/-- Whatever is not empty, not too long and trimmed already is a label. -/
def IsLabel (label : String) : Prop :=
  Text.trim label = label ∧ label ≠ "" ∧ label.utf8ByteSize ≤ 120

instance : DecidablePred IsLabel :=
  fun _ => inferInstanceAs (Decidable (_ ∧ _ ∧ _))

def NewAuditEvent.event (input : NewAuditEvent) (eventId : Uuid) (createdAt : String)
    : AuditEvent :=
  ⟨eventId, input.organizationId, input.spaceId, input.actorUserId, input.action,
    input.targetType, input.targetId, input.metadata, createdAt⟩

theorem AuditService.normalizeLabel_of_isLabel {label : String} (isLabel : IsLabel label)
    (message : String)
    : normalizeLabel label message = .ok label := by
  obtain ⟨trimmed, present, short⟩ := isLabel
  rw [normalizeLabel, trimmed, if_neg (by simp [present, short])]

/-- An event with labels is recorded as it is. -/
theorem AuditService.exec_record {input : NewAuditEvent} (action : IsLabel input.action)
    (targetType : IsLabel input.targetType) (eventId : Uuid) (createdAt : String)
    (store : AuditStore)
    : (record eventId createdAt input).exec store
        = (.ok (input.event eventId createdAt),
          store.withEvent (input.event eventId createdAt)) := by
  rw [record, normalizeLabel_of_isLabel action, normalizeLabel_of_isLabel targetType]
  rfl

/-- What the events about access say of their targets. -/
def accessTargetTypes : List String :=
  ["user", "bot_application", "role", "role_assignment", "channel"]

/-- The events about access have labels. -/
theorem isLabel_of_mem
    : ∀ label ∈ AuditEvent.accessActions ++ accessTargetTypes, IsLabel label := by
  decide +kernel

theorem AuditService.exec_record_access {input : NewAuditEvent}
    (action : input.action ∈ AuditEvent.accessActions)
    (targetType : input.targetType ∈ accessTargetTypes) (eventId : Uuid) (createdAt : String)
    (store : AuditStore)
    : (record eventId createdAt input).exec store
        = (.ok (input.event eventId createdAt),
          store.withEvent (input.event eventId createdAt)) :=
  exec_record (isLabel_of_mem _ (List.mem_append_left _ action))
    (isLabel_of_mem _ (List.mem_append_right _ targetType)) eventId createdAt store

end OpenCord.Audit

namespace OpenCord.Server

open OpenCord.Library OpenCord.Platform OpenCord.Auth OpenCord.Tenancy OpenCord.Bots
  OpenCord.Realtime OpenCord.Audit

inductive AuditedError where
  | api (error : ApiError)
  | audit (error : AuditError)

/-- The stores of the server, with the audit events. -/
abbrev AuditedState := AppState × AuditStore

abbrev AuditedHandler (α : Type) := Eff AuditedState AuditedError α

namespace AuditedHandler

def onApp {α : Type} (action : Handler α) : AuditedHandler α :=
  action.besideLog .api

def record (recorded : DrawnRecord) (input : NewAuditEvent) : AuditedHandler AuditEvent :=
  (AuditService.record recorded.id recorded.createdAt input).onLog .audit

end AuditedHandler

variable (crypto : Crypto)

-----------------------------------------------------------------------------------------
-- Endpoints
-----------------------------------------------------------------------------------------

namespace Audited

open AuditedHandler

namespace PermissionController

def memberAdded (space : SpaceMembership) (actorUserId userId : Uuid) (role : String)
    : NewAuditEvent where
  organizationId := space.organizationId
  spaceId := space.id
  actorUserId := actorUserId
  action := "space.member.added"
  targetType := "user"
  targetId := userId
  metadata := .object [("role", .string role)]

def addSpaceMember (stamp : EventStamp) (recorded : DrawnRecord) (joinedAt token : String)
    (spaceId : Uuid) (request : AddSpaceMemberRequest) : AuditedHandler SpaceMembership := do
  let state := (← get).1
  let user ← (state.userForToken crypto token).mapError AuditedError.api
  let space ← (state.spaceForUser user.id spaceId).mapError AuditedError.api
  (state.requireSpace user.id space .inviteMembers).mapError AuditedError.api
  let userId ← (parseUuid request.userId "valid user_id is required").mapError AuditedError.api
  let addedUser := state.auth.findUserById userId
  onApp (Handler.onOrganizations
    (OrganizationService.addMemberIfMissing space.organizationId userId "member"))
  let member ← onApp (Handler.onSpaces
    (SpaceService.addMember space.id userId (request.role.getD "member")))
  let _ ← record recorded (memberAdded space user.id userId member.role)
  onApp (Handler.publish (.space stamp "space.member.added" space.organizationId space.id
    (.object [("member", .object [("guild_id", .string space.id.toString),
      ("user", Server.PermissionController.memberUser userId addedUser), ("roles", .array []),
      ("joined_at", .string joinedAt), ("deaf", .bool false), ("mute", .bool false),
      ("pending", .bool false)])])))
  return member

def memberRemoved (space : SpaceMembership) (actorUserId userId : Uuid) (role : String)
    : NewAuditEvent where
  organizationId := space.organizationId
  spaceId := space.id
  actorUserId := actorUserId
  action := "space.member.removed"
  targetType := "user"
  targetId := userId
  metadata := .object [("role", .string role)]

def removeSpaceMember (stamp : EventStamp) (recorded : DrawnRecord) (token : String)
    (spaceId userId : Uuid) : AuditedHandler Unit := do
  let state := (← get).1
  let user ← (state.userForToken crypto token).mapError AuditedError.api
  let space ← (state.spaceForUser user.id spaceId).mapError AuditedError.api
  (state.requireSpace user.id space .manageSpace).mapError AuditedError.api
  let removedUser := state.auth.findUserById userId
  let removedMember ← onApp (Handler.onSpaces (SpaceService.removeMember space.id userId))
  let _ ← record recorded (memberRemoved space user.id userId removedMember.role)
  onApp (Handler.publish (.space stamp "space.member.removed" space.organizationId space.id
    (.object [("member", .object [("guild_id", .string space.id.toString),
      ("user", Server.PermissionController.memberUser userId removedUser)])])))

def roleCreated (space : SpaceMembership) (actorUserId : Uuid) (role : Role)
    : NewAuditEvent where
  organizationId := space.organizationId
  spaceId := space.id
  actorUserId := actorUserId
  action := "role.created"
  targetType := "role"
  targetId := role.id
  metadata := .object [("name", .string role.name),
    ("permissions", .array ((permissionNames role.permissionsBitset).map .string))]

def createRole (roleId : Uuid) (recorded : DrawnRecord) (token : String) (spaceId : Uuid)
    (request : CreateRoleRequest) : AuditedHandler Role := do
  let state := (← get).1
  let user ← (state.userForToken crypto token).mapError AuditedError.api
  let space ← (state.spaceForUser user.id spaceId).mapError AuditedError.api
  (state.requireSpace user.id space .manageRoles).mapError AuditedError.api
  let role ← onApp (Handler.onPermissions
    (PermissionService.createRole roleId space.organizationId space.id request.name
      request.color request.position request.permissions))
  let _ ← record recorded (roleCreated space user.id role)
  return role

def roleAssigned (space : SpaceMembership) (actorUserId roleId userId : Uuid)
    : NewAuditEvent where
  organizationId := space.organizationId
  spaceId := space.id
  actorUserId := actorUserId
  action := "role.assigned"
  targetType := "role_assignment"
  targetId := userId
  metadata := .object [("role_id", .string roleId.toString),
    ("user_id", .string userId.toString),
    ("assigned_by_user_id", .string actorUserId.toString)]

def assignRole (recorded : DrawnRecord) (token : String) (spaceId roleId : Uuid)
    (userId : String) : AuditedHandler RoleAssignment := do
  let state := (← get).1
  let user ← (state.userForToken crypto token).mapError AuditedError.api
  let space ← (state.spaceForUser user.id spaceId).mapError AuditedError.api
  (state.requireSpace user.id space .manageRoles).mapError AuditedError.api
  let userId ← (parseUuid userId "valid user_id is required").mapError AuditedError.api
  let _ ← (state.spaceForUser userId space.id).mapError AuditedError.api
  let assignment ← onApp (Handler.onPermissions
    (PermissionService.assignRole space.id roleId userId user.id))
  let _ ← record recorded (roleAssigned space user.id roleId userId)
  return assignment

def overrideSet (channel : Channel) (actorUserId : Uuid)
    (permissionOverride : ChannelPermissionOverride) : NewAuditEvent where
  organizationId := channel.organizationId
  spaceId := channel.spaceId
  actorUserId := actorUserId
  action := "channel.permission_override.set"
  targetType := "channel"
  targetId := channel.id
  metadata := .object [("target_kind", .string permissionOverride.targetKind.asStr),
    ("target_id", .string permissionOverride.targetId.toString),
    ("allow", .array ((permissionNames permissionOverride.allowBitset).map .string)),
    ("deny", .array ((permissionNames permissionOverride.denyBitset).map .string))]

def setChannelOverride (stamp : EventStamp) (recorded : DrawnRecord) (token : String)
    (channelId : Uuid) (request : SetChannelPermissionOverrideRequest)
    : AuditedHandler ChannelPermissionOverride := do
  let state := (← get).1
  let user ← (state.userForToken crypto token).mapError AuditedError.api
  let (channel, _) ← (state.enterChannel user.id channelId .manageChannels).mapError
    AuditedError.api
  let targetKind ← ((PermissionTargetKind.parse request.targetKind).mapError
    ApiError.permission).mapError AuditedError.api
  let targetId ← (parseUuid request.targetId "valid target_id is required").mapError
    AuditedError.api
  let permissionOverride ← onApp (Handler.onPermissions
    (PermissionService.setChannelOverride channel.id targetKind targetId request.allow
      request.deny))
  let _ ← record recorded (overrideSet channel user.id permissionOverride)
  match Server.PermissionController.mediaPermissionRevocation stamp channel
    permissionOverride with
  | some event => do
      onApp (Handler.publish event)
      return permissionOverride
  | none => return permissionOverride

end PermissionController

namespace BotController

def botInvited (organizationId spaceId actorUserId : Uuid) (application : BotApplication)
    (role : String) : NewAuditEvent where
  organizationId := organizationId
  spaceId := spaceId
  actorUserId := actorUserId
  action := "bot.invited_to_space"
  targetType := "bot_application"
  targetId := application.id
  metadata := .object [("bot_user_id", .string application.botUserId.toString),
    ("role", .string role)]

def inviteToSpace (stamp : EventStamp) (recorded : DrawnRecord) (joinedAt token : String)
    (organizationId applicationId spaceId : Uuid) (role : Option String)
    : AuditedHandler SpaceMembership := do
  let state := (← get).1
  let user ← (state.userForToken crypto token).mapError AuditedError.api
  let _ ← (state.requireAdmin user.id organizationId).mapError AuditedError.api
  let application ←
    ((BotService.applicationForOrganization state.bots applicationId organizationId).mapError
      ApiError.bot).mapError AuditedError.api
  let space ← (state.spaceForUser user.id spaceId).mapError AuditedError.api
  if space.organizationId ≠ organizationId then
    throw (.api (.bot .notFound))
  else
    onApp (Handler.onOrganizations
      (OrganizationService.addMemberIfMissing organizationId application.botUserId "member"))
    let member ← onApp (Handler.onSpaces
      (SpaceService.addMember space.id application.botUserId (role.getD "member")))
    let _ ← record recorded
      (botInvited organizationId spaceId user.id application member.role)
    onApp (Handler.publish (.space stamp "space.bot.invited" organizationId spaceId
      (.object [
        ("guild", .object [("id", .string space.id.toString), ("name", .string space.name),
          ("unavailable", .bool false)]),
        ("member", .object [("guild_id", .string space.id.toString),
          ("user", .object [("id", .string application.botUserId.toString),
            ("username", .string application.name), ("bot", .bool true)]),
          ("roles", .array []), ("joined_at", .string joinedAt), ("deaf", .bool false),
          ("mute", .bool false), ("pending", .bool false)])])))
    return member

end BotController

end Audited

-----------------------------------------------------------------------------------------
-- What the events tell
-----------------------------------------------------------------------------------------

/-- The stores that decide who may do what are as before. -/
structure AppState.SameStores (before after : AppState) : Prop where
  spaces : after.spaces = before.spaces
  channels : after.channels = before.channels
  permissions : after.permissions = before.permissions

theorem AppState.SameStores.refl (state : AppState) : state.SameStores state :=
  ⟨rfl, rfl, rfl⟩

/-- What a change of access does to the stores. -/
def AppState.ChangedTo (before after : AppState) (spaceId : Uuid) : AccessChange → Prop
  | .joined userId role =>
      ∃ row : StoredSpaceMember, row.role = role ∧ row.status = .active
        ∧ after.spaces = before.spaces.withMember spaceId userId row
        ∧ after.channels = before.channels ∧ after.permissions = before.permissions
  | .left userId =>
      ∃ row : StoredSpaceMember, row.status = .inactive
        ∧ after.spaces = before.spaces.withMember spaceId userId row
        ∧ after.channels = before.channels ∧ after.permissions = before.permissions
  | .roleCreated roleId name permissions =>
      ∃ role : Role, role.id = roleId ∧ role.spaceId = spaceId ∧ role.name = name
        ∧ permissionNames role.permissionsBitset = permissions
        ∧ roleId ∉ before.permissions.rolesById
        ∧ after.spaces = before.spaces ∧ after.channels = before.channels
        ∧ after.permissions = { before.permissions with
            roleIdBySpaceName := before.permissions.roleIdBySpaceName.insert
              (role.spaceId, Text.toAsciiLowercase role.name) role.id
            rolesById := before.permissions.rolesById.insert role.id role }
  | .roleAssigned roleId userId assignedByUserId =>
      (∃ role, before.permissions.rolesById.lookup roleId = some role ∧ role.spaceId = spaceId)
        ∧ after.spaces = before.spaces ∧ after.channels = before.channels
        ∧ after.permissions = { before.permissions with
            assignmentsByRoleUser := before.permissions.assignmentsByRoleUser.insert
              (roleId, userId) ⟨spaceId, roleId, userId, assignedByUserId⟩ }
  | .overridden channelId targetKind targetId allow deny =>
      (∃ channel, before.channels.channelsById.lookup channelId = some channel
          ∧ channel.spaceId = spaceId)
        ∧ after.spaces = before.spaces ∧ after.channels = before.channels
        ∧ ∃ permissionOverride : ChannelPermissionOverride,
            permissionNames permissionOverride.allowBitset = allow
              ∧ permissionNames permissionOverride.denyBitset = deny
              ∧ after.permissions = { before.permissions with
                  overridesByTarget := before.permissions.overridesByTarget.insert
                    (channelId, targetKind, targetId) permissionOverride }

/-- A member of a space may make a change of access. -/
def AppState.MayMake (state : AppState) (userId spaceId : Uuid) : AccessChange → Prop
  | .joined _ _ =>
      state.MayInSpace userId spaceId .inviteMembers ∨ state.AdministersSpace userId spaceId
  | .left _ => state.MayInSpace userId spaceId .manageSpace
  | .roleCreated _ _ _ | .roleAssigned _ _ _ => state.MayInSpace userId spaceId .manageRoles
  | .overridden channelId _ _ _ _ =>
      state.MayInChannel userId spaceId channelId .manageChannels

/-- A request has changed the access to a space, and its event tells of the change and of who
made it.
-/
structure TellsChange (crypto : Crypto) (state : AppState) (request : AppRequest)
    (recorded : DrawnRecord) (last : AppState) (event : AuditEvent) (change : AccessChange)
    : Prop where
  id : event.id = recorded.id
  createdAt : event.createdAt = recorded.createdAt
  told : event.accessChange = some change
  made : request.MadeBy crypto state event.actorUserId
  may : state.MayMake event.actorUserId event.spaceId change
  effect : state.ChangedTo last event.spaceId change

/-- A request has recorded one event, about what it changed. -/
def RecordsChange (crypto : Crypto) (state : AuditedState) (request : AppRequest)
    (recorded : DrawnRecord) (last : AppState) (log : AuditStore) : Prop :=
  ∃ event change, log = state.2.withEvent event
    ∧ TellsChange crypto state.1 request recorded last event change

variable {crypto} {state : AuditedState}

/-- The event of an invited bot tells with which role the bot joined. -/
theorem accessChange_botInvited (organizationId spaceId actorUserId : Uuid)
    (application : BotApplication) (role : String) (eventId : Uuid) (createdAt : String)
    : ((Audited.BotController.botInvited organizationId spaceId actorUserId application
          role).event eventId createdAt).accessChange
        = some (.joined application.botUserId role) := by
  simp [AuditEvent.accessChange, NewAuditEvent.event, Audited.BotController.botInvited,
    AuditEvent.uuidAt, AuditEvent.textAt, Json.asStr, Uuid.parseStr_toString]

theorem accessChange_roleCreated (space : SpaceMembership) (actorUserId : Uuid) (role : Role)
    (eventId : Uuid) (createdAt : String)
    : ((Audited.PermissionController.roleCreated space actorUserId role).event eventId
          createdAt).accessChange
        = some (.roleCreated role.id role.name (permissionNames role.permissionsBitset)) := by
  simp [AuditEvent.accessChange, NewAuditEvent.event, Audited.PermissionController.roleCreated,
    AuditEvent.textsAt, AuditEvent.textAt, Json.asStr, Json.asArray]

theorem accessChange_roleAssigned (space : SpaceMembership) (actorUserId roleId userId : Uuid)
    (eventId : Uuid) (createdAt : String)
    : ((Audited.PermissionController.roleAssigned space actorUserId roleId userId).event eventId
          createdAt).accessChange
        = some (.roleAssigned roleId userId actorUserId) := by
  simp [AuditEvent.accessChange, NewAuditEvent.event, Audited.PermissionController.roleAssigned,
    AuditEvent.uuidAt, AuditEvent.textAt, Json.asStr, Uuid.parseStr_toString]

/-- Kinds, identifiers and names of permissions are read as they were written. -/
theorem accessChange_overrideSet (channel : Channel) (actorUserId : Uuid)
    (permissionOverride : ChannelPermissionOverride) (eventId : Uuid) (createdAt : String)
    : ((Audited.PermissionController.overrideSet channel actorUserId permissionOverride).event
          eventId createdAt).accessChange
        = some (.overridden channel.id permissionOverride.targetKind permissionOverride.targetId
            (permissionNames permissionOverride.allowBitset)
            (permissionNames permissionOverride.denyBitset)) := by
  simp [AuditEvent.accessChange, NewAuditEvent.event, Audited.PermissionController.overrideSet,
    AuditEvent.targetKindAt, AuditEvent.uuidAt, AuditEvent.textsAt, AuditEvent.textAt,
    Json.asStr, Json.asArray, Uuid.parseStr_toString, AuditEvent.parse_asStr, Except.toOption]

/-- An organization gets a member without a change of access to spaces. -/
theorem exec_onOrganizations_sameStores {α : Type} {app middle : AppState}
    {action : Eff OrganizationStore OrganizationError α} {answer : Except ApiError α}
    (ran : (Handler.onOrganizations action).exec app = (answer, middle))
    : app.SameStores middle := by
  obtain rfl : _ = middle := congrArg Prod.snd ran
  exact ⟨rfl, rfl, rfl⟩

/-- Whoever is added to a space has an active row there, with the role that is answered. -/
theorem addMember_joins {spaceId userId : Uuid} {asked : String} {membership : SpaceMembership}
    {store next : SpaceStore}
    (added : (SpaceService.addMember spaceId userId asked).exec store = (.ok membership, next))
    : ∃ row : StoredSpaceMember, row.role = membership.role ∧ row.status = .active
        ∧ next = store.withMember spaceId userId row := by
  obtain ⟨role, _, added⟩ := Eff.exec_check_bind_eq_ok.mp added
  rw [SpaceStore.addMember, Eff.exec_get_bind] at added
  split at added
  · cases added
  · cases added
    refine ⟨_, rfl, ?_, rfl⟩
    rw [SpaceStore.joined]
    split <;> rfl

/-- What does not change the stores on its way is the same up to the change. -/
theorem AppState.SameStores.changedTo {before middle after : AppState}
    (same : before.SameStores middle) {spaceId : Uuid} {change : AccessChange}
    (changed : middle.ChangedTo after spaceId change)
    : before.ChangedTo after spaceId change := by
  obtain ⟨spaces, channels, permissions⟩ := same
  cases change <;> simpa only [AppState.ChangedTo, spaces, channels, permissions] using changed

/-- A user joins an organization and one of its spaces, and an event tells of it. -/
theorem invitation_logs {request : AppRequest} {recorded : DrawnRecord}
    {spaceId memberId actorUserId : Uuid} (input : String → NewAuditEvent)
    (labels : ∀ role, (input role).action ∈ AuditEvent.accessActions
      ∧ (input role).targetType ∈ accessTargetTypes)
    (told : ∀ role, ((input role).event recorded.id recorded.createdAt).accessChange
      = some (.joined memberId role))
    (place : ∀ role, (input role).spaceId = spaceId)
    (actor : ∀ role, (input role).actorUserId = actorUserId)
    (made : request.MadeBy crypto state.1 actorUserId)
    (may : state.1.MayInSpace actorUserId spaceId .inviteMembers
      ∨ state.1.AdministersSpace actorUserId spaceId)
    (organizationId : Uuid) (role : String) (event : RealtimeEvent)
    : Eff.Logs .api state
        (do
          Handler.onOrganizations
            (OrganizationService.addMemberIfMissing organizationId memberId "member")
          let member ← Handler.onSpaces (SpaceService.addMember spaceId memberId role)
          Handler.publish event
          return member : Handler SpaceMembership)
        (do
          AuditedHandler.onApp (Handler.onOrganizations
            (OrganizationService.addMemberIfMissing organizationId memberId "member"))
          let member ← AuditedHandler.onApp (Handler.onSpaces
            (SpaceService.addMember spaceId memberId role))
          let _ ← AuditedHandler.record recorded (input member.role)
          AuditedHandler.onApp (Handler.publish event)
          return member : AuditedHandler SpaceMembership)
        state.1.SameStores (RecordsChange crypto state request recorded) := by
  refine .action_bind (fun _ _ => exec_onOrganizations_sameStores) fun _ middle ran => ?_
  have same := exec_onOrganizations_sameStores ran
  have atomic := SpaceService.addMember_atomic spaceId memberId role
  refine .action_bind (fun error last failed => ?_) fun member last joined => ?_
  · rw [atomic.zoom _ (fun _ => rfl) _ _ _ failed]
    exact same
  · obtain ⟨spaces, added, rfl⟩ := Eff.exec_zoom_eq_ok.mp joined
    obtain ⟨row, given, active, rfl⟩ := addMember_joins added
    have written := AuditService.exec_record_access (labels member.role).1 (labels member.role).2
      recorded.id recorded.createdAt state.2
    refine .note_bind written rfl rfl ⟨_, .joined memberId member.role, rfl, rfl, rfl,
      told member.role, ?_, ?_, same.changedTo ?_⟩
    · rwa [NewAuditEvent.event, actor]
    · rwa [AppState.MayMake, NewAuditEvent.event, actor, place]
    · exact ⟨row, given, active, by rw [NewAuditEvent.event, place], rfl, rfl⟩

theorem addSpaceMember_logs (keyed : state.1.Keyed) (stamp : EventStamp)
    (recorded : DrawnRecord) (joinedAt token : String) (spaceId : Uuid)
    (body : AddSpaceMemberRequest)
    : Eff.Logs .api state
        (PermissionController.addSpaceMember crypto stamp joinedAt token spaceId body)
        (Audited.PermissionController.addSpaceMember crypto stamp recorded joinedAt token
          spaceId body)
        state.1.SameStores
        (RecordsChange crypto state (.addSpaceMember stamp joinedAt token spaceId body)
          recorded) := by
  refine .get_bind ?_
  refine .check_bind (.refl _) fun user known => ?_
  refine .check_bind (.refl _) fun space found => ?_
  refine .check_bind (.refl _) fun _ allowed => ?_
  refine .check_bind (.refl _) fun memberId named => ?_
  obtain ⟨_, rfl, _⟩ := keyed.storedSpace found
  exact invitation_logs (Audited.PermissionController.memberAdded space user.id memberId)
    (fun _ => ⟨List.mem_of_elem_eq_true rfl, List.mem_of_elem_eq_true rfl⟩) (fun _ => rfl)
    (fun _ => rfl) (fun _ => rfl) ⟨token, user, rfl, known, rfl⟩ (.inl ⟨space, found, allowed⟩)
    _ _ _

theorem inviteToSpace_logs (keyed : state.1.Keyed) (stamp : EventStamp)
    (recorded : DrawnRecord) (joinedAt token : String)
    (organizationId applicationId spaceId : Uuid) (role : Option String)
    : Eff.Logs .api state
        (BotController.inviteToSpace crypto stamp joinedAt token organizationId applicationId
          spaceId role)
        (Audited.BotController.inviteToSpace crypto stamp recorded joinedAt token organizationId
          applicationId spaceId role)
        state.1.SameStores
        (RecordsChange crypto state
          (.inviteBotToSpace stamp joinedAt token organizationId applicationId spaceId role)
          recorded) := by
  refine .get_bind ?_
  refine .check_bind (.refl _) fun user known => ?_
  refine .check_bind (.refl _) fun membership admin => ?_
  refine .check_bind (.refl _) fun application selected => ?_
  refine .check_bind (.refl _) fun space found => ?_
  split
  · exact .inl ⟨_, _, rfl, rfl, .refl _⟩
  · next own =>
      obtain rfl : space.organizationId = organizationId := not_not.mp own
      obtain ⟨_, rfl, _⟩ := keyed.storedSpace found
      refine invitation_logs
        (Audited.BotController.botInvited space.organizationId space.id user.id application)
        (fun _ => ⟨List.mem_of_elem_eq_true rfl, List.mem_of_elem_eq_true rfl⟩) (fun role => ?_)
        (fun _ => rfl) (fun _ => rfl) ⟨token, user, rfl, known, rfl⟩
        (.inr ⟨space, membership, found, admin⟩) _ _ _
      exact accessChange_botInvited _ _ _ application role _ _

theorem removeSpaceMember_logs (keyed : state.1.Keyed) (stamp : EventStamp)
    (recorded : DrawnRecord) (token : String) (spaceId memberId : Uuid)
    : Eff.Logs .api state
        (PermissionController.removeSpaceMember crypto stamp token spaceId memberId)
        (Audited.PermissionController.removeSpaceMember crypto stamp recorded token spaceId
          memberId)
        state.1.SameStores
        (RecordsChange crypto state (.removeSpaceMember stamp token spaceId memberId)
          recorded) := by
  refine .get_bind ?_
  refine .check_bind (.refl _) fun user known => ?_
  refine .check_bind (.refl _) fun space found => ?_
  refine .check_bind (.refl _) fun _ allowed => ?_
  obtain ⟨_, rfl, _⟩ := keyed.storedSpace found
  have atomic := SpaceService.removeMember_atomic space.id memberId
  refine .action_bind (fun error last failed => ?_) fun removed last ran => ?_
  · rw [atomic.zoom _ (fun _ => rfl) _ _ _ failed]
    exact .refl _
  · obtain ⟨spaces, done, rfl⟩ := Eff.exec_zoom_eq_ok.mp ran
    obtain ⟨row, stored, rfl⟩ := SpaceService.removeMember_ok done
    exact .note_bind (AuditService.exec_record_access (List.mem_of_elem_eq_true rfl)
      (List.mem_of_elem_eq_true rfl) _ _ _) rfl rfl
      ⟨_, .left memberId, rfl, rfl, rfl, rfl, ⟨token, user, rfl, known, rfl⟩,
        ⟨space, found, allowed⟩, _, rfl, rfl, rfl, rfl⟩

theorem createRole_logs (keyed : state.1.Keyed) {roleId : Uuid}
    (new : roleId ∉ state.1.permissions.rolesById) (recorded : DrawnRecord) (token : String)
    (spaceId : Uuid) (body : CreateRoleRequest)
    : Eff.Logs .api state (PermissionController.createRole crypto roleId token spaceId body)
        (Audited.PermissionController.createRole crypto roleId recorded token spaceId body)
        state.1.SameStores
        (RecordsChange crypto state (.createRole roleId token spaceId body) recorded) := by
  refine .get_bind ?_
  refine .check_bind (.refl _) fun user known => ?_
  refine .check_bind (.refl _) fun space found => ?_
  refine .check_bind (.refl _) fun _ allowed => ?_
  obtain ⟨_, rfl, _⟩ := keyed.storedSpace found
  have atomic := PermissionService.createRole_atomic roleId space.organizationId space.id body.name
    body.color body.position body.permissions
  refine .action_end (fun error last failed => ?_) fun role last ran => ?_
  · rw [atomic.zoom _ (fun _ => rfl) _ _ _ failed]
    exact .refl _
  · obtain ⟨permissions, created, rfl⟩ := Eff.exec_zoom_eq_ok.mp ran
    obtain ⟨rfl, ofSpace, _, rfl⟩ := PermissionService.createRole_ok created
    exact .note_bind (AuditService.exec_record_access (List.mem_of_elem_eq_true rfl)
      (List.mem_of_elem_eq_true rfl) _ _ _) rfl rfl
      ⟨_, .roleCreated role.id role.name (permissionNames role.permissionsBitset), rfl, rfl, rfl,
        accessChange_roleCreated _ _ role _ _, ⟨token, user, rfl, known, rfl⟩,
        ⟨space, found, allowed⟩, role, rfl, ofSpace, rfl, rfl, new, rfl, rfl, rfl⟩

theorem assignRole_logs (keyed : state.1.Keyed) (recorded : DrawnRecord) (token : String)
    (spaceId roleId : Uuid) (memberId : String)
    : Eff.Logs .api state (PermissionController.assignRole crypto token spaceId roleId memberId)
        (Audited.PermissionController.assignRole crypto recorded token spaceId roleId memberId)
        state.1.SameStores
        (RecordsChange crypto state (.assignRole token spaceId roleId memberId) recorded) := by
  refine .get_bind ?_
  refine .check_bind (.refl _) fun user known => ?_
  refine .check_bind (.refl _) fun space found => ?_
  refine .check_bind (.refl _) fun _ allowed => ?_
  refine .check_bind (.refl _) fun memberId named => ?_
  refine .check_bind (.refl _) fun _ _ => ?_
  obtain ⟨_, rfl, _⟩ := keyed.storedSpace found
  have atomic := PermissionService.assignRole_atomic space.id roleId memberId user.id
  refine .action_end (fun error last failed => ?_) fun assignment last ran => ?_
  · rw [atomic.zoom _ (fun _ => rfl) _ _ _ failed]
    exact .refl _
  · obtain ⟨permissions, assigned, rfl⟩ := Eff.exec_zoom_eq_ok.mp ran
    obtain ⟨rfl, known', rfl⟩ := PermissionService.assignRole_ok assigned
    exact .note_bind (AuditService.exec_record_access (List.mem_of_elem_eq_true rfl)
      (List.mem_of_elem_eq_true rfl) _ _ _) rfl rfl
      ⟨_, .roleAssigned roleId memberId user.id, rfl, rfl, rfl,
        accessChange_roleAssigned _ user.id roleId memberId _ _, ⟨token, user, rfl, known, rfl⟩,
        ⟨space, found, allowed⟩, known', rfl, rfl, rfl⟩

theorem setChannelOverride_logs (keyed : state.1.Keyed) (stamp : EventStamp)
    (recorded : DrawnRecord) (token : String) (channelId : Uuid)
    (body : SetChannelPermissionOverrideRequest)
    : Eff.Logs .api state
        (PermissionController.setChannelOverride crypto stamp token channelId body)
        (Audited.PermissionController.setChannelOverride crypto stamp recorded token channelId
          body)
        state.1.SameStores
        (RecordsChange crypto state (.setChannelOverride stamp token channelId body)
          recorded) := by
  refine .get_bind ?_
  refine .check_bind (.refl _) fun user known => ?_
  refine .check_bind (.refl _) fun (channel, space) entered => ?_
  refine .check_bind (.refl _) fun targetKind kind => ?_
  refine .check_bind (.refl _) fun targetId target => ?_
  obtain ⟨rfl, may⟩ := AccessWrite.mayInChannel_of_enterChannel keyed entered
  have atomic := PermissionService.setChannelOverride_atomic channel.id targetKind targetId
    body.allow body.deny
  refine .action_bind (fun error last failed => ?_) fun permissionOverride last ran => ?_
  · rw [atomic.zoom _ (fun _ => rfl) _ _ _ failed]
    exact .refl _
  · obtain ⟨permissions, written, rfl⟩ := Eff.exec_zoom_eq_ok.mp ran
    obtain ⟨inChannel, rfl, rfl, _, rfl⟩ := PermissionService.setChannelOverride_ok written
    let input := Audited.PermissionController.overrideSet channel user.id permissionOverride
    have noted (last : AppState) (spaces : last.spaces = state.1.spaces)
        (channels : last.channels = state.1.channels)
        (permissions : last.permissions = { state.1.permissions with
          overridesByTarget := state.1.permissions.overridesByTarget.insert
            (permissionOverride.channelId, permissionOverride.targetKind,
              permissionOverride.targetId) permissionOverride }) :
        RecordsChange crypto state (.setChannelOverride stamp token channel.id body) recorded last
          (state.2.withEvent (input.event recorded.id recorded.createdAt)) := by
      rw [inChannel] at permissions
      exact ⟨_, _, rfl, rfl, rfl, accessChange_overrideSet channel user.id permissionOverride _ _,
        ⟨token, user, rfl, known, rfl⟩, may, ⟨channel, (enterChannel_ok entered).1, rfl⟩, spaces,
        channels, permissionOverride, rfl, rfl, permissions⟩
    have written := @AuditService.exec_record_access input (List.mem_of_elem_eq_true rfl)
      (List.mem_of_elem_eq_true rfl) recorded.id recorded.createdAt state.2
    cases revokes : PermissionController.mediaPermissionRevocation stamp channel
      permissionOverride with
    | some event => exact .note_bind written rfl rfl (noted _ rfl rfl rfl)
    | none => exact .note_bind written rfl rfl (noted _ rfl rfl rfl)

-----------------------------------------------------------------------------------------
-- Requests
-----------------------------------------------------------------------------------------

/-- The requests that record events themselves. -/
def AppRequest.IsAudited : AppRequest → Prop
  | .addSpaceMember .. | .removeSpaceMember .. | .createRole .. | .assignRole ..
  | .setChannelOverride .. | .inviteBotToSpace .. => True
  | _ => False

/-- What a request leaves on a server with audit events. -/
def AppRequest.performAudited (crypto : Crypto) (recorded : DrawnRecord) (state : AuditedState)
    : AppRequest → AuditedState
  | .addSpaceMember stamp joinedAt token spaceId body =>
      (Audited.PermissionController.addSpaceMember crypto stamp recorded joinedAt token spaceId
        body).after state
  | .removeSpaceMember stamp token spaceId userId =>
      (Audited.PermissionController.removeSpaceMember crypto stamp recorded token spaceId
        userId).after state
  | .createRole roleId token spaceId body =>
      (Audited.PermissionController.createRole crypto roleId recorded token spaceId body).after
        state
  | .assignRole token spaceId roleId userId =>
      (Audited.PermissionController.assignRole crypto recorded token spaceId roleId
        userId).after state
  | .setChannelOverride stamp token channelId body =>
      (Audited.PermissionController.setChannelOverride crypto stamp recorded token channelId
        body).after state
  | .inviteBotToSpace stamp joinedAt token organizationId applicationId spaceId role =>
      (Audited.BotController.inviteToSpace crypto stamp recorded joinedAt token organizationId
        applicationId spaceId role).after state
  | request => (request.perform crypto state.1, state.2)

/-- The other requests are performed as without audit events. -/
theorem AppRequest.performAudited_of_unaudited (recorded : DrawnRecord) {request : AppRequest}
    (unaudited : ¬ request.IsAudited)
    : request.performAudited crypto recorded state
        = (request.perform crypto state.1, state.2) := by
  unfold performAudited
  split
  case h_7 => rfl
  all_goals exact absurd trivial unaudited

/-- A request does what it does without audit events. It records an event if it changes the
access to a space, by cases of the requests.
-/
theorem AppRequest.performAudited_cases (keyed : state.1.Keyed) (recorded : DrawnRecord)
    {request : AppRequest} (draws : request.DrawsNewRole state.1)
    : (request.performAudited crypto recorded state).1 = request.perform crypto state.1
        ∧ ((request.performAudited crypto recorded state).2 = state.2
            ∧ (¬ request.IsAudited ∨ state.1.SameStores (request.perform crypto state.1))
          ∨ RecordsChange crypto state request recorded (request.perform crypto state.1)
              (request.performAudited crypto recorded state).2) := by
  have logged {α : Type} {plain : Handler α} {audited : AuditedHandler α}
      (logs : Eff.Logs .api state plain audited state.1.SameStores
        (RecordsChange crypto state request recorded)) :
      (audited.after state).1 = plain.after state.1
        ∧ ((audited.after state).2 = state.2
            ∧ (¬ request.IsAudited ∨ state.1.SameStores (plain.after state.1))
          ∨ RecordsChange crypto state request recorded (plain.after state.1)
              (audited.after state).2) := by
    obtain ⟨same, outcome⟩ := logs.after
    exact ⟨same, outcome.imp_left fun ⟨log, kept⟩ => ⟨log, .inr kept⟩⟩
  by_cases unaudited : ¬ request.IsAudited
  · rw [performAudited_of_unaudited recorded unaudited]
    exact ⟨rfl, .inl ⟨rfl, .inl unaudited⟩⟩
  have audited : request.IsAudited := not_not.mp unaudited
  cases request with
  | addSpaceMember stamp joinedAt token spaceId body =>
      exact logged (addSpaceMember_logs keyed stamp recorded joinedAt token spaceId body)
  | removeSpaceMember stamp token spaceId memberId =>
      exact logged (removeSpaceMember_logs keyed stamp recorded token spaceId memberId)
  | createRole roleId token spaceId body =>
      exact logged (createRole_logs keyed draws recorded token spaceId body)
  | assignRole token spaceId roleId memberId =>
      exact logged (assignRole_logs keyed recorded token spaceId roleId memberId)
  | setChannelOverride stamp token channelId body =>
      exact logged (setChannelOverride_logs keyed stamp recorded token channelId body)
  | inviteBotToSpace stamp joinedAt token organizationId applicationId spaceId role =>
      exact logged (inviteToSpace_logs keyed stamp recorded joinedAt token organizationId
        applicationId spaceId role)
  | _ => exact audited.elim

end OpenCord.Server
