import OpenCord.Server.RequestWrites

/-! Runs of SCIM operations. Each writes the status of one membership and the record of one
external identifier; other records of the same account keep what they say.
-/

namespace OpenCord.Server

open OpenCord.Library OpenCord.Platform OpenCord.Auth OpenCord.Tenancy

variable {crypto : Crypto}

/-- The operations of the SCIM service that write, with what they draw at random. -/
inductive ScimOperation where
  | rotateToken (organizationId : Uuid) (token : String)
  | provisionUser (userId scimUserId : Uuid) (token : String) (input : ProvisionScimUserInput)
  | setUserActive (token externalId : String) (active : Bool)

/-- What an operation decides about one external identifier and its account. -/
structure ScimTarget where
  organizationId : Uuid
  externalId : String
  userId : Uuid
  active : Bool

/-- The records of all organizations. -/
def AppState.scimUsers (state : AppState) : List StoredScimUser :=
  state.scim.usersByOrganizationExternalId.values

namespace ScimOperation

/-- The identifier of a new account is new. -/
def Admissible (state : AppState) : ScimOperation → Prop
  | .provisionUser userId _ _ _ => ∀ record ∈ state.scimUsers, record.userId ≠ userId
  | _ => True

instance (state : AppState) (operation : ScimOperation)
    : Decidable (operation.Admissible state) := by
  cases operation <;> unfold Admissible <;> infer_instance

/-- The state after an operation, whether or not it succeeds. -/
def perform (crypto : Crypto) (state : AppState) : ScimOperation → AppState
  | .rotateToken organizationId token =>
      (ScimService.rotateToken crypto organizationId token).after state
  | .provisionUser userId scimUserId token input =>
      (ScimService.provisionUser crypto userId scimUserId token input).after state
  | .setUserActive token externalId active =>
      (ScimService.setUserActive crypto token externalId active).after state

def step (crypto : Crypto) (state : AppState) (operation : ScimOperation) : Option AppState :=
  if operation.Admissible state then some (operation.perform crypto state) else none

/-- What an operation is about: for a provisioning request the account of the user name, for
a change of the status the account of the record. None, where its checks fail.
-/
def target (crypto : Crypto) (state : AppState) : ScimOperation → Option ScimTarget
  | .rotateToken _ _ => none
  | .provisionUser userId _ token input => do
      let checked ← (ScimService.checkProvision crypto state token input).toOption
      if checked.organizationId ∈ state.organizations.organizationsById then
        some ⟨checked.organizationId, checked.externalId,
          (ScimService.provisionedUser crypto state userId checked).id, input.active⟩
      else
        none
  | .setUserActive token externalId active => do
      let config ← (Tenancy.ScimService.configForToken crypto state.scim token).toOption
      let externalId ← (Tenancy.ScimService.normalizeExternalId externalId).toOption
      let record ← state.scim.userByExternalId config.organizationId externalId
      some ⟨config.organizationId, externalId, record.userId, active⟩

end ScimOperation

namespace AppState

/-- A record says that its user is active exactly when the membership is. -/
def ScimAgrees (state : AppState) : Prop :=
  ∀ record ∈ state.scimUsers,
    record.active = true ↔ state.organizations.ActiveMember record.organizationId record.userId

/-- The other records of the account in the organization say what the target decides. -/
def OthersAgree (state : AppState) (target : ScimTarget) : Prop :=
  ∀ record ∈ state.scimUsers,
    record.organizationId = target.organizationId → record.userId = target.userId →
      record.externalId ≠ target.externalId → record.active = target.active

instance (state : AppState) (target : ScimTarget) : Decidable (state.OthersAgree target) :=
  inferInstanceAs (Decidable (∀ record ∈ state.scimUsers, _))

/-- An operation changes no status that another record of its account reports. -/
def KeepsOthers (crypto : Crypto) (state : AppState) (operation : ScimOperation) : Prop :=
  ∀ target ∈ operation.target crypto state, state.OthersAgree target

instance (crypto : Crypto) (state : AppState) (operation : ScimOperation)
    : Decidable (state.KeepsOthers crypto operation) :=
  inferInstanceAs (Decidable (∀ target ∈ operation.target crypto state, _))

/-- Records lie under their organization and external identifier, and their users have rows
in the organization.
-/
structure ScimSound (state : AppState) : Prop where
  keyed : ∀ key record, state.scim.usersByOrganizationExternalId.lookup key = some record →
    (record.organizationId, record.externalId) = key
  rows : ∀ record ∈ state.scimUsers,
    ∃ member, state.organizations.member? record.organizationId record.userId = some member

theorem ScimSound.mem_scimUsers {state : AppState} (sound : state.ScimSound)
    {record : StoredScimUser}
    : record ∈ state.scimUsers
      ↔ state.scim.userByExternalId record.organizationId record.externalId = some record := by
  refine Table.mem_values.trans ⟨fun found => ?_, fun found => ⟨_, found⟩⟩
  obtain ⟨key, found⟩ := found
  have same := sound.keyed key record found
  rw [← same] at found
  exact found

end AppState

/-- The two writes of an operation that decides about a target. -/
structure ScimTarget.Written (target : ScimTarget) (before after : AppState) : Prop where
  record : ∃ record : StoredScimUser,
    (record.organizationId, record.externalId) = (target.organizationId, target.externalId)
      ∧ record.userId = target.userId ∧ record.active = target.active
      ∧ ∀ key, after.scim.usersByOrganizationExternalId.lookup key
          = if key = (target.organizationId, target.externalId) then some record
            else before.scim.usersByOrganizationExternalId.lookup key
  member : ∃ member : StoredOrganizationMember, member.status = statusFor target.active
    ∧ after.organizations
        = before.organizations.withMember target.organizationId target.userId member

/-- Neither a record nor a membership changes. -/
structure ScimUntouched (before after : AppState) : Prop where
  records : after.scim.usersByOrganizationExternalId = before.scim.usersByOrganizationExternalId
  organizations : after.organizations = before.organizations

namespace AppState

theorem ScimSound.untouched {before after : AppState} (sound : before.ScimSound)
    (untouched : ScimUntouched before after)
    : after.ScimSound := by
  refine ⟨?_, ?_⟩
  · rw [untouched.records]
    exact sound.keyed
  · rw [scimUsers, untouched.records, untouched.organizations]
    exact sound.rows

theorem scimAgrees_untouched {before after : AppState} (untouched : ScimUntouched before after)
    : after.ScimAgrees ↔ before.ScimAgrees := by
  rw [ScimAgrees, ScimAgrees, scimUsers, untouched.records, untouched.organizations]
  rfl

/-- A membership is active after a write exactly as it says, and others as before. -/
theorem activeMember_withMember_iff (store : OrganizationStore)
    (organizationId userId organization user : Uuid) (member : StoredOrganizationMember)
    : (store.withMember organizationId userId member).ActiveMember organization user
      ↔ if (organization, user) = (organizationId, userId) then member.status = .active
        else store.ActiveMember organization user := by
  rw [OrganizationStore.ActiveMember, OrganizationStore.member?_withMember]
  split
  · constructor
    · intro found
      obtain ⟨row, same, active⟩ := found
      cases same
      exact active
    · exact fun active => ⟨member, rfl, active⟩
  · rfl

/-- After the writes the target's record is the written one, and the others are as before. -/
theorem ScimSound.mem_written {before after : AppState} {target : ScimTarget}
    (sound : before.ScimSound) {written : StoredScimUser}
    (records : ∀ key, after.scim.usersByOrganizationExternalId.lookup key
      = if key = (target.organizationId, target.externalId) then some written
        else before.scim.usersByOrganizationExternalId.lookup key)
    (record : StoredScimUser)
    : record ∈ after.scimUsers
      ↔ record = written
        ∨ record ∈ before.scimUsers
          ∧ (record.organizationId, record.externalId)
            ≠ (target.organizationId, target.externalId) := by
  constructor
  · intro mem
    obtain ⟨other, found⟩ := Table.mem_values.mp mem
    rw [records] at found
    split at found
    · exact .inl (Option.some.inj found).symm
    · next differs =>
        refine .inr ⟨Table.mem_values.mpr ⟨other, found⟩, ?_⟩
        rw [sound.keyed other record found]
        exact differs
  · intro found
    rcases found with same | ⟨mem, differs⟩
    · refine Table.mem_values.mpr ⟨(target.organizationId, target.externalId), ?_⟩
      rw [records, if_pos rfl, same]
    · refine Table.mem_values.mpr ⟨(record.organizationId, record.externalId), ?_⟩
      rw [records, if_neg differs]
      exact sound.mem_scimUsers.mp mem

theorem ScimSound.written {before after : AppState} {target : ScimTarget}
    (sound : before.ScimSound) (written : target.Written before after)
    : after.ScimSound := by
  obtain ⟨record, key, user, _, records⟩ := written.record
  obtain ⟨member, _, organizations⟩ := written.member
  refine ⟨fun other stored found => ?_, fun stored mem => ?_⟩
  · rw [records] at found
    split at found
    · next same =>
        cases found
        rw [key, same]
    · exact sound.keyed other stored found
  · rw [organizations, OrganizationStore.member?_withMember]
    split
    · exact ⟨member, rfl⟩
    · next differs =>
        rcases (sound.mem_written records stored).mp mem with same | ⟨mem, _⟩
        · rw [same, (Prod.mk.inj key).1, user] at differs
          exact absurd rfl differs
        · exact sound.rows stored mem

/-- After the writes the records agree exactly when the other records of the account did. -/
theorem scimAgrees_written {before after : AppState} {target : ScimTarget}
    (sound : before.ScimSound) (agrees : before.ScimAgrees)
    (written : target.Written before after)
    : after.ScimAgrees ↔ before.OthersAgree target := by
  obtain ⟨record, key, user, active, records⟩ := written.record
  obtain ⟨member, status, organizations⟩ := written.member
  have mem := sound.mem_written records
  have isActive : member.status = .active ↔ target.active = true := by
    rw [status]
    cases target.active <;> simp [statusFor]
  have rows : ∀ organizationId userId,
      after.organizations.ActiveMember organizationId userId
        ↔ if (organizationId, userId) = (target.organizationId, target.userId)
          then target.active = true
          else before.organizations.ActiveMember organizationId userId := by
    intro organizationId userId
    rw [organizations, activeMember_withMember_iff]
    split
    · exact isActive
    · rfl
  constructor
  · intro agreed other stored organization account differs
    have listed : other ∈ after.scimUsers := by
      refine (mem other).mpr (.inr ⟨stored, fun same => differs (Prod.mk.inj same).2⟩)
    have reports := agreed other listed
    rw [rows, if_pos (by rw [organization, account])] at reports
    exact Bool.eq_iff_iff.mpr reports
  · intro others other listed
    rw [rows]
    rcases (mem other).mp listed with same | ⟨stored, differs⟩
    · rw [same, if_pos (by rw [(Prod.mk.inj key).1, user]), active]
    · split
      · next account =>
          obtain ⟨organization, account⟩ := Prod.mk.inj account
          rw [others other stored organization account]
          intro same
          exact differs (by rw [organization, same])
      · exact agrees other stored

end AppState

/-- A record and a membership, written one after the other. -/
def AppState.withScim (state : AppState) (target : ScimTarget) (record : StoredScimUser)
    (member : StoredOrganizationMember) : AppState :=
  { state with
    scim := { state.scim with
      usersByOrganizationExternalId := state.scim.usersByOrganizationExternalId.insert
        (target.organizationId, target.externalId) record }
    organizations := state.organizations.withMember target.organizationId target.userId member }

/-- The two writes decide about the target, if they say so. -/
theorem ScimTarget.written_withScim {state : AppState} {target : ScimTarget}
    {record : StoredScimUser} {member : StoredOrganizationMember}
    (key : (record.organizationId, record.externalId)
      = (target.organizationId, target.externalId))
    (user : record.userId = target.userId) (active : record.active = target.active)
    (status : member.status = statusFor target.active)
    : target.Written state (state.withScim target record member) :=
  ⟨⟨record, key, user, active, fun _ => Table.lookup_insert_eq ..⟩, member, status, rfl⟩

namespace ScimOperation

/-- An operation decides about its target, or is refused. -/
inductive Effect (crypto : Crypto) (state : AppState) (operation : ScimOperation)
    (after : AppState) : Prop where
  | refused (untouched : ScimUntouched state after) (keeps : state.KeepsOthers crypto operation)
  | written (about : ScimTarget) (known : operation.target crypto state = some about)
      (written : about.Written state after)

theorem Effect.of_no_target {state after : AppState} {operation : ScimOperation}
    (missing : operation.target crypto state = none) (untouched : ScimUntouched state after)
    : Effect crypto state operation after := by
  refine .refused untouched ?_
  rw [AppState.KeepsOthers, missing]
  nofun

/-- Changing the status of a record changes its membership, which has a row. -/
theorem perform_setUserActive {state : AppState} {token externalId key : String} {active : Bool}
    {config : StoredScimToken} {record : StoredScimUser} {member : StoredOrganizationMember}
    (configured : Tenancy.ScimService.configForToken crypto state.scim token = .ok config)
    (normalized : Tenancy.ScimService.normalizeExternalId externalId = .ok key)
    (found : state.scim.userByExternalId config.organizationId key = some record)
    (row : state.organizations.member? config.organizationId record.userId = some member)
    : perform crypto state (.setUserActive token externalId active)
      = state.withScim ⟨config.organizationId, key, record.userId, active⟩
          { record with active := active } { member with status := statusFor active } := by
  rw [perform, ScimService.setUserActive, Eff.after_get_bind, configured, normalized]
  have changed : (Handler.onScim
      (ScimStore.setUserActive config.organizationId key active)).exec state = _ :=
    Eff.exec_zoom_eq_ok.mpr ⟨_, ScimStore.exec_setUserActive active found, rfl⟩
  have sets : ∀ scim, (Handler.onScimOrganizations (OrganizationStore.setMemberStatus
      config.organizationId record.userId (statusFor active))).exec { state with scim := scim }
        = (.ok (), { state with
            scim := scim
            organizations := state.organizations.withMember config.organizationId
              record.userId { member with status := statusFor active } }) :=
    fun _ => Eff.exec_zoom_eq_ok.mpr ⟨_, OrganizationStore.exec_setMemberStatus _ row, rfl⟩
  exact (Eff.after_bind_of_ok changed).trans (Eff.after_bind_of_ok (sets _))

/-- A change of the status is refused, or written to the record and the membership. -/
theorem setUserActive_effect {state : AppState} (sound : state.ScimSound)
    (token externalId : String) (active : Bool)
    : Effect crypto state (.setUserActive token externalId active)
        (perform crypto state (.setUserActive token externalId active)) := by
  cases known : target crypto state (.setUserActive token externalId active) with
  | none =>
      apply Effect.of_no_target known
      have same : ScimUntouched state state := ⟨rfl, rfl⟩
      rw [perform, ScimService.setUserActive, Eff.after_get_bind]
      refine Eff.after_check_bind same fun config configured => ?_
      refine Eff.after_check_bind same fun key normalized => ?_
      have atomic := ScimStore.setUserActive_atomic config.organizationId key active
      refine Eff.after_atomic_bind (atomic.zoom _ fun _ => rfl) same fun user middle ran => ?_
      obtain ⟨scim, changed, _⟩ := Eff.exec_zoom_eq_ok.mp ran
      obtain ⟨record, found, _⟩ := ScimStore.setUserActive_ok changed
      simp only [target, Eff.mapError_eq_ok.mp configured, Eff.mapError_eq_ok.mp normalized,
        found, Except.toOption, bind, Option.bind, reduceCtorEq] at known
  | some about =>
      apply Effect.written about known
      obtain ⟨config, configured, known⟩ := Option.bind_eq_some_iff.mp known
      obtain ⟨key, normalized, known⟩ := Option.bind_eq_some_iff.mp known
      obtain ⟨record, found, known⟩ := Option.bind_eq_some_iff.mp known
      cases known
      obtain ⟨member, row⟩ := sound.rows record (Table.mem_values.mpr ⟨_, found⟩)
      have sameKey := sound.keyed _ record found
      rw [(Prod.mk.inj sameKey).1] at row
      rw [perform_setUserActive (Eff.toOption_eq_some.mp configured)
        (Eff.toOption_eq_some.mp normalized) found row]
      exact ScimTarget.written_withScim sameKey rfl rfl rfl

/-- What a provisioning request is about, once its checks have passed. -/
theorem target_provisionUser {state : AppState} {userId scimUserId : Uuid} {token : String}
    {input : ProvisionScimUserInput} {checked : ScimService.CheckedProvision}
    (passed : ScimService.checkProvision crypto state token input = .ok checked)
    : target crypto state (.provisionUser userId scimUserId token input)
      = if checked.organizationId ∈ state.organizations.organizationsById then
          some ⟨checked.organizationId, checked.externalId,
            (ScimService.provisionedUser crypto state userId checked).id, input.active⟩
        else
          none := by
  rw [target, passed]
  rfl

/-- Only the account of a provisioned user that is new can fail to be created. -/
theorem provisionedUser_of_failed {state middle : AppState} {userId : Uuid}
    {checked : ScimService.CheckedProvision} {error : ApiError}
    (failed : (ScimService.createProvisionedUser crypto userId checked).exec state
      = (.error error, middle))
    : (ScimService.provisionedUser crypto state userId checked).id = userId := by
  rw [ScimService.createProvisionedUser, Eff.exec_get_bind] at failed
  rw [ScimService.provisionedUser]
  cases found : state.auth.findUserByEmail checked.userName with
  | none => rfl
  | some existing =>
      simp only [found] at failed
      cases failed

/-- With its account, and in a known organization, a user is provisioned by two writes. -/
theorem written_of_account {state : AppState} (sound : state.ScimSound) (userId scimUserId : Uuid)
    (checked : ScimService.CheckedProvision) (active : Bool) (auth : AuthStore)
    (stored : checked.organizationId ∈ state.organizations.organizationsById)
    : ScimTarget.Written ⟨checked.organizationId, checked.externalId, userId, active⟩ state
        (Eff.after
          (do
            Handler.onScimOrganizations
              (ScimService.provisionMembership checked.organizationId userId active)
            Handler.onScim (ScimStore.upsertUser
              ⟨scimUserId, checked.organizationId, userId, checked.externalId,
                checked.userName, checked.displayName, active⟩))
          { state with auth := auth }) := by
  obtain ⟨member, status, provisioned⟩ := exec_provisionMembership userId active stored
  have joins : (Handler.onScimOrganizations (ScimService.provisionMembership
      checked.organizationId userId active)).exec { state with auth := auth } = _ :=
    Eff.exec_zoom_eq_ok.mpr ⟨_, provisioned, rfl⟩
  rw [Eff.after_bind_of_ok joins]
  obtain ⟨key, sameUser, sameActive⟩ := @ScimStore.merged_fields state.scim
    ⟨scimUserId, checked.organizationId, userId, checked.externalId, checked.userName,
      checked.displayName, active⟩ sound.keyed
  exact ⟨⟨_, key, sameUser, sameActive, fun _ => Table.lookup_insert_eq ..⟩, member, status, rfl⟩

/-- A provisioning request is written as it says, unless its checks fail, its organization is
unknown or its new account is refused.
-/
theorem provisionUser_effect {state : AppState} (sound : state.ScimSound)
    {userId scimUserId : Uuid} {token : String} {input : ProvisionScimUserInput}
    (admissible : Admissible state (.provisionUser userId scimUserId token input))
    : Effect crypto state (.provisionUser userId scimUserId token input)
        (perform crypto state (.provisionUser userId scimUserId token input)) := by
  rw [perform, ScimService.provisionUser, Eff.after_get_bind]
  cases passed : ScimService.checkProvision crypto state token input with
  | error error =>
      refine .of_no_target ?_ ⟨rfl, rfl⟩
      rw [target, passed]
      rfl
  | ok checked =>
      have known : target crypto state (.provisionUser userId scimUserId token input) = _ :=
        target_provisionUser passed
      change Effect crypto state _
        (Eff.after (ScimService.createProvisionedUser crypto userId checked >>= _) state)
      refine Eff.after_bind (fun error middle failed => ?_) (fun user middle ran => ?_)
      · obtain ⟨⟨auth, rfl⟩, _⟩ := createProvisionedUser_exec failed
        refine .refused ⟨rfl, rfl⟩ fun about decided record stored _ account _ => ?_
        rw [known, provisionedUser_of_failed failed] at decided
        split at decided
        · cases decided
          exact absurd account (admissible record stored)
        · cases decided
      · obtain ⟨⟨auth, rfl⟩, same⟩ := createProvisionedUser_exec ran
        cases same user rfl
        split at known
        · next stored =>
            exact .written _ known
              (written_of_account sound _ scimUserId checked input.active auth stored)
        · next missing =>
            refine .of_no_target known ?_
            have refused (userId : Uuid) : (Handler.onScimOrganizations
                (ScimService.provisionMembership checked.organizationId userId
                  input.active)).exec { state with auth := auth } = _ :=
              Eff.exec_zoom_of_error
                (exec_provisionMembership_of_missing userId input.active missing)
            rw [Eff.after_bind_of_error (refused _)]
            exact ⟨rfl, rfl⟩

theorem perform_effect {state : AppState} (sound : state.ScimSound) {operation : ScimOperation}
    (admissible : operation.Admissible state)
    : Effect crypto state operation (operation.perform crypto state) := by
  cases operation with
  | rotateToken organizationId token => exact .of_no_target rfl ⟨rfl, rfl⟩
  | provisionUser userId scimUserId token input => exact provisionUser_effect sound admissible
  | setUserActive token externalId active =>
      exact setUserActive_effect sound token externalId active

end ScimOperation

namespace AppState

theorem ScimSound.step {state next : AppState} (sound : state.ScimSound)
    {operation : ScimOperation} (stepped : operation.step crypto state = some next)
    : next.ScimSound := by
  rw [ScimOperation.step] at stepped
  split at stepped
  · next admissible =>
      cases stepped
      cases ScimOperation.perform_effect sound admissible with
      | refused untouched _ => exact sound.untouched untouched
      | written about _ written => exact sound.written written
  · cases stepped

/-- An operation keeps records and memberships in agreement exactly when it changes no status
that another record reports.
-/
theorem scimAgrees_step {state next : AppState} (sound : state.ScimSound)
    (agrees : state.ScimAgrees) {operation : ScimOperation}
    (stepped : operation.step crypto state = some next)
    : next.ScimAgrees ↔ state.KeepsOthers crypto operation := by
  rw [ScimOperation.step] at stepped
  split at stepped
  · next admissible =>
      cases stepped
      cases ScimOperation.perform_effect sound admissible with
      | refused untouched keeps =>
          exact iff_of_true ((scimAgrees_untouched untouched).mpr agrees) keeps
      | written about known written =>
          refine (scimAgrees_written sound agrees written).trans ?_
          rw [KeepsOthers, known]
          simp only [Option.mem_some_iff, forall_eq']
  · cases stepped

/-- Along any SCIM operations from an empty SCIM store, records and memberships agree exactly
when no operation changes a status that another record of the account reports.
-/
theorem scimAgrees_iff_keepsOthers {start last : AppState} {operations : List ScimOperation}
    (empty : start.scim = .empty)
    (ran : run (ScimOperation.step crypto) start operations = some last)
    : Always (ScimOperation.step crypto) ScimAgrees start operations
      ↔ Allowed (ScimOperation.step crypto) (KeepsOthers crypto) start operations := by
  have nothing : start.scimUsers = [] := by
    rw [scimUsers, empty]
    rfl
  refine @always_iff_allowed _ _ _ (KeepsOthers crypto) ScimSound ScimAgrees ?_ ?_ _ _ _
    ⟨?_, ?_⟩ ?_ ran
  · intro state operation next sound _ stepped _
    exact sound.step stepped
  · intro state operation next sound agrees stepped
    exact scimAgrees_step sound agrees stepped
  · rw [empty]
    nofun
  · rw [nothing]
    nofun
  · rw [ScimAgrees, nothing]
    nofun

end AppState

namespace Acme

/-- Acme with its owner Alice, before any SCIM operation. -/
def founded : AppState :=
  { AppState.empty with
    organizations := OrganizationStore.empty.withOrganization
      ⟨id, "acme", "Acme", "free", "self_hosted", "local"⟩ ⟨id, alice, "owner", .active⟩ }

/-- Bob is provisioned and deactivated. -/
def bobLeaves : List ScimOperation :=
  [.rotateToken id scimToken,
    .provisionUser bob (.ofNat 103) scimToken ⟨"bob-1", "bob@acme.test", none, true⟩,
    .setUserActive scimToken "bob-1" false]

/-- Bob is provisioned twice, and deactivated under one of the two external identifiers. -/
def bobTwice : List ScimOperation :=
  [.rotateToken id scimToken,
    .provisionUser bob (.ofNat 103) scimToken ⟨"bob-1", "bob@acme.test", none, true⟩,
    .provisionUser (.ofNat 4) (.ofNat 104) scimToken ⟨"bob-2", "bob@acme.test", none, true⟩,
    .setUserActive scimToken "bob-2" false]

end Acme

open AppState in
theorem bobLeaves_agrees
    : ∃ last, run (ScimOperation.step Acme.crypto) Acme.founded Acme.bobLeaves = some last
        ∧ last.organizations.InactiveMember Acme.id Acme.bob
        ∧ Always (ScimOperation.step Acme.crypto) ScimAgrees Acme.founded Acme.bobLeaves := by
  have facts : (run (ScimOperation.step Acme.crypto) Acme.founded Acme.bobLeaves).any fun last =>
      last.organizations.InactiveMember Acme.id Acme.bob := by
    decide +kernel
  obtain ⟨last, ran, facts⟩ := (Option.any_eq_true _ _).mp facts
  refine ⟨last, ran, of_decide_eq_true facts, ?_⟩
  exact (scimAgrees_iff_keepsOthers rfl ran).mpr (by decide +kernel)

open AppState in
/-- One record of Bob stays active while his membership is not. -/
theorem bobTwice_disagrees
    : ∃ last, run (ScimOperation.step Acme.crypto) Acme.founded Acme.bobTwice = some last
        ∧ ¬ last.ScimAgrees := by
  have facts : (run (ScimOperation.step Acme.crypto) Acme.founded Acme.bobTwice).any fun last =>
      last.organizations.InactiveMember Acme.id Acme.bob
        ∧ ∃ record ∈ last.scimUsers, record.organizationId = Acme.id
            ∧ record.userId = Acme.bob ∧ record.active = true := by
    decide +kernel
  obtain ⟨last, ran, facts⟩ := (Option.any_eq_true _ _).mp facts
  obtain ⟨inactive, record, stored, organization, user, active⟩ := of_decide_eq_true facts
  refine ⟨last, ran, fun agrees => inactive.not_active ?_⟩
  have member := (agrees record stored).mp active
  rw [organization, user] at member
  exact member

end OpenCord.Server
