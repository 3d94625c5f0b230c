import OpenCord.Server.Invariants

/-! Access of members whose organization has deactivated them. Access to spaces and channels
is decided by the rows of spaces alone; as long as members leave the spaces of an
organization before they are deactivated in it, the two agree.
-/

namespace OpenCord.Server

open OpenCord.Library OpenCord.Platform OpenCord.Auth OpenCord.Tenancy

variable {crypto : Crypto}

/-- The user gets into no space and no channel of the organization. -/
def AppState.ShutOut (state : AppState) (organizationId userId : Uuid) : Prop :=
  (∀ spaceId space, state.spaces.spacesById.lookup spaceId = some space →
    space.organizationId = organizationId →
      SpaceService.getForUser state.spaces userId spaceId = .error .notFound)
    ∧ ∀ channelId channel permission entry,
      state.channels.channelsById.lookup channelId = some channel →
        channel.organizationId = organizationId →
          state.enterChannel userId channelId permission ≠ .ok entry

/-- A row becomes inactive only when its user has no active row left in the spaces of the
organization.
-/
def LeftSpaces (spaces : SpaceStore) (write : MemberWrite) : Prop :=
  write.status = .inactive →
    ∀ space ∈ spaces.spacesById.values, space.organizationId = write.organizationId →
      ¬ spaces.ActiveMember space.id write.userId

instance (spaces : SpaceStore) (write : MemberWrite) : Decidable (LeftSpaces spaces write) :=
  inferInstanceAs (Decidable (_ → ∀ space ∈ spaces.spacesById.values, _))

/-- The member a SCIM request deactivates has left the spaces of the organization. -/
def AppRequest.DeactivatesLast (crypto : Crypto) (state : AppState) (request : AppRequest)
    : Prop :=
  ∀ write ∈ request.scimWrite crypto state, LeftSpaces state.spaces write

instance (crypto : Crypto) (state : AppState) (request : AppRequest)
    : Decidable (request.DeactivatesLast crypto state) :=
  inferInstanceAs (Decidable (∀ write ∈ request.scimWrite crypto state, _))

/-- Signing in and inviting ask for active rows. -/
theorem AppRequest.admission_active {state : AppState} {request : AppRequest}
    {write : MemberWrite} (admits : write ∈ request.admission crypto state)
    : write.status = .active := by
  cases request with
  | oidcCallback | addSpaceMember =>
      obtain ⟨_, _, admits⟩ := Option.bind_eq_some_iff.mp admits
      obtain ⟨_, _, admits⟩ := Option.bind_eq_some_iff.mp admits
      cases admits
      rfl
  | inviteBotToSpace =>
      obtain ⟨_, _, admits⟩ := Option.bind_eq_some_iff.mp admits
      cases admits
      rfl
  | _ => cases admits

/-- Active members of stored spaces are active members of the organization. -/
def AppState.Closed (state : AppState) : Prop :=
  ∀ spaceId space, state.spaces.spacesById.lookup spaceId = some space → ∀ userId,
    state.spaces.ActiveMember spaceId userId →
      state.organizations.ActiveMember space.organizationId userId

/-- A space may get an active row for an active member of its organization. -/
theorem AppState.Closed.withMember {state : AppState} (closed : state.Closed)
    {spaceId userId : Uuid} {member : StoredSpaceMember}
    (joins : member.status = .active →
      ∀ space, state.spaces.spacesById.lookup spaceId = some space →
        state.organizations.ActiveMember space.organizationId userId)
    : AppState.Closed
        { state with spaces := state.spaces.withMember spaceId userId member } := by
  intro otherId other found user active
  obtain ⟨row, known, isActive⟩ := active
  rw [SpaceStore.member?_withMember] at known
  split at known
  · next same =>
      cases same
      cases known
      exact joins isActive other found
  · exact closed otherId other found user ⟨row, known, isActive⟩

/-- A new space has one row, its owner's. -/
theorem AppState.Closed.withSpace {state : AppState} (closed : state.Closed)
    {space : StoredSpace} {ownerMember : StoredSpaceMember}
    (own : ownerMember.spaceId = space.id) (new : state.NewSpace space.id)
    (owner : state.organizations.ActiveMember space.organizationId ownerMember.userId)
    : AppState.Closed { state with spaces := state.spaces.withSpace space ownerMember } := by
  intro otherId other found user active
  obtain ⟨row, known, isActive⟩ := active
  rw [SpaceStore.withSpace, Table.lookup_insert_eq] at found
  rw [SpaceStore.withSpace, SpaceStore.member?, Table.lookup_insert_eq] at known
  by_cases sameSpace : otherId = space.id
  · rw [if_pos sameSpace] at found
    cases found
    split at known
    · next sameRow =>
        cases sameRow
        exact owner
    · have listed : (otherId, user) ∈ state.spaces.membersBySpaceUser.keys :=
        Table.mem_of_lookup known
      exact absurd sameSpace (new.2.1 (otherId, user) listed)
  · rw [if_neg sameSpace] at found
    rw [if_neg (by rw [own]; exact fun same => sameSpace (congrArg Prod.fst same))] at known
    exact closed otherId other found user ⟨row, known, isActive⟩

theorem Write.closed {before after : AppState} (keyed : before.Keyed)
    (write : Write LeftSpaces before after) (closed : before.Closed)
    : after.Closed := by
  cases write with
  | elsewhere _ members spaces _ _ =>
      intro spaceId space found userId active
      rw [spaces] at found active
      obtain ⟨member, row, isActive⟩ := closed spaceId space found userId active
      exact ⟨member, by rw [OrganizationStore.member?, members]; exact row, isActive⟩
  | organizationCreated organization ownerMember own owner new =>
      intro spaceId space found userId active
      exact (closed spaceId space found userId active).withMember fun _ _ => owner
  | memberWritten organizationId userId member allowed =>
      intro spaceId space found user active
      refine (closed spaceId space found user active).withMember fun sameOrganization sameUser => ?_
      -- an inactive row would be one of a user without active rows in such a space
      rcases status : member.status with _ | _
      · rfl
      · have left := allowed status space (Table.mem_values.mpr ⟨spaceId, found⟩)
          sameOrganization
        rw [keyed.spaces spaceId space found, ← sameUser] at left
        exact absurd active left
  | spaceCreated space ownerMember own new owner => exact closed.withSpace own new owner
  | spaceJoined spaceId userId member space stored joins =>
      refine closed.withMember fun _ other found => ?_
      rw [stored] at found
      cases found
      exact joins
  | spaceLeft spaceId userId member inactive =>
      refine closed.withMember fun active => ?_
      rw [inactive] at active
      cases active
  | spaceUpdated spaces space previous stored sameOrganization members byId =>
      intro spaceId other found user active
      rw [SpaceStore.ActiveMember, SpaceStore.member?, members] at active
      rw [byId, Table.lookup_insert_eq] at found
      split at found
      · next same =>
          cases found
          rw [sameOrganization]
          exact closed spaceId previous (by rw [same, stored]) user active
      · exact closed spaceId other found user active
  | spaceArchived spaceId =>
      intro other space found
      exact closed other space (Table.lookup_of_erase found)
  | channelCreated | channelUpdated | channelArchived | published => exact closed

/-- Deactivated members see no stored space of the organization. -/
theorem AppState.Closed.getForUser_none {state : AppState} (closed : state.Closed)
    {organizationId userId spaceId : Uuid} {space : StoredSpace}
    (inactive : state.organizations.InactiveMember organizationId userId)
    (stored : state.spaces.spacesById.lookup spaceId = some space)
    (own : space.organizationId = organizationId)
    : state.spaces.getForUser userId spaceId = none := by
  rw [Option.eq_none_iff_forall_ne_some]
  intro membership visible
  obtain ⟨member, _, row, isActive, _, _⟩ := SpaceStore.getForUser_eq_some.mp visible
  have active := closed spaceId space stored userId ⟨member, row, isActive⟩
  rw [own] at active
  exact inactive.not_active active

theorem AppState.Closed.shutOut {state : AppState} (closed : state.Closed)
    (placed : state.Placed) {organizationId userId : Uuid}
    (inactive : state.organizations.InactiveMember organizationId userId)
    : state.ShutOut organizationId userId := by
  refine ⟨fun spaceId space stored own => ?_, ?_⟩
  · rw [SpaceService.getForUser, closed.getForUser_none inactive stored own]
  · intro channelId channel permission entry stored own entered
    obtain ⟨known, visible, _⟩ := enterChannel_ok entered
    rw [stored, Option.some.injEq] at known
    obtain ⟨member, space, row, isActive, storedSpace, _⟩ := spaceForUser_eq_ok.mp visible
    rw [← known] at row storedSpace
    have sameOrganization := placed channelId channel stored space storedSpace
    have seen := SpaceStore.getForUser_eq_some.mpr ⟨member, space, row, isActive, storedSpace, rfl⟩
    rw [closed.getForUser_none inactive storedSpace (sameOrganization.symm.trans own)] at seen
    cases seen

/-- As long as SCIM deactivates only members who have left the spaces of the organization,
members it has deactivated are shut out, in every state of every run.
-/
theorem deactivated_shutOut_of_allowed {requests : List AppRequest} {state : AppState}
    (allowed : Allowed (AppState.step crypto) (AppRequest.DeactivatesLast crypto) .empty
      requests)
    (ran : run (AppState.step crypto) .empty requests = some state)
    {organizationId userId : Uuid}
    (inactive : state.organizations.InactiveMember organizationId userId)
    : state.ShutOut organizationId userId := by
  let invariant (state : AppState) : Prop := state.Closed ∧ state.Placed
  have preserved (before after : AppState) (keyed : before.Keyed)
      (write : Write LeftSpaces before after) (holds : invariant before) : invariant after :=
    ⟨write.closed keyed holds.1, write.placed holds.2⟩
  have stepPreserved (before : AppState) (request : AppRequest) (after : AppState)
      (holds : before.Keyed ∧ invariant before)
      (condition : request.DeactivatesLast crypto before)
      (stepped : before.step crypto request = some after) : after.Keyed ∧ invariant after :=
    AppState.step_preserves preserved holds.1 holds.2
      (fun write admits inactive => by
        rw [AppRequest.admission_active admits] at inactive
        cases inactive)
      condition stepped
  have initially : AppState.empty.Keyed ∧ invariant .empty :=
    ⟨AppState.empty_keyed, nofun, nofun⟩
  obtain ⟨_, closed, placed⟩ := run_preserves_of_allowed stepPreserved initially allowed ran
  exact closed.shutOut placed inactive

namespace Acme

/-- Bob leaves the space, then Acme's SCIM client deactivates him. -/
def orderlyDeparture : List AppRequest :=
  requests ++ [.removeSpaceMember (stamp 203) aliceToken main bob, setBobActive false]

end Acme

theorem orderlyDeparture_shutOut
    : ∃ state, run (AppState.step Acme.crypto) .empty Acme.orderlyDeparture = some state
        ∧ state.organizations.InactiveMember Acme.id Acme.bob
        ∧ state.ShutOut Acme.id Acme.bob := by
  have facts : (run (AppState.step Acme.crypto) .empty Acme.orderlyDeparture).any
      fun state => state.organizations.InactiveMember Acme.id Acme.bob := by
    decide +kernel
  obtain ⟨state, ran, inactive⟩ := (Option.any_eq_true _ _).mp facts
  rw [decide_eq_true_eq] at inactive
  exact ⟨state, ran, inactive,
    deactivated_shutOut_of_allowed (by decide +kernel) ran inactive⟩

namespace Acme

/-- Acme's SCIM client deactivates Bob while he is a member of the space. -/
def deactivation : List AppRequest := requests ++ [setBobActive false]

end Acme

/-- Deactivated in the organization, Bob still sees the space and enters its channel. -/
theorem deactivation_notShutOut
    : ∃ state, run (AppState.step Acme.crypto) .empty Acme.deactivation = some state
        ∧ state.organizations.InactiveMember Acme.id Acme.bob
        ∧ (state.enterChannel Acme.bob Acme.general .sendMessages).isOk
        ∧ ¬ state.ShutOut Acme.id Acme.bob := by
  have facts : (run (AppState.step Acme.crypto) .empty Acme.deactivation).any
      fun state => state.organizations.InactiveMember Acme.id Acme.bob
        ∧ (state.enterChannel Acme.bob Acme.general .sendMessages).isOk
        ∧ (state.spaces.spacesById.lookup Acme.main).map StoredSpace.organizationId
          = some Acme.id
        ∧ (SpaceService.getForUser state.spaces Acme.bob Acme.main).isOk := by
    decide +kernel
  obtain ⟨state, ran, facts⟩ := (Option.any_eq_true _ _).mp facts
  rw [decide_eq_true_eq] at facts
  obtain ⟨inactive, enters, stored, sees⟩ := facts
  refine ⟨state, ran, inactive, enters, fun shutOut => ?_⟩
  obtain ⟨space, found, own⟩ := Option.map_eq_some_iff.mp stored
  rw [shutOut.1 Acme.main space found own] at sees
  cases sees

end OpenCord.Server
