import OpenCord.Library.Interleaving
import OpenCord.Tenancy.SlugIndexes

/-! The owners of spaces under concurrent requests. Removing a member reads the membership
first and removes it afterwards; other requests may add members or spaces in between.
-/

namespace OpenCord.Tenancy

open OpenCord.Library OpenCord.Platform

/-- Where a request stands: a removal holds the membership it has read. -/
inductive SpaceTask where
  | idle
  | removing (spaceId userId : Uuid) (membership : SpaceMembership)

inductive SpaceRequestMove where
  | space (move : SpaceMove)
  | addMember (spaceId userId : Uuid) (role : String)
  | readForRemove (spaceId userId : Uuid)
  | remove
  /-- The user may not remove the member, or the request is dropped. -/
  | abandon

/-- What a request does next; the owner of a space cannot be removed. -/
def SpaceTask.move (history : SpaceHistory)
    : SpaceTask → SpaceRequestMove → Option (SpaceHistory × SpaceTask)
  | .idle, .space move => (history.step move).map fun next => (next, .idle)
  | .idle, .addMember spaceId userId role =>
      let store := (SpaceService.addMember spaceId userId role).after history.store
      some ({ history with store := store }, .idle)
  | .idle, .readForRemove spaceId userId =>
      match SpaceService.getForUser history.store userId spaceId with
      | .ok membership =>
          if membership.role = "owner" then
            some (history, .idle)
          else
            some (history, .removing spaceId userId membership)
      | .error _ => some (history, .idle)
  | .removing spaceId userId _, .remove =>
      let store := (SpaceStore.removeMember spaceId userId).after history.store
      some ({ history with store := store }, .idle)
  | .removing _ _ _, .abandon => some (history, .idle)
  | _, _ => none

/-- Requests over one space store. -/
abbrev SpaceRequests := Tasks SpaceHistory SpaceTask

namespace SpaceRequests

def start : SpaceRequests := ⟨.empty, fun _ => .idle⟩

def step : SpaceRequests → Nat × SpaceRequestMove → Option SpaceRequests :=
  Tasks.step fun history task => task.move history

end SpaceRequests

/-- A removal whose two steps follow each other is the removal of the service. -/
theorem after_removeMember_of_read {history : SpaceHistory} {spaceId userId : Uuid}
    {membership : SpaceMembership}
    (read : SpaceTask.move history .idle (.readForRemove spaceId userId)
      = some (history, .removing spaceId userId membership))
    : (SpaceService.removeMember spaceId userId).after history.store
        = (SpaceStore.removeMember spaceId userId).after history.store := by
  simp only [SpaceTask.move] at read
  split at read
  · next found visible =>
      split at read
      · simp at read
      · next notOwner =>
          rw [SpaceService.removeMember, Eff.after_get_bind, visible]
          show ((if found.role = "owner" then throw _
            else SpaceStore.removeMember spaceId userId >>= fun _ => pure found)
              : Eff SpaceStore SpaceError SpaceMembership).after history.store = _
          rw [if_neg notOwner, Eff.after, Eff.exec_bind, Eff.after]
          rcases (SpaceStore.removeMember spaceId userId).exec history.store with ⟨_ | _, _⟩
          · rfl
          · rfl
  · simp at read

/-- The roles that a member can be given. -/
theorem SpaceService.normalizeMemberRole_ok {role given : String}
    (normalized : normalizeMemberRole role = .ok given)
    : given ≠ "owner" ∧ given ∈ ["owner", "member", "guest"] := by
  have listed : given ∈ ["member", "guest"] := mem_of_oneOf (Eff.mapError_eq_ok.mp normalized)
  refine ⟨?_, List.mem_cons_of_mem _ listed⟩
  rintro rfl
  exact absurd listed (by decide)

namespace SpaceStore

/-- A membership row that stands for the owner of its space. -/
def IsOwner (spaceId : Uuid) (member : StoredSpaceMember) : Prop :=
  member.spaceId = spaceId ∧ member.role = "owner"

/-- Every live space has one owner, the user it was created by, who is an active member; and
the roles are those that the service gives.
-/
structure OwnersKept (store : SpaceStore) : Prop where
  owner : ∀ spaceId space, store.spacesById.lookup spaceId = some space →
    ∃ owner ∈ store.membersBySpaceUser.values, IsOwner spaceId owner
      ∧ owner.userId = space.ownerUserId ∧ owner.status = .active
      ∧ ∀ member ∈ store.membersBySpaceUser.values, IsOwner spaceId member → member = owner
  roles : ∀ member ∈ store.membersBySpaceUser.values,
    member.role ∈ ["owner", "member", "guest"]

/-- Rows are stored under the space and the user they are about, and their spaces are known.
The owner's row of a live space is active, and nobody else has its role.
-/
structure Owned (archived : Table Uuid StoredSpace) (store : SpaceStore) : Prop where
  keyed : ∀ spaceId userId member, store.member? spaceId userId = some member →
    member.spaceId = spaceId ∧ member.userId = userId
  known : ∀ spaceId userId member, store.member? spaceId userId = some member →
    spaceId ∈ store.spacesById ∨ spaceId ∈ archived
  roles : ∀ spaceId userId member, store.member? spaceId userId = some member →
    member.role ∈ ["owner", "member", "guest"]
  owner : ∀ spaceId space, store.spacesById.lookup spaceId = some space →
    ∃ owner, store.member? spaceId space.ownerUserId = some owner ∧ owner.role = "owner"
      ∧ owner.status = .active
  only : ∀ spaceId space userId member, store.spacesById.lookup spaceId = some space →
    store.member? spaceId userId = some member → member.role = "owner" →
      userId = space.ownerUserId

theorem Owned.empty : SpaceStore.empty.Owned ∅ :=
  ⟨nofun, nofun, nofun, nofun, nofun⟩

variable {archived : Table Uuid StoredSpace} {store : SpaceStore}

/-- The row that adding leaves is about the same space and user. -/
theorem Owned.joined_keyed (owned : store.Owned archived) (member : StoredSpaceMember)
    : (store.joined member).spaceId = member.spaceId
        ∧ (store.joined member).userId = member.userId := by
  rw [joined]
  split
  · next existing found => exact owned.keyed _ _ existing found
  · exact ⟨rfl, rfl⟩

theorem joined_active {member : StoredSpaceMember} (active : member.status = .active)
    : (store.joined member).status = .active := by
  rw [joined]
  split
  · rfl
  · exact active

theorem Owned.joined_role (owned : store.Owned archived) {member : StoredSpaceMember}
    (isRole : member.role ∈ ["owner", "member", "guest"])
    : (store.joined member).role ∈ ["owner", "member", "guest"] := by
  rw [joined]
  split
  · next existing found =>
      dsimp only
      split
      · exact owned.roles _ _ existing found
      · exact isRole
  · exact isRole

/-- Adding a member makes nobody an owner, and leaves the owner. -/
theorem joined_isOwner {member : StoredSpaceMember} (notOwner : member.role ≠ "owner")
    : (store.joined member).role = "owner"
      ↔ ∃ old, store.member? member.spaceId member.userId = some old ∧ old.role = "owner" := by
  rw [joined]
  split
  · next existing found =>
      dsimp only
      split
      · next isOwner => exact iff_of_true isOwner ⟨existing, found, isOwner⟩
      · next isNot =>
          refine iff_of_false notOwner fun wasOwner => ?_
          obtain ⟨old, before, isOwner⟩ := wasOwner
          rw [found, Option.some.injEq] at before
          exact isNot (before ▸ isOwner)
  · next missing => simp [missing, notOwner]

/-- A row is written for a known space; it stands for the owner exactly if the row before it
did, and is active if it does.
-/
theorem Owned.withMember (owned : store.Owned archived) {spaceId userId : Uuid}
    {member : StoredSpaceMember} (known : spaceId ∈ store.spacesById ∨ spaceId ∈ archived)
    (keyed : member.spaceId = spaceId ∧ member.userId = userId)
    (role : member.role ∈ ["owner", "member", "guest"])
    (active : member.role = "owner" → member.status = .active)
    (same : member.role = "owner"
      ↔ ∃ old, store.member? spaceId userId = some old ∧ old.role = "owner")
    : Owned archived (store.withMember spaceId userId member) where
  keyed := by
    intro space user row found
    rw [member?_withMember] at found
    split at found
    · next here =>
        cases found
        cases here
        exact keyed
    · exact owned.keyed space user row found
  known := by
    intro space user row found
    rw [member?_withMember] at found
    split at found
    · next here =>
        cases here
        exact known
    · exact owned.known space user row found
  roles := by
    intro space user row found
    rw [member?_withMember] at found
    split at found
    · cases found
      exact role
    · exact owned.roles space user row found
  owner := by
    intro id space stored
    obtain ⟨owner, found, isOwner, isActive⟩ := owned.owner id space stored
    by_cases here : (id, space.ownerUserId) = (spaceId, userId)
    · have stays := same.mpr (by cases here; exact ⟨owner, found, isOwner⟩)
      exact ⟨member, by rw [member?_withMember, if_pos here], stays, active stays⟩
    · exact ⟨owner, by rw [member?_withMember, if_neg here, found], isOwner, isActive⟩
  only := by
    intro id space user row stored found isOwner
    rw [member?_withMember] at found
    split at found
    · next here =>
        cases found
        cases here
        obtain ⟨old, before, wasOwner⟩ := same.mp isOwner
        exact owned.only _ space _ old stored before wasOwner
    · exact owned.only id space user row stored found isOwner

/-- A new space with the row of its owner. -/
theorem Owned.withSpace (owned : store.Owned archived) {space : StoredSpace}
    (new : space.id ∉ store.spacesById) (neverArchived : space.id ∉ archived)
    : Owned archived (store.withSpace space ⟨space.id, space.ownerUserId, "owner", .active⟩) := by
  let owner : StoredSpaceMember := ⟨space.id, space.ownerUserId, "owner", .active⟩
  have rows : ∀ id user, (store.withSpace space owner).member? id user
      = if (id, user) = (space.id, space.ownerUserId) then some owner
        else store.member? id user :=
    fun _ _ => Table.lookup_insert_eq ..
  have noRow : ∀ user row, store.member? space.id user ≠ some row := by
    intro user row found
    rcases owned.known space.id user row found with live | kept
    · exact new live
    · exact neverArchived kept
  refine ⟨?_, ?_, ?_, ?_, ?_⟩
  · intro id user row found
    rw [rows] at found
    split at found
    · next here =>
        cases found
        cases here
        exact ⟨rfl, rfl⟩
    · exact owned.keyed id user row found
  · intro id user row found
    have live : id ∈ (store.withSpace space owner).spacesById
        ↔ id = space.id ∨ id ∈ store.spacesById :=
      AList.mem_insert _
    rw [live]
    rw [rows] at found
    split at found
    · next here =>
        cases here
        exact .inl (.inl rfl)
    · rcases owned.known id user row found with stored | kept
      · exact .inl (.inr stored)
      · exact .inr kept
  · intro id user row found
    rw [rows] at found
    split at found
    · cases found
      exact List.mem_cons_self
    · exact owned.roles id user row found
  · intro id other stored
    rw [SpaceStore.withSpace, Table.lookup_insert_eq] at stored
    split at stored
    · next here =>
        cases stored
        rw [here]
        exact ⟨owner, by rw [rows, if_pos rfl], rfl, rfl⟩
    · next elsewhere =>
        obtain ⟨row, found, isOwner⟩ := owned.owner id other stored
        refine ⟨row, ?_, isOwner⟩
        rw [rows, if_neg fun here => elsewhere (congrArg Prod.fst here), found]
  · intro id other user row stored found isOwner
    rw [rows] at found
    rw [SpaceStore.withSpace, Table.lookup_insert_eq] at stored
    split at stored
    · next here =>
        cases stored
        rw [here] at found
        split at found
        · next same => exact congrArg Prod.snd same
        · exact absurd found (noRow user row)
    · next elsewhere =>
        rw [if_neg fun here => elsewhere (congrArg Prod.fst here)] at found
        exact owned.only id other user row stored found isOwner

/-- Updating a space keeps its rows and its owner. -/
theorem Owned.updated (owned : store.Owned archived) {next : SpaceStore} {spaceId : Uuid}
    {previous space : StoredSpace} (rows : next.membersBySpaceUser = store.membersBySpaceUser)
    (stored : store.spacesById.lookup spaceId = some previous)
    (spaces : next.spacesById = store.spacesById.insert spaceId space)
    (sameOwner : space.ownerUserId = previous.ownerUserId)
    : Owned archived next := by
  have members : ∀ id user, next.member? id user = store.member? id user := by
    intro id user
    rw [member?, rows, member?]
  have before : ∀ id other, next.spacesById.lookup id = some other →
      ∃ old, store.spacesById.lookup id = some old ∧ other.ownerUserId = old.ownerUserId := by
    intro id other found
    rw [spaces, Table.lookup_insert_eq] at found
    split at found
    · next here =>
        cases found
        exact ⟨previous, here ▸ stored, sameOwner⟩
    · exact ⟨other, found, rfl⟩
  refine ⟨?_, ?_, ?_, ?_, ?_⟩
  · intro id user row found
    exact owned.keyed id user row (members id user ▸ found)
  · intro id user row found
    rw [spaces, AList.mem_insert]
    rcases owned.known id user row (members id user ▸ found) with live | kept
    · exact .inl (.inr live)
    · exact .inr kept
  · intro id user row found
    exact owned.roles id user row (members id user ▸ found)
  · intro id other found
    obtain ⟨old, stored, same⟩ := before id other found
    rw [same, members]
    exact owned.owner id old stored
  · intro id other user row found isMember isOwner
    obtain ⟨old, stored, same⟩ := before id other found
    rw [same]
    exact owned.only id old user row stored (members id user ▸ isMember) isOwner

/-- Archiving a space keeps its rows, and the space is known as archived. -/
theorem Owned.archive (owned : store.Owned archived) {spaceId : Uuid} {space : StoredSpace}
    : Owned (archived.insert spaceId space)
        { store with spacesById := store.spacesById.erase spaceId } where
  keyed := owned.keyed
  known := by
    intro id user row found
    by_cases here : id = spaceId
    · exact .inr ((AList.mem_insert _).mpr (.inl here))
    · rcases owned.known id user row found with live | kept
      · exact .inl (AList.mem_erase.mpr ⟨here, live⟩)
      · exact .inr ((AList.mem_insert _).mpr (.inr kept))
  roles := owned.roles
  owner _ other stored := owned.owner _ other (Table.lookup_of_erase stored)
  only _ other _ _ stored := owned.only _ other _ _ (Table.lookup_of_erase stored)

end SpaceStore

-----------------------------------------------------------------------------------------
-- What a step does
-----------------------------------------------------------------------------------------

/-- A user has a row in a space, and not the owner's. -/
def SpaceHistory.OtherThanOwner (history : SpaceHistory) (spaceId userId : Uuid) : Prop :=
  ∃ member, history.store.member? spaceId userId = some member ∧ member.role ≠ "owner"

/-- A request keeps the store, creates, updates or archives a space, or writes one row, which
stands for the owner exactly if the row before it did.
-/
inductive SpaceChange (history : SpaceHistory) : SpaceHistory → Prop where
  | kept : SpaceChange history history
  | created (space : StoredSpace) (new : space.id ∉ history.store.spacesById)
      (neverArchived : space.id ∉ history.archived)
      : SpaceChange history { history with
          store := history.store.withSpace space
            ⟨space.id, space.ownerUserId, "owner", .active⟩ }
  | updated (store : SpaceStore) (spaceId : Uuid) (previous space : StoredSpace)
      (rows : store.membersBySpaceUser = history.store.membersBySpaceUser)
      (stored : history.store.spacesById.lookup spaceId = some previous)
      (spaces : store.spacesById = history.store.spacesById.insert spaceId space)
      (sameOwner : space.ownerUserId = previous.ownerUserId)
      : SpaceChange history { history with store := store }
  | archived (spaceId : Uuid) (space : StoredSpace)
      : SpaceChange history
          ⟨{ history.store with spacesById := history.store.spacesById.erase spaceId },
            history.archived.insert spaceId space⟩
  | row (spaceId userId : Uuid) (member : StoredSpaceMember)
      (known : spaceId ∈ history.store.spacesById ∨ spaceId ∈ history.archived)
      (keyed : member.spaceId = spaceId ∧ member.userId = userId)
      (role : member.role ∈ ["owner", "member", "guest"])
      (active : member.role = "owner" → member.status = .active)
      (same : member.role = "owner"
        ↔ ∃ old, history.store.member? spaceId userId = some old ∧ old.role = "owner")
      : SpaceChange history { history with
          store := history.store.withMember spaceId userId member }

namespace SpaceChange

variable {history next : SpaceHistory}

/-- Every change keeps the owners. -/
theorem owned (change : SpaceChange history next)
    (owned : history.store.Owned history.archived)
    : next.store.Owned next.archived := by
  cases change with
  | kept => exact owned
  | created space new neverArchived => exact owned.withSpace new neverArchived
  | updated store spaceId previous space rows stored spaces sameOwner =>
      exact owned.updated rows stored spaces sameOwner
  | archived spaceId space => exact owned.archive
  | row spaceId userId member known keyed role active same =>
      exact owned.withMember known keyed role active same

/-- No change makes somebody with another role the owner. -/
theorem otherThanOwner (change : SpaceChange history next)
    (owned : history.store.Owned history.archived) {spaceId userId : Uuid}
    (other : history.OtherThanOwner spaceId userId)
    : next.OtherThanOwner spaceId userId := by
  obtain ⟨member, found, notOwner⟩ := other
  cases change with
  | kept => exact ⟨member, found, notOwner⟩
  | created space new neverArchived =>
      refine ⟨member, ?_, notOwner⟩
      have elsewhere : (spaceId, userId) ≠ (space.id, space.ownerUserId) := by
        intro here
        have sameSpace : spaceId = space.id := congrArg Prod.fst here
        have known := owned.known spaceId userId member found
        rw [sameSpace] at known
        exact known.elim new neverArchived
      exact (AList.lookup_insert_ne elsewhere).trans found
  | updated store _ _ _ rows _ _ _ =>
      refine ⟨member, ?_, notOwner⟩
      rw [SpaceStore.member?, rows]
      exact found
  | archived _ _ => exact ⟨member, found, notOwner⟩
  | row space user written _ _ _ _ same =>
      by_cases here : (spaceId, userId) = (space, user)
      · refine ⟨written, ?_, fun isOwner => ?_⟩
        · rw [SpaceStore.member?_withMember, if_pos here]
        · cases here
          obtain ⟨old, before, wasOwner⟩ := same.mp isOwner
          rw [found, Option.some.injEq] at before
          exact notOwner (before ▸ wasOwner)
      · refine ⟨member, ?_, notOwner⟩
        rw [SpaceStore.member?_withMember, if_neg here, found]

end SpaceChange

namespace SpaceHistory

/-- A creation, an update or an archiving changes the spaces. -/
theorem step_change {history next : SpaceHistory} {move : SpaceMove}
    (stepped : history.step move = some next)
    : SpaceChange history next := by
  cases move with
  | create spaceId ownerId organizationId name =>
      rw [step] at stepped
      split at stepped
      · cases stepped
      · next new =>
          obtain ⟨new, neverArchived⟩ := not_or.mp new
          obtain rfl := Option.some.inj stepped
          rcases ended : (SpaceService.create spaceId ownerId organizationId name).exec
            history.store with ⟨error | membership, store⟩
          · rw [Eff.after, ended, SpaceService.create_atomic _ _ _ _ _ _ _ ended]
            exact .kept
          · obtain ⟨space, rfl, rfl, rfl, rfl⟩ := SpaceService.create_ok ended
            rw [Eff.after, ended]
            exact .created space new neverArchived
  | update existing patch =>
      obtain rfl := Option.some.inj stepped
      rcases ended : (SpaceService.update existing patch).exec history.store with
        ⟨error | updated, store⟩
      · rw [Eff.after, ended, SpaceService.update_atomic _ _ _ _ _ ended]
        exact .kept
      · obtain ⟨_, _, done⟩ := SpaceService.update_ok ended
        obtain ⟨_, rows, previous, stored, spaces⟩ := SpaceStore.updateSpace_ok done
        rw [Eff.after, ended]
        exact .updated store updated.id previous _ rows stored spaces rfl
  | delete existing =>
      rw [step] at stepped
      split at stepped
      · next deleted store done =>
          cases stepped
          obtain ⟨_, middle, archived, done⟩ := Eff.exec_bind_eq_ok.mp done
          cases done
          obtain ⟨space, stored⟩ := SpaceStore.stored_of_archiveSpace archived
          obtain rfl := SpaceStore.archiveSpace_ok archived
          simp only [withArchived, stored]
          exact .archived existing.id space
      · next error store failed =>
          cases stepped
          rw [SpaceService.delete_atomic existing _ _ _ failed]
          exact .kept

/-- Whoever is added becomes a member or a guest, or stays the owner. -/
theorem addMember_change {history : SpaceHistory}
    (owned : history.store.Owned history.archived) (spaceId userId : Uuid) (role : String)
    : SpaceChange history { history with
        store := (SpaceService.addMember spaceId userId role).after history.store } := by
  rcases ended : (SpaceService.addMember spaceId userId role).exec history.store with
    ⟨error | membership, store⟩
  · rw [Eff.after, ended, SpaceService.addMember_atomic _ _ _ _ _ _ ended]
    exact .kept
  · rw [Eff.after, ended]
    obtain ⟨given, normalized, added⟩ := Eff.exec_check_bind_eq_ok.mp ended
    obtain ⟨space, stored, rfl⟩ := SpaceStore.addMember_ok added
    obtain ⟨notOwner, isRole⟩ := SpaceService.normalizeMemberRole_ok normalized
    let member : StoredSpaceMember := ⟨spaceId, userId, given, .active⟩
    refine .row spaceId userId _ (.inl (Table.mem_of_lookup stored)) ?_ ?_ ?_ ?_
    · exact owned.joined_keyed member
    · exact owned.joined_role isRole
    · intro _
      exact SpaceStore.joined_active rfl
    · exact SpaceStore.joined_isOwner notOwner

/-- A member that is not the owner can be removed. -/
theorem removeMember_change {history : SpaceHistory}
    (owned : history.store.Owned history.archived) {spaceId userId : Uuid}
    (other : history.OtherThanOwner spaceId userId)
    : SpaceChange history { history with
        store := (SpaceStore.removeMember spaceId userId).after history.store } := by
  obtain ⟨member, row, notOwner⟩ := other
  rcases ended : (SpaceStore.removeMember spaceId userId).exec history.store with
    ⟨error | _, store⟩
  · rw [Eff.after, ended, SpaceStore.removeMember_atomic _ _ _ _ _ ended]
    exact .kept
  · rw [Eff.after, ended]
    obtain ⟨same, found, rfl⟩ := SpaceStore.removeMember_ok ended
    obtain rfl : member = same := Option.some.inj (row.symm.trans found)
    refine .row spaceId userId _ (owned.known spaceId userId member row)
      (owned.keyed spaceId userId member row) (owned.roles spaceId userId member row)
      (fun isOwner => absurd isOwner notOwner) ?_
    refine iff_of_false notOwner fun wasOwner => ?_
    obtain ⟨old, before, isOwner⟩ := wasOwner
    rw [row, Option.some.injEq] at before
    exact notOwner (before ▸ isOwner)

/-- The user that a removal holds is not the owner. -/
def OfTask (history : SpaceHistory) : SpaceTask → Prop
  | .idle => True
  | .removing spaceId userId _ => history.OtherThanOwner spaceId userId

end SpaceHistory

/-- A request changes the store in one way, and holds only users that are not the owner. -/
theorem SpaceTask.move_change {history next : SpaceHistory} {task nextTask : SpaceTask}
    {move : SpaceRequestMove} (owned : history.store.Owned history.archived)
    (ofTask : history.OfTask task) (moved : task.move history move = some (next, nextTask))
    : SpaceChange history next ∧ next.OfTask nextTask := by
  rw [SpaceTask.move.eq_def] at moved
  split at moved
  · obtain ⟨_, stepped, same⟩ := Option.map_eq_some_iff.mp moved
    cases same
    exact ⟨SpaceHistory.step_change stepped, trivial⟩
  · obtain ⟨rfl, rfl⟩ := Prod.mk.inj (Option.some.inj moved)
    exact ⟨SpaceHistory.addMember_change owned _ _ _, trivial⟩
  · split at moved
    · next membership visible =>
        split at moved
        · cases moved
          exact ⟨.kept, trivial⟩
        · next notOwner =>
            cases moved
            obtain ⟨member, space, row, _, _, rfl⟩ :=
              SpaceStore.getForUser_eq_some.mp (SpaceService.getForUser_eq_ok.mp visible)
            exact ⟨.kept, member, row, notOwner⟩
    · cases moved
      exact ⟨.kept, trivial⟩
  · obtain ⟨rfl, rfl⟩ := Prod.mk.inj (Option.some.inj moved)
    exact ⟨SpaceHistory.removeMember_change owned ofTask, trivial⟩
  · cases moved
    exact ⟨.kept, trivial⟩
  · cases moved

-----------------------------------------------------------------------------------------
-- Every run
-----------------------------------------------------------------------------------------

namespace SpaceRequests

/-- The owners are kept, and no removal holds an owner. -/
def Invariant (requests : SpaceRequests) : Prop :=
  requests.shared.store.Owned requests.shared.archived
    ∧ ∀ index, requests.shared.OfTask (requests.tasks index)

theorem Invariant.start : SpaceRequests.start.Invariant :=
  ⟨.empty, fun _ => trivial⟩

theorem Invariant.step {requests next : SpaceRequests} {action : Nat × SpaceRequestMove}
    (invariant : requests.Invariant) (stepped : requests.step action = some next)
    : next.Invariant := by
  obtain ⟨index, move⟩ := action
  obtain ⟨history, task, moved, rfl⟩ := Tasks.step_eq_some.mp stepped
  obtain ⟨owned, ofTask⟩ := invariant
  obtain ⟨change, own⟩ := SpaceTask.move_change owned (ofTask index) moved
  refine ⟨change.owned owned, Tasks.forall_withTask history.OfTask own fun other => ?_⟩
  have held := ofTask other
  generalize requests.tasks other = task at held
  cases task with
  | idle => trivial
  | removing spaceId userId membership => exact change.otherThanOwner owned held

end SpaceRequests

/-- What is known of the rows under their keys holds of all rows. -/
theorem SpaceStore.Owned.ownersKept {archived : Table Uuid StoredSpace} {store : SpaceStore}
    (owned : store.Owned archived)
    : store.OwnersKept where
  owner := by
    intro spaceId space stored
    obtain ⟨owner, found, isOwner, isActive⟩ := owned.owner spaceId space stored
    obtain ⟨ofSpace, ofUser⟩ := owned.keyed spaceId space.ownerUserId owner found
    refine ⟨owner, Table.mem_values.mpr ⟨_, found⟩, ⟨ofSpace, isOwner⟩, ofUser, isActive, ?_⟩
    intro member listed same
    obtain ⟨⟨otherSpace, user⟩, row⟩ := Table.mem_values.mp listed
    obtain ⟨rfl, rfl⟩ := owned.keyed otherSpace user member row
    obtain ⟨rfl, memberIsOwner⟩ := same
    have sameUser := owned.only _ space member.userId member stored row memberIsOwner
    rw [sameUser] at row
    exact Option.some.inj (row.symm.trans found)
  roles := by
    intro member listed
    obtain ⟨⟨spaceId, userId⟩, row⟩ := Table.mem_values.mp listed
    exact owned.roles spaceId userId member row

/-- However requests interleave, every live space keeps exactly one owner, the active member
it was created by, and no row has a role that is not given.
-/
theorem ownersKept_of_reachable {requests : SpaceRequests}
    (reachable : Reachable SpaceRequests.step .start requests)
    : requests.shared.store.OwnersKept := by
  have invariant := reachable.invariant .start fun _ _ _ => SpaceRequests.Invariant.step
  exact invariant.1.ownersKept

namespace Lounge

def ownerId : Uuid := .ofNat 1
def guestId : Uuid := .ofNat 2
def spaceId : Uuid := .ofNat 20

/-- A guest is added again, with another role, while a removal holds the row. -/
def moves : List (Nat × SpaceRequestMove) :=
  [(0, .space (.create spaceId ownerId (.ofNat 10) "Lounge")),
    (0, .addMember spaceId guestId "guest"), (1, .readForRemove spaceId guestId),
    (0, .addMember spaceId guestId "member"), (0, .addMember spaceId ownerId "guest"),
    (1, .remove)]

end Lounge

theorem lounge_ownersKept
    : ∃ requests, run SpaceRequests.step .start Lounge.moves = some requests
        ∧ Lounge.spaceId ∈ requests.shared.store.spacesById
        ∧ requests.shared.store.OwnersKept :=
  ⟨_, rfl, by decide +kernel, ownersKept_of_reachable ⟨Lounge.moves, rfl⟩⟩

end OpenCord.Tenancy
