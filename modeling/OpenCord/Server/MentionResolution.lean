import Mathlib.Data.List.Induction
import OpenCord.Compat.WrittenMentions
import OpenCord.Server.MessageEndpoints

/-! The mentions that a message of a bot gets: written in its text, permitted by its request,
and known to the space.
-/

namespace OpenCord.Server

open OpenCord.Library OpenCord.Platform OpenCord.Auth OpenCord.Tenancy OpenCord.Messages
  OpenCord.Compat CompatController

/-- The first token of one identifier stands before the tokens of another. -/
def FirstBefore (kind : MentionKind) (content : String) (first second : Uuid) : Prop :=
  ∃ before after, mentionTokens none content.toList = before ++ after
    ∧ (∃ token ∈ before, parseMention kind token = some first)
    ∧ ∀ token ∈ before, parseMention kind token ≠ some second

/-- A token of a text that is read as an identifier. -/
def WrittenIn (kind : MentionKind) (content : String) (id : Uuid) : Prop :=
  ∃ token, '<' :: '@' :: token ++ ['>'] <:+: content.toList ∧ parseMention kind token = some id

/-- A request permits a mention: it has no policy, or one that parses the kind of the mention or
lists the identifier.
-/
def Permitted (allowedMentions : Option Json) (kind : String) (id : Uuid) : Prop :=
  ∀ policy ∈ allowedMentions,
    kind ∈ arrayTexts (policy.get "parse") ∨ id ∈ uuidSetFromJsonArray (policy.get kind)

/-- A user has an active row in a stored space. -/
def ActiveMember (state : AppState) (userId spaceId : Uuid) : Prop :=
  ∃ member space, state.spaces.member? spaceId userId = some member ∧ member.status = .active
    ∧ state.spaces.spacesById.lookup spaceId = some space

/-- What a resolution may answer. -/
structure SoundMentions (state : AppState) (space : SpaceMembership) (content : String)
    (allowedMentions : Option Json) (mentions : CompatMentionIds) : Prop where
  users : ∀ userId, userId ∈ mentions.userIds
    ↔ userId ∈ extractMentionIds content .user ∧ Permitted allowedMentions "users" userId
      ∧ ActiveMember state userId space.id ∧ (state.auth.findUserById userId).isSome
  roles : ∀ roleId, roleId ∈ mentions.roleIds
    ↔ roleId ∈ extractMentionIds content .role ∧ Permitted allowedMentions "roles" roleId
      ∧ ∃ role ∈ state.permissions.rolesById.values, role.spaceId = space.id ∧ role.id = roleId
  everyone : mentions.everyone = true
    ↔ ("@everyone".toList <:+: content.toList ∨ "@here".toList <:+: content.toList)
      ∧ ∀ policy ∈ allowedMentions, "everyone" ∈ arrayTexts (policy.get "parse")
  usersWritten : ∀ userId ∈ mentions.userIds, WrittenIn .user content userId
  rolesWritten : ∀ roleId ∈ mentions.roleIds, WrittenIn .role content roleId
  usersOnce : mentions.userIds.Nodup
  rolesOnce : mentions.roleIds.Nodup
  usersInOrder : mentions.userIds.Pairwise (FirstBefore .user content)
  rolesInOrder : mentions.roleIds.Pairwise (FirstBefore .role content)

-----------------------------------------------------------------------------------------
-- Once, and in order
-----------------------------------------------------------------------------------------

section

variable {passes : Uuid → Bool}

theorem mentionedOnce_concat (ids : List Uuid) (id : Uuid)
    : mentionedOnce passes (ids ++ [id])
      = if passes id ∧ id ∉ mentionedOnce passes ids then mentionedOnce passes ids ++ [id]
        else mentionedOnce passes ids := by
  rw [mentionedOnce, List.foldl_append, List.foldl_cons, List.foldl_nil]
  rfl

/-- The ids that pass are found, by induction over the ids from their end. -/
theorem mem_mentionedOnce {ids : List Uuid} {id : Uuid}
    : id ∈ mentionedOnce passes ids ↔ id ∈ ids ∧ passes id := by
  induction ids using List.reverseRecOn with
  | nil => simp [mentionedOnce]
  | append_singleton ids last ih =>
      rw [mentionedOnce_concat]
      split
      · next found =>
          rw [List.mem_append, ih, List.mem_singleton, List.mem_append, List.mem_singleton]
          constructor
          · rintro (⟨earlier, passed⟩ | rfl)
            · exact ⟨.inl earlier, passed⟩
            · exact ⟨.inr rfl, found.1⟩
          · rintro ⟨earlier | rfl, passed⟩
            · exact .inl ⟨earlier, passed⟩
            · exact .inr rfl
      · next dropped =>
          rw [ih, List.mem_append, List.mem_singleton]
          refine ⟨fun both => ⟨.inl both.1, both.2⟩, ?_⟩
          rintro ⟨earlier | rfl, passed⟩
          · exact ⟨earlier, passed⟩
          · exact ih.mp (Decidable.not_not.mp fun missing => dropped ⟨passed, missing⟩)

theorem nodup_mentionedOnce (ids : List Uuid) : (mentionedOnce passes ids).Nodup := by
  induction ids using List.reverseRecOn with
  | nil => exact List.nodup_nil
  | append_singleton ids last ih =>
      rw [mentionedOnce_concat]
      split
      · next found =>
          refine List.nodup_append.mpr ⟨ih, List.nodup_singleton last, ?_⟩
          intro id earlier other single
          rw [List.mem_singleton.mp single]
          rintro rfl
          exact found.2 earlier
      · exact ih

/-- An id that is found before another occurs before all occurrences of that, by induction over
the ids from their end.
-/
theorem pairwise_mentionedOnce (ids : List Uuid)
    : (mentionedOnce passes ids).Pairwise fun first second =>
        ∃ before after, ids = before ++ after ∧ first ∈ before ∧ second ∉ before := by
  induction ids using List.reverseRecOn with
  | nil => exact .nil
  | append_singleton ids last ih =>
      have longer : (mentionedOnce passes ids).Pairwise fun first second =>
          ∃ before after, ids ++ [last] = before ++ after ∧ first ∈ before ∧ second ∉ before := by
        refine ih.imp fun split => ?_
        obtain ⟨before, after, rfl, earlier, later⟩ := split
        exact ⟨before, after ++ [last], List.append_assoc _ _ _, earlier, later⟩
      rw [mentionedOnce_concat]
      split
      · next found =>
          refine List.pairwise_append.mpr ⟨longer, List.pairwise_singleton _ _, ?_⟩
          intro first earlier second single
          rw [List.mem_singleton.mp single]
          refine ⟨ids, [last], rfl, (mem_mentionedOnce.mp earlier).1, fun listed => ?_⟩
          exact found.2 (mem_mentionedOnce.mpr ⟨listed, found.1⟩)
      · exact longer

end

/-- What is extracted once is in the order of the first tokens. -/
theorem firstBefore_mentionedOnce (passes : Uuid → Bool) (content : String) (kind : MentionKind)
    : (mentionedOnce passes (extractMentionIds content kind)).Pairwise
        (FirstBefore kind content) := by
  refine (pairwise_mentionedOnce _).imp fun split => ?_
  obtain ⟨before, after, same, earlier, later⟩ := split
  obtain ⟨front, back, tokens, rfl, rfl⟩ := List.filterMap_eq_append_iff.mp same
  refine ⟨front, back, tokens, List.mem_filterMap.mp earlier, fun token listed parsed => ?_⟩
  exact later (List.mem_filterMap.mpr ⟨token, listed, parsed⟩)

-----------------------------------------------------------------------------------------
-- Soundness
-----------------------------------------------------------------------------------------

/-- The policy of a request allows what the request permits. -/
theorem allowsUser_iff {allowedMentions : Option Json} {userId : Uuid}
    : (allowedMentionPolicy allowedMentions).allowsUser userId = true
      ↔ Permitted allowedMentions "users" userId := by
  cases allowedMentions <;> simp [allowedMentionPolicy, AllowedMentionPolicy.allowsUser, Permitted]

theorem allowsRole_iff {allowedMentions : Option Json} {roleId : Uuid}
    : (allowedMentionPolicy allowedMentions).allowsRole roleId = true
      ↔ Permitted allowedMentions "roles" roleId := by
  cases allowedMentions <;> simp [allowedMentionPolicy, AllowedMentionPolicy.allowsRole, Permitted]

theorem parseEveryone_iff {allowedMentions : Option Json}
    : (allowedMentionPolicy allowedMentions).parseEveryone = true
      ↔ ∀ policy ∈ allowedMentions, "everyone" ∈ arrayTexts (policy.get "parse") := by
  cases allowedMentions <;> simp [allowedMentionPolicy]

/-- A space answers for a user exactly if the user is an active member of it. -/
theorem isOk_spaceForUser_iff {state : AppState} {userId spaceId : Uuid}
    : (state.spaceForUser userId spaceId).isOk = true ↔ ActiveMember state userId spaceId := by
  rw [Eff.isOk_iff]
  simp only [AppState.spaceForUser, Eff.mapError_eq_ok, SpaceService.getForUser_eq_ok,
    SpaceStore.getForUser_eq_some]
  constructor
  · rintro ⟨_, member, space, row, active, stored, _⟩
    exact ⟨member, space, row, active, stored⟩
  · rintro ⟨member, space, row, active, stored⟩
    exact ⟨_, member, space, row, active, stored, rfl⟩

/-- The users of a resolution are the extracted ones that pass its tests. -/
theorem userIds_resolveAllowedMentions (state : AppState) (space : SpaceMembership)
    (content : String) (allowedMentions : Option Json)
    : ∃ passes, (resolveAllowedMentions state space content allowedMentions).userIds
          = mentionedOnce passes (extractMentionIds content .user)
        ∧ ∀ userId, passes userId = true ↔ Permitted allowedMentions "users" userId
            ∧ ActiveMember state userId space.id ∧ (state.auth.findUserById userId).isSome := by
  refine ⟨_, rfl, fun userId => ?_⟩
  simp only [Bool.and_eq_true, allowsUser_iff, isOk_spaceForUser_iff, and_assoc]

theorem roleIds_resolveAllowedMentions (state : AppState) (space : SpaceMembership)
    (content : String) (allowedMentions : Option Json)
    : ∃ passes, (resolveAllowedMentions state space content allowedMentions).roleIds
          = mentionedOnce passes (extractMentionIds content .role)
        ∧ ∀ roleId, passes roleId = true ↔ Permitted allowedMentions "roles" roleId
            ∧ ∃ role ∈ state.permissions.rolesById.values,
                role.spaceId = space.id ∧ role.id = roleId := by
  refine ⟨_, rfl, fun roleId => ?_⟩
  simp only [Bool.and_eq_true, allowsRole_iff, List.contains_iff_mem, List.mem_map,
    List.mem_filter, decide_eq_true_eq, and_assoc]

theorem hasEveryoneMention_iff {content : String}
    : hasEveryoneMention content = true
      ↔ "@everyone".toList <:+: content.toList ∨ "@here".toList <:+: content.toList :=
  decide_eq_true_iff

theorem everyone_resolveAllowedMentions (state : AppState) (space : SpaceMembership)
    (content : String) (allowedMentions : Option Json)
    : (resolveAllowedMentions state space content allowedMentions).everyone = true
      ↔ ("@everyone".toList <:+: content.toList ∨ "@here".toList <:+: content.toList)
        ∧ ∀ policy ∈ allowedMentions, "everyone" ∈ arrayTexts (policy.get "parse") := by
  have answer : (resolveAllowedMentions state space content allowedMentions).everyone
      = (hasEveryoneMention content && (allowedMentionPolicy allowedMentions).parseEveryone) :=
    rfl
  rw [answer, Bool.and_eq_true, parseEveryone_iff]
  exact and_congr_left' hasEveryoneMention_iff

/-- A resolution is sound, its scans end without cutting a character, and no token is read both as
a user and as a role.
-/
theorem resolveAllowedMentions_sound (state : AppState) (space : SpaceMembership)
    (content : String) (allowedMentions : Option Json)
    : SoundMentions state space content allowedMentions
        (resolveAllowedMentions state space content allowedMentions)
      ∧ (∀ kind fuel, content.toList.length < fuel →
          scanMentions kind fuel content.toList [] = some (extractMentionIds content kind))
      ∧ ∀ token, parseMention .user token = none ∨ parseMention .role token = none := by
  obtain ⟨allowsUser, users, userTests⟩ :=
    userIds_resolveAllowedMentions state space content allowedMentions
  obtain ⟨allowsRole, roles, roleTests⟩ :=
    roleIds_resolveAllowedMentions state space content allowedMentions
  have everyone := everyone_resolveAllowedMentions state space content allowedMentions
  generalize resolveAllowedMentions state space content allowedMentions = mentions at *
  refine ⟨?_, ?_, ?_⟩
  · constructor
    case users => simp only [users, mem_mentionedOnce, userTests, implies_true]
    case roles => simp only [roles, mem_mentionedOnce, roleTests, implies_true]
    case everyone => exact everyone
    case usersWritten =>
      intro userId found
      rw [users] at found
      exact mem_extractMentionIds (mem_mentionedOnce.mp found).1
    case rolesWritten =>
      intro roleId found
      rw [roles] at found
      exact mem_extractMentionIds (mem_mentionedOnce.mp found).1
    case usersOnce => rw [users]; exact nodup_mentionedOnce _
    case rolesOnce => rw [roles]; exact nodup_mentionedOnce _
    case usersInOrder => rw [users]; exact firstBefore_mentionedOnce allowsUser content .user
    case rolesInOrder => rw [roles]; exact firstBefore_mentionedOnce allowsRole content .role
  · intro kind fuel enough
    rw [scanMentions_eq enough, List.nil_append, extractMentionIds]
  · intro token
    cases role : parseMention .role token with
    | none => exact .inr rfl
    | some roleId => exact .inl (parseMention_user_eq_none role)

/-- Lists without repetitions are stored as they are, by induction over the list. -/
theorem normalizeMentionIds_of_nodup {ids : List Uuid} (once : ids.Nodup)
    : MessageService.normalizeMentionIds ids = ids := by
  rw [MessageService.normalizeMentionIds]
  induction ids with
  | nil => rfl
  | cons first rest ih =>
      obtain ⟨fresh, once⟩ := List.nodup_cons.mp once
      have others : (rest.filter fun id => !id == first) = rest := by
        refine List.filter_eq_self.mpr fun id listed => ?_
        rw [Bool.not_eq_true', beq_eq_false_iff_ne]
        rintro rfl
        exact fresh listed
      rw [List.eraseDups_cons, others, ih once]

/-- A message is stored with the mentions that were resolved. -/
theorem stored_resolveAllowedMentions (state : AppState) (space : SpaceMembership)
    (content : String) (allowedMentions : Option Json)
    : let mentions := resolveAllowedMentions state space content allowedMentions
      MessageService.normalizeMentionIds mentions.userIds = mentions.userIds
        ∧ MessageService.normalizeMentionIds mentions.roleIds = mentions.roleIds := by
  obtain ⟨_, users, _⟩ := userIds_resolveAllowedMentions state space content allowedMentions
  obtain ⟨_, roles, _⟩ := roleIds_resolveAllowedMentions state space content allowedMentions
  refine ⟨normalizeMentionIds_of_nodup ?_, normalizeMentionIds_of_nodup ?_⟩
  · rw [users]
    exact nodup_mentionedOnce _
  · rw [roles]
    exact nodup_mentionedOnce _

end OpenCord.Server
