import OpenCord.Platform.Tokens
import OpenCord.Tenancy.Scim

/-! The SCIM tokens of organizations: two indexes that a rotation keeps in step. -/

namespace OpenCord.Tenancy

open OpenCord.Library OpenCord.Platform OpenCord.Auth

structure ScimToken where
  organizationId : Uuid
  token : String
  deriving DecidableEq

namespace ScimService

def generateScimToken (bytes : BitVec 256) : String := randomToken "opc-scim-" bytes

def rotateToken (crypto : Crypto) (bytes : BitVec 256) (organizationId : Uuid)
    : Eff ScimStore ScimError ScimToken := do
  let token := generateScimToken bytes
  ScimStore.rotateToken ⟨organizationId, hashScimToken crypto token⟩
  return ⟨organizationId, token⟩

end ScimService

namespace ScimStore

/-- A hash is stored for an organization. -/
def Accepts (store : ScimStore) (organizationId : Uuid) (tokenHash : String) : Prop :=
  ∃ config, store.tokensByHash.lookup tokenHash = some config
    ∧ config.organizationId = organizationId

/-- An organization accepts exactly the hash it is indexed with. -/
def InStep (store : ScimStore) : Prop :=
  ∀ organizationId tokenHash, store.Accepts organizationId tokenHash
    ↔ store.tokenHashByOrganization.lookup organizationId = some tokenHash

variable {store : ScimStore}

theorem not_accepts_empty (organizationId : Uuid) (tokenHash : String)
    : ¬ ScimStore.empty.Accepts organizationId tokenHash := by
  rintro ⟨config, stored, -⟩
  cases stored

theorem InStep.empty : ScimStore.empty.InStep := by
  intro organizationId tokenHash
  exact iff_of_false (not_accepts_empty organizationId tokenHash) nofun

/-- The hashes without the one an organization is indexed with. -/
def withoutPrevious (store : ScimStore) (organizationId : Uuid)
    : Table String StoredScimToken :=
  match store.tokenHashByOrganization.lookup organizationId with
  | some previousHash => store.tokensByHash.erase previousHash
  | none => store.tokensByHash

theorem after_rotateToken (store : ScimStore) (token : StoredScimToken)
    : (rotateToken token).after store
      = { store with
          tokenHashByOrganization :=
            store.tokenHashByOrganization.insert token.organizationId token.tokenHash
          tokensByHash :=
            (store.withoutPrevious token.organizationId).insert token.tokenHash token } :=
  rfl

/-- Before the new hash is stored, the old one of the organization is gone. -/
theorem InStep.lookup_withoutPrevious (inStep : store.InStep) {organizationId : Uuid}
    {tokenHash : String} {config : StoredScimToken}
    : (store.withoutPrevious organizationId).lookup tokenHash = some config
      ↔ store.tokensByHash.lookup tokenHash = some config
        ∧ config.organizationId ≠ organizationId := by
  have indexed : store.tokensByHash.lookup tokenHash = some config →
      store.tokenHashByOrganization.lookup config.organizationId = some tokenHash :=
    fun stored => (inStep _ _).mp ⟨config, stored, rfl⟩
  rw [withoutPrevious]
  split
  · next previousHash previous =>
      by_cases same : tokenHash = previousHash
      · rw [same, AList.lookup_erase]
        refine iff_of_false nofun ?_
        rintro ⟨stored, differs⟩
        obtain ⟨other, found, owner⟩ := (inStep _ _).mpr previous
        obtain rfl := Option.some.inj (stored.symm.trans found)
        exact differs owner
      · rw [AList.lookup_erase_ne same]
        refine (and_iff_left_of_imp fun stored own => same ?_).symm
        have current := indexed stored
        rw [own, previous] at current
        exact (Option.some.inj current).symm
  · next missing =>
      refine (and_iff_left_of_imp fun stored own => ?_).symm
      have current := indexed stored
      rw [own, missing] at current
      cases current

/-- A new hash takes the place of the one the organization had. -/
theorem InStep.rotateToken (inStep : store.InStep) {token : StoredScimToken}
    (fresh : ∀ organizationId, ¬ store.Accepts organizationId token.tokenHash)
    : ((ScimStore.rotateToken token).after store).InStep
      ∧ ∀ organizationId tokenHash,
          ((ScimStore.rotateToken token).after store).Accepts organizationId tokenHash
            ↔ (organizationId = token.organizationId ∧ tokenHash = token.tokenHash)
              ∨ (organizationId ≠ token.organizationId
                ∧ store.Accepts organizationId tokenHash) := by
  have accepts : ∀ organizationId tokenHash,
      ((ScimStore.rotateToken token).after store).Accepts organizationId tokenHash
        ↔ (organizationId = token.organizationId ∧ tokenHash = token.tokenHash)
          ∨ (organizationId ≠ token.organizationId
            ∧ store.Accepts organizationId tokenHash) := by
    intro organizationId tokenHash
    simp only [after_rotateToken, Accepts, Table.lookup_insert_eq]
    obtain rfl | other := eq_or_ne tokenHash token.tokenHash
    · simp only [if_true, Option.some.injEq, exists_eq_left', and_true]
      constructor
      · exact fun owner => .inl owner.symm
      · rintro (owner | ⟨-, taken⟩)
        · exact owner.symm
        · exact absurd taken (fresh organizationId)
    · simp only [other, if_false, inStep.lookup_withoutPrevious, and_false, false_or]
      constructor
      · rintro ⟨config, ⟨stored, differs⟩, rfl⟩
        exact ⟨differs, config, stored, rfl⟩
      · rintro ⟨differs, config, stored, rfl⟩
        exact ⟨config, ⟨stored, differs⟩, rfl⟩
  refine ⟨fun organizationId tokenHash => ?_, accepts⟩
  rw [accepts, inStep]
  simp only [after_rotateToken, Table.lookup_insert_eq]
  by_cases own : organizationId = token.organizationId <;> simp [own, eq_comm]

end ScimStore

namespace ScimService

variable {crypto : Crypto} {store : ScimStore} {config : StoredScimToken}

/-- A bearer token without whitespace around it stands for what its hash is stored with. -/
theorem lookup_of_configForToken {token : String} (trimmed : Text.trim token = token)
    (found : configForToken crypto store token = .ok config)
    : store.tokensByHash.lookup (crypto.sha256 token) = some config := by
  unfold configForToken hashScimToken at found
  rw [trimmed] at found
  dsimp only at found
  split at found
  · cases found
  · split at found
    · next stored => exact Except.ok.inj found ▸ stored
    · cases found

theorem configForToken_of_lookup {bytes : BitVec 256}
    (stored : store.tokensByHash.lookup (crypto.sha256 (generateScimToken bytes)) = some config)
    : configForToken crypto store (generateScimToken bytes) = .ok config := by
  have trimmed : Text.trim (generateScimToken bytes) = generateScimToken bytes :=
    trim_randomToken bytes (by decide)
  have nonempty : generateScimToken bytes ≠ "" := randomToken_ne_empty (by decide) bytes
  unfold configForToken hashScimToken
  rw [trimmed]
  dsimp only
  rw [if_neg nonempty, stored]

end ScimService

end OpenCord.Tenancy
