import OpenCord.Library.Runs
import OpenCord.Library.UniqueIndex
import OpenCord.Tenancy.Organizations

/-! Custom domains of organizations: hostnames are stored in one spelling, and a host header
is brought to that spelling before it is looked up.
-/

namespace OpenCord.Tenancy

open OpenCord.Library OpenCord.Platform

inductive CustomDomainStatus where
  | pendingVerification
  | active
  deriving DecidableEq

structure StoredCustomDomain where
  id : Uuid
  organizationId : Uuid
  hostname : String
  verificationToken : String
  status : CustomDomainStatus
  deriving DecidableEq

structure CustomDomainTenant where
  organizationId : Uuid
  slug : String
  name : String
  plan : String
  deploymentMode : String
  primaryRegion : String
  hostname : String
  deriving DecidableEq

/-- An organization as one of its hostnames resolves to it. -/
def CustomDomainTenant.of (organization : StoredOrganization) (hostname : String)
    : CustomDomainTenant :=
  ⟨organization.id, organization.slug, organization.name, organization.plan,
    organization.deploymentMode, organization.primaryRegion, hostname⟩

/-- The organization store with its custom domains. -/
structure TenantStore extends OrganizationStore where
  customDomainsById : Table Uuid StoredCustomDomain
  customDomainIdByHostname : Table String Uuid

namespace TenantStore

def empty : TenantStore := ⟨.empty, ∅, ∅⟩

/-- The store after a write to its organizations or members. -/
def organizations (write : Eff OrganizationStore OrganizationError Unit)
    : Eff TenantStore OrganizationError Unit :=
  write.zoom toOrganizationStore (fun store part => { store with toOrganizationStore := part }) id

def createCustomDomain (customDomain : StoredCustomDomain)
    : Eff TenantStore OrganizationError Unit := do
  let store ← get
  if customDomain.organizationId ∉ store.organizationsById then
    throw .notFound
  else if customDomain.hostname ∈ store.customDomainIdByHostname then
    throw .customDomainAlreadyExists
  else
    set { store with
      customDomainIdByHostname :=
        store.customDomainIdByHostname.insert customDomain.hostname customDomain.id
      customDomainsById := store.customDomainsById.insert customDomain.id customDomain }

def verifyCustomDomain (organizationId customDomainId : Uuid) (verificationToken : String)
    : Eff TenantStore OrganizationError StoredCustomDomain := do
  let store ← get
  match store.customDomainsById.lookup customDomainId with
  | none => throw .notFound
  | some customDomain =>
      if customDomain.organizationId ≠ organizationId then
        throw .notFound
      else if customDomain.verificationToken ≠ verificationToken then
        throw (.invalidInput "custom domain verification token is invalid")
      else do
        let verified := { customDomain with status := .active }
        set { store with
          customDomainsById := store.customDomainsById.insert customDomainId verified }
        return verified

def resolveCustomDomain (store : TenantStore) (hostname : String)
    : Option CustomDomainTenant := do
  let customDomainId ← store.customDomainIdByHostname.lookup hostname
  let customDomain ← store.customDomainsById.lookup customDomainId
  if customDomain.status ≠ .active then
    none
  else
    let organization ← store.organizationsById.lookup customDomain.organizationId
    some (.of organization customDomain.hostname)

end TenantStore

namespace CustomDomainService

def hostnameMessage : String :=
  "custom domain hostname must be a valid fully qualified hostname"

def validLabel (label : String) : Bool :=
  label != "" && decide (label.utf8ByteSize ≤ 63) && !Text.startsWithChar label '-'
    && !Text.endsWithChar label '-'
    && label.toList.all fun character => character.isAlphanum || character == '-'

def normalizeHostname (hostname : String) : Except OrganizationError String :=
  let hostname := Text.toAsciiLowercase (Text.trimEndMatches (Text.trim hostname) '.')
  if 253 < hostname.utf8ByteSize ∨ Text.containsChar hostname '.' = false then
    .error (.invalidInput hostnameMessage)
  else if (Text.split hostname '.').all validLabel then
    .ok hostname
  else
    .error (.invalidInput hostnameMessage)

/-- The host without a port at its end. -/
def withoutPort (host : String) : String :=
  match Text.rsplitOnce host ':' with
  | some (hostname, port) => if port ≠ "" ∧ port.toList.all Char.isDigit then hostname else host
  | none => host

def normalizeHostHeader (hostHeader : String) : Except OrganizationError String :=
  let host := Text.trim hostHeader
  if host = "" then
    .error (.invalidInput "host header is required")
  else if Text.startsWithChar host '[' then
    -- what stands between the brackets, or all of it when none closes
    normalizeHostname (String.ofList ((host.toList.drop 1).takeWhile (· != ']')))
  else
    normalizeHostname (withoutPort host)

/-- Creates a custom domain under drawn identifiers. -/
def createCustomDomain (customDomainId tokenId userId organizationId : Uuid) (hostname : String)
    : Eff TenantStore OrganizationError StoredCustomDomain := do
  let store ← get
  let _ ← OrganizationService.getForUser store.toOrganizationStore userId organizationId
  let hostname ← normalizeHostname hostname
  let customDomain : StoredCustomDomain :=
    ⟨customDomainId, organizationId, hostname, "opc-domain-" ++ tokenId.simple,
      .pendingVerification⟩
  TenantStore.createCustomDomain customDomain
  return customDomain

def verifyCustomDomain (userId organizationId customDomainId : Uuid)
    (verificationToken : String) : Eff TenantStore OrganizationError StoredCustomDomain := do
  let store ← get
  let _ ← OrganizationService.getForUser store.toOrganizationStore userId organizationId
  if Text.trim verificationToken = "" then
    throw (.invalidInput "custom domain verification_token is required")
  else
    TenantStore.verifyCustomDomain organizationId customDomainId (Text.trim verificationToken)

def resolveCustomDomain (store : TenantStore) (hostHeader : String)
    : Except OrganizationError CustomDomainTenant := do
  let hostname ← normalizeHostHeader hostHeader
  match store.resolveCustomDomain hostname with
  | some tenant => .ok tenant
  | none => .error .notFound

end CustomDomainService

-----------------------------------------------------------------------------------------
-- Runs
-----------------------------------------------------------------------------------------

/-- The writes of the store; what a request reads before its write is left open. -/
inductive TenantMove where
  | createOrganization (organization : StoredOrganization)
      (ownerMember : StoredOrganizationMember)
  | updatePlan (organizationId : Uuid) (plan : String)
  | addMemberIfMissing (member : StoredOrganizationMember)
  | setMemberStatus (organizationId userId : Uuid) (status : MemberStatus)
  | createCustomDomain (customDomain : StoredCustomDomain)
  | verifyCustomDomain (organizationId customDomainId : Uuid) (verificationToken : String)

namespace TenantStore

/-- One write; a new custom domain has an identifier that none had before. -/
def step (store : TenantStore) : TenantMove → Option TenantStore
  | .createOrganization organization ownerMember =>
      some ((organizations (OrganizationStore.createOrganization organization ownerMember)).after
        store)
  | .updatePlan organizationId plan =>
      some ((organizations (OrganizationStore.updatePlan organizationId plan)).after store)
  | .addMemberIfMissing member =>
      some ((organizations (OrganizationStore.addMemberIfMissing member)).after store)
  | .setMemberStatus organizationId userId status =>
      some ((organizations (OrganizationStore.setMemberStatus organizationId userId
        status)).after store)
  | .createCustomDomain customDomain =>
      if customDomain.id ∈ store.customDomainsById then none
      else some ((createCustomDomain customDomain).after store)
  | .verifyCustomDomain organizationId customDomainId verificationToken =>
      some ((verifyCustomDomain organizationId customDomainId verificationToken).after store)

/-- An active custom domain with the hostname. -/
def Serves (store : TenantStore) (customDomain : StoredCustomDomain) (hostname : String) : Prop :=
  (∃ customDomainId, store.customDomainsById.lookup customDomainId = some customDomain)
    ∧ customDomain.hostname = hostname ∧ customDomain.status = .active

/-- No two custom domains share a hostname, and a host is resolved by its hostname, with or
without a port: to the organization of the active custom domain, or not at all.
-/
structure DomainsResolve (store : TenantStore) : Prop where
  unique : ∀ customDomainId otherId customDomain other,
    store.customDomainsById.lookup customDomainId = some customDomain →
      store.customDomainsById.lookup otherId = some other →
        customDomain.hostname = other.hostname → customDomainId = otherId
  portIgnored : ∀ host hostname port,
    CustomDomainService.normalizeHostname host = .ok hostname → port ≠ "" →
      (∀ character ∈ port.toList, character.isDigit = true) →
        CustomDomainService.resolveCustomDomain store (host ++ ":" ++ port)
          = CustomDomainService.resolveCustomDomain store host
  served : ∀ host hostname customDomain,
    CustomDomainService.normalizeHostname host = .ok hostname →
      store.Serves customDomain hostname →
        ∃ organization, organization.id = customDomain.organizationId
          ∧ store.organizationsById.lookup customDomain.organizationId = some organization
          ∧ CustomDomainService.resolveCustomDomain store host
            = .ok (.of organization hostname)
  unserved : ∀ host hostname, CustomDomainService.normalizeHostname host = .ok hostname →
    (¬ ∃ customDomain, store.Serves customDomain hostname) →
      CustomDomainService.resolveCustomDomain store host = .error .notFound

end TenantStore

-----------------------------------------------------------------------------------------
-- Hostnames
-----------------------------------------------------------------------------------------

namespace CustomDomainService

/-- A character of a stored hostname. -/
def hostnameCharacter (character : Char) : Bool :=
  character.isAlphanum || character == '-' || character == '.'

/-- What is accepted is the trimmed host in lower case, without dots at its end. -/
theorem toList_of_normalizeHostname {host hostname : String}
    (accepted : normalizeHostname host = .ok hostname)
    : hostname.toList
        = ((Text.trimChars host.toList).rdropWhile (· == '.')).map Char.toLower
      ∧ '.' ∈ hostname.toList ∧ (Text.split hostname '.').all validLabel = true := by
  simp only [normalizeHostname] at accepted
  split at accepted
  · cases accepted
  · next qualified =>
      split at accepted
      · next valid =>
          obtain rfl := Except.ok.inj accepted
          refine ⟨by simp [Text.trimEndMatches], ?_, valid⟩
          simpa [Text.containsChar] using (not_or.mp qualified).2
      · cases accepted

theorem hostnameCharacter_of_normalizeHostname {host hostname : String}
    (accepted : normalizeHostname host = .ok hostname)
    : ∀ character ∈ hostname.toList, hostnameCharacter character = true := by
  intro character mem
  obtain ⟨-, -, valid⟩ := toList_of_normalizeHostname accepted
  by_cases dot : character = '.'
  · simp [hostnameCharacter, dot]
  · obtain ⟨label, inLabels, inside⟩ := Text.exists_mem_splitChars mem dot
    have checked := List.all_eq_true.mp valid _ (List.mem_map_of_mem inLabels)
    simp only [validLabel, Bool.and_eq_true, String.toList_ofList] at checked
    have allowed := List.all_eq_true.mp checked.2 character inside
    rw [hostnameCharacter, allowed, Bool.true_or]

/-- An accepted host has only letters, digits, dashes and dots between its whitespace. -/
theorem hostCharacter_of_normalizeHostname {host hostname : String}
    (accepted : normalizeHostname host = .ok hostname)
    : ∀ character ∈ Text.trimChars host.toList,
        hostnameCharacter character.toLower = true := by
  intro character mem
  by_cases dot : character = '.'
  · rw [dot]
    decide
  · apply hostnameCharacter_of_normalizeHostname accepted
    rw [(toList_of_normalizeHostname accepted).1]
    exact List.mem_map_of_mem (Text.mem_rdropWhile mem (by simpa using dot))

/-- A hostname is read without the whitespace around it. -/
theorem normalizeHostname_congr {host other : String}
    (same : Text.trimChars host.toList = Text.trimChars other.toList)
    : normalizeHostname host = normalizeHostname other := by
  have trimmed : Text.trim host = Text.trim other := by
    rw [Text.trim, same, Text.trim]
  simp only [normalizeHostname, trimmed]

/-- An accepted host starts, after its whitespace, with a character of a hostname. -/
theorem exists_start_of_normalizeHostname {host hostname : String}
    (accepted : normalizeHostname host = .ok hostname)
    : ∃ first, (Text.trimChars host.toList).head? = some first
        ∧ hostnameCharacter first.toLower = true := by
  have nonempty : Text.trimChars host.toList ≠ [] := by
    intro empty
    obtain ⟨characters, qualified, -⟩ := toList_of_normalizeHostname accepted
    rw [characters, empty] at qualified
    cases qualified
  obtain ⟨first, rest, shape⟩ := List.exists_cons_of_ne_nil nonempty
  refine ⟨first, by rw [shape]; rfl, ?_⟩
  exact hostCharacter_of_normalizeHostname accepted first (by rw [shape]; exact List.mem_cons_self)

/-- A header that starts like a hostname is read without its port. -/
theorem normalizeHostHeader_of_start {host : String} {first : Char}
    (start : (Text.trimChars host.toList).head? = some first)
    (allowed : hostnameCharacter first.toLower = true)
    : normalizeHostHeader host = normalizeHostname (withoutPort (Text.trim host)) := by
  have nonempty : Text.trim host ≠ "" := by
    intro empty
    rw [← Text.toList_trim, empty] at start
    cases start
  have unbracketed : Text.startsWithChar (Text.trim host) '[' = false := by
    rw [Text.startsWithChar, Text.toList_trim, start]
    by_contra bracket
    obtain rfl : first = '[' := by simpa using bracket
    exact absurd allowed (by decide)
  simp only [normalizeHostHeader, if_neg nonempty, unbracketed, Bool.false_eq_true, if_false]

/-- An accepted host is read as its hostname. -/
theorem normalizeHostHeader_of_accepted {host hostname : String}
    (accepted : normalizeHostname host = .ok hostname)
    : normalizeHostHeader host = .ok hostname := by
  obtain ⟨first, start, allowed⟩ := exists_start_of_normalizeHostname accepted
  have noColon : ':' ∉ (Text.trim host).toList := by
    rw [Text.toList_trim]
    intro colon
    exact absurd (hostCharacter_of_normalizeHostname accepted ':' colon) (by decide)
  rw [normalizeHostHeader_of_start start allowed, withoutPort, Text.rsplitOnce_of_notMem noColon,
    ← accepted]
  apply normalizeHostname_congr
  rw [Text.toList_trim, Text.trimChars_of_trimmed (Text.trimChars_trimmed _)]

theorem isWhitespace_of_isDigit {character : Char} (digit : character.isDigit = true)
    : Text.isWhitespace character = false := by
  have bounds : 48 ≤ character.toNat ∧ character.toNat ≤ 57 := by
    simpa [Char.isDigit, UInt32.le_iff_toNat_le] using digit
  simp only [Text.isWhitespace, Bool.or_eq_false_iff, decide_eq_false_iff_not, beq_eq_false_iff_ne]
  omega

/-- An accepted host with a port is read as its hostname. -/
theorem normalizeHostHeader_withPort {host hostname port : String}
    (accepted : normalizeHostname host = .ok hostname) (nonempty : port ≠ "")
    (digits : ∀ character ∈ port.toList, character.isDigit = true)
    : normalizeHostHeader (host ++ ":" ++ port) = .ok hostname := by
  obtain ⟨first, start, allowed⟩ := exists_start_of_normalizeHostname accepted
  have shape : (host ++ ":" ++ port).toList = host.toList ++ ':' :: port.toList := by
    simp [String.toList_append]
  have trimmed : Text.trimChars (host ++ ":" ++ port).toList
      = host.toList.dropWhile Text.isWhitespace ++ ':' :: port.toList := by
    rw [shape]
    refine Text.trimChars_append (List.cons_ne_nil _ _) fun character mem => ?_
    rcases List.mem_cons.mp mem with rfl | mem
    · decide
    · exact isWhitespace_of_isDigit (digits character mem)
  have sameStart : (Text.trimChars (host ++ ":" ++ port).toList).head? = some first := by
    have inHost := Text.head?_of_isPrefix
      (List.rdropWhile_prefix Text.isWhitespace (host.toList.dropWhile Text.isWhitespace))
      first (Option.mem_def.mpr start)
    rw [trimmed, List.head?_append, Option.mem_def.mp inHost]
    rfl
  have noColon : ':' ∉ port.toList := by
    intro colon
    exact absurd (digits ':' colon) (by decide)
  have cut : withoutPort (Text.trim (host ++ ":" ++ port))
      = String.ofList (host.toList.dropWhile Text.isWhitespace) := by
    have allDigits : port.toList.all Char.isDigit = true := List.all_eq_true.mpr digits
    rw [withoutPort, Text.trim, trimmed, Text.rsplitOnce_append _ noColon]
    simp only [String.ofList_toList]
    rw [if_pos ⟨nonempty, allDigits⟩]
  rw [normalizeHostHeader_of_start sameStart allowed, cut, ← accepted]
  apply normalizeHostname_congr
  rw [String.toList_ofList, Text.trimChars_dropWhile]

end CustomDomainService

-----------------------------------------------------------------------------------------
-- What the writes keep
-----------------------------------------------------------------------------------------

namespace OrganizationStore

/-- Organizations are stored under their own identifiers. -/
def Keyed (store : OrganizationStore) : Prop :=
  ∀ organizationId organization,
    store.organizationsById.lookup organizationId = some organization →
      organization.id = organizationId

/-- Organizations are stored under their own identifiers, those of an earlier store among
them.
-/
def Grown (earlier store : OrganizationStore) : Prop :=
  store.Keyed ∧ ∀ organizationId ∈ earlier.organizationsById,
    organizationId ∈ store.organizationsById

variable {store : OrganizationStore}

theorem Grown.refl (keyed : store.Keyed) : Grown store store :=
  ⟨keyed, fun _ stored => stored⟩

/-- Storing an organization under its identifier loses none. -/
theorem Grown.insert (keyed : store.Keyed) {next : OrganizationStore}
    {organization : StoredOrganization}
    (stored : next.organizationsById = store.organizationsById.insert organization.id organization)
    : Grown store next := by
  rw [Grown, Keyed, stored]
  refine ⟨Table.forall_insert rfl keyed, fun organizationId earlier => ?_⟩
  exact (AList.mem_insert _).mpr (.inr earlier)

theorem Grown.createOrganization (keyed : store.Keyed) (organization : StoredOrganization)
    (ownerMember : StoredOrganizationMember)
    : Grown store ((OrganizationStore.createOrganization organization ownerMember).after
        store) := by
  have atomic := createOrganization_atomic organization ownerMember
  refine Eff.after_atomic atomic (.refl keyed) fun _ next created => ?_
  rw [OrganizationStore.createOrganization, Eff.exec_get_bind] at created
  split at created
  · cases created
  · cases created
    exact .insert keyed rfl

theorem Grown.updatePlan (keyed : store.Keyed) (organizationId : Uuid) (plan : String)
    : Grown store ((OrganizationStore.updatePlan organizationId plan).after store) := by
  have atomic := updatePlan_atomic organizationId plan
  refine Eff.after_atomic atomic (.refl keyed) fun _ next updated => ?_
  rw [OrganizationStore.updatePlan, Eff.exec_get_bind] at updated
  split at updated
  · cases updated
  · next organization stored =>
      cases updated
      obtain rfl := keyed organizationId organization stored
      exact @Grown.insert _ keyed _ { organization with plan := plan } rfl

theorem Grown.addMemberIfMissing (keyed : store.Keyed) (member : StoredOrganizationMember)
    : Grown store ((OrganizationStore.addMemberIfMissing member).after store) := by
  have atomic := addMemberIfMissing_atomic member
  refine Eff.after_atomic atomic (.refl keyed) fun _ next added => ?_
  obtain ⟨-, rfl⟩ := addMemberIfMissing_ok added
  exact .refl keyed

theorem Grown.setMemberStatus (keyed : store.Keyed) (organizationId userId : Uuid)
    (status : MemberStatus)
    : Grown store ((OrganizationStore.setMemberStatus organizationId userId status).after
        store) := by
  have atomic := setMemberStatus_atomic organizationId userId status
  refine Eff.after_atomic atomic (.refl keyed) fun _ next done => ?_
  obtain ⟨member, -, rfl⟩ := setMemberStatus_ok done
  exact .refl keyed

end OrganizationStore

namespace TenantStore

/-- Hostnames are indexed exactly, and the organization of each custom domain exists. -/
structure Indexed (store : TenantStore) : Prop where
  keyed : store.Keyed
  exact : UniqueIndex.Exact StoredCustomDomain.hostname store.customDomainsById ∅
    store.customDomainIdByHostname
  owned : ∀ customDomainId customDomain,
    store.customDomainsById.lookup customDomainId = some customDomain →
      customDomain.organizationId ∈ store.organizationsById

variable {store : TenantStore}

theorem Indexed.empty : TenantStore.empty.Indexed :=
  ⟨nofun, .empty, nofun⟩

/-- A write to the organizations keeps the custom domains. -/
theorem Indexed.organizations (indexed : store.Indexed)
    {write : Eff OrganizationStore OrganizationError Unit}
    (grown : OrganizationStore.Grown store.toOrganizationStore
      (write.after store.toOrganizationStore))
    : ((TenantStore.organizations write).after store).Indexed := by
  rw [TenantStore.organizations, Eff.after_zoom]
  exact {
    keyed := grown.1
    exact := indexed.exact
    owned := fun customDomainId customDomain stored =>
      grown.2 _ (indexed.owned customDomainId customDomain stored) }

theorem createCustomDomain_atomic (customDomain : StoredCustomDomain)
    : (createCustomDomain customDomain).Atomic := by
  refine .get_bind fun store => ?_
  split
  · exact .throw _
  · split
    · exact .throw _
    · exact .set _

theorem Indexed.createCustomDomain (indexed : store.Indexed) {customDomain : StoredCustomDomain}
    (new : customDomain.id ∉ store.customDomainsById)
    : ((TenantStore.createCustomDomain customDomain).after store).Indexed := by
  have atomic := createCustomDomain_atomic customDomain
  refine Eff.after_atomic atomic indexed fun _ next created => ?_
  rw [TenantStore.createCustomDomain, Eff.exec_get_bind] at created
  split at created
  · cases created
  · next organization =>
      split at created
      · cases created
      · next free =>
          cases created
          exact {
            keyed := indexed.keyed
            exact := indexed.exact.insert new (AList.notMem_empty _) free
            owned := Table.forall_insert (not_not.mp organization) indexed.owned }

theorem verifyCustomDomain_atomic (organizationId customDomainId : Uuid)
    (verificationToken : String)
    : (verifyCustomDomain organizationId customDomainId verificationToken).Atomic := by
  refine .get_bind fun store => ?_
  split
  · exact .throw _
  · split
    · exact .throw _
    · split
      · exact .throw _
      · exact (Eff.Atomic.set _).map _

theorem Indexed.verifyCustomDomain (indexed : store.Indexed)
    (organizationId customDomainId : Uuid) (verificationToken : String)
    : ((TenantStore.verifyCustomDomain organizationId customDomainId verificationToken).after
        store).Indexed := by
  have atomic := verifyCustomDomain_atomic organizationId customDomainId verificationToken
  refine Eff.after_atomic atomic indexed fun verified next done => ?_
  rw [TenantStore.verifyCustomDomain, Eff.exec_get_bind] at done
  split at done
  · cases done
  · next customDomain stored =>
      split at done
      · cases done
      · split at done
        · cases done
        · have owned := indexed.owned customDomainId customDomain stored
          cases done
          exact {
            keyed := indexed.keyed
            exact := indexed.exact.amend stored rfl
            owned := Table.forall_insert owned indexed.owned }

theorem Indexed.step (indexed : store.Indexed) {move : TenantMove} {next : TenantStore}
    (stepped : store.step move = some next)
    : next.Indexed := by
  cases move with
  | createOrganization organization ownerMember =>
      obtain rfl := Option.some.inj stepped
      exact indexed.organizations (.createOrganization indexed.keyed organization ownerMember)
  | updatePlan organizationId plan =>
      obtain rfl := Option.some.inj stepped
      exact indexed.organizations (.updatePlan indexed.keyed organizationId plan)
  | addMemberIfMissing member =>
      obtain rfl := Option.some.inj stepped
      exact indexed.organizations (.addMemberIfMissing indexed.keyed member)
  | setMemberStatus organizationId userId status =>
      obtain rfl := Option.some.inj stepped
      exact indexed.organizations (.setMemberStatus indexed.keyed organizationId userId status)
  | createCustomDomain customDomain =>
      rw [TenantStore.step] at stepped
      split at stepped
      · cases stepped
      · next new =>
          obtain rfl := Option.some.inj stepped
          exact indexed.createCustomDomain new
  | verifyCustomDomain organizationId customDomainId verificationToken =>
      obtain rfl := Option.some.inj stepped
      exact indexed.verifyCustomDomain organizationId customDomainId verificationToken

/-- The active custom domain of a hostname is what the hostname resolves to. -/
theorem Indexed.resolve_of_serves (indexed : store.Indexed) {customDomain : StoredCustomDomain}
    {hostname : String} (serves : store.Serves customDomain hostname)
    : ∃ organization, organization.id = customDomain.organizationId
        ∧ store.organizationsById.lookup customDomain.organizationId = some organization
        ∧ store.resolveCustomDomain hostname = some (.of organization hostname) := by
  obtain ⟨⟨customDomainId, stored⟩, rfl, active⟩ := serves
  have found := (indexed.exact.indexed _ customDomainId).mpr (.of_live stored)
  have owned := AList.lookup_isSome.mpr (indexed.owned customDomainId customDomain stored)
  obtain ⟨organization, owner⟩ := Option.isSome_iff_exists.mp owned
  refine ⟨organization, indexed.keyed _ _ owner, owner, ?_⟩
  simp [resolveCustomDomain, found, stored, active, owner]

/-- A hostname resolves only to its active custom domain. -/
theorem Indexed.serves_of_resolve (indexed : store.Indexed) {hostname : String}
    {tenant : CustomDomainTenant} (resolved : store.resolveCustomDomain hostname = some tenant)
    : ∃ customDomain, store.Serves customDomain hostname := by
  simp only [resolveCustomDomain, Option.bind_eq_bind, Option.bind_eq_some_iff] at resolved
  obtain ⟨customDomainId, found, customDomain, stored, resolved⟩ := resolved
  split at resolved
  · cases resolved
  · next active =>
      obtain ⟨row, live, sameHostname⟩ := (indexed.exact.indexed _ _).mp found
      rcases live with live | archived
      · obtain rfl := Option.some.inj (stored.symm.trans live)
        exact ⟨customDomain, ⟨customDomainId, stored⟩, sameHostname, not_not.mp active⟩
      · cases archived

/-- A header is resolved by the hostname it is read as. -/
theorem resolve_of_header {header hostname : String}
    (read : CustomDomainService.normalizeHostHeader header = .ok hostname)
    : CustomDomainService.resolveCustomDomain store header
      = (store.resolveCustomDomain hostname).elim (.error .notFound) .ok := by
  rw [CustomDomainService.resolveCustomDomain, read]
  simp only [bind, Except.bind]
  cases store.resolveCustomDomain hostname <;> rfl

theorem DomainsResolve.of_indexed (indexed : store.Indexed) : store.DomainsResolve where
  unique := by
    intro customDomainId otherId customDomain other stored otherStored sameHostname
    apply indexed.exact.unique (.of_live stored)
    exact sameHostname ▸ .of_live otherStored
  portIgnored := by
    intro host hostname port accepted nonempty digits
    rw [resolve_of_header (CustomDomainService.normalizeHostHeader_of_accepted accepted)]
    exact resolve_of_header
      (CustomDomainService.normalizeHostHeader_withPort accepted nonempty digits)
  served := by
    intro host hostname customDomain accepted serves
    obtain ⟨organization, sameId, owner, resolved⟩ := indexed.resolve_of_serves serves
    refine ⟨organization, sameId, owner, ?_⟩
    rw [resolve_of_header (CustomDomainService.normalizeHostHeader_of_accepted accepted),
      resolved]
    rfl
  unserved := by
    intro host hostname accepted unserved
    rw [resolve_of_header (CustomDomainService.normalizeHostHeader_of_accepted accepted)]
    cases resolved : store.resolveCustomDomain hostname with
    | none => rfl
    | some tenant => exact absurd (indexed.serves_of_resolve resolved) unserved

-----------------------------------------------------------------------------------------
-- The service
-----------------------------------------------------------------------------------------

/-- The store is left as it was or after one write. -/
def Moved (store last : TenantStore) : Prop :=
  last = store ∨ ∃ move, store.step move = some last

/-- A request for a custom domain is at most one write. -/
theorem createCustomDomain_moved (store : TenantStore) {customDomainId : Uuid}
    (new : customDomainId ∉ store.customDomainsById) (tokenId userId organizationId : Uuid)
    (hostname : String)
    : Moved store ((CustomDomainService.createCustomDomain customDomainId tokenId userId
        organizationId hostname).after store) := by
  rw [CustomDomainService.createCustomDomain, Eff.after_get_bind]
  refine Eff.after_check_bind (.inl rfl) fun membership _ => ?_
  refine Eff.after_check_bind (.inl rfl) fun hostname _ => ?_
  refine Eff.after_atomic ((createCustomDomain_atomic _).map _) (.inl rfl)
    fun customDomain last created => .inr ?_
  obtain ⟨_, middle, stored, created⟩ := Eff.exec_bind_eq_ok.mp created
  cases created
  refine ⟨.createCustomDomain ⟨customDomainId, organizationId, hostname,
    "opc-domain-" ++ tokenId.simple, .pendingVerification⟩, ?_⟩
  rw [TenantStore.step, if_neg new, Eff.after, stored]

/-- A request to verify a custom domain is at most one write. -/
theorem verifyCustomDomain_moved (store : TenantStore)
    (userId organizationId customDomainId : Uuid) (verificationToken : String)
    : Moved store ((CustomDomainService.verifyCustomDomain userId organizationId customDomainId
        verificationToken).after store) := by
  rw [CustomDomainService.verifyCustomDomain, Eff.after_get_bind]
  refine Eff.after_check_bind (.inl rfl) fun membership _ => ?_
  split
  · exact .inl rfl
  · exact .inr ⟨.verifyCustomDomain organizationId customDomainId (Text.trim verificationToken),
      rfl⟩

/-- In every store that requests reach, custom domains resolve to one tenant. -/
theorem domainsResolve_of_reachable {store : TenantStore}
    (reachable : Reachable step empty store)
    : store.DomainsResolve := by
  apply DomainsResolve.of_indexed
  exact reachable.invariant .empty fun state move next indexed stepped => indexed.step stepped

namespace Storefront

def organizationId : Uuid := .ofNat 10
def customDomainId : Uuid := .ofNat 30

def organization : StoredOrganization :=
  ⟨organizationId, "acme", "Acme", "team", "cloud", "eu-west"⟩

def customDomain : StoredCustomDomain :=
  ⟨customDomainId, organizationId, "chat.acme.example", "opc-domain-7", .pendingVerification⟩

/-- An organization adds a custom domain and verifies it. -/
def moves : List TenantMove :=
  [.createOrganization organization ⟨organizationId, .ofNat 1, "owner", .active⟩,
    .createCustomDomain customDomain,
    .verifyCustomDomain organizationId customDomainId "opc-domain-7"]

end Storefront

/-- The store of an organization with a verified custom domain resolves it, port or not. -/
theorem storefront_domainsResolve
    : ∃ store, run step empty Storefront.moves = some store ∧ store.DomainsResolve
        ∧ CustomDomainService.resolveCustomDomain store " Chat.Acme.example.:8443"
          = .ok (.of Storefront.organization "chat.acme.example") :=
  ⟨_, rfl, domainsResolve_of_reachable ⟨Storefront.moves, rfl⟩, by decide +kernel⟩

end TenantStore

end OpenCord.Tenancy
