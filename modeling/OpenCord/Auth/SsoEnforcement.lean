import OpenCord.Auth.AssertionPayload
import OpenCord.Auth.IdentityTenancy

/-! Which entries of a provider's allowed domains can be the domain of an email. Domains are only
trimmed, folded and cut into labels, so an entry may hold a blank or an at sign, which the
domain of an accepted email never does.
-/

namespace OpenCord.Auth

open OpenCord.Library OpenCord.Library.Text OpenCord.Platform

-----------------------------------------------------------------------------------------
-- The domain of an email
-----------------------------------------------------------------------------------------

/-- A character that occurs occurs last somewhere. -/
theorem exists_last_of_mem {characters : List Char} {character : Char}
    (mem : character ∈ characters)
    : ∃ before after, characters = before ++ character :: after ∧ character ∉ after := by
  obtain ⟨after, before, split, first⟩ := List.eq_append_cons_of_mem (List.mem_reverse.mpr mem)
  refine ⟨before.reverse, after.reverse, ?_, by simpa using first⟩
  rw [← List.reverse_reverse characters, split]
  simp

/-- A domain is what follows the last at sign. -/
theorem emailDomain_eq_ok {email domain : String}
    : emailDomain email = .ok domain
      ↔ domain ≠ "" ∧ '@' ∉ domain.toList
        ∧ ∃ before, email.toList = before ++ '@' :: domain.toList := by
  constructor
  · intro read
    by_cases hasAt : '@' ∈ email.toList
    · obtain ⟨before, after, split, last⟩ := exists_last_of_mem hasAt
      rw [← @String.ofList_toList email, split, emailDomain, rsplitOnce_append before last]
        at read
      dsimp only at read
      split at read
      · cases read
      · next nonempty =>
          obtain rfl := Except.ok.inj read
          rw [String.toList_ofList]
          exact ⟨nonempty, last, before, split⟩
    · rw [emailDomain, rsplitOnce_of_notMem hasAt] at read
      cases read
  · rintro ⟨nonempty, last, before, split⟩
    rw [← @String.ofList_toList email, split, emailDomain, rsplitOnce_append before last,
      String.ofList_toList]
    exact if_neg nonempty

/-- An entry of the allowed domains before case is folded. -/
def domainEntry (listed : String) : String :=
  trimStartMatches (trim listed) '@'

/-- Neither a blank nor an at sign occurs in a text. -/
def NoBlankOrAt (text : String) : Prop :=
  ' ' ∉ text.toList ∧ '@' ∉ text.toList

instance (text : String) : Decidable (NoBlankOrAt text) :=
  inferInstanceAs (Decidable (_ ∧ _))

/-- Folding case neither makes nor removes a character that is not a letter. -/
theorem mem_map_toLower {characters : List Char} {character : Char}
    (noLetter : character.toNat < 65)
    : character ∈ characters.map Char.toLower ↔ character ∈ characters := by
  rw [List.mem_map]
  constructor
  · rintro ⟨original, mem, rfl⟩
    have same : original.toLower = original := by
      apply Char.toNat_inj.mp
      rw [toNat_toLower] at noLetter ⊢
      split at noLetter
      · omega
      · next other => rw [if_neg other]
    rw [same]
    exact mem
  · intro mem
    refine ⟨character, mem, Char.toNat_inj.mp ?_⟩
    rw [toNat_toLower, if_neg (by omega)]

theorem noBlankOrAt_toAsciiLowercase {text : String}
    : NoBlankOrAt (toAsciiLowercase text) ↔ NoBlankOrAt text := by
  rw [NoBlankOrAt, NoBlankOrAt, toList_toAsciiLowercase, mem_map_toLower (by decide),
    mem_map_toLower (by decide)]

/-- Leaving out repeated neighbours leaves every element somewhere, by induction over the list.
-/
theorem mem_destutter'_ne {α : Type} [DecidableEq α] {items : List α} {item : α} (first : α)
    : item ∈ items.destutter' (· ≠ ·) first ↔ item ∈ first :: items := by
  induction items generalizing first with
  | nil => simp
  | cons second rest ih =>
      by_cases same : first = second
      · rw [List.destutter'_cons_neg _ (not_not.mpr same), ih, same]
        simp
      · rw [List.destutter'_cons_pos _ same, List.mem_cons, ih, ← List.mem_cons]

theorem mem_destutter_ne {α : Type} [DecidableEq α] {items : List α} {item : α}
    : item ∈ items.destutter (· ≠ ·) ↔ item ∈ items := by
  cases items with
  | nil => rfl
  | cons first rest => exact mem_destutter'_ne first

/-- The accepted domains are the entries that are not empty, with case folded. -/
theorem mem_of_normalizeAllowedDomains {listed domains : List String}
    (accepted : normalizeAllowedDomains listed = .ok domains) {domain : String}
    : domain ∈ domains
      ↔ (∃ entry ∈ listed, toAsciiLowercase (domainEntry entry) = domain) ∧ domain ≠ "" := by
  rw [normalizeAllowedDomains] at accepted
  split at accepted
  · rw [← Except.ok.inj accepted, mem_destutter_ne, List.mem_insertionSort, List.mem_filter,
      List.mem_map, bne_iff_ne]
    rfl
  · cases accepted

/-- Every accepted domain has a valid shape. -/
theorem validDomain_of_normalizeAllowedDomains {listed domains : List String}
    (accepted : normalizeAllowedDomains listed = .ok domains)
    : ∀ domain ∈ domains, validDomain domain := by
  rw [normalizeAllowedDomains] at accepted
  split at accepted
  · next valid =>
      rw [← Except.ok.inj accepted]
      exact List.all_eq_true.mp (Bool.and_eq_true .. ▸ valid).2
  · cases accepted

/-- An accepted domain does not end in whitespace. -/
theorem solid_domainEntry (listed : String)
    : ∀ last ∈ (toAsciiLowercase (domainEntry listed)).toList.getLast?,
        isWhitespace last = false := by
  intro last mem
  rw [toList_toAsciiLowercase, List.getLast?_map, Option.mem_def, Option.map_eq_some_iff] at mem
  obtain ⟨original, ends, rfl⟩ := mem
  rw [domainEntry, trimStartMatches, String.toList_ofList, toList_trim] at ends
  obtain ⟨front, whole⟩ := (trimChars listed.toList).dropWhile_suffix (· == '@')
  rw [isWhitespace_toLower]
  refine (trimChars_trimmed listed.toList).2 original ?_
  rw [← whole, Option.mem_def, List.getLast?_append, ends, Option.some_or]

-----------------------------------------------------------------------------------------
-- Domains that an email can have
-----------------------------------------------------------------------------------------

/-- Some accepted email has the domain. -/
def IsEmailDomain (domain : String) : Prop :=
  ∃ raw email, normalizeEmail raw = .ok email ∧ emailDomain email = .ok domain

/-- A letter and an at sign before such a domain make an email. -/
theorem emailShape_append {domain : String} (nonempty : domain ≠ "")
    (small : domain.utf8ByteSize ≤ 253) (plain : NoBlankOrAt domain)
    (folded : toAsciiLowercase domain = domain)
    (solid : ∀ last ∈ domain.toList.getLast?, isWhitespace last = false)
    : EmailShape ("a@" ++ domain) := by
  have characters : ("a@" ++ domain).toList = 'a' :: '@' :: domain.toList := by
    rw [String.toList_append]
    rfl
  have someCharacters : domain.toList ≠ [] := fun empty =>
    nonempty (String.toList_inj.mp empty)
  have last : ("a@" ++ domain).toList.getLast? = domain.toList.getLast? := by
    rw [String.toList_append, List.getLast?_append_of_ne_nil _ someCharacters]
  refine ⟨?_, ⟨?_, ?_⟩, ?_⟩
  · have bytes : "a@".utf8ByteSize + domain.utf8ByteSize ≤ 320 := by
      have front : "a@".utf8ByteSize = 2 := by decide
      omega
    have endsOther : domain.toList.getLast? ≠ some '@' := fun ends =>
      plain.2 (List.mem_of_getLast? ends)
    rw [validEmailShape, containsChar, startsWithChar, endsWithChar, containsChar, last, characters]
    simp [bytes, endsOther, plain.1]
  · rw [characters]
    simp [isWhitespace]
  · rw [last]
    exact solid
  · apply String.toList_inj.mp
    rw [toList_toAsciiLowercase, characters]
    have same := congrArg String.toList folded
    rw [toList_toAsciiLowercase] at same
    simp [same]

/-- An accepted domain is the domain of an email exactly if it holds neither a blank nor an at
sign.
-/
theorem isEmailDomain_iff {listed : String} {domain : String} (nonempty : domain ≠ "")
    (small : domain.utf8ByteSize ≤ 253)
    (folded : toAsciiLowercase (domainEntry listed) = domain)
    : IsEmailDomain domain ↔ NoBlankOrAt domain := by
  constructor
  · rintro ⟨raw, email, accepted, read⟩
    obtain ⟨_, noAt, before, split⟩ := emailDomain_eq_ok.mp read
    obtain ⟨valid, _⟩ := exists_normalizeEmail_iff.mp ⟨raw, accepted⟩
    refine ⟨fun blank => ?_, noAt⟩
    rw [validEmailShape, Bool.and_eq_true] at valid
    have noBlank := valid.2
    rw [containsChar, split] at noBlank
    simp [blank] at noBlank
  · intro plain
    have shape := emailShape_append nonempty small plain
      (folded ▸ toAsciiLowercase_idem (domainEntry listed)) (folded ▸ solid_domainEntry listed)
    obtain ⟨raw, accepted⟩ := exists_normalizeEmail_iff.mpr shape
    refine ⟨raw, _, accepted, emailDomain_eq_ok.mpr ⟨nonempty, plain.2, ['a'], ?_⟩⟩
    rw [String.toList_append]
    rfl

-----------------------------------------------------------------------------------------
-- Signing in with a password
-----------------------------------------------------------------------------------------

/-- The checks of a registration before it asks for single sign-on. -/
def registrationChecks (displayName password : String) : Except AuthError Unit := do
  let _ ← normalizeDisplayName displayName
  validatePassword password

/-- Emails of the domain exist, and wherever the provider is stored none of them registers or logs
in with a password: after the checks of the input both ask for single sign-on, and change
nothing.
-/
structure SsoEnforced (crypto : Crypto) (provider : StoredOidcProvider) (domain : String)
    : Prop where
  isEmailDomain : IsEmailDomain domain
  register : ∀ (store : AuthStore) (generated : GeneratedIds)
    (raw email displayName password : String),
      store.oidcProviderForOrganization provider.organizationId = some provider →
      normalizeEmail raw = .ok email → emailDomain email = .ok domain →
        (AuthService.register crypto generated raw displayName password).exec store
          = (registrationChecks displayName password >>= fun _ => .error .ssoRequired, store)
  login : ∀ (store : AuthStore) (generated : GeneratedIds) (raw email password : String),
      store.oidcProviderForOrganization provider.organizationId = some provider →
      normalizeEmail raw = .ok email → emailDomain email = .ok domain →
        (AuthService.login crypto generated raw password).exec store
          = (.error .ssoRequired, store)

section Required

variable {crypto : Crypto} {provider : StoredOidcProvider} {domain email : String}
  {store : AuthStore}

/-- A stored provider that requires single sign-on asks for it in all its domains. -/
theorem ssoRequiredForEmail_eq (required : provider.requireSso = true)
    (listed : domain ∈ provider.allowedDomains)
    (stored : store.oidcProviderForOrganization provider.organizationId = some provider)
    (read : emailDomain email = .ok domain)
    : AuthService.ssoRequiredForEmail store email = .ok true := by
  have among : provider ∈ store.oidcProvidersForEmailDomain domain := by
    rw [AuthStore.oidcProvidersForEmailDomain, List.mem_insertionSort, List.mem_filter,
      Table.mem_values]
    refine ⟨⟨_, stored⟩, ?_⟩
    rw [StoredOidcProvider.admitsDomain, List.any_eq_true]
    exact ⟨domain, listed, beq_self_eq_true domain⟩
  rw [AuthService.ssoRequiredForEmail, read]
  exact congrArg Except.ok (List.any_eq_true.mpr ⟨provider, among, required⟩)

theorem exec_register_ssoRequired (required : provider.requireSso = true)
    (listed : domain ∈ provider.allowedDomains)
    (stored : store.oidcProviderForOrganization provider.organizationId = some provider)
    {raw : String} (accepted : normalizeEmail raw = .ok email)
    (read : emailDomain email = .ok domain) (generated : GeneratedIds)
    (displayName password : String)
    : (AuthService.register crypto generated raw displayName password).exec store
        = (registrationChecks displayName password >>= fun _ => .error .ssoRequired, store) := by
  rw [AuthService.register, Eff.exec_check_bind, accepted]
  dsimp only
  rw [Eff.exec_check_bind, registrationChecks]
  cases normalizeDisplayName displayName with
  | error problem => rfl
  | ok name =>
      dsimp only
      rw [Eff.exec_check_bind]
      cases validatePassword password with
      | error problem => rfl
      | ok _ =>
          dsimp only
          rw [Eff.exec_get_bind, Eff.exec_check_bind,
            ssoRequiredForEmail_eq required listed stored read]
          rfl

theorem exec_login_ssoRequired (required : provider.requireSso = true)
    (listed : domain ∈ provider.allowedDomains)
    (stored : store.oidcProviderForOrganization provider.organizationId = some provider)
    {raw : String} (accepted : normalizeEmail raw = .ok email)
    (read : emailDomain email = .ok domain) (generated : GeneratedIds) (password : String)
    : (AuthService.login crypto generated raw password).exec store
        = (.error .ssoRequired, store) := by
  rw [AuthService.login, Eff.exec_check_bind, accepted]
  dsimp only
  rw [Eff.exec_get_bind, Eff.exec_check_bind,
    ssoRequiredForEmail_eq required listed stored read]
  rfl

end Required

-----------------------------------------------------------------------------------------
-- Configured providers
-----------------------------------------------------------------------------------------

/-- What is configured is stored, with the accepted domains. -/
theorem configureOidcProvider_ok {input : ConfigureOidcProviderInput}
    {provider : StoredOidcProvider} {store next : AuthStore}
    (configured : (AuthService.configureOidcProvider input).exec store = (.ok provider, next))
    : normalizeAllowedDomains input.allowedDomains = .ok provider.allowedDomains
      ∧ provider.requireSso = input.requireSso
      ∧ next.oidcProviderForOrganization provider.organizationId = some provider := by
  rw [AuthService.configureOidcProvider] at configured
  obtain ⟨_, _, configured⟩ := Eff.exec_check_bind_eq_ok.mp configured
  obtain ⟨_, _, configured⟩ := Eff.exec_check_bind_eq_ok.mp configured
  obtain ⟨_, _, configured⟩ := Eff.exec_check_bind_eq_ok.mp configured
  obtain ⟨_, _, configured⟩ := Eff.exec_check_bind_eq_ok.mp configured
  obtain ⟨_, _, configured⟩ := Eff.exec_check_bind_eq_ok.mp configured
  obtain ⟨_, _, configured⟩ := Eff.exec_check_bind_eq_ok.mp configured
  obtain ⟨domains, accepted, configured⟩ := Eff.exec_check_bind_eq_ok.mp configured
  obtain ⟨_, _, configured⟩ := Eff.exec_check_bind_eq_ok.mp configured
  cases configured
  exact ⟨accepted, rfl, AList.lookup_insert _⟩

/-- A configured provider that requires single sign-on enforces it in all its domains exactly if no
entry of its list, without surrounding whitespace and at signs in front, holds a blank or an
at sign.
-/
theorem ssoEnforced_iff (crypto : Crypto) {input : ConfigureOidcProviderInput}
    {provider : StoredOidcProvider} {store next : AuthStore}
    (configured : (AuthService.configureOidcProvider input).exec store = (.ok provider, next))
    (required : input.requireSso = true)
    : (next.oidcProviderForOrganization provider.organizationId = some provider
        ∧ ∀ domain ∈ provider.allowedDomains, SsoEnforced crypto provider domain)
      ↔ ∀ listed ∈ input.allowedDomains, NoBlankOrAt (domainEntry listed) := by
  obtain ⟨accepted, requires, stored⟩ := configureOidcProvider_ok configured
  have reachable : ∀ listed ∈ input.allowedDomains,
      ∀ domain ∈ provider.allowedDomains, toAsciiLowercase (domainEntry listed) = domain →
        (IsEmailDomain domain ↔ NoBlankOrAt (domainEntry listed)) := by
    rintro listed mem domain kept folded
    obtain ⟨_, nonempty⟩ := (mem_of_normalizeAllowedDomains accepted).mp kept
    have valid := validDomain_of_normalizeAllowedDomains accepted domain kept
    have small : domain.utf8ByteSize ≤ 253 := by
      simp only [validDomain, Bool.and_eq_true, decide_eq_true_eq] at valid
      exact valid.1.1.1.1
    rw [isEmailDomain_iff nonempty small folded, ← folded, noBlankOrAt_toAsciiLowercase]
  rw [and_iff_right stored]
  constructor
  · intro enforced listed mem
    by_cases empty : toAsciiLowercase (domainEntry listed) = ""
    · rw [← noBlankOrAt_toAsciiLowercase, empty]
      decide
    · have kept := (mem_of_normalizeAllowedDomains accepted).mpr ⟨⟨listed, mem, rfl⟩, empty⟩
      exact (reachable listed mem _ kept rfl).mp (enforced _ kept).isEmailDomain
  · intro plain domain kept
    obtain ⟨⟨listed, mem, folded⟩, _⟩ := (mem_of_normalizeAllowedDomains accepted).mp kept
    rw [← requires] at required
    exact ⟨(reachable listed mem domain kept folded).mpr (plain listed mem),
      fun _ generated _ _ displayName password stored accepted read =>
        exec_register_ssoRequired required kept stored accepted read generated displayName
          password,
      fun _ generated _ _ password stored accepted read =>
        exec_login_ssoRequired required kept stored accepted read generated password⟩

namespace Tenant

/-- A provider of a tenant with one entry in its list of domains. -/
def providerFor (listed : String) : ConfigureOidcProviderInput :=
  ⟨.ofNat 10, "https://idp.tenant.test", "https://idp.tenant.test/auth",
    "https://idp.tenant.test/token", "https://idp.tenant.test/jwks", "opencord",
    "tenant-oidc-secret", [listed], true, "member"⟩

/-- The provider as it is stored. -/
def storedFor (domain : String) : StoredOidcProvider :=
  ⟨.ofNat 10, "https://idp.tenant.test", "https://idp.tenant.test/auth",
    "https://idp.tenant.test/token", "https://idp.tenant.test/jwks", "opencord",
    "tenant-oidc-secret", [domain], true, "member"⟩

end Tenant

/-- A plain domain is enforced, however it is written. -/
theorem plainDomain_ssoEnforced
    : ∃ next, (AuthService.configureOidcProvider (Tenant.providerFor " @Tenant.Test ")).exec .empty
          = (.ok (Tenant.storedFor "tenant.test"), next)
        ∧ next.oidcProviderForOrganization (.ofNat 10) = some (Tenant.storedFor "tenant.test")
        ∧ SsoEnforced sampleCrypto (Tenant.storedFor "tenant.test") "tenant.test" := by
  have configured : ((AuthService.configureOidcProvider (Tenant.providerFor " @Tenant.Test ")).exec
      .empty).1.toOption = some (Tenant.storedFor "tenant.test") := by
    decide +kernel
  rcases ended : (AuthService.configureOidcProvider (Tenant.providerFor " @Tenant.Test ")).exec
    .empty with ⟨answer, next⟩
  rw [ended] at configured
  obtain rfl := Eff.toOption_eq_some.mp configured
  obtain ⟨stored, enforced⟩ := (ssoEnforced_iff sampleCrypto ended rfl).mpr (by decide)
  exact ⟨next, rfl, stored, enforced _ List.mem_cons_self⟩

/-- An entry with an at sign inside is accepted, and is the domain of no email. -/
theorem entryWithAt_notEnforced
    : ((AuthService.configureOidcProvider (Tenant.providerFor "team@tenant.test")).exec
          .empty).1.toOption = some (Tenant.storedFor "team@tenant.test")
        ∧ ¬ SsoEnforced sampleCrypto (Tenant.storedFor "team@tenant.test") "team@tenant.test" := by
  refine ⟨by decide +kernel, fun enforced => ?_⟩
  have folded : toAsciiLowercase (domainEntry "team@tenant.test") = "team@tenant.test" := by
    decide +kernel
  have plain := (isEmailDomain_iff (by decide) (by decide) folded).mp enforced.isEmailDomain
  exact absurd plain (by decide)

end OpenCord.Auth
