import Mathlib.Data.List.Sort
import Mathlib.Data.List.Destutter
import OpenCord.Library.Text
import OpenCord.Platform.Uuid

/-! Validation of sign-in input, and the text an OIDC assertion is signed over. -/

namespace OpenCord.Auth

open OpenCord.Library OpenCord.Platform

inductive AuthError where
  | invalidInput (message : String)
  | emailAlreadyRegistered
  | invalidCredentials
  | unauthorized
  | ssoRequired
  | storeUnavailable
  deriving DecidableEq

/-- The cryptographic functions of the service, by what they return as text: the hex digest
of SHA-256, the hex tag of HMAC-SHA256 for a key and a message, and password hashing with a
salt and its verification.
-/
structure Crypto where
  sha256 : String → String
  hmacSha256 : String → String → String
  hashPassword : String → String → String
  verifyPassword : String → String → Bool

-----------------------------------------------------------------------------------------
-- Normalization
-----------------------------------------------------------------------------------------

/-- The shape `normalizeEmail` checks after trimming and folding case. -/
def validEmailShape (email : String) : Bool :=
  decide (email.utf8ByteSize ≤ 320) && Text.containsChar email '@'
    && !Text.startsWithChar email '@' && !Text.endsWithChar email '@'
    && !Text.containsChar email ' '

def normalizeEmail (email : String) : Except AuthError String :=
  let email := Text.toAsciiLowercase (Text.trim email)
  if validEmailShape email then .ok email else .error (.invalidInput "valid email is required")

/-- The part after the last `@`, which must not be empty. -/
def emailDomain (email : String) : Except AuthError String :=
  match Text.rsplitOnce email '@' with
  | some (_, domain) =>
      if domain = "" then .error (.invalidInput "valid email is required") else .ok domain
  | none => .error (.invalidInput "valid email is required")

def normalizeDisplayName (displayName : String) : Except AuthError String :=
  let displayName := Text.trim displayName
  if 1 ≤ displayName.utf8ByteSize ∧ displayName.utf8ByteSize ≤ 80 then
    .ok displayName
  else
    .error (.invalidInput "display name must be between 1 and 80 characters")

/-- A URL is secure or points to this machine. -/
def validUrl (url : String) : Bool :=
  Text.startsWith url "https://" || Text.startsWith url "http://localhost"
    || Text.startsWith url "http://127.0.0.1"

def normalizeUrl (url message : String) : Except AuthError String :=
  let url := Text.trimEndMatches (Text.trim url) '/'
  if validUrl url then .ok url else .error (.invalidInput message)

def normalizeNonEmpty (value message : String) : Except AuthError String :=
  let value := Text.trim value
  if value = "" then .error (.invalidInput message) else .ok value

def normalizeClientSecret (secret : String) : Except AuthError String := do
  let secret ← normalizeNonEmpty secret "OIDC client_secret is required"
  if secret.utf8ByteSize < 8 then
    .error (.invalidInput "OIDC client_secret must be at least 8 characters")
  else
    .ok secret

/-- A domain has at least two labels, none empty and none over 63 bytes. -/
def validDomain (domain : String) : Bool :=
  decide (domain.utf8ByteSize ≤ 253) && Text.containsChar domain '.'
    && !Text.startsWithChar domain '.' && !Text.endsWithChar domain '.'
    && (Text.split domain '.').all fun label =>
      label != "" && decide (label.utf8ByteSize ≤ 63)

/-- Orders two texts by their code points, as the byte order of UTF-8 does. -/
def textLe (left right : String) : Bool :=
  decide (left.toList.map Char.toNat ≤ right.toList.map Char.toNat)

def normalizeAllowedDomains (domains : List String) : Except AuthError (List String) :=
  let domains := domains.map fun domain =>
    Text.toAsciiLowercase (Text.trimStartMatches (Text.trim domain) '@')
  let domains := (domains.filter (· != "")).insertionSort fun left right => textLe left right
  let domains := domains.destutter (· ≠ ·)
  if !domains.isEmpty && domains.all validDomain then
    .ok domains
  else
    .error (.invalidInput "OIDC allowed_domains must contain valid domains")

def normalizeAutoJoinRole (role : String) : Except AuthError String :=
  let role := Text.toAsciiLowercase (Text.trim role)
  if role = "member" ∨ role = "admin" then
    .ok role
  else
    .error (.invalidInput "OIDC auto_join_role must be member or admin")

def validatePassword (password : String) : Except AuthError Unit :=
  if 12 ≤ password.utf8ByteSize then
    .ok ()
  else
    .error (.invalidInput "password must be at least 12 characters")

-----------------------------------------------------------------------------------------
-- Derived texts
-----------------------------------------------------------------------------------------

/-- The text an assertion is signed over. -/
def assertionPayload (issuer subject email : String) (emailVerified : Bool) : String :=
  issuer ++ "\n" ++ subject ++ "\n" ++ email ++ "\n"
    ++ (if emailVerified then "true" else "false")

def oidcAssertionSignature (crypto : Crypto) (secret issuer subject email : String)
    (emailVerified : Bool) : String :=
  crypto.hmacSha256 secret (assertionPayload issuer subject email emailVerified)

def oidcPasswordMarker (crypto : Crypto) (issuer subject : String) : String :=
  "!oidc:" ++ crypto.sha256 (issuer ++ "\n" ++ subject)

def hashSessionToken (crypto : Crypto) (token : String) : String :=
  crypto.sha256 token

end OpenCord.Auth
