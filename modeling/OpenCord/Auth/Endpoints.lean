import OpenCord.Auth.Service
import OpenCord.Library.Failures
import OpenCord.Platform.Json
import OpenCord.RateLimits.Headers
import OpenCord.RateLimits.RetryAfter

/-! The endpoints for registration and password sign-in. Their rate limits are kept in a bucket
for each email, and the headers of their responses repeat the name of that bucket.
-/

namespace OpenCord.Auth

open OpenCord.Library OpenCord.Platform OpenCord.RateLimits

structure RegisterRequest where
  email : String
  displayName : String
  password : String

structure LoginRequest where
  email : String
  password : String

/-- What the endpoints read and write. -/
structure SignInState where
  auth : AuthStore
  authRegisterRateLimits : FixedWindowRateLimiter
  authLoginRateLimits : FixedWindowRateLimiter

structure Response where
  status : Nat
  headers : HeaderMap
  body : Json

inductive AuthApiError where
  | auth (error : AuthError)
  | rateLimited (decision : RateLimitDecision)

-----------------------------------------------------------------------------------------
-- Responses
-----------------------------------------------------------------------------------------

namespace AuthError

def statusCode : AuthError → Nat
  | invalidInput _ => 400
  | emailAlreadyRegistered => 409
  | invalidCredentials | unauthorized => 401
  | ssoRequired => 403
  | storeUnavailable => 500

def code : AuthError → String
  | invalidInput _ => "invalid_request"
  | emailAlreadyRegistered => "email_already_registered"
  | invalidCredentials => "invalid_credentials"
  | unauthorized => "unauthorized"
  | ssoRequired => "sso_required"
  | storeUnavailable => "store_unavailable"

def message : AuthError → String
  | invalidInput message => message
  | emailAlreadyRegistered => "email is already registered"
  | invalidCredentials => "email or password is incorrect"
  | unauthorized => "valid bearer session is required"
  | ssoRequired => "single sign-on is required for this email domain"
  | storeUnavailable => "auth store is unavailable"

end AuthError

def errorResponse (code message : String) : Json :=
  .object [("error", .object [("code", .string code), ("message", .string message)])]

def authResponse (result : AuthResult) : Json :=
  .object [
    ("user", .object [("id", .string result.user.id.toString),
      ("email", .string result.user.email),
      ("display_name", .string result.user.displayName)]),
    ("session", .object [("token", .string result.sessionToken)])]

variable (grammar : HeaderGrammar)

/-- The response of a failure. There is none where its headers panic. -/
def AuthApiError.intoResponse : AuthApiError → Option Response
  | .rateLimited decision =>
      (rateLimitHeaders grammar decision).map fun headers =>
        ⟨429, headers, errorResponse "rate_limited" "rate limit exceeded"⟩
  | .auth error => some ⟨error.statusCode, [], errorResponse error.code error.message⟩

/-- The response to what the service has answered. There is none where its headers panic. -/
def respond (status : Nat) (decision : RateLimitDecision) (result : Except AuthError AuthResult)
    : Option Response :=
  match result with
  | .ok result =>
      (rateLimitHeaders grammar decision).map fun headers => ⟨status, headers, authResponse result⟩
  | .error error => (AuthApiError.auth error).intoResponse grammar

-----------------------------------------------------------------------------------------
-- Endpoints
-----------------------------------------------------------------------------------------

variable (crypto : Crypto)

namespace AuthController

/-- The response to a registration and the state after it; the store keeps what was written
before the response panics.
-/
def register (generated : GeneratedIds) (now : Nat) (request : RegisterRequest)
    (state : SignInState) : Option Response × SignInState :=
  let (rateLimit, limits) :=
    state.authRegisterRateLimits.check now (authRegisterBucket request.email)
  let state := { state with authRegisterRateLimits := limits }
  if rateLimit.allowed then
    let (result, auth) := (AuthService.register crypto generated request.email
      request.displayName request.password).exec state.auth
    (respond grammar 201 rateLimit result, { state with auth := auth })
  else
    ((AuthApiError.rateLimited rateLimit).intoResponse grammar, state)

def login (generated : GeneratedIds) (now : Nat) (request : LoginRequest) (state : SignInState)
    : Option Response × SignInState :=
  let (rateLimit, limits) :=
    state.authLoginRateLimits.check now (authLoginBucket request.email)
  let state := { state with authLoginRateLimits := limits }
  if rateLimit.allowed then
    let (result, auth) := (AuthService.login crypto generated request.email
      request.password).exec state.auth
    (respond grammar 200 rateLimit result, { state with auth := auth })
  else
    ((AuthApiError.rateLimited rateLimit).intoResponse grammar, state)

end AuthController

/-- A request to one of the two endpoints. -/
inductive SignInRequest where
  | register (request : RegisterRequest)
  | login (request : LoginRequest)

namespace SignInRequest

def email : SignInRequest → String
  | register request => request.email
  | login request => request.email

/-- What the rate limiter of the endpoint decides. -/
def decision (now : Nat) (state : SignInState) : SignInRequest → RateLimitDecision
  | register request =>
      (state.authRegisterRateLimits.check now (authRegisterBucket request.email)).1
  | login request => (state.authLoginRateLimits.check now (authLoginBucket request.email)).1

/-- What the service answers. -/
def result (generated : GeneratedIds) (state : SignInState)
    : SignInRequest → Except AuthError AuthResult
  | register request => ((AuthService.register crypto generated request.email
      request.displayName request.password).exec state.auth).1
  | login request => ((AuthService.login crypto generated request.email
      request.password).exec state.auth).1

def serve (generated : GeneratedIds) (now : Nat) (state : SignInState)
    : SignInRequest → Option Response × SignInState
  | register request => AuthController.register grammar crypto generated now request state
  | login request => AuthController.login grammar crypto generated now request state

/-- The headers of a decision are written for a request that is refused by the rate limiter or
accepted by the service.
-/
def WritesHeaders (generated : GeneratedIds) (now : Nat) (state : SignInState)
    (request : SignInRequest) : Prop :=
  (request.decision now state).allowed = true →
    (request.result crypto generated state).isOk = true

instance (generated : GeneratedIds) (now : Nat) (state : SignInState) (request : SignInRequest)
    : Decidable (request.WritesHeaders crypto generated now state) :=
  inferInstanceAs (Decidable (_ → _))

variable {grammar crypto} {generated : GeneratedIds} {now : Nat} {state : SignInState}

/-- The bucket of a decision is the email behind a name in printable characters. -/
theorem decision_bucket (request : SignInRequest)
    : ∃ name : String, (∀ character ∈ name.toList, grammar.accepts character)
        ∧ (request.decision now state).bucket = name ++ normalizedEmailKey request.email := by
  have printable : ∀ name : String,
      (name.toList.all fun character => 32 ≤ character.toNat ∧ character.toNat < 127) = true →
      ∀ character ∈ name.toList, grammar.accepts character := by
    intro name all character listed
    have bounds := of_decide_eq_true (List.all_eq_true.mp all character listed)
    exact grammar.printable character bounds.1 bounds.2
  cases request with
  | register request =>
      refine ⟨"auth:register:", printable _ (by decide), ?_⟩
      rw [decision, FixedWindowRateLimiter.check_eq]
      rfl
  | login request =>
      refine ⟨"auth:login:", printable _ (by decide), ?_⟩
      rw [decision, FixedWindowRateLimiter.check_eq]
      rfl

/-- The headers of a decision can be written exactly if the email has no other characters than
headers may have.
-/
theorem isSome_headers (request : SignInRequest)
    : (rateLimitHeaders grammar (request.decision now state)).isSome
      ↔ ∀ character ∈ (Text.trim request.email).toList, grammar.accepts character := by
  obtain ⟨name, valid, bucket⟩ := @decision_bucket grammar now state request
  rw [isSome_rateLimitHeaders, bucket, normalizedEmailKey, String.toList_append,
    Text.toList_toAsciiLowercase]
  simp only [List.mem_append, or_imp, forall_and, List.forall_mem_map, grammar.accepts_toLower]
  exact and_iff_right valid

/-- A request panics exactly if the headers that it writes cannot be written. -/
theorem isSome_serve {request : SignInRequest}
    (writes : request.WritesHeaders crypto generated now state)
    : (request.serve grammar crypto generated now state).1.isSome
      ↔ (rateLimitHeaders grammar (request.decision now state)).isSome := by
  cases request with
  | register request =>
      simp only [serve, AuthController.register, WritesHeaders, decision, result] at writes ⊢
      split
      · next allowed =>
          obtain ⟨value, answered⟩ := Eff.isOk_iff.mp (writes allowed)
          simp only [respond, answered, Option.isSome_map]
      · simp only [AuthApiError.intoResponse, Option.isSome_map]
  | login request =>
      simp only [serve, AuthController.login, WritesHeaders, decision, result] at writes ⊢
      split
      · next allowed =>
          obtain ⟨value, answered⟩ := Eff.isOk_iff.mp (writes allowed)
          simp only [respond, answered, Option.isSome_map]
      · simp only [AuthApiError.intoResponse, Option.isSome_map]

/-- A request for which headers are written gets a response exactly if the trimmed email has only
characters that headers may have.
-/
theorem responds_iff (request : SignInRequest)
    (writes : request.WritesHeaders crypto generated now state)
    : (request.serve grammar crypto generated now state).1.isSome
      ↔ ∀ character ∈ (Text.trim request.email).toList, grammar.accepts character :=
  (isSome_serve writes).trans (isSome_headers request)

end SignInRequest

namespace Ada

/-- The characters that the http library takes: all but the control characters. -/
def httpGrammar : HeaderGrammar where
  accepts character :=
    (32 ≤ character.toNat ∧ character.toNat ≠ 127) ∨ character = '\t'
  controls character control other := by
    refine decide_eq_false fun taken => ?_
    obtain ⟨lower, upper⟩ := taken.resolve_right other
    omega
  printable character lower upper := by
    exact decide_eq_true (.inl ⟨lower, by omega⟩)

def token : String := String.ofList (List.replicate 64 'a')

/-- The real digest of the token and the real hash of the password. -/
def argonCrypto : Crypto where
  sha256 text :=
    if text = token then
      "ffe054fe7ae0cb6dc65c3af9b61d5209f439851db43d0ba5997337df154668eb"
    else
      ""
  hmacSha256 _ _ := ""
  hashPassword _ _ :=
    "$argon2id$v=19$m=19456,t=2,p=1$c2FsdHNhbHRzYWx0c2FsdA$4M+WwRwKBnzRyLmFWJp6WNynrA1ncUz9mkqdaYW8GOU"
  verifyPassword password _ := password = "password-123"

def generated : GeneratedIds := ⟨.ofNat 1, .ofNat 2, .ofNat 3, token, "saltsaltsaltsalt"⟩

def started : SignInState := ⟨.empty, .authRegister, .authLogin⟩

def registers (email : String) : SignInRequest := .register ⟨email, "Ada", "password-123"⟩

end Ada

/-- An email in printable characters gets its response. -/
theorem ada_responds
    : ((Ada.registers "ada@acme.test").serve Ada.httpGrammar Ada.argonCrypto Ada.generated 0
        Ada.started).1.isSome :=
  (SignInRequest.responds_iff (Ada.registers "ada@acme.test") (by decide +kernel)).mpr
    (List.all_iff_forall_prop.mp (by decide +kernel))

/-- An email with a line break inside is registered, and the response panics. So does the response
to the sixth sign-in with it, which is refused.
-/
theorem lineBreak_panics
    : let registered := (Ada.registers "ada\n@acme.test").serve Ada.httpGrammar Ada.argonCrypto
        Ada.generated 0 Ada.started
      registered.1.isNone
        ∧ (registered.2.auth.findUserByEmail "ada\n@acme.test").isSome
        ∧ ((SignInRequest.login ⟨"ada\n@acme.test", "guess"⟩).serve Ada.httpGrammar Ada.argonCrypto
            Ada.generated 5 { Ada.started with
              authLoginRateLimits := Ada.started.authLoginRateLimits.after
                (List.replicate 5 ⟨4, authLoginBucket "ada\n@acme.test"⟩) }).1.isNone := by
  decide +kernel

end OpenCord.Auth
