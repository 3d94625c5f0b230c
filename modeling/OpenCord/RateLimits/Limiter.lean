import OpenCord.Library.FixedWindow
import OpenCord.Library.Tables
import OpenCord.Library.Text
import OpenCord.Platform.Uuid

/-! The rate limiters of the server: one with a window for each bucket, and the one of a gateway
connection. Times and durations are nanoseconds.
-/

namespace OpenCord.RateLimits

open OpenCord.Library OpenCord.Platform

/-- A number of seconds, as a duration. -/
abbrev fromSecs (seconds : Nat) : Nat := seconds * 1000000000

def AUTH_LOGIN_LIMIT : Nat := 5
def AUTH_LOGIN_WINDOW : Nat := fromSecs 60
def AUTH_REGISTER_LIMIT : Nat := 5
def AUTH_REGISTER_WINDOW : Nat := fromSecs 60
def ATTACHMENT_PRESIGN_LIMIT : Nat := 5
def ATTACHMENT_PRESIGN_WINDOW : Nat := fromSecs 60
def ATTACHMENT_UPLOAD_LIMIT : Nat := 10
def ATTACHMENT_UPLOAD_WINDOW : Nat := fromSecs 60
def COMPAT_REST_BOT_LIMIT : Nat := 10
def COMPAT_REST_BOT_WINDOW : Nat := fromSecs 60
def COMPAT_GATEWAY_IDENTIFY_LIMIT : Nat := 1
def COMPAT_GATEWAY_IDENTIFY_WINDOW : Nat := fromSecs 5
def MESSAGE_CREATE_LIMIT : Nat := 5
def MESSAGE_CREATE_WINDOW : Nat := fromSecs 60
def PUBLIC_WEBHOOK_EXECUTION_LIMIT : Nat := 5
def PUBLIC_WEBHOOK_EXECUTION_WINDOW : Nat := fromSecs 60

/-- The answer of a rate limiter. -/
structure RateLimitDecision where
  bucket : String
  allowed : Bool
  limit : Nat
  remaining : Nat
  resetAfterSeconds : Nat
  deriving DecidableEq

/-- What is stored for a bucket: when its window started, and the calls it has allowed. -/
abbrev BucketState := FixedWindow

structure FixedWindowRateLimiter where
  limit : Nat
  window : Nat
  state : Table String BucketState

namespace FixedWindowRateLimiter

def new (limit window : Nat) : FixedWindowRateLimiter := ⟨limit, window, ∅⟩

def publicWebhookExecution : FixedWindowRateLimiter :=
  new PUBLIC_WEBHOOK_EXECUTION_LIMIT PUBLIC_WEBHOOK_EXECUTION_WINDOW

def authRegister : FixedWindowRateLimiter := new AUTH_REGISTER_LIMIT AUTH_REGISTER_WINDOW

def authLogin : FixedWindowRateLimiter := new AUTH_LOGIN_LIMIT AUTH_LOGIN_WINDOW

def messageCreate : FixedWindowRateLimiter := new MESSAGE_CREATE_LIMIT MESSAGE_CREATE_WINDOW

def attachmentPresign : FixedWindowRateLimiter :=
  new ATTACHMENT_PRESIGN_LIMIT ATTACHMENT_PRESIGN_WINDOW

def attachmentUpload : FixedWindowRateLimiter :=
  new ATTACHMENT_UPLOAD_LIMIT ATTACHMENT_UPLOAD_WINDOW

def compatRestBot : FixedWindowRateLimiter := new COMPAT_REST_BOT_LIMIT COMPAT_REST_BOT_WINDOW

def compatGatewayIdentify : FixedWindowRateLimiter :=
  new COMPAT_GATEWAY_IDENTIFY_LIMIT COMPAT_GATEWAY_IDENTIFY_WINDOW

/-- The state of a bucket at a call; a bucket without one gets one that starts with the call. -/
def entry (limiter : FixedWindowRateLimiter) (now : Nat) (bucket : String) : BucketState :=
  (limiter.state.lookup bucket).getD ⟨now, 0⟩

/-- The limiter after the state of a bucket was written. -/
def put (limiter : FixedWindowRateLimiter) (bucket : String) (bucketState : BucketState)
    : FixedWindowRateLimiter :=
  { limiter with state := limiter.state.insert bucket bucketState }

def check (limiter : FixedWindowRateLimiter) (now : Nat) (bucket : String)
    : RateLimitDecision × FixedWindowRateLimiter :=
  let bucketState := limiter.entry now bucket
  let bucketState :=
    if limiter.window ≤ now - bucketState.startedAt then ⟨now, 0⟩ else bucketState
  let resetAfterSeconds :=
    max ((limiter.window - (now - bucketState.startedAt)) / fromSecs 1) 1
  if limiter.limit ≤ bucketState.count then
    (⟨bucket, false, limiter.limit, 0, resetAfterSeconds⟩, limiter.put bucket bucketState)
  else
    let bucketState := { bucketState with count := bucketState.count + 1 }
    (⟨bucket, true, limiter.limit, limiter.limit - bucketState.count, resetAfterSeconds⟩,
      limiter.put bucket bucketState)

/-- How many buckets there were, and the limiter without them. -/
def clear (limiter : FixedWindowRateLimiter) : Nat × FixedWindowRateLimiter :=
  (limiter.state.keys.length, { limiter with state := ∅ })

end FixedWindowRateLimiter

-----------------------------------------------------------------------------------------
-- Buckets
-----------------------------------------------------------------------------------------

def compatRestBotBucket (applicationId : Uuid) : String :=
  "compat-rest:bot:" ++ applicationId.toString

def compatGatewayIdentifyBucket (applicationId : Uuid) : String :=
  "compat-gateway:identify:" ++ applicationId.toString

def normalizedEmailKey (email : String) : String := Text.toAsciiLowercase (Text.trim email)

def authRegisterBucket (email : String) : String := "auth:register:" ++ normalizedEmailKey email

def authLoginBucket (email : String) : String := "auth:login:" ++ normalizedEmailKey email

def messageCreateBucket (userId channelId : Uuid) : String :=
  "message:create:" ++ userId.toString ++ ":" ++ channelId.toString

def attachmentPresignBucket (userId channelId : Uuid) : String :=
  "attachment:presign:" ++ userId.toString ++ ":" ++ channelId.toString

def attachmentUploadBucket (userId : Uuid) : String := "attachment:upload:" ++ userId.toString

-----------------------------------------------------------------------------------------
-- The frame limiter of a gateway connection
-----------------------------------------------------------------------------------------

def GATEWAY_CLIENT_FRAME_LIMIT : Nat := 5
def GATEWAY_CLIENT_FRAME_WINDOW : Nat := fromSecs 1

structure GatewayClientFrameRateLimiter where
  windowStartedAt : Nat
  count : Nat

namespace GatewayClientFrameRateLimiter

def new (now : Nat) : GatewayClientFrameRateLimiter := ⟨now, 0⟩

def allow (limiter : GatewayClientFrameRateLimiter) (now : Nat)
    : Bool × GatewayClientFrameRateLimiter :=
  let limiter :=
    if GATEWAY_CLIENT_FRAME_WINDOW ≤ now - limiter.windowStartedAt then ⟨now, 0⟩ else limiter
  if GATEWAY_CLIENT_FRAME_LIMIT ≤ limiter.count then
    (false, limiter)
  else
    (true, { limiter with count := limiter.count + 1 })

end GatewayClientFrameRateLimiter

-----------------------------------------------------------------------------------------
-- One call
-----------------------------------------------------------------------------------------

namespace FixedWindowRateLimiter

variable {limiter : FixedWindowRateLimiter} {now : Nat} {bucket other : String}

@[simp] theorem put_limit (bucketState : BucketState)
    : (limiter.put bucket bucketState).limit = limiter.limit := rfl

@[simp] theorem put_window (bucketState : BucketState)
    : (limiter.put bucket bucketState).window = limiter.window := rfl

@[simp] theorem entry_put (bucketState : BucketState)
    : (limiter.put bucket bucketState).entry now bucket = bucketState := by
  simp [entry, put]

theorem lookup_put_ne (differs : other ≠ bucket) (bucketState : BucketState)
    : (limiter.put bucket bucketState).state.lookup other = limiter.state.lookup other :=
  AList.lookup_insert_ne differs

/-- What a fixed window answers to a call of a bucket. -/
def answer (limiter : FixedWindowRateLimiter) (now : Nat) (bucket : String)
    : Bool × BucketState :=
  (limiter.entry now bucket).check limiter.limit limiter.window now

/-- The seconds that a window advertises, at least one. -/
def resetAfter (limiter : FixedWindowRateLimiter) (now : Nat) (bucketState : BucketState)
    : Nat :=
  max ((limiter.window - (now - bucketState.startedAt)) / fromSecs 1) 1

/-- A call asks the fixed window of its bucket and stores what that leaves. -/
theorem check_eq (limiter : FixedWindowRateLimiter) (now : Nat) (bucket : String)
    : limiter.check now bucket
      = (⟨bucket, (limiter.answer now bucket).1, limiter.limit,
          limiter.limit - (limiter.answer now bucket).2.count,
          limiter.resetAfter now (limiter.answer now bucket).2⟩,
        limiter.put bucket (limiter.answer now bucket).2) := by
  have opened : (if limiter.window ≤ now - (limiter.entry now bucket).startedAt then ⟨now, 0⟩
      else limiter.entry now bucket) = (limiter.entry now bucket).current limiter.window now :=
    rfl
  simp only [check, answer, FixedWindow.check, opened]
  split
  · next full => rw [Nat.sub_eq_zero_of_le full, resetAfter]
  · rfl

end FixedWindowRateLimiter

/-- A frame asks the window of its connection. -/
theorem GatewayClientFrameRateLimiter.allow_eq (limiter : GatewayClientFrameRateLimiter)
    (now : Nat)
    : let answer := FixedWindow.check GATEWAY_CLIENT_FRAME_LIMIT GATEWAY_CLIENT_FRAME_WINDOW
        now ⟨limiter.windowStartedAt, limiter.count⟩
      limiter.allow now = (answer.1, ⟨answer.2.startedAt, answer.2.count⟩) := by
  simp only [allow, FixedWindow.check, FixedWindow.current]
  split
  · split <;> rfl
  · split <;> rfl

end OpenCord.RateLimits
