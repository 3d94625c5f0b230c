import OpenCord.RateLimits.Limiter

/-! The response headers that report a decision. Writing a header panics where its value is not
one that headers may have.
-/

namespace OpenCord.RateLimits

open OpenCord.Library

/-- The characters that a header value is made of, as the http library takes them. A control
character is one below the space, or the one of code 127.
-/
structure HeaderGrammar where
  accepts : Char → Bool
  controls : ∀ character, character.toNat < 32 ∨ character.toNat = 127 → character ≠ '\t' →
    accepts character = false
  printable : ∀ character, 32 ≤ character.toNat → character.toNat < 127 →
    accepts character = true

namespace HeaderGrammar

variable (grammar : HeaderGrammar)

/-- A text as a header value, if each of its characters may be in one. -/
def fromStr (text : String) : Option String :=
  if text.toList.all grammar.accepts then some text else none

theorem isSome_fromStr {text : String}
    : (grammar.fromStr text).isSome ↔ ∀ character ∈ text.toList, grammar.accepts character := by
  rw [fromStr, ← List.all_eq_true]
  split
  · next valid => exact iff_of_true rfl valid
  · next invalid => exact iff_of_false Bool.false_ne_true invalid

theorem accepts_of_isDigit {character : Char} (digit : character.isDigit)
    : grammar.accepts character := by
  simp only [Char.isDigit, Bool.and_eq_true, decide_eq_true_eq, UInt32.le_iff_toNat_le] at digit
  have lower : 48 ≤ character.toNat := digit.1
  have upper : character.toNat ≤ 57 := digit.2
  exact grammar.printable character (by omega) (by omega)

/-- A number is a header value. -/
theorem fromStr_repr (number : Nat) : grammar.fromStr number.repr = some number.repr := by
  rw [fromStr, if_pos]
  refine List.all_eq_true.mpr fun character listed => ?_
  rw [Nat.toList_repr] at listed
  exact grammar.accepts_of_isDigit
    (Nat.isDigit_of_mem_toDigits (by decide) (by decide) listed)

/-- A capital and its small letter are both in headers; folding leaves any other character. -/
theorem accepts_toLower (character : Char)
    : grammar.accepts character.toLower = grammar.accepts character := by
  by_cases capital : 65 ≤ character.toNat ∧ character.toNat ≤ 90
  · have folded := Text.toNat_toLower character
    rw [if_pos capital] at folded
    rw [grammar.printable character (by omega) (by omega),
      grammar.printable character.toLower (by omega) (by omega)]
  · have folded := Text.toNat_toLower character
    rw [if_neg capital] at folded
    rw [Char.toNat_inj.mp folded]

end HeaderGrammar

abbrev HeaderMap := List (String × String)

/-- The headers of a decision. There is no result where a value is not valid, which panics. -/
def rateLimitHeaders (grammar : HeaderGrammar) (decision : RateLimitDecision)
    : Option HeaderMap := do
  let limit ← grammar.fromStr decision.limit.repr
  let remaining ← grammar.fromStr decision.remaining.repr
  let reset ← grammar.fromStr decision.resetAfterSeconds.repr
  let bucket ← grammar.fromStr decision.bucket
  let headers := [("x-ratelimit-limit", limit), ("x-ratelimit-remaining", remaining),
    ("x-ratelimit-reset", reset), ("x-ratelimit-bucket", bucket)]
  if decision.allowed then
    return headers
  else
    let retryAfter ← grammar.fromStr decision.resetAfterSeconds.repr
    return headers ++ [("retry-after", retryAfter)]

/-- The headers can be written exactly if the bucket can. -/
theorem isSome_rateLimitHeaders {grammar : HeaderGrammar} {decision : RateLimitDecision}
    : (rateLimitHeaders grammar decision).isSome
      ↔ ∀ character ∈ decision.bucket.toList, grammar.accepts character := by
  rw [rateLimitHeaders, ← grammar.isSome_fromStr]
  simp only [grammar.fromStr_repr, Option.bind_eq_bind, Option.bind_some]
  cases grammar.fromStr decision.bucket with
  | none => rfl
  | some bucket =>
      rw [Option.bind_some]
      split <;> rfl

end OpenCord.RateLimits
