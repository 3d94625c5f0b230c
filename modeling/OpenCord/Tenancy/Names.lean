import OpenCord.Library.Text

/-! Display names and the slugs derived from them, as organizations, spaces and channels
share them; each service has its own bounds and messages.
-/

namespace OpenCord.Tenancy

open OpenCord.Library

/-- The name with its whitespace collapsed, if its size in bytes is within the bounds. -/
def boundedName (least most : Nat) (message name : String) : Except String String :=
  let name := Text.collapseWhitespace name
  if least ≤ name.utf8ByteSize ∧ name.utf8ByteSize ≤ most then .ok name else .error message

/-- One character of a name: letters and digits are kept, a stretch of other characters
after the first letter or digit becomes one dash.
-/
def slugStep (progress : List Char × Bool) (character : Char) : List Char × Bool :=
  let (slug, previousDash) := progress
  if character.isAlphanum then (slug ++ [character], false)
  else if !previousDash && !slug.isEmpty then (slug ++ ['-'], true)
  else (slug, previousDash)

/-- The slug of a name, without dashes at its end. -/
def slugOf (name : String) : String :=
  String.ofList
    (((name.toList.flatMap Text.toLowercase).foldl slugStep ([], false)).1.rdropWhile (· == '-'))

def slugifyOr (message name : String) : Except String String :=
  if slugOf name = "" then .error message else .ok (slugOf name)

/-- One of the listed words in any case, with any whitespace around it. -/
def oneOf (words : List String) (message word : String) : Except String String :=
  let word := Text.toAsciiLowercase (Text.trim word)
  if word ∈ words then .ok word else .error message

/-- What is accepted is one of the words. -/
theorem mem_of_oneOf {words : List String} {message word given : String}
    (accepted : oneOf words message word = .ok given)
    : given ∈ words := by
  rw [oneOf] at accepted
  split at accepted
  · next known => exact Except.ok.inj accepted ▸ known
  · cases accepted

end OpenCord.Tenancy
