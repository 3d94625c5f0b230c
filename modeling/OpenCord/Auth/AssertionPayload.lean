import OpenCord.Auth.Credentials

/-! When the signed text of an OIDC assertion determines its fields. The normalizers trim
the ends of a field only, so a newline inside one can pass for a field boundary.
-/

namespace OpenCord.Auth

open OpenCord.Library OpenCord.Library.Text

/-- The three fields an assertion is signed over. -/
structure AssertionFields where
  issuer : String
  subject : String
  email : String
  deriving DecidableEq

namespace AssertionFields

/-- The signing text of verified fields. -/
def payload (fields : AssertionFields) : String :=
  assertionPayload fields.issuer fields.subject fields.email true

/-- The fields as a login produces them: each is an answer of its normalizer. -/
structure Accepted (fields : AssertionFields) : Prop where
  issuer : ∃ raw, normalizeUrl raw "OIDC issuer is required" = .ok fields.issuer
  subject : ∃ raw, normalizeNonEmpty raw "OIDC subject is required" = .ok fields.subject
  email : ∃ raw, normalizeEmail raw = .ok fields.email

end AssertionFields

-----------------------------------------------------------------------------------------
-- What the normalizers let through
-----------------------------------------------------------------------------------------

/-- An issuer starts like a valid URL and does not end in a slash. -/
def IssuerShape (issuer : String) : Prop :=
  validUrl issuer = true ∧ endsWithChar issuer '/' = false

/-- A subject is not empty and has no whitespace at its ends. -/
def SubjectShape (subject : String) : Prop :=
  subject ≠ "" ∧ Trimmed subject.toList

/-- An email has the checked shape, no whitespace at its ends and no ASCII capital. -/
def EmailShape (email : String) : Prop :=
  validEmailShape email = true ∧ Trimmed email.toList ∧ toAsciiLowercase email = email

instance (issuer : String) : Decidable (IssuerShape issuer) :=
  inferInstanceAs (Decidable (_ ∧ _))

instance (subject : String) : Decidable (SubjectShape subject) :=
  inferInstanceAs (Decidable (_ ∧ _))

instance (email : String) : Decidable (EmailShape email) :=
  inferInstanceAs (Decidable (_ ∧ _))

/-- A valid URL starts with a letter, so nothing is trimmed at its start. -/
private theorem head?_of_validUrl {url : String} (valid : validUrl url = true)
    : url.toList.head? = some 'h' := by
  simp only [validUrl, startsWith, Bool.or_eq_true, List.isPrefixOf_iff_prefix] at valid
  rcases valid with (⟨rest, eq⟩ | ⟨rest, eq⟩) | ⟨rest, eq⟩ <;> simp [← eq]

/-- A URL that ends in neither a slash nor whitespace is its own normal form; a final
slash protects whitespace before it from being trimmed.
-/
private theorem normalizeUrl_appendSlash {issuer : String} (shape : IssuerShape issuer)
    (message : String)
    : normalizeUrl (issuer ++ "/") message = .ok issuer := by
  obtain ⟨valid, noSlash⟩ := shape
  have trimmed : Trimmed (issuer ++ "/").toList := by
    rw [String.toList_append]
    constructor
    · intro first mem
      rw [List.head?_append, head?_of_validUrl valid] at mem
      obtain rfl : first = 'h' := by simpa [eq_comm] using mem
      decide
    · intro last mem
      obtain rfl : last = '/' := by simpa [eq_comm] using mem
      decide
  have unslashed : trimEndMatches (trim (issuer ++ "/")) '/' = issuer := by
    apply String.toList_inj.mp
    rw [trim_of_trimmed trimmed, trimEndMatches, String.toList_ofList, String.toList_append]
    show List.rdropWhile _ (issuer.toList ++ ['/']) = _
    rw [List.rdropWhile_concat_pos _ _ _ (by decide)]
    refine rdropWhile_eq_self ?_
    intro last mem
    simp only [endsWithChar, Option.mem_def.mp mem] at noSlash
    simpa using noSlash
  simp only [normalizeUrl, unslashed, valid, if_true]

/-- The answers of `normalizeUrl` are the issuer shapes. -/
theorem exists_normalizeUrl_iff {issuer message : String}
    : (∃ raw, normalizeUrl raw message = .ok issuer) ↔ IssuerShape issuer := by
  constructor
  · rintro ⟨raw, accepted⟩
    simp only [normalizeUrl] at accepted
    split at accepted
    · next valid =>
        obtain rfl := Except.ok.inj accepted
        refine ⟨valid, ?_⟩
        simp only [endsWithChar, trimEndMatches, String.toList_ofList, beq_eq_false_iff_ne]
        intro ends
        simpa using rdropWhile_getLast? _ _ '/' (Option.mem_def.mpr ends)
    · cases accepted
  · intro shape
    exact ⟨issuer ++ "/", normalizeUrl_appendSlash shape message⟩

/-- The answers of `normalizeNonEmpty` are the subject shapes. -/
theorem exists_normalizeNonEmpty_iff {subject message : String}
    : (∃ raw, normalizeNonEmpty raw message = .ok subject) ↔ SubjectShape subject := by
  constructor
  · rintro ⟨raw, accepted⟩
    simp only [normalizeNonEmpty] at accepted
    split at accepted
    · cases accepted
    · next nonempty =>
        obtain rfl := Except.ok.inj accepted
        exact ⟨nonempty, by simpa using trimChars_trimmed raw.toList⟩
  · rintro ⟨nonempty, trimmed⟩
    exact ⟨subject, by simp [normalizeNonEmpty, trim_of_trimmed trimmed, nonempty]⟩

/-- The answers of `normalizeEmail` are the email shapes. -/
theorem exists_normalizeEmail_iff {email : String}
    : (∃ raw, normalizeEmail raw = .ok email) ↔ EmailShape email := by
  constructor
  · rintro ⟨raw, accepted⟩
    simp only [normalizeEmail] at accepted
    split at accepted
    · next valid =>
        obtain rfl := Except.ok.inj accepted
        refine ⟨valid, ?_, toAsciiLowercase_idem _⟩
        simpa using (trimChars_trimmed raw.toList).map_toLower
    · cases accepted
  · rintro ⟨valid, trimmed, lower⟩
    exact ⟨email, by simp [normalizeEmail, trim_of_trimmed trimmed, lower, valid]⟩

namespace AssertionFields

/-- The three fields have the shapes their normalizers let through. -/
def WellShaped (fields : AssertionFields) : Prop :=
  IssuerShape fields.issuer ∧ SubjectShape fields.subject ∧ EmailShape fields.email

instance (fields : AssertionFields) : Decidable fields.WellShaped :=
  inferInstanceAs (Decidable (_ ∧ _ ∧ _))

theorem accepted_iff_wellShaped {fields : AssertionFields}
    : fields.Accepted ↔ fields.WellShaped := by
  constructor
  · rintro ⟨issuer, subject, email⟩
    exact ⟨exists_normalizeUrl_iff.mp issuer, exists_normalizeNonEmpty_iff.mp subject,
      exists_normalizeEmail_iff.mp email⟩
  · rintro ⟨issuer, subject, email⟩
    exact ⟨exists_normalizeUrl_iff.mpr issuer, exists_normalizeNonEmpty_iff.mpr subject,
      exists_normalizeEmail_iff.mpr email⟩

-----------------------------------------------------------------------------------------
-- Reading a signing text back
-----------------------------------------------------------------------------------------

/-- The signed text before its final `\ntrue`. -/
def signedLines (fields : AssertionFields) : List Char :=
  fields.issuer.toList ++ '\n' :: (fields.subject.toList ++ '\n' :: fields.email.toList)

theorem payload_toList (fields : AssertionFields)
    : fields.payload.toList = fields.signedLines ++ "\ntrue".toList := by
  simp [payload, assertionPayload, signedLines]

/-- Two field triples sign the same text exactly when their lines agree. -/
theorem payload_eq_iff {left right : AssertionFields}
    : left.payload = right.payload ↔ left.signedLines = right.signedLines := by
  rw [← String.toList_inj, payload_toList, payload_toList, List.append_left_inj]

/-- All readings of a text as three fields separated by newlines. -/
def readings (lines : List Char) : List AssertionFields :=
  (cutsAt '\n' lines).flatMap fun outer =>
    (cutsAt '\n' outer.2).map fun inner =>
      ⟨String.ofList outer.1, String.ofList inner.1, String.ofList inner.2⟩

/-- A reading of a text is a triple with these lines. -/
theorem mem_readings {fields : AssertionFields} {lines : List Char}
    : fields ∈ readings lines ↔ fields.signedLines = lines := by
  simp only [readings, List.mem_flatMap, List.mem_map, Prod.exists]
  constructor
  · rintro ⟨issuer, rest, outer, subject, email, inner, rfl⟩
    rw [mem_cutsAt] at outer inner
    simp [signedLines, outer, inner]
  · rintro rfl
    exact ⟨_, _, mem_cutsAt.mpr rfl, _, _, mem_cutsAt.mpr rfl, by simp⟩

/-- The readings of the triple's own signed text, other than the triple, whose parts all
have the shape of their field.
-/
def otherReadings (fields : AssertionFields) : List AssertionFields :=
  (readings fields.signedLines).filter fun other =>
    decide (other ≠ fields ∧ other.WellShaped)

theorem otherReadings_eq_nil_iff {fields : AssertionFields}
    : fields.otherReadings = []
      ↔ ∀ other ∈ readings fields.signedLines, other.WellShaped → other = fields := by
  simp only [otherReadings, List.filter_eq_nil_iff, decide_eq_true_eq]
  refine forall₂_congr fun other _ => ?_
  constructor
  · intro none shaped
    by_contra differs
    exact none ⟨differs, shaped⟩
  · rintro same ⟨differs, shaped⟩
    exact differs (same shaped)

/-- A list cut around a separator that neither front part contains is cut in one way, by
induction over the front parts.
-/
private theorem cut_unique {separator : Char} {left right leftRest rightRest : List Char}
    (same : left ++ separator :: leftRest = right ++ separator :: rightRest)
    (leftFree : separator ∉ left) (rightFree : separator ∉ right)
    : left = right ∧ leftRest = rightRest := by
  induction left generalizing right with
  | nil =>
      cases right with
      | nil => exact ⟨rfl, (List.cons.inj same).2⟩
      | cons first right => exact absurd ((List.cons.inj same).1 ▸ .head _) rightFree
  | cons first left ih =>
      cases right with
      | nil => exact absurd ((List.cons.inj same).1 ▸ .head _) leftFree
      | cons second right =>
          rw [List.mem_cons, not_or] at leftFree rightFree
          obtain ⟨heads, tails⟩ := List.cons.inj same
          obtain ⟨lefts, rests⟩ := ih tails leftFree.2 rightFree.2
          exact ⟨by rw [heads, lefts], rests⟩

/-- A text without further newlines has one reading. -/
theorem eq_of_signedLines_eq {fields other : AssertionFields}
    (same : other.signedLines = fields.signedLines)
    (issuerFree : '\n' ∉ fields.issuer.toList) (subjectFree : '\n' ∉ fields.subject.toList)
    (emailFree : '\n' ∉ fields.email.toList)
    : other = fields := by
  have total := congrArg (List.count '\n') same
  simp only [signedLines, List.count_append, List.count_cons_self,
    List.count_eq_zero_of_not_mem issuerFree, List.count_eq_zero_of_not_mem subjectFree,
    List.count_eq_zero_of_not_mem emailFree] at total
  have otherIssuerFree : '\n' ∉ other.issuer.toList :=
    List.count_eq_zero.mp (by omega)
  have otherSubjectFree : '\n' ∉ other.subject.toList :=
    List.count_eq_zero.mp (by omega)
  obtain ⟨issuer, rest⟩ := cut_unique same otherIssuerFree issuerFree
  obtain ⟨subject, email⟩ := cut_unique rest otherSubjectFree subjectFree
  obtain ⟨otherIssuer, otherSubject, otherEmail⟩ := other
  simp only [String.toList_inj] at issuer subject email
  simp [issuer, subject, email]

-----------------------------------------------------------------------------------------
-- Main result
-----------------------------------------------------------------------------------------

/-- The signing text of a triple determines it among all accepted triples exactly when
no other pair of its newlines cuts it into parts with the shapes of an issuer, a subject
and an email; a text whose fields hold no newline is such a text.
-/
theorem payload_determines_iff (fields : AssertionFields)
    : ((∀ other : AssertionFields, other.Accepted → other.payload = fields.payload →
          other = fields)
        ↔ fields.otherReadings = [])
      ∧ ('\n' ∉ fields.issuer.toList → '\n' ∉ fields.subject.toList →
          '\n' ∉ fields.email.toList → fields.otherReadings = []) := by
  constructor
  · rw [otherReadings_eq_nil_iff]
    constructor
    · intro determined other mem shaped
      exact determined other (accepted_iff_wellShaped.mpr shaped)
        (payload_eq_iff.mpr (mem_readings.mp mem))
    · intro only other otherAccepted same
      exact only other (mem_readings.mpr (payload_eq_iff.mp same))
        (accepted_iff_wellShaped.mp otherAccepted)
  · intro issuerFree subjectFree emailFree
    rw [otherReadings_eq_nil_iff]
    intro other mem _
    exact eq_of_signedLines_eq (mem_readings.mp mem) issuerFree subjectFree emailFree

/-- A subject with a newline and the second half of the email behind it. -/
def longSubject : AssertionFields :=
  ⟨"https://idp.example.com", "x\ny@z", "e@f"⟩

/-- The same lines with the boundary between subject and email moved. -/
def longEmail : AssertionFields :=
  ⟨"https://idp.example.com", "x", "y@z\ne@f"⟩

/-- Two different assertions that a login accepts share their signing text, hence their
signature under every client secret.
-/
theorem movedBoundary_sameSignature
    : longSubject.Accepted ∧ longEmail.Accepted ∧ longSubject ≠ longEmail
      ∧ longSubject.payload = longEmail.payload
      ∧ ∀ (crypto : Crypto) (secret : String),
          oidcAssertionSignature crypto secret longSubject.issuer longSubject.subject
              longSubject.email true
            = oidcAssertionSignature crypto secret longEmail.issuer longEmail.subject
                longEmail.email true := by
  refine ⟨accepted_iff_wellShaped.mpr (by decide), accepted_iff_wellShaped.mpr (by decide),
    by decide, by decide, ?_⟩
  intro crypto secret
  exact congrArg (crypto.hmacSha256 secret) (by decide)

end AssertionFields

end OpenCord.Auth
