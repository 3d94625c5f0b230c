import Mathlib.Data.Bool.AllAny
import OpenCord.Compat.MentionScanner

/-! Which written mentions are found. The scan looks for no new mention while it is inside one,
so that an earlier "<@" without its ">" hides the next mention.
-/

namespace OpenCord.Compat

open OpenCord.Library OpenCord.Platform

/-- Every "<@" of a text is followed by a ">". -/
def Closed (text : List Char) : Prop :=
  ∀ after, '<' :: '@' :: after <:+ text → '>' ∈ after

/-- A text contains a mention of the identifier that does not start inside another one. -/
def MentionedIn (kind : MentionKind) (text : List Char) (id : Uuid) : Prop :=
  ∃ before token after, text = before ++ '<' :: '@' :: token ++ '>' :: after
    ∧ Closed before ∧ '>' ∉ token ∧ parseMention kind token = some id

/-- What has been read of an unfinished token after a text, if there is one. -/
def pending : Option (List Char) → List Char → Option (List Char)
  | read, [] => read
  | none, '<' :: '@' :: rest => pending (some []) rest
  | none, _ :: rest => pending none rest
  | some _, '>' :: rest => pending none rest
  | some token, character :: rest => pending (some (token ++ [character])) rest

-----------------------------------------------------------------------------------------
-- Closed texts
-----------------------------------------------------------------------------------------

theorem closed_nil : Closed [] := by
  intro after initial
  cases List.suffix_nil.mp initial

theorem closed_open {rest : List Char}
    : Closed ('<' :: '@' :: rest) ↔ '>' ∈ rest ∧ Closed rest := by
  constructor
  · intro closed
    refine ⟨closed rest (List.suffix_refl _), fun after part => closed after ?_⟩
    exact (part.trans (List.suffix_cons _ _)).trans (List.suffix_cons _ _)
  · rintro ⟨ends, closed⟩ after part
    obtain same | part := List.suffix_cons_iff.mp part
    · cases same
      exact ends
    · obtain same | part := List.suffix_cons_iff.mp part
      · cases same
      · exact closed after part

/-- A character that opens no mention may come first. -/
theorem closed_cons {first : Char} {rest : List Char}
    (opensNot : ∀ more, first = '<' → rest = '@' :: more → False)
    : Closed (first :: rest) ↔ Closed rest := by
  constructor
  · intro closed after part
    exact closed after (part.trans (List.suffix_cons _ _))
  · intro closed after part
    obtain same | part := List.suffix_cons_iff.mp part
    · obtain ⟨rfl, rfl⟩ := List.cons.inj same
      exact (opensNot after rfl rfl).elim
    · exact closed after part

/-- Before a ">" any character may come. -/
theorem closed_cons_of_mem {first : Char} {rest : List Char} (ends : '>' ∈ rest)
    : Closed (first :: rest) ↔ Closed rest := by
  constructor
  · intro closed after part
    exact closed after (part.trans (List.suffix_cons _ _))
  · intro closed after part
    obtain same | part := List.suffix_cons_iff.mp part
    · obtain ⟨rfl, rfl⟩ := List.cons.inj same
      exact (List.mem_cons.mp ends).resolve_left (by decide)
    · exact closed after part

/-- The scan is outside of a token after exactly the closed texts; from inside of a token it
also takes a ">" to leave it. By induction over the text.
-/
theorem pending_eq_none_iff (read : Option (List Char)) (text : List Char)
    : pending read text = none ↔ (read.isSome → '>' ∈ text) ∧ Closed text := by
  induction read, text using pending.induct with
  | case1 read =>
      rw [pending]
      cases read with
      | none => exact iff_of_true rfl ⟨by simp, closed_nil⟩
      | some token => simp
  | case2 rest ih =>
      rw [pending, ih, closed_open]
      simp
  | case3 first rest opensNot ih =>
      rw [pending, ih, closed_cons opensNot]
      · simp
      · exact opensNot
  | case4 token rest ih =>
      rw [pending, ih, closed_cons (by simp)]
      simp
  | case5 token character rest other ih =>
      rw [pending, ih]
      · have tail : '>' ∈ character :: rest ↔ '>' ∈ rest :=
          List.mem_cons.trans (or_iff_right fun same => other same.symm)
        simp only [Option.isSome_some, forall_const, tail]
        exact and_congr_right fun ends => (closed_cons_of_mem ends).symm
      · exact other

instance (text : List Char) : Decidable (Closed text) :=
  decidable_of_iff (pending none text = none) ((pending_eq_none_iff none text).trans
    (and_iff_right fun inside => absurd inside Bool.false_ne_true))

theorem closed_iff_pending {text : List Char} : Closed text ↔ pending none text = none := by
  rw [pending_eq_none_iff]
  simp

-----------------------------------------------------------------------------------------
-- Tokens of a text and of its parts
-----------------------------------------------------------------------------------------

/-- The tokens of a text are those of a first part, and those that its scan reads in the rest; by
induction over the part.
-/
theorem mentionTokens_append {rest : List Char} (cut : rest.head? ≠ some '@')
    (read : Option (List Char)) (text : List Char)
    : mentionTokens read (text ++ rest)
      = mentionTokens read text ++ mentionTokens (pending read text) rest := by
  induction read, text using pending.induct with
  | case1 read => cases read <;> simp [mentionTokens, pending]
  | case2 text ih => exact ih
  | case3 first text opensNot ih =>
      have before : mentionTokens none (first :: text) = mentionTokens none text := by
        rw [mentionTokens]
        exact opensNot
      have whole : mentionTokens none (first :: text ++ rest)
          = mentionTokens none (text ++ rest) := by
        rw [List.cons_append, mentionTokens]
        intro more opened same
        cases text with
        | nil =>
            rw [List.nil_append] at same
            rw [same] at cut
            exact cut rfl
        | cons second text =>
            obtain ⟨rfl, rfl⟩ := List.cons.inj same
            exact opensNot text opened rfl
      rw [before, whole, ih, pending]
      exact opensNot
  | case4 token text ih =>
      rw [List.cons_append, mentionTokens, mentionTokens, pending, ih, List.cons_append]
  | case5 token character text other ih =>
      rw [List.cons_append, mentionTokens, mentionTokens, pending, ih]
      all_goals exact other

/-- A token is read up to its ">". -/
theorem mentionTokens_token {token : List Char} (read rest : List Char) (plain : '>' ∉ token)
    : mentionTokens (some read) (token ++ '>' :: rest)
      = (read ++ token) :: mentionTokens none rest := by
  induction token generalizing read with
  | nil => rw [List.nil_append, mentionTokens, List.append_nil]
  | cons first token ih =>
      rw [List.mem_cons, not_or] at plain
      obtain ⟨differs, plain⟩ := plain
      rw [List.cons_append, mentionTokens, ih _ plain, List.append_assoc, List.singleton_append]
      exact fun same => differs same.symm

/-- A token that is read starts outside of the others, or is the one that was being read; by
induction over the text.
-/
theorem starts_of_mem_mentionTokens {read : Option (List Char)} {text token : List Char}
    (listed : token ∈ mentionTokens read text)
    : (∃ before after, text = before ++ '<' :: '@' :: token ++ '>' :: after
        ∧ pending read before = none ∧ '>' ∉ token)
      ∨ ∃ start rest last, read = some start ∧ token = start ++ rest
          ∧ text = rest ++ '>' :: last ∧ '>' ∉ rest := by
  induction read, text using pending.induct with
  | case1 read =>
      rw [mentionTokens] at listed
      cases listed
  | case2 rest ih =>
      rw [mentionTokens] at listed
      obtain ⟨before, after, rfl, outside, plain⟩ | ⟨start, more, last, same, rfl, rfl, plain⟩ :=
        ih listed
      · exact .inl ⟨'<' :: '@' :: before, after, rfl, outside, plain⟩
      · cases same
        exact .inl ⟨[], last, rfl, rfl, plain⟩
  | case3 first rest opensNot ih =>
      rw [mentionTokens] at listed
      · obtain ⟨before, after, rfl, outside, plain⟩ | ⟨_, _, _, same, _⟩ := ih listed
        · refine .inl ⟨first :: before, after, rfl, ?_, plain⟩
          rw [pending]
          · exact outside
          · rintro more opened rfl
            exact opensNot _ opened rfl
        · cases same
      · exact opensNot
  | case4 start rest ih =>
      rw [mentionTokens] at listed
      obtain rfl | listed := List.mem_cons.mp listed
      · exact .inr ⟨token, [], rest, rfl, (List.append_nil _).symm, rfl, List.not_mem_nil⟩
      · obtain ⟨before, after, rfl, outside, plain⟩ | ⟨_, _, _, same, _⟩ := ih listed
        · exact .inl ⟨'>' :: before, after, rfl, outside, plain⟩
        · cases same
  | case5 start character rest other ih =>
      rw [mentionTokens] at listed
      · obtain ⟨before, after, rfl, outside, plain⟩
          | ⟨longer, more, last, same, rfl, rfl, plain⟩ := ih listed
        · refine .inl ⟨character :: before, after, rfl, ?_, plain⟩
          rw [pending]
          · exact outside
          · exact other
        · cases same
          refine .inr ⟨start, character :: more, last, rfl, ?_, rfl, ?_⟩
          · rw [List.append_assoc, List.singleton_append]
          · rw [List.mem_cons, not_or]
            exact ⟨fun ended => other ended.symm, plain⟩
      · exact other

/-- The tokens of a text are what it writes between "<@" and the next ">", outside of others. -/
theorem mem_mentionTokens_iff {text token : List Char}
    : token ∈ mentionTokens none text
      ↔ ∃ before after, text = before ++ '<' :: '@' :: token ++ '>' :: after
          ∧ Closed before ∧ '>' ∉ token := by
  constructor
  · intro listed
    obtain ⟨before, after, rfl, outside, plain⟩ | ⟨_, _, _, same, _⟩ :=
      starts_of_mem_mentionTokens listed
    · exact ⟨before, after, rfl, closed_iff_pending.mpr outside, plain⟩
    · cases same
  · rintro ⟨before, after, rfl, closed, plain⟩
    rw [List.append_assoc, mentionTokens_append (by simp), closed_iff_pending.mp closed,
      List.cons_append, List.cons_append, mentionTokens, mentionTokens_token [] after plain]
    exact List.mem_append_right _ List.mem_cons_self

/-- What is extracted from a text is what the text mentions. -/
theorem mem_extractMentionIds_iff {text : String} {kind : MentionKind} {id : Uuid}
    : id ∈ extractMentionIds text kind ↔ MentionedIn kind text.toList id := by
  simp only [extractMentionIds, List.mem_filterMap, mem_mentionTokens_iff]
  constructor
  · rintro ⟨token, ⟨before, after, same, closed, plain⟩, parsed⟩
    exact ⟨before, token, after, same, closed, plain, parsed⟩
  · rintro ⟨before, token, after, same, closed, plain, parsed⟩
    exact ⟨token, ⟨before, after, same, closed, plain⟩, parsed⟩

-----------------------------------------------------------------------------------------
-- Texts of identifiers
-----------------------------------------------------------------------------------------

/-- What is read as a number is made of digits, by induction over the text. -/
theorem digits_of_readFrom {start number : Nat} {characters : List Char}
    (read : Hex.readFrom start characters = some number)
    : ∀ character ∈ characters, (Hex.digitValue character).isSome := by
  induction characters generalizing start with
  | nil => exact fun _ listed => absurd listed List.not_mem_nil
  | cons first rest ih =>
      rw [Hex.readFrom] at read
      obtain ⟨value, digit, read⟩ := Option.bind_eq_some_iff.mp read
      refine List.forall_mem_cons.mpr ⟨?_, ih read⟩
      rw [digit]
      rfl

/-- An item behind an index is in the next stretch, at its end, or behind it. -/
theorem mem_drop_cases {α : Type} {items : List α} {item : α} {start : Nat} (width : Nat)
    (listed : item ∈ items.drop start)
    : item ∈ (items.drop start).take width ∨ items[start + width]? = some item
      ∨ item ∈ items.drop (start + width + 1) := by
  rw [← List.take_append_drop width (items.drop start), List.mem_append, List.drop_drop] at listed
  refine listed.imp_right fun later => ?_
  cases found : items.drop (start + width) with
  | nil =>
      rw [found] at later
      cases later
  | cons first rest =>
      have head : items[start + width]? = some first := by
        rw [← List.head?_drop, found, List.head?_cons]
      have tail : items.drop (start + width + 1) = rest := by
        rw [← List.drop_drop, found, List.drop_one, List.tail_cons]
      rw [found] at later
      rw [head, tail, Option.some.injEq]
      exact (List.mem_cons.mp later).imp_left Eq.symm

/-- A hyphenated text has its digits and hyphens. -/
theorem mem_of_unhyphenate {characters digits : List Char} {character : Char}
    (read : Uuid.unhyphenate characters = some digits) (listed : character ∈ characters)
    : character ∈ digits ∨ character = '-' := by
  rw [Uuid.unhyphenate] at read
  split at read
  · next hyphens =>
      obtain ⟨_, first, second, third, fourth⟩ := hyphens
      cases read
      simp only [List.mem_append]
      obtain inside | same | later := @mem_drop_cases _ characters character 0 8 listed
      · exact .inl (.inl (.inl (.inl (.inl inside))))
      · exact .inr (Option.some.inj (same.symm.trans first))
      obtain inside | same | later := mem_drop_cases 4 later
      · exact .inl (.inl (.inl (.inl (.inr inside))))
      · exact .inr (Option.some.inj (same.symm.trans second))
      obtain inside | same | later := mem_drop_cases 4 later
      · exact .inl (.inl (.inl (.inr inside)))
      · exact .inr (Option.some.inj (same.symm.trans third))
      obtain inside | same | later := mem_drop_cases 4 later
      · exact .inl (.inl (.inr inside))
      · exact .inr (Option.some.inj (same.symm.trans fourth))
      · exact .inl (.inr later)
  · cases read

theorem mem_of_parseHyphenated {characters : List Char} {id : Uuid} {character : Char}
    (parsed : Uuid.parseHyphenated characters = some id) (listed : character ∈ characters)
    : (Hex.digitValue character).isSome ∨ character = '-' := by
  obtain ⟨digits, found, parsed⟩ := Option.bind_eq_some_iff.mp parsed
  obtain ⟨number, read, _⟩ := Option.map_eq_some_iff.mp parsed
  exact (mem_of_unhyphenate found listed).imp_left (digits_of_readFrom read character)

/-- What the forms of an identifier have besides digits. -/
def idMarks : List Char := ['-', '{', '}', 'u', 'r', 'n', ':', 'i', 'd']

/-- The characters of a text that is read as an identifier, in any of its forms. -/
theorem mem_of_parseStr {text : String} {id : Uuid} {character : Char}
    (parsed : Uuid.parseStr text = some id) (listed : character ∈ text.toList)
    : (Hex.digitValue character).isSome ∨ character ∈ idMarks := by
  have hyphen : '-' ∈ idMarks := by decide
  simp only [Uuid.parseStr] at parsed
  split at parsed
  · obtain ⟨number, read, _⟩ := Option.map_eq_some_iff.mp parsed
    exact .inl (digits_of_readFrom read character listed)
  · refine (mem_of_parseHyphenated parsed listed).imp_right ?_
    rintro rfl
    exact hyphen
  · split at parsed
    · next braces =>
        obtain ⟨opened, ended⟩ := braces
        obtain ⟨rest, same⟩ := List.head?_eq_some_iff.mp opened
        rw [same] at parsed listed ended
        obtain rfl | listed := List.mem_cons.mp listed
        · exact .inr (by decide)
        · cases rest with
          | nil => cases listed
          | cons second rest =>
              rw [List.getLast?_cons_cons] at ended
              rw [← List.dropLast_append_getLast? _ ended] at listed
              obtain listed | listed := List.mem_append.mp listed
              · refine (mem_of_parseHyphenated parsed listed).imp_right ?_
                rintro rfl
                exact hyphen
              · rw [List.mem_singleton.mp listed]
                exact .inr (by decide)
    · cases parsed
  · split at parsed
    · next urn =>
        obtain ⟨rest, same⟩ := List.isPrefixOf_iff_prefix.mp urn
        rw [← same] at parsed listed
        obtain named | listed := List.mem_append.mp listed
        · have within : ∀ character ∈ "urn:uuid:".toList, character ∈ idMarks :=
            List.all_iff_forall_prop.mp (by decide)
          exact .inr (within character named)
        · refine (mem_of_parseHyphenated parsed listed).imp_right ?_
          rintro rfl
          exact hyphen
    · cases parsed
  · cases parsed

/-- An identifier is written without angle brackets and without the marks of a mention. -/
theorem ne_of_parseStr {text : String} {id : Uuid} {mark : Char}
    (parsed : Uuid.parseStr text = some id) (marks : mark ∈ ['<', '>', '@', '!', '&'])
    : mark ∉ text.toList := by
  have plain : ∀ mark ∈ ['<', '>', '@', '!', '&'], ¬ ((Hex.digitValue mark).isSome
      ∨ mark ∈ idMarks) :=
    List.all_iff_forall_prop.mp (by decide)
  exact fun listed => plain mark marks (mem_of_parseStr parsed listed)

-----------------------------------------------------------------------------------------
-- Completeness
-----------------------------------------------------------------------------------------

/-- The tokens that mention an identifier, by its text. -/
def mentionForms (kind : MentionKind) (text : List Char) : List (List Char) :=
  match kind with
  | .user => [text, '!' :: text]
  | .role => ['&' :: text]

theorem stripChar_of_notMem {mark : Char} {text : List Char} (absent : mark ∉ text)
    : stripChar mark text = none := by
  cases text with
  | nil => rfl
  | cons first rest =>
      rw [stripChar, if_neg]
      rintro rfl
      exact absent List.mem_cons_self

@[simp] theorem stripChar_cons_self (mark : Char) (rest : List Char)
    : stripChar mark (mark :: rest) = some rest := by
  rw [stripChar, if_pos rfl]

theorem eq_cons_of_stripChar {mark : Char} {text rest : List Char}
    (stripped : stripChar mark text = some rest)
    : text = mark :: rest := by
  cases text with
  | nil => cases stripped
  | cons first others =>
      rw [stripChar] at stripped
      split at stripped
      · next same =>
          cases stripped
          rw [same]
      · cases stripped

/-- The forms of a mention are read as what they mention. -/
theorem parseMention_forms {kind : MentionKind} {text : String} {id : Uuid} {token : List Char}
    (parsed : Uuid.parseStr text = some id) (written : token ∈ mentionForms kind text.toList)
    : parseMention kind token = some id ∧ '>' ∉ token := by
  have plain := fun mark => @ne_of_parseStr text id mark parsed
  have bang := stripChar_of_notMem (plain '!' (by decide))
  have ampersand := stripChar_of_notMem (plain '&' (by decide))
  have closing := plain '>' (by decide)
  cases kind with
  | user =>
      obtain rfl | written := List.mem_cons.mp written
      · refine ⟨?_, closing⟩
        simp only [parseMention, bang, Option.getD_none, ampersand, String.ofList_toList, parsed]
      · obtain rfl := List.mem_singleton.mp written
        refine ⟨?_, by simp [closing]⟩
        simp only [parseMention, stripChar_cons_self, Option.getD_some, ampersand,
          String.ofList_toList, parsed]
  | role =>
      obtain rfl := List.mem_singleton.mp written
      refine ⟨?_, by simp [closing]⟩
      simp only [parseMention, stripChar_cons_self, Option.bind_some, String.ofList_toList,
        parsed]

/-- A token with a "<" inside mentions nothing. -/
theorem parseMention_eq_none {kind : MentionKind} {token : List Char} (inside : '<' ∈ token)
    : parseMention kind token = none := by
  have unread : ∀ text : List Char, '<' ∈ text → Uuid.parseStr (String.ofList text) = none := by
    intro text within
    refine Option.eq_none_iff_forall_ne_some.mpr fun id parsed => ?_
    refine @ne_of_parseStr _ id '<' parsed (by decide) ?_
    rwa [String.toList_ofList]
  have kept : ∀ mark rest, mark ≠ '<' → stripChar mark token = some rest → '<' ∈ rest := by
    intro mark rest other stripped
    rw [eq_cons_of_stripChar stripped] at inside
    exact (List.mem_cons.mp inside).resolve_left other.symm
  cases kind with
  | user =>
      have within : '<' ∈ (stripChar '!' token).getD token := by
        cases stripped : stripChar '!' token with
        | none => exact inside
        | some rest => exact kept '!' rest (by decide) stripped
      simp only [parseMention]
      split
      · rfl
      · exact unread _ within
  | role =>
      rw [parseMention]
      cases stripped : stripChar '&' token with
      | none => rfl
      | some rest => exact unread rest (kept '&' rest (by decide) stripped)

/-- A written mention is found exactly if it does not start inside an open one, or the identifier
is mentioned elsewhere.
-/
theorem written_mem_extractMentionIds_iff {kind : MentionKind} {text : String} {id : Uuid}
    {token : List Char} (parsed : Uuid.parseStr text = some id)
    (written : token ∈ mentionForms kind text.toList) (before after : String)
    : id ∈ extractMentionIds (before ++ String.ofList ('<' :: '@' :: token ++ ['>']) ++ after) kind
      ↔ Closed before.toList ∨ MentionedIn kind before.toList id
        ∨ MentionedIn kind after.toList id := by
  obtain ⟨own, plain⟩ := parseMention_forms parsed written
  have content : (before ++ String.ofList ('<' :: '@' :: token ++ ['>']) ++ after).toList
      = before.toList ++ '<' :: '@' :: (token ++ '>' :: after.toList) := by
    simp
  have parts : mentionTokens none (before.toList ++ '<' :: '@' :: (token ++ '>' :: after.toList))
      = mentionTokens none before.toList ++ mentionTokens (pending none before.toList)
          ('<' :: '@' :: (token ++ '>' :: after.toList)) :=
    mentionTokens_append (by simp) none before.toList
  rw [← mem_extractMentionIds_iff, ← mem_extractMentionIds_iff]
  simp only [extractMentionIds, content, parts, List.filterMap_append, List.mem_append,
    closed_iff_pending]
  cases outside : pending none before.toList with
  | none =>
      rw [mentionTokens, mentionTokens_token [] _ plain, List.nil_append, List.filterMap_cons, own]
      simp
  | some start =>
      have swallowed : mentionTokens (some start)
          ('<' :: '@' :: (token ++ '>' :: after.toList))
          = (start ++ '<' :: '@' :: token) :: mentionTokens none after.toList := by
        refine @mentionTokens_token ('<' :: '@' :: token) start after.toList ?_
        simp [plain]
      rw [swallowed, List.filterMap_cons, parseMention_eq_none (by simp)]
      simp

/-- A mention behind a greeting is found. -/
theorem greeting_mentions
    : Uuid.ofNat 10 ∈ extractMentionIds ("hello "
        ++ String.ofList ('<' :: '@' :: "00000000-0000-0000-0000-00000000000A".toList ++ ['>'])
        ++ " & all") .user :=
  (written_mem_extractMentionIds_iff (by decide +kernel : Uuid.parseStr
    "00000000-0000-0000-0000-00000000000A" = some (Uuid.ofNat 10))
    (by decide +kernel) "hello " " & all").mpr (.inl (by decide +kernel))

/-- A mention behind an open "<@" is not. -/
theorem openMention_hides
    : Uuid.ofNat 10 ∉ extractMentionIds ("mail me <@ "
        ++ String.ofList ('<' :: '@' :: "00000000-0000-0000-0000-00000000000a".toList ++ ['>'])
        ++ "") .user := by
  decide +kernel

end OpenCord.Compat
