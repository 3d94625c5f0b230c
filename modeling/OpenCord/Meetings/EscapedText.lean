import OpenCord.Library.Escapes
import OpenCord.Meetings.InviteLines

/-! The texts in a calendar invite. The replacements that escape a text work on the output of
one another; together they are one escape of the text with plain line feeds, which a reader of
the invite undoes.
-/

namespace OpenCord.Meetings.Invite

open OpenCord.Library OpenCord.Library.ContentLines

/-- How a value of the type TEXT is escaped. -/
def textEscapes : Escapes where
  mark := '\\'
  entries := [('\\', '\\'), (';', ';'), (',', ','), ('\n', 'n')]
  mark_mem := by decide
  letters_nodup := by decide

/-- The characters with one line feed for each pair of a carriage return and a line feed, and
for each of the two characters outside of such pairs.
-/
def unixLines : List Char → List Char
  | [] => []
  | [character] => [if character = '\r' then '\n' else character]
  | character :: next :: rest =>
      if character = '\r' then
        if next = '\n' then '\n' :: unixLines rest else '\n' :: unixLines (next :: rest)
      else
        character :: unixLines (next :: rest)

def unescapeText (text : String) : String := String.ofList (textEscapes.unescape text.toList)

def withUnixLines (text : String) : String := String.ofList (unixLines text.toList)

-----------------------------------------------------------------------------------------
-- Line ends
-----------------------------------------------------------------------------------------

theorem unixLines_crLf (rest : List Char)
    : unixLines ('\r' :: '\n' :: rest) = '\n' :: unixLines rest := by
  simp [unixLines]

theorem unixLines_return {rest : List Char} (alone : rest.head? ≠ some '\n')
    : unixLines ('\r' :: rest) = '\n' :: unixLines rest := by
  cases rest with
  | nil => rfl
  | cons next rest =>
      have other : next ≠ '\n' := by simpa using alone
      simp [unixLines, other]

theorem unixLines_cons {character : Char} (other : character ≠ '\r') (rest : List Char)
    : unixLines (character :: rest) = character :: unixLines rest := by
  cases rest with
  | nil => simp [unixLines, other]
  | cons next rest => simp [unixLines, other]

theorem unixLines_append {first : List Char} (noReturn : '\r' ∉ first) (rest : List Char)
    : unixLines (first ++ rest) = first ++ unixLines rest := by
  induction first with
  | nil => rfl
  | cons character first ih =>
      obtain ⟨other, noReturn⟩ := not_or.mp (List.mem_cons.not.mp noReturn)
      rw [List.cons_append, unixLines_cons (Ne.symm other), ih noReturn, List.cons_append]

-----------------------------------------------------------------------------------------
-- The replacements together
-----------------------------------------------------------------------------------------

/-- What the first three replacements make of a character. -/
def escapeSeparator (character : Char) : List Char :=
  if character ∈ ['\\', ';', ','] then ['\\', character] else [character]

/-- What the last replacement makes of a character. -/
def escapeLineEnd (character : Char) : List Char :=
  if character ∈ ['\n', '\r'] then ['\\', 'n'] else [character]

theorem toList_replaceChars (replaced : List Char) (replacement text : String)
    : (replaceChars replaced replacement text).toList
        = text.toList.flatMap fun character =>
            if character ∈ replaced then replacement.toList else [character] :=
  String.toList_ofList

/-- Backslashes come first, so that those of the other replacements are not doubled. -/
theorem toList_replaceSeparators (value : String)
    : (replaceChars [','] "\\," (replaceChars [';'] "\\;"
        (replaceChars ['\\'] "\\\\" value))).toList = value.toList.flatMap escapeSeparator := by
  rw [toList_replaceChars, toList_replaceChars, toList_replaceChars, List.flatMap_assoc,
    List.flatMap_assoc]
  refine List.flatMap_congr fun character _ => ?_
  by_cases backslash : character = '\\'
  · subst backslash
    decide
  by_cases semicolon : character = ';'
  · subst semicolon
    decide
  by_cases comma : character = ','
  · subst comma
    decide
  simp [escapeSeparator, backslash, semicolon, comma]

/-- Line ends are escaped as plain line feeds, by induction over the parts of the text. -/
theorem replaceLineEnds (characters : List Char)
    : (['\\', 'n'].intercalate (splitCrLf characters)).flatMap escapeLineEnd
        = (unixLines characters).flatMap escapeLineEnd := by
  fun_induction splitCrLf characters with
  | case1 => rfl
  | case2 character =>
      by_cases isReturn : character = '\r'
      · subst isReturn
        decide
      · simp [unixLines, isReturn]
  | case3 character next rest ends ih =>
      obtain ⟨rfl, rfl⟩ := ends
      rw [List.intercalate_cons_of_ne_nil (splitCrLf_ne_nil rest), unixLines_crLf,
        List.flatMap_append, ih]
      rfl
  | case4 character next rest _ none => exact absurd none (splitCrLf_ne_nil _)
  | case5 character next rest notEnd part parts shape ih =>
      rw [List.intercalate_cons_cons_left, ← shape, List.flatMap_cons, ih]
      by_cases isReturn : character = '\r'
      · subst isReturn
        have alone : next ≠ '\n' := fun isFeed => notEnd ⟨rfl, isFeed⟩
        rw [unixLines_return (by simpa using alone), List.flatMap_cons]
        rfl
      · rw [unixLines_cons isReturn, List.flatMap_cons]

/-- Escaped separators are no line ends. -/
theorem return_notMem_escapeSeparator {character : Char} (other : character ≠ '\r')
    : '\r' ∉ escapeSeparator character := by
  rw [escapeSeparator]
  split
  · simp [other.symm]
  · simp [other.symm]

theorem head?_escapeSeparators {characters : List Char} (other : characters.head? ≠ some '\n')
    : (characters.flatMap escapeSeparator).head? ≠ some '\n' := by
  cases characters with
  | nil => simp
  | cons character rest =>
      rw [List.flatMap_cons, escapeSeparator]
      split
      · simp
      · simpa using other

/-- Separators can be escaped before or after the line ends are made plain, by induction over
the text.
-/
theorem unixLines_escapeSeparators (characters : List Char)
    : unixLines (characters.flatMap escapeSeparator)
        = (unixLines characters).flatMap escapeSeparator := by
  fun_induction unixLines characters with
  | case1 => rfl
  | case2 character =>
      by_cases isReturn : character = '\r'
      · subst isReturn
        decide
      · rw [if_neg isReturn, List.flatMap_singleton,
          ← List.append_nil (escapeSeparator character),
          unixLines_append (return_notMem_escapeSeparator isReturn)]
        rfl
  | case3 rest ih =>
      rw [List.flatMap_cons, List.flatMap_cons, List.flatMap_cons, ← ih]
      exact unixLines_crLf _
  | case4 next rest notFeed ih =>
      show _ = escapeSeparator '\n' ++ (unixLines (next :: rest)).flatMap escapeSeparator
      rw [← ih]
      exact unixLines_return (head?_escapeSeparators (by simpa using notFeed))
  | case5 character next rest notReturn ih =>
      show _ = escapeSeparator character ++ (unixLines (next :: rest)).flatMap escapeSeparator
      rw [← ih]
      exact unixLines_append (return_notMem_escapeSeparator notReturn) _

theorem escapeSeparator_escapeLineEnd {character : Char} (other : character ≠ '\r')
    : (escapeSeparator character).flatMap escapeLineEnd
        = textEscapes.escapeCharacter character := by
  by_cases separator : character ∈ ['\\', ';', ',']
  · have each : ∀ separator ∈ ['\\', ';', ','],
        (escapeSeparator separator).flatMap escapeLineEnd
          = textEscapes.escapeCharacter separator :=
      List.all_iff_forall_prop.mp (by decide)
    exact each character separator
  · by_cases isFeed : character = '\n'
    · subst isFeed
      decide
    · simp only [List.mem_cons, List.not_mem_nil, or_false, not_or] at separator
      obtain ⟨backslash, semicolon, comma⟩ := separator
      have plain : textEscapes.letter? character = none := by
        rw [Escapes.letter?, Option.map_eq_none_iff, List.find?_eq_none]
        simpa [textEscapes] using
          ⟨Ne.symm backslash, Ne.symm semicolon, Ne.symm comma, Ne.symm isFeed⟩
      rw [Escapes.escapeCharacter, plain]
      simp [escapeSeparator, escapeLineEnd, other, isFeed, backslash, semicolon, comma]

theorem return_notMem_unixLines (characters : List Char) : '\r' ∉ unixLines characters := by
  fun_induction unixLines characters with
  | case1 => simp
  | case2 character =>
      split
      · simp
      · next other => simpa using Ne.symm other
  | case3 rest ih => simpa using ih
  | case4 next rest notFeed ih => simpa using ih
  | case5 character next rest notReturn ih =>
      rw [List.mem_cons, not_or]
      exact ⟨Ne.symm notReturn, ih⟩

/-- The five replacements are one escape of the text with plain line feeds. -/
theorem toList_escapeText (value : String)
    : (escapeText value).toList = textEscapes.escape (unixLines value.toList) := by
  have unfolded : (escapeText value).toList
      = (['\\', 'n'].intercalate (splitCrLf (value.toList.flatMap escapeSeparator))).flatMap
          escapeLineEnd := by
    have lineEnd : "\\n".toList = ['\\', 'n'] := by decide
    simp only [escapeText, toList_replaceChars ['\n', '\r'], replaceCrLf, String.toList_ofList,
      toList_replaceSeparators, lineEnd]
    rfl
  rw [unfolded, replaceLineEnds, unixLines_escapeSeparators, List.flatMap_assoc, Escapes.escape]
  refine List.flatMap_congr fun character mem => ?_
  exact escapeSeparator_escapeLineEnd fun isReturn =>
    return_notMem_unixLines value.toList (isReturn ▸ mem)

/-- A reader gets the text with plain line feeds back. In the escaped text are no line ends,
and every semicolon and comma stands behind the backslash that escapes it.
-/
theorem escapeText_lossless (value : String)
    : unescapeText (escapeText value) = withUnixLines value
        ∧ OneLine (escapeText value).toList
        ∧ textEscapes.Guarded (escapeText value).toList [';', ','] := by
  refine ⟨?_, oneLine_escapeText value, ?_⟩
  · rw [unescapeText, toList_escapeText, Escapes.unescape_escape]
    rfl
  · rw [toList_escapeText]
    exact Escapes.guarded_escape (List.all_iff_forall_prop.mp (by decide)) (by decide) _

example : escapeText "Agenda; a\\b,\r\nc\rd\n" = "Agenda\\; a\\\\b\\,\\nc\\nd\\n" := by
  decide

end OpenCord.Meetings.Invite
