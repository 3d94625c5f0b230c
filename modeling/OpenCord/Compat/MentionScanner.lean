import OpenCord.Compat.Mentions
import OpenCord.Library.ByteSlices

/-! The scan of a text for mentions: the loop over byte offsets finds the tokens of the text, and
a written mention is found unless an earlier "<@" is still open where it starts.
-/

namespace OpenCord.Compat

open OpenCord.Library OpenCord.Library.ByteSlices OpenCord.Platform

/-- The loop over what remains of a text. It has no result where a slice would cut a character,
or where it goes round more often than the fuel says.
-/
def scanMentions (kind : MentionKind) : Nat → List Char → List Uuid → Option (List Uuid)
  | 0, _, _ => none
  | fuel + 1, remaining, ids =>
      match findText ['<', '@'] remaining with
      | none => some ids
      | some start => do
          let mention ← dropBytes (start + 2) remaining
          match findText ['>'] mention with
          | none => some ids
          | some stop => do
              let token ← takeBytes stop mention
              let remaining ← dropBytes (stop + 1) mention
              scanMentions kind fuel remaining (ids ++ (parseMention kind token).toList)

/-- The tokens of a text are read from its first "<@" on, by induction over the text. -/
theorem findText_open (text : List Char)
    : findText ['<', '@'] text = none ∧ mentionTokens none text = []
      ∨ ∃ before after, text = before ++ '<' :: '@' :: after
          ∧ findText ['<', '@'] text = some (byteLength before)
          ∧ mentionTokens none text = mentionTokens (some []) after := by
  induction text with
  | nil => exact .inl ⟨rfl, rfl⟩
  | cons first rest ih =>
      by_cases opens : ['<', '@'] <+: first :: rest
      · obtain ⟨after, same⟩ := opens
        obtain ⟨rfl, rfl⟩ := List.cons.inj same
        exact .inr ⟨[], after, rfl, by rw [findText, if_pos ⟨after, rfl⟩, byteLength], rfl⟩
      · have tokens : mentionTokens none (first :: rest) = mentionTokens none rest := by
          rw [mentionTokens]
          rintro more rfl rfl
          exact opens ⟨more, rfl⟩
        rw [findText, if_neg opens, tokens]
        obtain ⟨missing, none⟩ | ⟨before, after, rfl, found, same⟩ := ih
        · exact .inl ⟨by rw [missing, Option.map_none], none⟩
        · exact .inr ⟨first :: before, after, rfl, by rw [found]; rfl, same⟩

/-- A token is read up to the next ">", by induction over the text. -/
theorem findText_close (token mention : List Char)
    : findText ['>'] mention = none ∧ mentionTokens (some token) mention = []
      ∨ ∃ more rest, mention = more ++ '>' :: rest
          ∧ findText ['>'] mention = some (byteLength more)
          ∧ mentionTokens (some token) mention
            = (token ++ more) :: mentionTokens none rest := by
  induction mention generalizing token with
  | nil => exact .inl ⟨rfl, rfl⟩
  | cons first rest ih =>
      by_cases closes : ['>'] <+: first :: rest
      · obtain ⟨after, same⟩ := closes
        obtain ⟨rfl, rfl⟩ := List.cons.inj same
        refine .inr ⟨[], after, rfl, by rw [findText, if_pos ⟨after, rfl⟩, byteLength], ?_⟩
        rw [List.append_nil]
        rfl
      · have tokens : mentionTokens (some token) (first :: rest)
            = mentionTokens (some (token ++ [first])) rest := by
          rw [mentionTokens]
          rintro rfl
          exact closes ⟨rest, rfl⟩
        rw [findText, if_neg closes, tokens]
        obtain ⟨missing, none⟩ | ⟨more, last, rfl, found, same⟩ := ih (token ++ [first])
        · exact .inl ⟨by rw [missing, Option.map_none], none⟩
        · refine .inr ⟨first :: more, last, rfl, by rw [found]; rfl, ?_⟩
          rw [same, List.append_assoc, List.singleton_append]

/-- The loop ends with the mentions of the text, and no slice cuts a character; by induction over
the fuel, which the text outlasts.
-/
theorem scanMentions_eq {kind : MentionKind} {fuel : Nat} {remaining : List Char}
    (enough : remaining.length < fuel) (ids : List Uuid)
    : scanMentions kind fuel remaining ids
      = some (ids ++ (mentionTokens none remaining).filterMap (parseMention kind)) := by
  induction fuel generalizing remaining ids with
  | zero => exact absurd enough (Nat.not_lt_zero _)
  | succ fuel ih =>
      rw [scanMentions]
      obtain ⟨missing, none⟩ | ⟨before, mention, rfl, found, opened⟩ := findText_open remaining
      · simp only [missing, none, List.filterMap_nil, List.append_nil]
      · have skipped : dropBytes (byteLength before + 2) (before ++ '<' :: '@' :: mention)
            = some mention := by
          have part := dropBytes_append (before ++ ['<', '@']) mention
          rw [byteLength_append, List.append_assoc] at part
          exact part
        simp only [found, opened, skipped, Option.bind_eq_bind, Option.bind_some]
        obtain ⟨missing, none⟩ | ⟨token, rest, rfl, closed, tokens⟩ := findText_close [] mention
        · simp only [missing, none, List.filterMap_nil, List.append_nil]
        · have read : takeBytes (byteLength token) (token ++ '>' :: rest) = some token :=
            takeBytes_append token ('>' :: rest)
          have skipped : dropBytes (byteLength token + 1) (token ++ '>' :: rest) = some rest := by
            have part := dropBytes_append (token ++ ['>']) rest
            rw [byteLength_append, List.append_assoc] at part
            exact part
          have shorter : rest.length < fuel := by
            simp only [List.length_append, List.length_cons] at enough
            omega
          simp only [closed, read, skipped, Option.bind_some]
          rw [ih shorter, tokens, List.nil_append, List.filterMap_cons, List.append_assoc]
          cases parseMention kind token <;> rfl

end OpenCord.Compat
