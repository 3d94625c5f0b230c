import Mathlib.Data.List.Infix
import OpenCord.Platform.Json
import OpenCord.Platform.Uuid

/-! Mentions in the messages of bots: whom a text mentions, and which mentions a request allows.
-/

namespace OpenCord.Compat

open OpenCord.Platform

-----------------------------------------------------------------------------------------
-- What a text mentions
-----------------------------------------------------------------------------------------

inductive MentionKind where
  | user
  | role
  deriving DecidableEq

/-- The tokens between "<@" and the next ">". The first argument is the part of a token that has
been read; a token without an end is dropped.
-/
def mentionTokens : Option (List Char) → List Char → List (List Char)
  | _, [] => []
  | none, '<' :: '@' :: rest => mentionTokens (some []) rest
  | none, _ :: rest => mentionTokens none rest
  | some token, '>' :: rest => token :: mentionTokens none rest
  | some token, character :: rest => mentionTokens (some (token ++ [character])) rest

def stripChar (character : Char) : List Char → Option (List Char)
  | [] => none
  | first :: rest => if first = character then some rest else none

/-- The identifier of a token of the given kind. -/
def parseMention (kind : MentionKind) (token : List Char) : Option Uuid :=
  match kind with
  | .user =>
      let userId := (stripChar '!' token).getD token
      match stripChar '&' userId with
      | some _ => none
      | none => Uuid.parseStr (String.ofList userId)
  | .role => (stripChar '&' token).bind fun roleId => Uuid.parseStr (String.ofList roleId)

def extractMentionIds (content : String) (kind : MentionKind) : List Uuid :=
  (mentionTokens none content.toList).filterMap (parseMention kind)

def hasEveryoneMention (content : String) : Bool :=
  "@everyone".toList <:+: content.toList ∨ "@here".toList <:+: content.toList

-----------------------------------------------------------------------------------------
-- What a request allows
-----------------------------------------------------------------------------------------

structure AllowedMentionPolicy where
  parseUsers : Bool
  parseRoles : Bool
  parseEveryone : Bool
  explicitUserIds : List Uuid
  explicitRoleIds : List Uuid

namespace AllowedMentionPolicy

def allowsUser (policy : AllowedMentionPolicy) (userId : Uuid) : Bool :=
  policy.parseUsers || policy.explicitUserIds.contains userId

def allowsRole (policy : AllowedMentionPolicy) (roleId : Uuid) : Bool :=
  policy.parseRoles || policy.explicitRoleIds.contains roleId

end AllowedMentionPolicy

/-- The texts of an array, if there is one. -/
def arrayTexts (value : Option Json) : List String :=
  ((value.bind Json.asArray).getD []).filterMap Json.asStr

def uuidSetFromJsonArray (value : Option Json) : List Uuid :=
  (arrayTexts value).filterMap Uuid.parseStr

/-- Without a policy in the request everything may be mentioned. -/
def allowedMentionPolicy (allowedMentions : Option Json) : AllowedMentionPolicy :=
  match allowedMentions with
  | none => ⟨true, true, true, [], []⟩
  | some allowedMentions =>
      let parseValues := arrayTexts (allowedMentions.get "parse")
      ⟨parseValues.contains "users", parseValues.contains "roles", parseValues.contains "everyone",
        uuidSetFromJsonArray (allowedMentions.get "users"),
        uuidSetFromJsonArray (allowedMentions.get "roles")⟩

-----------------------------------------------------------------------------------------
-- Mentions are written in the text
-----------------------------------------------------------------------------------------

/-- A token is what stands between "<@" and ">", or what has been read of it and the rest up to
the next ">"; by induction over the text.
-/
theorem mem_mentionTokens {read : Option (List Char)} {token characters : List Char}
    (listed : token ∈ mentionTokens read characters)
    : '<' :: '@' :: token ++ ['>'] <:+: characters
      ∨ ∃ start rest last, read = some start ∧ token = start ++ rest
          ∧ characters = rest ++ '>' :: last := by
  induction read, characters using mentionTokens.induct with
  | case1 read =>
      rw [mentionTokens] at listed
      cases listed
  | case2 rest ih =>
      rw [mentionTokens] at listed
      rcases ih listed with inside | ⟨start, more, last, read, same, found⟩
      · exact .inl ((inside.trans (List.suffix_cons _ _).isInfix).trans
          (List.suffix_cons _ _).isInfix)
      · cases read
        rw [List.nil_append] at same
        subst same
        refine .inl ⟨[], last, ?_⟩
        simp [found]
  | case3 first rest noMention ih =>
      rw [mentionTokens] at listed
      · rcases ih listed with inside | ⟨_, _, _, read, _⟩
        · exact .inl (inside.trans (List.suffix_cons _ _).isInfix)
        · cases read
      · exact noMention
  | case4 start rest ih =>
      rw [mentionTokens, List.mem_cons] at listed
      rcases listed with rfl | listed
      · exact .inr ⟨token, [], rest, rfl, (List.append_nil _).symm, rfl⟩
      · rcases ih listed with inside | ⟨_, _, _, read, _⟩
        · exact .inl (inside.trans (List.suffix_cons _ _).isInfix)
        · cases read
  | case5 start character rest other ih =>
      rw [mentionTokens] at listed
      · rcases ih listed with inside | ⟨longer, more, last, read, same, found⟩
        · exact .inl (inside.trans (List.suffix_cons _ _).isInfix)
        · cases read
          refine .inr ⟨start, character :: more, last, rfl, ?_, ?_⟩
          · rw [same, List.append_assoc]
            rfl
          · rw [found]
            rfl
      · exact other

/-- Whom a text mentions is written in it. -/
theorem mem_extractMentionIds {content : String} {kind : MentionKind} {id : Uuid}
    (mentioned : id ∈ extractMentionIds content kind)
    : ∃ token, '<' :: '@' :: token ++ ['>'] <:+: content.toList
        ∧ parseMention kind token = some id := by
  obtain ⟨token, listed, parsed⟩ := List.mem_filterMap.mp mentioned
  rcases mem_mentionTokens listed with inside | ⟨_, _, _, read, _⟩
  · exact ⟨token, inside, parsed⟩
  · cases read

/-- A role is never read as a user. -/
theorem parseMention_user_eq_none {token : List Char} {roleId : Uuid}
    (parsed : parseMention .role token = some roleId)
    : parseMention .user token = none := by
  obtain ⟨rest, stripped, _⟩ := Option.bind_eq_some_iff.mp parsed
  cases token with
  | nil => cases stripped
  | cons first rest =>
      rw [stripChar] at stripped
      split at stripped
      · next same =>
          subst same
          rfl
      · cases stripped

end OpenCord.Compat
