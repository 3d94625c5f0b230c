import OpenCord.Server.Footprints

/-! The requests outside of conversations leave alone the messages, and the events that tell of
messages.
-/

namespace OpenCord.Server

open OpenCord.Library OpenCord.Auth OpenCord.Realtime

/-- A state after writes that no reader of messages notices. -/
structure AppState.Quiet (before after : AppState) : Prop where
  messages : after.messages = before.messages
  published : ∃ events, after.published = before.published ++ events
    ∧ ∀ event ∈ events, ¬ event.IsMessage
  commands : before.commands.Keyed → after.commands.Keyed

namespace AppState.Quiet

variable {before after : AppState}

/-- Writes to other stores are not noticed. -/
theorem elsewhere (messages : after.messages = before.messages)
    (published : after.published = before.published)
    (commands : after.commands = before.commands)
    : before.Quiet after :=
  ⟨messages, ⟨[], by rw [published, List.append_nil], nofun⟩, fun keyed => commands ▸ keyed⟩

instance : Std.Refl AppState.Quiet := ⟨fun _ => elsewhere rfl rfl rfl⟩

instance : IsTrans AppState AppState.Quiet where
  trans first middle last := by
    rintro ⟨messages, ⟨events, published, quiet⟩, commands⟩
      ⟨otherMessages, ⟨others, otherPublished, otherQuiet⟩, otherCommands⟩
    refine ⟨otherMessages.trans messages, ⟨events ++ others, ?_, fun event sent => ?_⟩,
      otherCommands ∘ commands⟩
    · rw [otherPublished, published, List.append_assoc]
    · exact (List.mem_append.mp sent).elim (quiet event) (otherQuiet event)

instance : IsPreorder AppState AppState.Quiet where

/-- Only writes to the stored messages are noticed. -/
theorem tolerates {part : StatePart} (other : part ≠ .messages)
    : Tolerates AppState.Quiet part := by
  cases part with
  | messages => exact absurd rfl other
  | commands => exact fun _ _ keyed => ⟨rfl, ⟨[], (List.append_nil _).symm, nofun⟩, keyed⟩
  | published =>
      intro state event idle
      refine ⟨rfl, ⟨[event], rfl, fun sent listed => ?_⟩, id⟩
      exact (List.mem_singleton.mp listed) ▸ idle
  | _ => exact fun _ _ => elsewhere rfl rfl rfl

end AppState.Quiet

/-- A request for anything else than messages does not write messages. -/
theorem AppRequest.messages_notMem_footprint {request : AppRequest}
    (besides : request.BesidesMessages)
    : StatePart.messages ∉ request.footprint := by
  cases request with
  | storeMessage => exact fun _ => besides
  | _ => simp [footprint]

theorem AppRequest.perform_quiet {crypto : Crypto} {request : AppRequest}
    (besides : request.BesidesMessages) (state : AppState)
    : state.Quiet (request.perform crypto state) :=
  perform_within besides (fun _ written => AppState.Quiet.tolerates fun same =>
    messages_notMem_footprint besides (same ▸ written)) state

end OpenCord.Server
