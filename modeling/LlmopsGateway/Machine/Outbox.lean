import Mathlib.Data.List.Nodup
import Mathlib.Data.List.Perm.Basic

/-! # Messages that are delivered at least once

A message stays in the outbox and is delivered any number of times, in any order. A receiver that takes one
message for each key, and lets the others go, has applied messages that were sent, no two with one key, and
one for the key of each message whose delivery has come back. If no two messages share a key and all have
come back, it has applied exactly what was sent.
-/

namespace LlmopsGateway.Machine

variable {μ κ : Type*}

/-- The messages sent, applied by the receiver, and settled: their delivery has come back. -/
structure Outbox (μ : Type*) where
  sent : List μ := []
  applied : List μ := []
  settled : List μ := []

namespace Outbox

variable {key : μ → κ} {outbox : Outbox μ} {message : μ}

structure Sound (key : μ → κ) (outbox : Outbox μ) : Prop where
  genuine : ∀ message ∈ outbox.applied, message ∈ outbox.sent
  once : (outbox.applied.map key).Nodup
  known : ∀ message ∈ outbox.settled, key message ∈ outbox.applied.map key

theorem Sound.initial : Sound key ({} : Outbox μ) :=
  ⟨fun _ member => member, List.nodup_nil, fun _ member => absurd member List.not_mem_nil⟩

theorem Sound.send (sound : Sound key outbox) (messages : List μ) :
    Sound key { outbox with sent := outbox.sent ++ messages } :=
  { sound with genuine := fun message member => List.mem_append_left _ (sound.genuine message member) }

/-- A key that is not known yet. -/
theorem Sound.apply (sound : Sound key outbox) (sent : message ∈ outbox.sent)
    (fresh : key message ∉ outbox.applied.map key) :
    Sound key { outbox with applied := outbox.applied ++ [message], settled := message :: outbox.settled } where
  genuine := by
    intro other member
    rcases List.mem_append.mp member with earlier | last
    · exact sound.genuine other earlier
    · rw [List.mem_singleton.mp last]
      exact sent
  once := by
    rw [List.map_append, List.map_singleton, List.nodup_append_comm]
    exact List.nodup_cons.mpr ⟨fresh, sound.once⟩
  known := by
    rw [List.map_append]
    intro other member
    rcases List.mem_cons.mp member with rfl | earlier
    · exact List.mem_append_right _ (List.mem_singleton_self _)
    · exact List.mem_append_left _ (sound.known other earlier)

/-- A key that is. -/
theorem Sound.repeated (sound : Sound key outbox) (known : key message ∈ outbox.applied.map key) :
    Sound key { outbox with settled := message :: outbox.settled } :=
  { sound with known := List.forall_mem_cons.mpr ⟨known, sound.known⟩ }

theorem Sound.perm (sound : Sound key outbox) (apart : (outbox.sent.map key).Nodup)
    (settled : ∀ message ∈ outbox.sent, message ∈ outbox.settled) : outbox.applied.Perm outbox.sent := by
  refine (List.perm_ext_iff_of_nodup sound.once.of_map apart.of_map).mpr fun message =>
    ⟨sound.genuine message, fun sent => ?_⟩
  obtain ⟨other, applied, same⟩ := List.mem_map.mp (sound.known message (settled message sent))
  have unique := List.inj_on_of_nodup_map apart (sound.genuine other applied) sent same
  exact unique ▸ applied

end Outbox

end LlmopsGateway.Machine
