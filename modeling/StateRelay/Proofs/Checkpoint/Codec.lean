import StateRelay.Checkpoint.Basic
import StateRelay.Proofs.Json.Collection

/-!
This module contains the file of a checkpoint: what is written into it is read back as the same
checkpoint, whatever its consumer is called.
-/

namespace StateRelay
namespace Checkpoint

open Ascii
open Json.Decoder

theorem reads_space {decoder : Json.Decoder α} {depth : Nat} {written : Bytes} {a : α}
    (hskip : ∀ s, decoder depth (space :: s) = decoder depth s)
    (h : Reads (decoder depth) written a)
    : Reads (decoder depth) (space :: written) a := by
  intro rest hrest
  rw [List.cons_append, hskip]
  exact h rest hrest

theorem reads_encodeIndented (depth : Nat) (c : Checkpoint)
    : Reads (decoder (depth + 1)) c.encodeIndented c := by
  obtain ⟨consumer, entryIndex, height, updatedAt⟩ := c
  have hconsumer := reads_space (fun _ => rfl) (reads_text depth (Json.Token.spells_encodeString consumer))
  have hindex := reads_space (fun _ => rfl) (reads_word64 depth entryIndex)
  have hheight := reads_space (fun _ => rfl) (reads_word64 depth height)
  have hupdated := reads_space (fun _ => rfl) (reads_signed64 depth updatedAt)
  unfold decoder encodeIndented
  apply reads_record_indented
  . apply Folds.cons (reads_member record rfl rfl hconsumer)
    apply Folds.cons (reads_member record rfl rfl hindex)
    apply Folds.cons (reads_member record rfl rfl hheight)
    apply Folds.cons (reads_member record rfl rfl hupdated)
    apply Folds.nil
  . rfl

theorem decode_encodeIndented (c : Checkpoint) : decode c.encodeIndented = .ok c := by
  apply Reads.run
  apply reads_encodeIndented

end Checkpoint
end StateRelay
