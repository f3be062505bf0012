import StateRelay.Proofs.Entry.Codec
import StateRelay.Proofs.Json.Agreement
import StateRelay.Proofs.Json.Ends

/-!
This module contains where an entry ends. It is read up to its last byte and no further, so that
nothing is read from a part of it.
-/

namespace StateRelay

open Ascii Json.Decoder
open Json.Token (skipBlanks)
open Json.Skip (Passes)

/-! ### Where reading stops -/

theorem agrees_keyDecoder (depth : Nat) : Agrees (keyDecoder depth) := by
  intro s key rest h
  obtain ⟨⟨text, after⟩, hread, h⟩ := Json.exists_of_bind_eq_ok h
  have hpasses := agrees_text depth s text after hread
  dsimp only at h
  split at h
  . rw [← Json.eq_rest_of_ok_eq_ok h]
    exact hpasses
  . contradiction

namespace Entry

theorem agrees_field (depth : Nat) (d : Draft)
    : ∀ field ∈ fields, Agrees (field.read d depth) := by
  unfold fields
  simp only [List.forall_mem_cons, Record.Field.mandatory, Record.Field.optional]
  refine ⟨?_, ?_, ?_, ?_, ?_, ?_, ?_, by simp⟩
  . exact (agrees_enumeration _ depth).map _
  . exact ((agrees_integer _ _ _ depth).map _).map _
  . exact (agrees_keyDecoder depth).map _
  . exact (agrees_anyValue depth).map _
  . exact (agrees_anyValue depth).optional.map _
  . exact (agrees_bool depth).map _
  . exact ((agrees_integer _ _ _ depth).map _).map _

theorem agreesMember_member (depth : Nat) : AgreesMember (record.member depth) := by
  apply agreesMember_record
  intro field hfield d
  exact agrees_field depth d field hfield

theorem passes_of_decoder {depth : Nat} {s rest : Bytes} {e : Entry}
    (h : decoder depth (openBrace :: s) = .ok (e, rest))
    : Passes none (openBrace :: s) rest := by
  have hblanks : skipBlanks (openBrace :: s) = openBrace :: s :=
    Json.Token.skipBlanks_of_not_blank (by decide) s
  rw [decoder, Record.decoder, hblanks] at h
  dsimp only at h
  rw [if_neg (by decide), if_pos rfl] at h
  cases depth with
  | zero => contradiction
  | succ depth =>
    obtain ⟨⟨draft, last⟩, hmembers, h⟩ := Json.exists_of_bind_eq_ok h
    obtain ⟨_, _, h⟩ := Json.exists_of_bind_eq_ok h
    obtain ⟨after, hend, h⟩ := Json.exists_of_bind_eq_ok h
    rw [← Json.eq_rest_of_ok_eq_ok h]
    exact (agreesMember_member depth).members hblanks hmembers hend

/-! ### Where an entry ends -/

/-- The members that an entry is written with. -/
def members (e : Entry) : List (String × Bytes) :=
  [("OperationType", e.operation.encode),
    ("EncoderType", digitsOfNat e.payloadType.toNat),
    ("KeyBytes", encodeKey e.key),
    ("Encoder", e.payload.encode)] ++
  (match e.prior with
    | some prior => [("AncestralRecord", prior.encode)]
    | none => []) ++
  [("IsReverted", Json.encodeBool e.reverted),
    ("BlockHeight", digitsOfNat e.height.toNat)]

theorem encode_eq (e : Entry) : e.encode = Json.encodeRecord e.members := by
  rfl

/-- The members are strings, numbers, records and a truth value. -/
theorem forall_members {P : Bytes → Prop} (string : ∀ s, P (Json.encodeString s))
    (nat : ∀ n, P (digitsOfNat n)) (bool : ∀ b, P (Json.encodeBool b))
    (value : ∀ v : Json, P v.encode) (e : Entry)
    : ∀ m ∈ e.members, P m.2 := by
  unfold members
  rw [List.forall_mem_append, List.forall_mem_append]
  refine ⟨⟨?_, ?_⟩, ?_⟩
  . obtain ⟨s, hkey, _⟩ := exists_encodeKey e.key
    simp only [List.forall_mem_cons, List.not_mem_nil, false_implies, implies_true, and_true]
    refine ⟨string _, nat _, ?_, value _⟩
    rw [hkey]
    exact string s
  . cases e.prior with
    | none => simp
    | some prior =>
      rw [List.forall_mem_singleton]
      exact value prior
  . simp only [List.forall_mem_cons, List.not_mem_nil, false_implies, implies_true, and_true]
    exact ⟨bool _, nat _⟩

theorem endsAt_encode (e : Entry) : Json.EndsAt e.encode := by
  rw [encode_eq]
  apply Json.endsAt_encodeRecord
  apply forall_members
  . intro s
    exact (Json.Value.string (Json.Token.spells_encodeString s).quoted).endsAt
  . intro n
    exact (Json.value_digitsOfInt n).endsAt
  . intro b
    exact (Json.encoded_encode (.bool b)).endsAt
  . intro v
    exact (Json.encoded_encode v).endsAt

theorem printed_encode (e : Entry) : Bytes.Printed e.encode := by
  rw [encode_eq]
  apply Json.printed_encodeRecord
  exact forall_members Json.printed_encodeString Json.printed_digitsOfNat Json.printed_encodeBool
    (fun v => (Json.encoded_encode v).printed) e

/-- Nothing is read from an entry that has lost bytes at its end. -/
theorem exists_error_of_cut {e : Entry} {kept lost : Bytes} (hkept : kept ≠ []) (hlost : lost ≠ [])
    (h : e.encode = kept ++ lost)
    : ∃ error, decode kept = .error error := by
  obtain ⟨b, kept, rfl⟩ := List.exists_cons_of_ne_nil hkept
  have hbrace : b = openBrace := by
    injection h with hb _
    exact hb.symm
  subst hbrace
  cases hdecode : decode (openBrace :: kept) with
  | error error => exact ⟨error, rfl⟩
  | ok read =>
    -- The whole entry would be passed over no further than what is left of it.
    obtain ⟨⟨_, rest⟩, hread, _⟩ := Json.exists_of_bind_eq_ok hdecode
    have hpasses := (passes_of_decoder hread).append (fun _ _ => ⟨kept, rfl⟩) lost
    rw [← h, ← List.append_nil e.encode] at hpasses
    have hend := e.endsAt_encode [] _ Json.Token.stops_nil hpasses
    rw [List.append_eq_nil_iff] at hend
    exact absurd hend.2 hlost

end Entry

end StateRelay
