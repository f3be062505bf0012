import StateRelay.Proofs.Entry.Ends
import StateRelay.Proofs.Json.Record

/-!
This module contains the spellings of an entry: its fields may come in any order and among members
of other names, a key has digits of either case, and what is not there or not so may be left out.
All of them are read as the entry; a field that comes twice is an error.
-/

namespace StateRelay

open Ascii Json.Decoder
open Json (Spaced Value Member Padded)
open Json.Token (Spells)

/-! ### Keys -/

namespace Hex

/-- The digit in lower case. -/
def lower (b : UInt8) : UInt8 :=
  if 65 ≤ b ∧ b ≤ 70 then b + 32 else b

theorem digitValue?_lower (b : UInt8) : digitValue? (lower b) = digitValue? b := by
  have hupper : ∀ b < 71, digitValue? (lower b) = digitValue? b := by
    apply Bytes.forall_lt
    decide
  by_cases hb : b < 71
  . exact hupper b hb
  . have hb' : ¬ (65 ≤ b ∧ b ≤ 70) := by
      rintro ⟨_, hle⟩
      exact hb (UInt8.lt_of_le_of_lt hle (by decide))
    rw [lower, if_neg hb']

theorem digitValue?_of_lower {b n : UInt8} (hn : n < 16) (h : lower b = digit n)
    : digitValue? b = some n := by
  rw [← digitValue?_lower, h, digitValue?_digit hn]

theorem pairs_of_lower (index : Nat) {digits bs : Bytes} (h : digits.map lower = encode bs)
    : decode.pairs index digits = .ok bs := by
  induction bs generalizing index digits with
  | nil =>
    rw [List.map_eq_nil_iff.1 h]
    rfl
  | cons b bs ih =>
    obtain ⟨high, digits, rfl, hhigh, h⟩ := List.map_eq_cons_iff.1 h
    obtain ⟨low, digits, rfl, hlow, h⟩ := List.map_eq_cons_iff.1 h
    rw [decode.pairs, digitValue?_of_lower (high_lt b) hhigh, digitValue?_of_lower (low_lt b) hlow]
    dsimp only
    rw [ih (index + 2) h, high_low]
    rfl

theorem decode_of_lower {digits bs : Bytes} (h : digits.map lower = encode bs)
    : decode digits = .ok bs := by
  have hlength : digits.length = 2 * bs.length := by
    rw [← length_encode, ← h, List.length_map]
  rw [decode, if_neg (by omega)]
  exact pairs_of_lower 0 h

end Hex

/-- The text has the digits of the key, in either case, with or without the mark. -/
def KeyText (key : Bytes) (s : String) : Prop :=
  ∃ digits, digits.map Hex.lower = Hex.encode key ∧
    (Bytes.ofString s = digits ∨ Bytes.ofString s = keyMark ++ digits)

theorem keyDigits_of_lower {digits key : Bytes} (h : digits.map Hex.lower = Hex.encode key)
    : keyDigits digits = digits := by
  have hmark : (120 : UInt8) ∉ digits := by
    intro hmem
    have hlower : Hex.lower 120 ∈ Hex.encode key := by
      rw [← h]
      exact List.mem_map_of_mem hmem
    have hdigits : ∀ b ∈ Hex.encode key, b ≠ 120 := by
      apply Hex.forall_mem_encode
      apply Bytes.forall_lt
      decide
    exact hdigits _ hlower rfl
  unfold keyDigits
  split
  . simp at hmark
  . rfl

theorem KeyText.decodeKey {key : Bytes} {s : String} (h : KeyText key s)
    : decodeKey s = .ok key := by
  obtain ⟨digits, hdigits, hs⟩ := h
  rw [StateRelay.decodeKey]
  cases hs with
  | inl hs => rw [hs, keyDigits_of_lower hdigits, Hex.decode_of_lower hdigits]
  | inr hs =>
    rw [hs]
    exact Hex.decode_of_lower hdigits

theorem ignoresBlanks_keyDecoder (depth : Nat) : IgnoresBlanks (keyDecoder depth) := by
  intro gap s hgap
  rw [keyDecoder, keyDecoder, ignoresBlanks_text depth gap s hgap]

/-! ### Fields -/

namespace Entry

theorem ignoresBlanks_field (depth : Nat) (d : Draft)
    : ∀ field ∈ fields, IgnoresBlanks (field.read d depth) := by
  unfold fields
  simp only [List.forall_mem_cons, Record.Field.mandatory, Record.Field.optional]
  refine ⟨?_, ?_, ?_, ?_, ?_, ?_, ?_, by simp⟩
  . exact (ignoresBlanks_enumeration _ depth).map _
  . exact ((ignoresBlanks_integer _ _ _ depth).map _).map _
  . exact (ignoresBlanks_keyDecoder depth).map _
  . exact (ignoresBlanks_anyValue depth).map _
  . exact (ignoresBlanks_anyValue depth).optional.map _
  . exact (ignoresBlanks_bool depth).map _
  . exact ((ignoresBlanks_integer _ _ _ depth).map _).map _

theorem keeps_record : Keeps record := by
  intro field hfield d depth s next rest h
  simp only [record, fields, Record.Field.mandatory, Record.Field.optional, List.mem_cons,
    List.not_mem_nil, or_false] at hfield
  rcases hfield with rfl | rfl | rfl | rfl | rfl | rfl | rfl
  all_goals
    dsimp only at h
    obtain ⟨b, rfl⟩ := exists_of_map_eq_ok h
    simp [record, fields, Record.Field.mandatory, Record.Field.optional]

theorem reads_no_prior (depth : Nat)
    : Reads (Json.Decoder.optional Json.Decoder.anyValue depth) Json.encodeNull none := by
  intro rest _
  show Json.Decoder.optional _ depth (110 :: (Json.Token.nullTail ++ rest)) = _
  rw [Json.Decoder.optional, Json.Token.skipBlanks_of_not_blank (by decide)]
  dsimp only
  rw [if_pos rfl, Json.Token.word_append]
  rfl

/-- The names of the fields. -/
def names : List String :=
  fields.map (·.name)

/-- What may be written for a field of the entry. -/
inductive Written (e : Entry) : String → Bytes → Prop where
  | operation {written : Bytes} :
    Spells written e.operation.name → Written e "OperationType" written
  | payloadType : Written e "EncoderType" (digitsOfNat e.payloadType.toNat)
  | key {written : Bytes} {s : String} :
    KeyText e.key s → Spells written s → Written e "KeyBytes" written
  | payload {written : Bytes} : Spaced e.payload written → Written e "Encoder" written
  | prior {written : Bytes} {v : Json} :
    e.prior = some v → Spaced v written → Written e "AncestralRecord" written
  | noPrior : e.prior = none → Written e "AncestralRecord" Json.encodeNull
  | reverted : Written e "IsReverted" (Json.encodeBool e.reverted)
  | height : Written e "BlockHeight" (digitsOfNat e.height.toNat)

theorem Written.value {depth : Nat} {e : Entry} (hplain : e.Plain depth) {name : String}
    {written : Bytes} (h : e.Written name written)
    : Value written := by
  cases h with
  | operation h => exact .string h.quoted
  | payloadType => exact Json.value_digitsOfInt e.payloadType.toNat
  | key _ h => exact .string h.quoted
  | payload h => exact h.value hplain.payload
  | @prior _ v hv h => exact h.value (hplain.prior v hv).1
  | noPrior _ => exact .nullWord
  | reverted => exact (Json.spaced_encode (.bool e.reverted)).value (.bool _)
  | height => exact Json.value_digitsOfInt e.height.toNat

/-- What the fields say when these have been read. -/
def draftOf (e : Entry) (seen : List String) : Draft where
  operation := if "OperationType" ∈ seen then some e.operation else none
  payloadType := if "EncoderType" ∈ seen then some e.payloadType else none
  key := if "KeyBytes" ∈ seen then some e.key else none
  payload := if "Encoder" ∈ seen then some e.payload else none
  prior := if "AncestralRecord" ∈ seen then some e.prior else none
  reverted := if "IsReverted" ∈ seen then some e.reverted else none
  height := if "BlockHeight" ∈ seen then some e.height else none

theorem exists_field_of_written {depth : Nat} {e : Entry} (hplain : e.Plain depth) {name : String}
    {written : Bytes} (h : e.Written name written) {seen : List String} (hname : name ∉ seen)
    : ∃ field, record.fields.find? (·.name == name) = some field ∧
        field.present (e.draftOf seen) = false ∧
        Reads (field.read (e.draftOf seen) depth) written (e.draftOf (name :: seen)) := by
  cases h with
  | operation h =>
    refine exists_field rfl ?_ (reads_operation h depth) ?_
    . exact if_neg hname
    . simp [draftOf]
  | payloadType =>
    refine exists_field rfl ?_ (reads_word32 depth e.payloadType) ?_
    . exact if_neg hname
    . simp [draftOf]
  | key hkey hspells =>
    refine exists_field rfl ?_ (reads_key depth hspells hkey.decodeKey) ?_
    . exact if_neg hname
    . simp [draftOf]
  | payload h =>
    refine exists_field rfl ?_ (h.reads hplain.payload hplain.payload_depth) ?_
    . exact if_neg hname
    . simp [draftOf]
  | @prior _ v hv h =>
    obtain ⟨hplain, hdepth, hnull⟩ := hplain.prior v hv
    refine exists_field rfl ?_ (reads_prior h hplain hdepth hnull) ?_
    . exact if_neg hname
    . simp [draftOf, hv]
  | noPrior hnone =>
    refine exists_field rfl ?_ (reads_no_prior depth) ?_
    . exact if_neg hname
    . simp [draftOf, hnone]
  | reverted =>
    refine exists_field rfl ?_ (reads_bool depth e.reverted) ?_
    . exact if_neg hname
    . simp [draftOf]
  | height =>
    refine exists_field rfl ?_ (reads_word64 depth e.height) ?_
    . exact if_neg hname
    . simp [draftOf]

/-! ### Objects -/

/-- The field may be left out. -/
def Omits (e : Entry) (name : String) : Prop :=
  (name = "AncestralRecord" ∧ e.prior = none) ∨ (name = "IsReverted" ∧ e.reverted = false)

/-- The members of an object list the fields of the entry: in any order, each of them once, and
among members of other names. -/
structure Lists (e : Entry) (ms : List (Member × String)) : Prop where
  named : ∀ m ∈ ms, Named m.1 m.2
  field : ∀ m ∈ ms, m.2 ∈ names → e.Written m.2 m.1.value.written
  other : ∀ m ∈ ms, m.2 ∉ names → Value m.1.value.written
  once : ∀ name ∈ names, (ms.map (·.2)).count name ≤ 1
  complete : ∀ name ∈ names, name ∈ ms.map (·.2) ∨ e.Omits name

theorem Lists.value {depth : Nat} {e : Entry} (hplain : e.Plain depth) {ms : List (Member × String)}
    (h : e.Lists ms)
    : ∀ m ∈ ms, Value m.1.value.written := by
  intro m hm
  by_cases hname : m.2 ∈ names
  . exact (h.field m hm hname).value hplain
  . exact h.other m hm hname

theorem find?_of_not_mem {name : String} (h : name ∉ names)
    : record.fields.find? (·.name == name) = none := by
  rw [List.find?_eq_none]
  intro field hfield hname
  exact h (List.mem_map.2 ⟨field, hfield, by simpa using hname⟩)

theorem draftOf_cons_of_not_mem (e : Entry) {name : String} (h : name ∉ names)
    (seen : List String)
    : e.draftOf (name :: seen) = e.draftOf seen := by
  have hmem : ∀ field ∈ names, (field ∈ name :: seen ↔ field ∈ seen) := by
    intro field hfield
    rw [List.mem_cons, or_iff_right]
    rintro rfl
    exact h hfield
  simp only [names, fields, Record.Field.mandatory, Record.Field.optional, List.map_cons,
    List.map_nil, List.forall_mem_cons] at hmem
  simp [draftOf, hmem]

theorem takes_members {depth : Nat} {e : Entry} (hplain : e.Plain depth)
    {ms : List (Member × String)} (hnamed : ∀ m ∈ ms, Named m.1 m.2)
    (hfield : ∀ m ∈ ms, m.2 ∈ names → e.Written m.2 m.1.value.written)
    (hother : ∀ m ∈ ms, m.2 ∉ names → Value m.1.value.written) (seen : List String)
    (honce : ∀ name ∈ names, seen.count name + (ms.map (·.2)).count name ≤ 1)
    : Takes (record.member depth) (e.draftOf seen) ms
        (e.draftOf ((ms.map (·.2)).reverse ++ seen)) := by
  induction ms generalizing seen with
  | nil => exact .nil _
  | cons m ms ih =>
    obtain ⟨m, name⟩ := m
    rw [List.forall_mem_cons] at hnamed hfield hother
    have hnext : ∀ field ∈ names, (name :: seen).count field + (ms.map (·.2)).count field ≤ 1 := by
      intro field hmem
      have hcount := honce field hmem
      simp only [List.map_cons, List.count_cons] at hcount ⊢
      omega
    rw [List.map_cons, List.reverse_cons, List.append_assoc, List.singleton_append]
    refine Takes.cons hnamed.1 ?_ (ih hnamed.2 hfield.2 hother.2 _ hnext)
    intro tail htail
    by_cases hmem : name ∈ names
    . have hseen : name ∉ seen := by
        have hcount := honce name hmem
        rw [List.map_cons, List.count_cons_self] at hcount
        exact List.count_eq_zero.1 (by omega)
      obtain ⟨field, hfind, habsent, hreads⟩ := exists_field_of_written hplain (hfield.1 hmem) hseen
      have hblanks := ignoresBlanks_field depth (e.draftOf seen) field
        (List.mem_of_find?_eq_some hfind)
      exact member_field hnamed.1 (e.draftOf seen) hfind habsent hreads hblanks htail
    . rw [draftOf_cons_of_not_mem e hmem]
      exact member_unknown hnamed.1 (e.draftOf seen) rfl (find?_of_not_mem hmem) (hother.1 hmem)
        htail

/-- What is left out is none or false, as it would be by itself. -/
theorem build_draftOf {e : Entry} {seen : List String}
    (h : ∀ name ∈ names, name ∈ seen ∨ e.Omits name)
    : build (e.draftOf seen) = .ok e := by
  simp [names, fields, Record.Field.mandatory, Record.Field.optional, Omits] at h
  obtain ⟨hoperation, htype, hkey, hpayload, hprior, hreverted, hheight⟩ := h
  have hprior' : (e.draftOf seen).prior.getD none = e.prior := by
    by_cases hseen : "AncestralRecord" ∈ seen
    . simp [draftOf, hseen]
    . simp [draftOf, hseen, hprior.resolve_left hseen]
  have hreverted' : (e.draftOf seen).reverted.getD false = e.reverted := by
    by_cases hseen : "IsReverted" ∈ seen
    . simp [draftOf, hseen]
    . simp [draftOf, hseen, hreverted.resolve_left hseen]
  rw [build, hprior', hreverted']
  simp [draftOf, need, hoperation, htype, hkey, hpayload, hheight]

theorem Lists.reads {depth : Nat} {e : Entry} (hplain : e.Plain depth) {ms : List (Member × String)}
    (h : e.Lists ms)
    : Reads (decoder (depth + 1)) (objectOf (ms.map (·.1))) e := by
  have htakes := takes_members hplain h.named h.field h.other [] (by simpa using h.once)
  apply reads_objectOf htakes
  apply build_draftOf
  simpa using h.complete

/-- Nothing is read from an object that has two members with the name of a field. -/
theorem exists_error_of_repeated_field {ms : List (Member × String)}
    (hnamed : ∀ m ∈ ms, Named m.1 m.2) (hvalue : ∀ m ∈ ms, Value m.1.value.written) {name : String}
    (hname : name ∈ names) (hcount : 2 ≤ (ms.map (·.2)).count name) (depth : Nat) (rest : Bytes)
    : ∃ error, decoder (depth + 1) (objectOf (ms.map (·.1)) ++ rest) = .error error := by
  obtain ⟨field, hfind⟩ : ∃ field, record.fields.find? (·.name == name) = some field := by
    obtain ⟨field, hfield, hname⟩ := List.mem_map.1 hname
    rw [← Option.isSome_iff_exists, List.find?_isSome]
    exact ⟨field, hfield, by simpa using hname⟩
  exact exists_error_of_repeated keeps_record hfind (agreesMember_member depth) hnamed hvalue hcount
    rest

end Entry

/-! ### Batches of one entry -/

theorem begins_objectOf (ms : List Member) : Json.Begins (objectOf ms) := by
  exact ⟨openBrace, _, rfl, by decide, by decide⟩

/--
However the members of an object list the fields of an entry, and whatever blanks stand around them,
the object is read as the entry. If two members have the name of one field, nothing is read.
-/
theorem decodeBatch_spelled {ms : List (Member × String)} {object batch : Padded}
    (hobject : object.written = objectOf (ms.map (·.1))) (hobject' : object.Clear)
    (hbatch : batch.written = arrayOf [object]) (hbatch' : batch.Clear)
    : (∀ e : Entry, e.Plain 125 → e.Lists ms → decodeBatch batch.bytes = .ok [e]) ∧
      ((∀ m ∈ ms, Named m.1 m.2) → (∀ m ∈ ms, Value m.1.value.written) →
        (∃ name ∈ Entry.names, 2 ≤ (ms.map (·.2)).count name) →
          ∃ error, decodeBatch batch.bytes = .error error) := by
  have hblanks := ignoresBlanks_list Entry.decoder maxDepth
  have hbegins : Json.Begins object.written := by
    rw [hobject]
    apply begins_objectOf
  constructor
  . intro e hplain hlists
    have hreads := hlists.reads hplain
    rw [← hobject] at hreads
    apply run_padded hblanks hbatch'
    rw [hbatch]
    exact reads_arrayOf (.cons ⟨hobject', hbegins, hreads⟩ .nil)
  . rintro hnamed hvalue ⟨name, hname, hcount⟩
    apply exists_error_of_run hblanks hbatch'
    rw [hbatch]
    apply exists_error_of_first hobject' hbegins
    rw [hobject]
    exact Entry.exists_error_of_repeated_field hnamed hvalue hname hcount 125

/-- The fields in an order of their own, with an escape in a name and a key in upper case. -/
theorem decodeBatch_spelled_shuffled
    : let e : Entry :=
        { operation := .delete, payloadType := 7, key := [171], payload := .array [.int 1, .null],
          prior := none, reverted := false, height := 9 }
      let ms : List (Member × String) := [
        (.tight ("BlockHeight", digitsOfNat 9), "BlockHeight"),
        (⟨⟨[space], Json.encodeString "x", [tab]⟩, .tight [openBracket, space, closeBracket]⟩, "x"),
        (.tight ("KeyBytes", Json.encodeString "AB"), "KeyBytes"),
        (.tight ("AncestralRecord", Json.encodeNull), "AncestralRecord"),
        (.tight ("Encoder", arrayOf [⟨[space], digitsOfInt 1, [space]⟩, .tight Json.encodeNull]),
          "Encoder"),
        (⟨.tight (quote :: (backslash :: 117 :: Bytes.ofString "004fperationType") ++ [quote]),
          ⟨[newline], Json.encodeString "Delete", []⟩⟩, "OperationType"),
        (.tight ("EncoderType", digitsOfNat 7), "EncoderType")]
      let object (ms : List (Member × String)) : Padded := ⟨[space], objectOf (ms.map (·.1)), []⟩
      let batch (ms : List (Member × String)) : Padded := ⟨[], arrayOf [object ms], [newline]⟩
      let twice := ms ++ [(.tight ("Encoder", Json.encodeNull), "Encoder")]
      decodeBatch (batch ms).bytes = .ok [e] ∧
        ∃ error, decodeBatch (batch twice).bytes = .error error := by
  intro e ms object batch twice
  have hgap : Gap [space] := by simp [Gap, Json.Token.isBlank]
  have hline : Gap [newline] := by simp [Gap, Json.Token.isBlank]
  have htab : Gap [tab] := by simp [Gap, Json.Token.isBlank]
  have hobject (ms : List (Member × String)) : (object ms).Clear := ⟨hgap, gap_nil⟩
  have hbatch (ms : List (Member × String)) : (batch ms).Clear := ⟨gap_nil, hline⟩
  have hescaped :
      Spells (quote :: (backslash :: 117 :: Bytes.ofString "004fperationType") ++ [quote])
        "OperationType" := by
    refine ⟨_, rfl, ?_⟩
    have hrest := Json.Token.denotes_flatMap_escapeByte (Bytes.ofString "perationType")
    exact .fourDigits (n := 79) (by decide) (by decide) (by decide) hrest
  have hnamed : ∀ m ∈ ms, Named m.1 m.2 := by
    simp only [ms, List.forall_mem_cons]
    refine ⟨named_tight _, ⟨⟨⟨hgap, htab⟩, gap_nil, gap_nil⟩, Json.Token.spells_encodeString "x"⟩,
      named_tight _, named_tight _, named_tight _,
      ⟨⟨⟨gap_nil, gap_nil⟩, hline, gap_nil⟩, hescaped⟩, named_tight _, by simp⟩
  have hpayload : Spaced e.payload
      (arrayOf [⟨[space], digitsOfInt 1, [space]⟩, .tight Json.encodeNull]) := by
    apply @Spaced.array
      [(⟨[space], digitsOfInt 1, [space]⟩, .int 1), (.tight Json.encodeNull, .null)]
    . simp
    . rw [List.forall_mem_cons, List.forall_mem_singleton]
      exact ⟨⟨hgap, hgap⟩, Padded.clear_tight _⟩
    . rw [List.forall_mem_cons, List.forall_mem_singleton]
      exact ⟨.scalar rfl, .scalar rfl⟩
  have hplain : e.Plain 125 := by
    refine ⟨.array ?_, by decide, by simp [e]⟩
    rw [List.forall_mem_cons, List.forall_mem_singleton]
    exact ⟨.int (by decide) (by decide), .null⟩
  have hdelete := Json.Token.spells_encodeString "Delete"
  have hspells := Json.Token.spells_encodeString "AB"
  have hkey : KeyText e.key "AB" := ⟨Bytes.ofString "AB", by decide, .inl rfl⟩
  have hlists : e.Lists ms := by
    refine ⟨hnamed, ?_, ?_, by decide, ?_⟩
    . simp only [ms, List.forall_mem_cons]
      refine ⟨fun _ => .height, fun hx => absurd hx (by decide), fun _ => .key hkey hspells,
        fun _ => .noPrior rfl, fun _ => .payload hpayload, fun _ => .operation hdelete,
        fun _ => .payloadType, by simp⟩
    . have hother : ∀ m ∈ ms, m.2 ∉ Entry.names →
          m.1.value.written = [openBracket, space, closeBracket] := by
        decide
      intro m hm hname
      rw [hother m hm hname]
      exact .emptyArray hgap
    . have hleft : ∀ name ∈ Entry.names, name ∈ ms.map (·.2) ∨ name = "IsReverted" := by decide
      intro name hname
      exact (hleft name hname).imp_right fun h => .inr ⟨h, rfl⟩
  constructor
  . exact (decodeBatch_spelled rfl (hobject ms) rfl (hbatch ms)).1 e hplain hlists
  . apply (decodeBatch_spelled rfl (hobject _) rfl (hbatch _)).2
    . rw [List.forall_mem_append, List.forall_mem_singleton]
      exact ⟨hnamed, named_tight _⟩
    . rw [List.forall_mem_append, List.forall_mem_singleton]
      exact ⟨hlists.value hplain, .nullWord⟩
    . exact ⟨"Encoder", by decide, by decide⟩

end StateRelay
