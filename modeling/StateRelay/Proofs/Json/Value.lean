import StateRelay.Proofs.Json.Collection

/-!
This module contains the values that their written form stands for: a value without doubles, whose
integers fit 64 bits and whose objects have distinct keys in order, is read back as it was.
-/

namespace StateRelay.Json

open Ascii Token Decoder

/-! ### The order of keys -/

theorem keyLt_irrefl (key : String) : keyLt key key = false := by
  rw [keyLt, decide_eq_false_iff_not]
  exact List.lt_irrefl _

theorem keyLt_asymm {key key' : String} (h : keyLt key key' = true) : keyLt key' key = false := by
  rw [keyLt, decide_eq_true_iff] at h
  rw [keyLt, decide_eq_false_iff_not]
  exact List.lt_asymm h

/-- A key after all the others is bound at the end. -/
theorem insert_of_forall_keyLt {key : String} {ms : List (String × Json)}
    (h : ∀ m ∈ ms, keyLt m.1 key = true) (value : Json)
    : Json.insert key value ms = ms ++ [(key, value)] := by
  induction ms with
  | nil => rfl
  | cons m ms ih =>
    obtain ⟨k, v⟩ := m
    rw [List.forall_mem_cons] at h
    have hne : key ≠ k := by
      rintro rfl
      rw [keyLt_irrefl] at h
      exact Bool.noConfusion h.1
    rw [Json.insert, if_neg hne, keyLt_asymm h.1, ih h.2]
    rfl

/-! ### Plain values -/

/-- Values that their written form can stand for. -/
inductive Plain : Json → Prop where
  | null : Plain .null
  | bool (b : Bool) : Plain (.bool b)
  | int {n : Int} : Int64.minValue.toInt ≤ n → n < UInt64.size → Plain (.int n)
  | string (s : String) : Plain (.string s)
  | array {items : List Json} : (∀ v ∈ items, Plain v) → Plain (.array items)
  | object {ms : List (String × Json)} :
    ms.Pairwise (fun a b => keyLt a.1 b.1 = true) → (∀ m ∈ ms, Plain m.2) → Plain (.object ms)

/-- Values are built from the items of arrays and the members of objects. -/
theorem induction {P : Json → Prop} (null : P .null) (bool : ∀ b, P (.bool b))
    (int : ∀ n, P (.int n)) (double : ∀ d, P (.double d)) (string : ∀ s, P (.string s))
    (array : ∀ items, (∀ v ∈ items, P v) → P (.array items))
    (object : ∀ ms, (∀ m ∈ ms, P m.2) → P (.object ms)) (v : Json)
    : P v := by
  match v with
  | .null => exact null
  | .bool b => exact bool b
  | .int n => exact int n
  | .double d => exact double d
  | .string s => exact string s
  | .array items =>
    apply array
    intro v hv
    exact induction null bool int double string array object v
  | .object ms =>
    apply object
    intro m hm
    have hsize := List.sizeOf_lt_of_mem hm
    have hvalue : sizeOf m.2 < sizeOf m := by
      obtain ⟨k, v⟩ := m
      show sizeOf v < sizeOf (k, v)
      rw [Prod.mk.sizeOf_spec]
      omega
    exact induction null bool int double string array object m.2
termination_by v

theorem encodeItems_eq_map (items : List Json) : encodeItems items = items.map encode := by
  induction items with
  | nil => rfl
  | cons v rest ih => rw [encodeItems, ih, List.map_cons]

theorem encodeMembers_eq_map (ms : List (String × Json))
    : encodeMembers ms = ms.map fun m => (m.1, m.2.encode) := by
  induction ms with
  | nil => rfl
  | cons m rest ih => rw [encodeMembers, ih, List.map_cons]

theorem depth_le_depthItems {items : List Json} {v : Json} (hv : v ∈ items)
    : v.depth ≤ depthItems items := by
  induction items with
  | nil => contradiction
  | cons first rest ih =>
    rw [depthItems]
    cases List.mem_cons.1 hv with
    | inl h =>
      rw [h]
      omega
    | inr h =>
      have := ih h
      omega

theorem depth_le_depthMembers {ms : List (String × Json)} {m : String × Json} (hm : m ∈ ms)
    : m.2.depth ≤ depthMembers ms := by
  induction ms with
  | nil => contradiction
  | cons first rest ih =>
    obtain ⟨k, v⟩ := first
    rw [depthMembers]
    cases List.mem_cons.1 hm with
    | inl h =>
      rw [h]
      exact Nat.le_max_left _ _
    | inr h =>
      have := ih h
      omega

/-- Only `null` begins like `null`. -/
theorem Plain.begins {v : Json} (h : Plain v)
    : ∃ b s, v.encode = b :: s ∧ isBlank b = false ∧ b ≠ closeBracket ∧ (v ≠ .null → b ≠ 110) := by
  cases h with
  | null => exact ⟨110, nullTail, rfl, by decide, by decide, fun hne => absurd rfl hne⟩
  | bool b =>
    cases b with
    | true => exact ⟨116, trueTail, rfl, by decide, by decide, fun _ => by decide⟩
    | false => exact ⟨102, falseTail, rfl, by decide, by decide, fun _ => by decide⟩
  | @int n _ _ =>
    cases n with
    | ofNat n =>
      obtain ⟨d, ds, hds, hd⟩ := exists_digitsOfNat n
      exact ⟨d, ds, hds, isBlank_of_isDigit hd, ne_of_isDigit hd (by decide),
        fun _ => ne_of_isDigit hd (by decide)⟩
    | negSucc n => exact ⟨minus, _, rfl, by decide, by decide, fun _ => by decide⟩
  | string s => exact ⟨quote, _, rfl, by decide, by decide, fun _ => by decide⟩
  | array _ => exact ⟨openBracket, _, rfl, by decide, by decide, fun _ => by decide⟩
  | object _ _ => exact ⟨openBrace, _, rfl, by decide, by decide, fun _ => by decide⟩

/-! ### Values with blanks in them -/

/-- What a value is written as, with blanks between the tokens. -/
inductive Spaced : Json → Bytes → Prop where
  | scalar {v : Json} : v.depth = 0 → Spaced v v.encode
  | emptyArray {gap : Bytes} : Gap gap → Spaced (.array []) (openBracket :: gap ++ [closeBracket])
  | array {items : List (Padded × Json)} :
    items ≠ [] → (∀ i ∈ items, i.1.Clear) → (∀ i ∈ items, Spaced i.2 i.1.written) →
    Spaced (.array (items.map (·.2))) (arrayOf (items.map (·.1)))
  | emptyObject {gap : Bytes} : Gap gap → Spaced (.object []) (openBrace :: gap ++ [closeBrace])
  | object {ms : List (Member × String × Json)} :
    ms ≠ [] → (∀ m ∈ ms, m.1.Clear) → (∀ m ∈ ms, m.1.key.written = encodeString m.2.1) →
    (∀ m ∈ ms, Spaced m.2.2 m.1.value.written) →
    Spaced (.object (ms.map (·.2))) (objectOf (ms.map (·.1)))

/-- A value may be written without any blanks. -/
theorem spaced_encode (v : Json) : Spaced v v.encode := by
  induction v using induction with
  | null | bool _ | int _ | double _ | string _ => exact .scalar rfl
  | array vs ih =>
    by_cases hne : vs = []
    . rw [hne]
      exact .emptyArray gap_nil
    have hspaced := @Spaced.array (vs.map fun v => (.tight v.encode, v)) (by simpa using hne)
    simp only [List.forall_mem_map, Padded.clear_tight, implies_true, true_imp_iff] at hspaced
    rw [encode, encodeItems_eq_map, ← arrayOf_tight, List.map_map]
    simpa [Function.comp_def] using hspaced ih
  | object ms ih =>
    by_cases hne : ms = []
    . rw [hne]
      exact .emptyObject gap_nil
    have hspaced := @Spaced.object (ms.map fun m => (.tight (m.1, m.2.encode), m))
      (by simpa using hne)
    simp only [List.forall_mem_map, Member.clear_tight, implies_true, true_imp_iff] at hspaced
    rw [encode, encodeMembers_eq_map, ← objectOf_tight, List.map_map]
    simpa [Function.comp_def] using hspaced (fun _ _ => rfl) ih

theorem Spaced.begins {v : Json} {written : Bytes} (h : Spaced v written) (hplain : v.Plain)
    : ∃ b s, written = b :: s ∧ isBlank b = false ∧ b ≠ closeBracket ∧ (v ≠ .null → b ≠ 110) := by
  cases h with
  | scalar _ => exact hplain.begins
  | emptyArray _ | array _ _ _ =>
    exact ⟨openBracket, _, rfl, by decide, by decide, fun _ => by decide⟩
  | emptyObject _ | object _ _ _ _ =>
    exact ⟨openBrace, _, rfl, by decide, by decide, fun _ => by decide⟩

/-! ### Reading values -/

theorem reads_null_value (depth : Nat) : Reads (anyValue depth) encodeNull .null := by
  intro rest _
  show anyValue depth (110 :: (nullTail ++ rest)) = _
  rw [anyValue.eq_def, skipBlanks_of_not_blank (by decide)]
  dsimp only
  rw [if_pos rfl, word_append]
  rfl

theorem reads_bool_value (depth : Nat) (b : Bool)
    : Reads (anyValue depth) (encodeBool b) (.bool b) := by
  intro rest _
  cases b with
  | true =>
    show anyValue depth (116 :: (trueTail ++ rest)) = _
    rw [anyValue.eq_def, skipBlanks_of_not_blank (by decide)]
    dsimp only
    rw [if_neg (by decide), if_pos rfl, word_append]
    rfl
  | false =>
    show anyValue depth (102 :: (falseTail ++ rest)) = _
    rw [anyValue.eq_def, skipBlanks_of_not_blank (by decide)]
    dsimp only
    rw [if_neg (by decide), if_neg (by decide), if_pos rfl, word_append]
    rfl

theorem reads_nat_value (depth : Nat) {n : Nat} (hn : n < UInt64.size)
    : Reads (anyValue depth) (digitsOfNat n) (.int n) := by
  intro rest hrest
  have hread := number_digitsOfNat false (Nat.le_sub_one_of_lt hn) hrest
  obtain ⟨d, ds, hds, hd⟩ := exists_digitsOfNat n
  rw [hds, List.cons_append] at hread ⊢
  rw [anyValue.eq_def, skipBlanks_of_not_blank (isBlank_of_isDigit hd)]
  dsimp only
  -- A digit is none of the bytes that words and negative numbers begin with.
  rw [if_neg (ne_of_isDigit hd (by decide)), if_neg (ne_of_isDigit hd (by decide)),
    if_neg (ne_of_isDigit hd (by decide)), if_neg (ne_of_isDigit hd (by decide)), if_pos hd, hread]
  rfl

theorem reads_neg_value (depth : Nat) {n : Nat} (hn : Int64.minValue.toInt ≤ Int.negSucc n)
    : Reads (anyValue depth) (minus :: digitsOfNat (n + 1)) (.int (.negSucc n)) := by
  intro rest hrest
  have hread := number_negSucc hn hrest
  rw [List.cons_append, anyValue.eq_def, skipBlanks_of_not_blank (by decide)]
  dsimp only
  rw [if_neg (by decide), if_neg (by decide), if_neg (by decide), if_pos rfl, hread]
  rfl

theorem reads_string_value (depth : Nat) {written : Bytes} {s : String} (h : Spells written s)
    : Reads (anyValue depth) written (.string s) := by
  obtain ⟨body, rfl, hdenotes⟩ := h
  intro rest _
  rw [List.cons_append, List.cons_append, List.append_assoc, List.singleton_append,
    anyValue.eq_def, skipBlanks_of_not_blank (by decide)]
  dsimp only
  rw [if_neg (by decide), if_neg (by decide), if_neg (by decide), if_neg (by decide),
    if_neg (by decide), if_pos rfl, hdenotes.string]
  rfl

theorem Decoder.ignoresBlanks_anyValue (depth : Nat) : IgnoresBlanks (anyValue depth) := by
  intro gap s hgap
  rw [anyValue.eq_def, anyValue.eq_def depth s, hgap.skipBlanks_append]

theorem reads_spaced_empty_array (depth : Nat) {gap : Bytes} (hgap : Gap gap)
    : Reads (anyValue (depth + 1)) (openBracket :: gap ++ [closeBracket]) (.array []) := by
  intro rest _
  rw [List.cons_append, List.cons_append, List.append_assoc, anyValue.eq_def,
    skipBlanks_of_not_blank (by decide)]
  dsimp only
  rw [if_neg (by decide), if_neg (by decide), if_neg (by decide), if_neg (by decide),
    if_neg (by decide), if_neg (by decide), if_pos rfl, Decoder.items, items.go, List.singleton_append,
    nextItem_end hgap]
  simp [endList_gap hgap]

theorem reads_spaced_empty_object (depth : Nat) {gap : Bytes} (hgap : Gap gap)
    : Reads (anyValue (depth + 1)) (openBrace :: gap ++ [closeBrace]) (.object []) := by
  intro rest _
  rw [List.cons_append, List.cons_append, List.append_assoc, anyValue.eq_def,
    skipBlanks_of_not_blank (by decide)]
  dsimp only
  rw [if_neg (by decide), if_neg (by decide), if_neg (by decide), if_neg (by decide),
    if_neg (by decide), if_neg (by decide), if_neg (by decide), if_pos rfl, Decoder.members, members.go,
    List.singleton_append, nextKey_end hgap]
  simp [endObject_gap hgap]

theorem reads_spaced_array {depth : Nat} {ps : List Padded} {vs : List Json}
    (h : List.Forall₂ (ReadsItem (anyValue depth)) ps vs)
    : Reads (anyValue (depth + 1)) (arrayOf ps) (.array vs) := by
  intro rest _
  obtain ⟨close, hclose, hread⟩ := items_commaSeparated h rest
  rw [arrayOf_append, anyValue.eq_def, skipBlanks_of_not_blank (by decide)]
  dsimp only
  rw [if_neg (by decide), if_neg (by decide), if_neg (by decide), if_neg (by decide),
    if_neg (by decide), if_neg (by decide), if_pos rfl, hread, ok_bind]
  dsimp only
  rw [endList_gap hclose]
  rfl

/-- What a member of an object is read into. -/
def bindMember (depth : Nat) (acc : List (String × Json)) (key : String) (s : Bytes)
    : Except Error (List (String × Json) × Bytes) := do
  let (v, s) ← anyValue depth (← colonAfterKey s)
  .ok (Json.insert key v acc, s)

theorem reads_spaced_object {depth : Nat} {ms : List (Member × String)}
    {bound : List (String × Json)} (h : Takes (bindMember depth) [] ms bound)
    : Reads (anyValue (depth + 1)) (objectOf (ms.map (·.1))) (.object bound) := by
  intro rest _
  obtain ⟨close, hclose, hread⟩ := h.members_commaSeparated gap_nil rest
  rw [objectOf_append, anyValue.eq_def, skipBlanks_of_not_blank (by decide)]
  dsimp only
  rw [if_neg (by decide), if_neg (by decide), if_neg (by decide), if_neg (by decide),
    if_neg (by decide), if_neg (by decide), if_neg (by decide), if_pos rfl]
  show Decoder.members (bindMember depth) [] _ >>= _ = _
  rw [← List.nil_append (closeBrace :: rest), hread, ok_bind]
  dsimp only
  rw [endObject_gap hclose]
  rfl

/-- Members with increasing keys are bound one after the other. -/
theorem takes_bindMember {depth : Nat} {acc : List (String × Json)}
    {ms : List (Member × String × Json)}
    (hacc : ∀ a ∈ acc, ∀ m ∈ ms, keyLt a.1 m.2.1 = true)
    (hsorted : ms.Pairwise fun a b => keyLt a.2.1 b.2.1 = true)
    (hnamed : ∀ m ∈ ms, Named m.1 m.2.1)
    (hreads : ∀ m ∈ ms, Reads (anyValue depth) m.1.value.written m.2.2)
    : Takes (bindMember depth) acc (ms.map fun m => (m.1, m.2.1)) (acc ++ ms.map (·.2)) := by
  induction ms generalizing acc with
  | nil =>
    rw [List.map_nil, List.map_nil, List.append_nil]
    exact .nil acc
  | cons m rest ih =>
    obtain ⟨m, key, v⟩ := m
    rw [List.pairwise_cons] at hsorted
    rw [List.forall_mem_cons] at hnamed hreads
    rw [List.map_cons, List.map_cons, List.append_cons]
    have hlast : ∀ a ∈ acc, keyLt a.1 key = true :=
      fun a ha => hacc a ha (m, key, v) List.mem_cons_self
    -- The members so far all have smaller keys, so that the next one goes to the end.
    refine Takes.cons hnamed.1 ?_ (ih ?_ hsorted.2 hnamed.2 hreads.2)
    . intro tail htail
      have hblanks (s : Bytes) := ignoresBlanks_anyValue depth m.value.before s
        hnamed.1.clear.value.before
      have hread := hreads.1.padded hblanks hnamed.1.clear.value htail
      rw [bindMember, colonAfterKey_afterKey hnamed.1, ok_bind, hread, ok_bind]
      dsimp only
      rw [insert_of_forall_keyLt hlast]
    . rw [List.forall_mem_append, List.forall_mem_singleton]
      exact ⟨fun a ha m hm => hacc a ha m (List.mem_cons_of_mem _ hm), hsorted.1⟩

/-- A plain value is read back from its written form, whatever blanks stand in it. -/
theorem Spaced.reads {v : Json} {written : Bytes} (h : Spaced v written) (hplain : v.Plain)
    {depth : Nat} (hdepth : v.depth ≤ depth)
    : Reads (anyValue depth) written v := by
  induction h generalizing depth with
  | scalar hscalar =>
    cases hplain with
    | null => exact reads_null_value depth
    | bool b => exact reads_bool_value depth b
    | @int n hlow hhigh =>
      cases n with
      | ofNat n => exact reads_nat_value depth (Int.ofNat_lt.1 hhigh)
      | negSucc n => exact reads_neg_value depth hlow
    | string s => exact reads_string_value depth (spells_encodeString s)
    | array _ | object _ _ => simp [Json.depth] at hscalar
  | emptyArray hgap =>
    obtain ⟨depth, rfl⟩ := Nat.exists_eq_add_one_of_ne_zero (Nat.ne_zero_of_lt hdepth)
    exact reads_spaced_empty_array depth hgap
  | @array items _ hclear hspaced ih =>
    -- The items are read with one level less, and lie one level less deep.
    rw [Json.depth] at hdepth
    obtain ⟨depth, rfl⟩ := Nat.exists_eq_add_one_of_ne_zero (Nat.ne_zero_of_lt hdepth)
    cases hplain with
    | array hplain =>
      rw [List.forall_mem_map] at hplain
      apply reads_spaced_array
      rw [List.forall₂_map_left_iff, List.forall₂_map_right_iff, List.forall₂_same]
      intro i hi
      have hdepth' := depth_le_depthItems (List.mem_map_of_mem (f := (·.2)) hi)
      obtain ⟨b, s, hs, hblank, hb, _⟩ := (hspaced i hi).begins (hplain i hi)
      exact ⟨hclear i hi, ⟨b, s, hs, hblank, hb⟩, ih i hi (hplain i hi) (by omega)⟩
  | emptyObject hgap =>
    obtain ⟨depth, rfl⟩ := Nat.exists_eq_add_one_of_ne_zero (Nat.ne_zero_of_lt hdepth)
    exact reads_spaced_empty_object depth hgap
  | @object ms _ hclear hkey hspaced ih =>
    rw [Json.depth] at hdepth
    obtain ⟨depth, rfl⟩ := Nat.exists_eq_add_one_of_ne_zero (Nat.ne_zero_of_lt hdepth)
    cases hplain with
    | object hsorted hplain =>
      rw [List.forall_mem_map] at hplain
      have hreads : ∀ m ∈ ms, Reads (anyValue depth) m.1.value.written m.2.2 := by
        intro m hm
        have hdepth' := depth_le_depthMembers (List.mem_map_of_mem (f := (·.2)) hm)
        exact ih m hm (hplain m hm) (by omega)
      have hnamed : ∀ m ∈ ms, Named m.1 m.2.1 := by
        intro m hm
        refine ⟨hclear m hm, ?_⟩
        rw [hkey m hm]
        exact spells_encodeString m.2.1
      have hnone : ∀ a ∈ ([] : List (String × Json)), ∀ m ∈ ms, keyLt a.1 m.2.1 = true := by simp
      have htakes := takes_bindMember hnone (List.pairwise_map.1 hsorted) hnamed hreads
      have hread := reads_spaced_object htakes
      simpa [Function.comp_def] using hread

theorem Plain.reads {v : Json} (h : Plain v) {depth : Nat} (hdepth : v.depth ≤ depth)
    : Reads (anyValue depth) v.encode v := by
  exact (spaced_encode v).reads h hdepth

end StateRelay.Json
