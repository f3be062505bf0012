import StateRelay.Proofs.Json.Decoder

/-!
This module contains how arrays and objects are read: item by item and member by member, each up to
where its value ends, and whatever blanks stand around them.
-/

namespace StateRelay.Json

open Ascii Token Decoder

/-! ### Items and members among blanks -/

/-- Something among blanks. -/
structure Padded where
  before : Bytes
  written : Bytes
  behind : Bytes

def Padded.bytes (p : Padded) : Bytes :=
  p.before ++ p.written ++ p.behind

/-- There are only blanks around it. -/
structure Padded.Clear (p : Padded) : Prop where
  before : Gap p.before
  behind : Gap p.behind

/-- A member of an object. -/
structure Member where
  key : Padded
  value : Padded

def Member.bytes (m : Member) : Bytes :=
  m.key.bytes ++ colon :: m.value.bytes

/-- There are only blanks around the key and around the value. -/
structure Member.Clear (m : Member) : Prop where
  key : m.key.Clear
  value : m.value.Clear

theorem Padded.bytes_append (p : Padded) (rest : Bytes)
    : p.bytes ++ rest = p.before ++ (p.written ++ (p.behind ++ rest)) := by
  simp [Padded.bytes]

theorem Member.bytes_append {m : Member} {body : Bytes}
    (h : m.key.written = quote :: body ++ [quote]) (rest : Bytes)
    : m.bytes ++ rest = m.key.before ++
        quote :: (body ++ quote :: (m.key.behind ++ colon :: (m.value.bytes ++ rest))) := by
  rw [Member.bytes, Padded.bytes, h]
  simp

/-- Without blanks around it. -/
def Padded.tight (written : Bytes) : Padded :=
  ⟨[], written, []⟩

def Member.tight (m : String × Bytes) : Member :=
  ⟨.tight (encodeString m.1), .tight m.2⟩

/-- With blanks in front of the key, and nowhere else. -/
def Member.afterGap (gap : Bytes) (m : String × Bytes) : Member :=
  ⟨⟨gap, encodeString m.1, []⟩, .tight m.2⟩

theorem Padded.clear_tight (written : Bytes) : (Padded.tight written).Clear :=
  ⟨gap_nil, gap_nil⟩

theorem Member.clear_tight (m : String × Bytes) : (Member.tight m).Clear :=
  ⟨Padded.clear_tight _, Padded.clear_tight _⟩

theorem Padded.bytes_tight (written : Bytes) : (Padded.tight written).bytes = written := by
  simp [tight, bytes]

theorem Member.bytes_tight (m : String × Bytes)
    : (Member.tight m).bytes = encodeMember m.1 m.2 := by
  rw [bytes, tight, Padded.bytes_tight, Padded.bytes_tight]
  rfl

theorem Member.bytes_afterGap (gap : Bytes) (m : String × Bytes)
    : (Member.afterGap gap m).bytes = gap ++ encodeMember m.1 m.2 := by
  rw [bytes, afterGap, Padded.bytes_tight, encodeMember, Padded.bytes, List.append_nil,
    List.append_assoc]

namespace Decoder

theorem Reads.padded {read : Bytes → Except Error (α × Bytes)} {p : Padded} {a : α}
    (h : Reads read p.written a) (hread : ∀ s, read (p.before ++ s) = read s) (hclear : p.Clear)
    {tail : Bytes} (htail : Stops tail)
    : read (p.bytes ++ tail) = .ok (a, p.behind ++ tail) := by
  rw [Padded.bytes_append, hread]
  exact h (p.behind ++ tail) (hclear.behind.stops htail)

/-- The bytes of an array, as its items are spelled. -/
def arrayOf (items : List Padded) : Bytes :=
  openBracket :: commaSeparated (items.map Padded.bytes) ++ [closeBracket]

/-- The bytes of an object, as its members are spelled. -/
def objectOf (ms : List Member) : Bytes :=
  openBrace :: commaSeparated (ms.map Member.bytes) ++ [closeBrace]

theorem arrayOf_append (items : List Padded) (rest : Bytes)
    : arrayOf items ++ rest =
        openBracket :: (commaSeparated (items.map Padded.bytes) ++ closeBracket :: rest) := by
  simp [arrayOf]

theorem objectOf_append (ms : List Member) (rest : Bytes)
    : objectOf ms ++ rest =
        openBrace :: (commaSeparated (ms.map Member.bytes) ++ closeBrace :: rest) := by
  simp [objectOf]

theorem arrayOf_tight (pieces : List Bytes) : arrayOf (pieces.map .tight) = encodeList pieces := by
  have hbytes : pieces.map (Padded.bytes ∘ .tight) = pieces := by
    simp [Function.comp_def, Padded.bytes_tight]
  rw [arrayOf, List.map_map, hbytes, encodeList]

theorem objectOf_tight (ms : List (String × Bytes))
    : objectOf (ms.map .tight) = encodeRecord ms := by
  have hbytes : ms.map (Member.bytes ∘ .tight) = ms.map fun m => encodeMember m.1 m.2 :=
    List.map_congr_left fun m _ => Member.bytes_tight m
  rw [objectOf, List.map_map, hbytes, encodeRecord]

/-! ### Arrays -/

theorem stops_items (pieces : List Bytes) (rest : Bytes)
    : Stops (pieces.flatMap (comma :: ·) ++ closeBracket :: rest) := by
  cases pieces with
  | nil => exact stops_closeBracket rest
  | cons piece pieces => apply stops_comma

theorem nextItem_true {p : Padded} (hclear : p.Clear) (hbegins : Begins p.written) (rest : Bytes)
    : nextItem true (p.bytes ++ rest) = .ok (some (p.written ++ (p.behind ++ rest))) := by
  obtain ⟨b, s, hwritten, hblank, hbracket⟩ := hbegins
  rw [Padded.bytes_append, hwritten, List.cons_append, nextItem,
    skipBlanks_gap hclear.before hblank]
  dsimp only
  rw [if_neg hbracket, if_pos rfl]

theorem nextItem_false {p : Padded} (hclear : p.Clear) (hbegins : Begins p.written) {gap : Bytes}
    (hgap : Gap gap) (rest : Bytes)
    : nextItem false (gap ++ comma :: (p.bytes ++ rest)) =
        .ok (some (p.written ++ (p.behind ++ rest))) := by
  obtain ⟨b, s, hwritten, hblank, hbracket⟩ := hbegins
  rw [Padded.bytes_append, hwritten, List.cons_append, nextItem, skipBlanks_gap hgap (by decide)]
  dsimp only
  rw [if_neg (by decide), if_neg (by decide), if_pos rfl, skipBlanks_gap hclear.before hblank]
  dsimp only
  rw [if_neg hbracket]

theorem nextItem_end {gap : Bytes} (hgap : Gap gap) (first : Bool) (rest : Bytes)
    : nextItem first (gap ++ closeBracket :: rest) = .ok none := by
  rw [nextItem, hgap.skipBlanks_append]
  rfl

theorem endList_gap {gap : Bytes} (hgap : Gap gap) (rest : Bytes)
    : endList (gap ++ closeBracket :: rest) = .ok rest := by
  rw [endList, hgap.skipBlanks_append]
  rfl

/-- The bytes among the blanks are those of an item, from which it is read. -/
structure ReadsItem (item : Bytes → Except Error (α × Bytes)) (p : Padded) (a : α) : Prop where
  clear : p.Clear
  begins : Begins p.written
  reads : Reads item p.written a

section

variable {item : Bytes → Except Error (α × Bytes)} {ps : List Padded} {as : List α}
  (h : List.Forall₂ (ReadsItem item) ps as)
include h

theorem items_go {gap : Bytes} (hgap : Gap gap) (rest : Bytes) {fuel : Nat}
    (hfuel : ps.length < fuel)
    : ∃ close, Gap close ∧
        items.go item fuel false
            (gap ++ ((ps.map Padded.bytes).flatMap (comma :: ·) ++ closeBracket :: rest)) =
          .ok (as, close ++ closeBracket :: rest) := by
  induction h generalizing gap fuel with
  | nil =>
    obtain ⟨fuel, rfl⟩ := Nat.exists_eq_add_one_of_ne_zero (Nat.ne_zero_of_lt hfuel)
    refine ⟨gap, hgap, ?_⟩
    rw [List.map_nil, List.flatMap_nil, List.nil_append, items.go, nextItem_end hgap]
    rfl
  | @cons p a ps as hitem _ ih =>
    obtain ⟨fuel, rfl⟩ := Nat.exists_eq_add_one_of_ne_zero (Nat.ne_zero_of_lt hfuel)
    obtain ⟨close, hclose, hread⟩ := ih hitem.clear.behind (by simpa using hfuel)
    refine ⟨close, hclose, ?_⟩
    have hstops := hitem.clear.behind.stops (stops_items (ps.map Padded.bytes) rest)
    rw [List.map_cons, List.flatMap_cons, List.append_assoc, List.cons_append, items.go,
      nextItem_false hitem.clear hitem.begins hgap, ok_bind]
    dsimp only
    rw [hitem.reads _ hstops, ok_bind]
    dsimp only
    rw [hread]
    rfl

/-- The items of an array are read up to its end. -/
theorem items_commaSeparated (rest : Bytes)
    : ∃ close, Gap close ∧
        items item (commaSeparated (ps.map Padded.bytes) ++ closeBracket :: rest) =
          .ok (as, close ++ closeBracket :: rest) := by
  cases h with
  | nil => exact ⟨[], gap_nil, rfl⟩
  | @cons p a ps as hitem hitems =>
    -- There is a comma for each of the other items, so there is fuel for them.
    have hlength := length_le_flatMap_comma (ps.map Padded.bytes)
    rw [List.length_map] at hlength
    have hfuel : ps.length < (p.bytes ++
        ((ps.map Padded.bytes).flatMap (comma :: ·) ++ closeBracket :: rest)).length := by
      rw [List.length_append, List.length_append, List.length_cons]
      omega
    obtain ⟨close, hclose, hread⟩ := items_go hitems hitem.clear.behind rest hfuel
    refine ⟨close, hclose, ?_⟩
    have hstops := hitem.clear.behind.stops (stops_items (ps.map Padded.bytes) rest)
    rw [List.map_cons, commaSeparated_cons, List.append_assoc, items, items.go,
      nextItem_true hitem.clear hitem.begins, ok_bind]
    dsimp only
    rw [hitem.reads _ hstops, ok_bind]
    dsimp only
    rw [hread]
    rfl

end

/-- An array is read by a decoder that reads each of its items. -/
theorem reads_arrayOf {decoder : Decoder α} {depth : Nat} {ps : List Padded} {as : List α}
    (h : List.Forall₂ (ReadsItem (decoder depth)) ps as)
    : Reads (list decoder (depth + 1)) (arrayOf ps) as := by
  intro rest _
  obtain ⟨close, hclose, hread⟩ := items_commaSeparated h rest
  rw [arrayOf_append, list, skipBlanks_of_not_blank (by decide)]
  dsimp only
  rw [if_pos rfl, enter, hread, ok_bind]
  dsimp only
  rw [endList_gap hclose]
  rfl

theorem reads_list {decoder : Decoder α} {depth : Nat} {pieces : List Bytes} {as : List α}
    (h : List.Forall₂ (fun piece a => Begins piece ∧ Reads (decoder depth) piece a) pieces as)
    : Reads (list decoder (depth + 1)) (encodeList pieces) as := by
  rw [← arrayOf_tight]
  apply reads_arrayOf
  rw [List.forall₂_map_left_iff]
  exact h.imp fun piece _ hread => ⟨Padded.clear_tight piece, hread.1, hread.2⟩

/-! ### Objects -/

/-- A member of an object as it is spelled, and the name that its key denotes. -/
structure Named (m : Member) (name : String) : Prop where
  clear : m.Clear
  key : Spells m.key.written name

theorem named_tight (m : String × Bytes) : Named (.tight m) m.1 := by
  exact ⟨Member.clear_tight m, spells_encodeString m.1⟩

/-- What is left of a member once its key has been read. -/
def afterKey (m : Member) (tail : Bytes) : Bytes :=
  m.key.behind ++ colon :: (m.value.bytes ++ tail)

section

variable {name : String} {m : Member} (h : Named m name)
include h

theorem colonAfterKey_afterKey (tail : Bytes)
    : colonAfterKey (afterKey m tail) = .ok (m.value.bytes ++ tail) := by
  rw [afterKey, colonAfterKey, skipBlanks_gap h.clear.key.behind (by decide)]
  rfl

/-- Once the name has been read, the rest is up to the step. -/
theorem string_named (tail : Bytes)
    : ∃ s, m.bytes ++ tail = m.key.before ++ quote :: s ∧
        Token.string s = .ok (name, afterKey m tail) := by
  obtain ⟨body, hwritten, hdenotes⟩ := h.key
  exact ⟨_, Member.bytes_append hwritten tail, hdenotes.string _⟩

variable {step : δ → String → Bytes → Except Error (δ × Bytes)} (acc : δ)

theorem members_go_true (fuel : Nat) (tail : Bytes)
    : members.go step (fuel + 1) true acc (m.bytes ++ tail) =
        (step acc name (afterKey m tail) >>= fun (acc, s) => members.go step fuel false acc s) := by
  obtain ⟨s, hbytes, hname⟩ := string_named h tail
  have hnext : nextKey true (m.bytes ++ tail) = .ok (some s) := by
    rw [nextKey, hbytes, skipBlanks_gap h.clear.key.before (by decide)]
    rfl
  rw [members.go, hnext, ok_bind]
  dsimp only
  rw [hname]
  rfl

theorem members_go_false {gap : Bytes} (hgap : Gap gap) (fuel : Nat) (tail : Bytes)
    : members.go step (fuel + 1) false acc (gap ++ comma :: (m.bytes ++ tail)) =
        (step acc name (afterKey m tail) >>= fun (acc, s) => members.go step fuel false acc s) := by
  obtain ⟨s, hbytes, hname⟩ := string_named h tail
  have hnext : nextKey false (gap ++ comma :: (m.bytes ++ tail)) = .ok (some s) := by
    rw [nextKey, skipBlanks_gap hgap (by decide)]
    dsimp only
    rw [if_neg (by decide), if_neg (by decide), if_pos rfl, hbytes,
      skipBlanks_gap h.clear.key.before (by decide)]
    rfl
  rw [members.go, hnext, ok_bind]
  dsimp only
  rw [hname]
  rfl

end

theorem stops_members (pieces : List Bytes) {close : Bytes} (hclose : Gap close) (rest : Bytes)
    : Stops (pieces.flatMap (comma :: ·) ++ (close ++ closeBrace :: rest)) := by
  cases pieces with
  | nil => exact hclose.stops (stops_closeBrace rest)
  | cons piece pieces => apply stops_comma

theorem nextKey_end {gap : Bytes} (hgap : Gap gap) (first : Bool) (rest : Bytes)
    : nextKey first (gap ++ closeBrace :: rest) = .ok none := by
  rw [nextKey, hgap.skipBlanks_append]
  rfl

theorem endObject_gap {gap : Bytes} (hgap : Gap gap) (rest : Bytes)
    : endObject (gap ++ closeBrace :: rest) = .ok rest := by
  rw [endObject, hgap.skipBlanks_append]
  rfl

section

variable {step : δ → String → Bytes → Except Error (δ × Bytes)}

/-- The members are taken one after the other, each of them up to where its value ends. -/
inductive Takes (step : δ → String → Bytes → Except Error (δ × Bytes))
    : δ → List (Member × String) → δ → Prop where
  | nil (acc : δ) : Takes step acc [] acc
  | cons {acc next last : δ} {m : Member} {name : String} {ms : List (Member × String)} :
    Named m name →
    (∀ tail, Stops tail → step acc name (afterKey m tail) = .ok (next, m.value.behind ++ tail)) →
    Takes step next ms last →
    Takes step acc ((m, name) :: ms) last

namespace Takes

variable {acc last : δ} {ms : List (Member × String)} (h : Takes step acc ms last) {close : Bytes}
  (hclose : Gap close)
include h hclose

theorem members_go {gap : Bytes} (hgap : Gap gap) (rest : Bytes) {fuel : Nat}
    (hfuel : ms.length < fuel)
    : ∃ close', Gap close' ∧
        members.go step fuel false acc
            (gap ++ (((ms.map (·.1)).map Member.bytes).flatMap (comma :: ·) ++
              (close ++ closeBrace :: rest))) =
          .ok (last, close' ++ closeBrace :: rest) := by
  induction h generalizing gap fuel with
  | nil acc =>
    obtain ⟨fuel, rfl⟩ := Nat.exists_eq_add_one_of_ne_zero (Nat.ne_zero_of_lt hfuel)
    refine ⟨gap ++ close, hgap.append hclose, ?_⟩
    rw [List.map_nil, List.map_nil, List.flatMap_nil, List.nil_append, ← List.append_assoc,
      members.go, nextKey_end (hgap.append hclose)]
    rfl
  | @cons acc next last m name ms hnamed hstep _ ih =>
    obtain ⟨fuel, rfl⟩ := Nat.exists_eq_add_one_of_ne_zero (Nat.ne_zero_of_lt hfuel)
    obtain ⟨close', hclose', hread⟩ := ih hnamed.clear.value.behind (by simpa using hfuel)
    refine ⟨close', hclose', ?_⟩
    have hstops := stops_members ((ms.map (·.1)).map Member.bytes) hclose rest
    rw [List.map_cons, List.map_cons, List.flatMap_cons, List.append_assoc, List.cons_append,
      members_go_false hnamed acc hgap, hstep _ hstops]
    exact hread

/-- The members of an object are read up to its end. -/
theorem members_commaSeparated (rest : Bytes)
    : ∃ close', Gap close' ∧
        members step acc (commaSeparated ((ms.map (·.1)).map Member.bytes) ++
            (close ++ closeBrace :: rest)) =
          .ok (last, close' ++ closeBrace :: rest) := by
  cases h with
  | nil =>
    refine ⟨close, hclose, ?_⟩
    rw [List.map_nil, List.map_nil, commaSeparated, List.nil_append, members, members.go,
      nextKey_end hclose]
    rfl
  | @cons _ next _ m name ms hnamed hstep htakes =>
    have hlength := length_le_flatMap_comma ((ms.map (·.1)).map Member.bytes)
    rw [List.length_map, List.length_map] at hlength
    have hfuel : ms.length < (m.bytes ++ (((ms.map (·.1)).map Member.bytes).flatMap (comma :: ·) ++
        (close ++ closeBrace :: rest))).length := by
      rw [List.length_append, List.length_append, List.length_append, List.length_cons]
      omega
    obtain ⟨close', hclose', hread⟩ :=
      htakes.members_go hclose hnamed.clear.value.behind rest hfuel
    refine ⟨close', hclose', ?_⟩
    have hstops := stops_members ((ms.map (·.1)).map Member.bytes) hclose rest
    rw [List.map_cons, List.map_cons, commaSeparated_cons, List.append_assoc, members,
      members_go_true hnamed, hstep _ hstops]
    exact hread

end Takes

/-! ### Members without blanks -/

/-- The members are read one after the other, each of them after its key. -/
inductive Folds (step : δ → String → Bytes → Except Error (δ × Bytes))
    : δ → List (String × Bytes) → δ → Prop where
  | nil (acc : δ) : Folds step acc [] acc
  | cons {acc next last : δ} {key : String} {written : Bytes} {rest : List (String × Bytes)} :
    Reads (step acc key) (colon :: written) next →
    Folds step next rest last →
    Folds step acc ((key, written) :: rest) last

theorem Folds.append {acc next last : δ} {front back : List (String × Bytes)}
    (hfront : Folds step acc front next) (hback : Folds step next back last)
    : Folds step acc (front ++ back) last := by
  induction hfront with
  | nil acc => exact hback
  | cons hstep _ ih => exact .cons hstep (ih hback)

theorem Folds.takes {acc last : δ} {ms : List (String × Bytes)} (h : Folds step acc ms last)
    {gap : Bytes} (hgap : Gap gap)
    : Takes step acc (ms.map fun m => (Member.afterGap gap m, m.1)) last := by
  induction h with
  | nil acc => exact .nil acc
  | @cons acc next last key written rest hstep _ ih =>
    refine .cons ⟨⟨⟨hgap, gap_nil⟩, Padded.clear_tight written⟩, spells_encodeString key⟩ ?_ ih
    intro tail htail
    have hkey : afterKey (Member.afterGap gap (key, written)) tail = colon :: written ++ tail := by
      simp [afterKey, Member.afterGap, Padded.bytes_tight]
    rw [hkey, hstep tail htail]
    rfl

end

/-! ### Records -/

/-- A member whose name is that of a field is read by the field, mandatory or optional. -/
theorem reads_member (r : Record δ α) {depth : Nat} {draft : δ} {key name : String}
    {required : Bool} {written : Bytes} {get : δ → Option β} {set : δ → β → δ} {decoder : Decoder β}
    {b : β}
    (hfield : r.fields.find? (·.name == key) =
      some ⟨name, required, fun d => (get d).isSome, fun d => decoder.map (set d)⟩)
    (habsent : get draft = none) (h : Reads (decoder depth) written b)
    : Reads (r.member depth draft key) (colon :: written) (set draft b) := by
  intro rest hrest
  have hset := h.map (set draft) rest hrest
  have hcolon : colonAfterKey (colon :: (written ++ rest)) = .ok (written ++ rest) := rfl
  rw [Record.member, hfield]
  dsimp only
  rw [if_neg (by simp [habsent]), List.cons_append, hcolon, ok_bind, hset]

section

variable {r : Record δ α} {depth : Nat} {draft : δ} {a : α}

theorem decoder_commaSeparated {ms : List (Member × String)}
    (h : Takes (r.member depth) r.empty ms draft) (hbuild : r.build draft = .ok a) {close : Bytes}
    (hclose : Gap close) (rest : Bytes)
    : r.decoder (depth + 1) (openBrace ::
          (commaSeparated ((ms.map (·.1)).map Member.bytes) ++ (close ++ closeBrace :: rest))) =
        .ok (a, rest) := by
  obtain ⟨close', hclose', hread⟩ := h.members_commaSeparated hclose rest
  rw [Record.decoder, skipBlanks_of_not_blank (by decide)]
  dsimp only
  rw [if_neg (by decide), if_pos rfl, enter, hread, ok_bind]
  dsimp only
  rw [hbuild, ok_bind, endObject_gap hclose']
  rfl

/-- A record is read from an object once all its members are taken. -/
theorem reads_objectOf {ms : List (Member × String)} (h : Takes (r.member depth) r.empty ms draft)
    (hbuild : r.build draft = .ok a)
    : Reads (r.decoder (depth + 1)) (objectOf (ms.map (·.1))) a := by
  intro rest _
  rw [objectOf_append]
  exact decoder_commaSeparated h hbuild gap_nil rest

theorem reads_record {ms : List (String × Bytes)} (h : Folds (r.member depth) r.empty ms draft)
    (hbuild : r.build draft = .ok a)
    : Reads (r.decoder (depth + 1)) (encodeRecord ms) a := by
  have hreads := reads_objectOf (h.takes gap_nil) hbuild
  rw [List.map_map] at hreads
  rw [← objectOf_tight]
  exact hreads

/-- What stands before each member that has a line of its own. -/
def indent : Bytes :=
  [newline, space, space]

/-- The members, each of them with a space behind its colon. -/
def spaced (ms : List (String × Bytes)) : List (String × Bytes) :=
  ms.map fun (k, v) => (k, space :: v)

theorem newline_commaLines (piece : Bytes) (pieces : List Bytes)
    : newline :: encodeRecordIndented.commaLines (piece :: pieces) =
        commaSeparated ((piece :: pieces).map (indent ++ ·)) := by
  induction pieces generalizing piece with
  | nil => rfl
  | cons next rest ih =>
    rw [List.map_cons, commaSeparated_cons, encodeRecordIndented.commaLines, ih next]
    . simp [commaSeparated_cons, indent]
    . simp

theorem encodeRecordIndented_append (m : String × Bytes) (ms : List (String × Bytes)) (rest : Bytes)
    : encodeRecordIndented (m :: ms) ++ rest = openBrace ::
        (commaSeparated ((spaced (m :: ms)).map (Member.bytes ∘ .afterGap indent)) ++
          ([newline] ++ closeBrace :: rest)) := by
  have hpieces : (spaced (m :: ms)).map (Member.bytes ∘ .afterGap indent) =
      ((m :: ms).map fun (k, v) => encodeString k ++ colon :: space :: v).map (indent ++ ·) := by
    rw [spaced, List.map_map, List.map_map]
    apply List.map_congr_left
    intro m _
    exact Member.bytes_afterGap indent (m.1, space :: m.2)
  rw [hpieces, List.map_cons, ← newline_commaLines, encodeRecordIndented]
  simp

theorem reads_record_indented {m : String × Bytes} {ms : List (String × Bytes)}
    (h : Folds (r.member depth) r.empty (spaced (m :: ms)) draft) (hbuild : r.build draft = .ok a)
    : Reads (r.decoder (depth + 1)) (encodeRecordIndented (m :: ms)) a := by
  have hindent : Gap indent := by simp [Gap, indent, isBlank]
  have hclose : Gap [newline] := by simp [Gap, isBlank]
  intro rest _
  have hread := decoder_commaSeparated (h.takes hindent) hbuild hclose rest
  rw [List.map_map, List.map_map] at hread
  rw [encodeRecordIndented_append]
  exact hread

end

end Decoder

end StateRelay.Json
