import StateRelay.Entry.Codec

/-!
Batches under a byte budget. Entries are taken in order for as long as the sum of their sizes stays
within the budget; an entry that is too large for any batch is a batch of its own.
-/

namespace StateRelay

namespace Batch

/-- How batches are packed: what is held of the batch that may still grow, and what is done with
it. -/
structure Packer (m : Type → Type) (β : Type) where
  /-- Whether there is no room for an entry of the given size. -/
  isFull : β → (size : Nat) → m Bool
  /-- The batch that is held. -/
  close : β → m (List Entry)
  /-- Holds a batch that begins with an entry of the given size. -/
  renew : β → Entry → (size : Nat) → m β
  /-- Adds an entry of the given size. -/
  add : β → Entry → (size : Nat) → m β
  /-- What is held when no entry is left: a batch, unless there are no entries at all. -/
  finish : β → m (List (List Entry))

namespace Packer

variable {m : Type → Type} [Monad m]

/-- The batches that come of what is held and of `entries`. -/
def pack (p : Packer m β) (held : β) : List Entry → m (List (List Entry))
  | [] => p.finish held
  | e :: rest => do
    let size := e.encodedLength
    if ← p.isFull held size then
      let batch ← p.close held
      let held ← p.renew held e size
      let more ← p.pack held rest
      return batch :: more
    else
      let held ← p.add held e size
      p.pack held rest

/-- Holds the entries of a batch, the last one first, and the sum of their sizes, which `plus` adds
up from `zero`. -/
def summing (plus : α → Nat → m α) (zero : α) (isOver : α → Bool) :
    Packer m (List Entry × α) where
  isFull | (batch, sum), size => if batch.isEmpty then pure false else isOver <$> plus sum size
  close | (batch, _) => pure batch.reverse
  renew | _, e, size => ([e], ·) <$> plus zero size
  add | (batch, sum), e, size => (e :: batch, ·) <$> plus sum size
  finish | (batch, _) => pure (if batch.isEmpty then [] else [batch.reverse])

end Packer

/-- Splits `entries` into batches of at most `budget`; `size` is the sum of the sizes of `batch`, to
which the next entry may still be added. -/
def splitFrom (budget : Nat) (batch : List Entry) (size : Nat) (entries : List Entry) :
    List (List Entry) :=
  Id.run ((Packer.summing (fun sum n => pure (sum + n)) 0 (budget < ·)).pack (batch, size) entries)

theorem splitFrom_nil (budget : Nat) (batch : List Entry) (size : Nat) :
    splitFrom budget batch size [] = if batch.isEmpty then [] else [batch.reverse] := rfl

theorem splitFrom_cons (budget : Nat) (batch : List Entry) (size : Nat) (e : Entry)
    (rest : List Entry) :
    splitFrom budget batch size (e :: rest) =
      if !batch.isEmpty && budget < size + e.encodedLength then
        batch.reverse :: splitFrom budget [e] e.encodedLength rest
      else splitFrom budget (e :: batch) (size + e.encodedLength) rest := by
  cases batch with
  | nil => rfl
  | cons last others =>
    show (if decide (budget < size + e.encodedLength) then
        (last :: others).reverse :: splitFrom budget [e] (0 + e.encodedLength) rest
      else _) = _
    rw [Nat.zero_add]
    rfl

/-- The fewest batches, each a run of `entries` whose sizes sum up to at most `budget` unless it is
a single entry. -/
def split (budget : UInt64) (entries : List Entry) : List (List Entry) :=
  splitFrom budget.toNat [] 0 entries

end Batch

end StateRelay
