import StateRelay.Checkpoint.Store
import StateRelay.Proofs.Action
import StateRelay.Proofs.Lookup

/-!
This module contains what it means that a store keeps checkpoints: `view` tells which checkpoint
each consumer has, a load tells the same, and only a save that succeeds changes it. The store in
memory is one, and remains one when its saves fail now and then.
-/

namespace StateRelay
namespace Checkpoint

def put (view : String → Option Checkpoint) (c : Checkpoint) : String → Option Checkpoint :=
  fun consumer => if consumer = c.consumer then some c else view consumer

theorem put_self (view : String → Option Checkpoint) (c : Checkpoint)
    : put view c c.consumer = some c := by
  simp [put]

theorem put_of_ne (view : String → Option Checkpoint) {c : Checkpoint} {consumer : String}
    (h : consumer ≠ c.consumer)
    : put view c consumer = view consumer := by
  simp [put, h]

theorem foldl_put_of_consumer {checkpoints : List Checkpoint} {consumer : String}
    (h : ∀ c ∈ checkpoints, c.consumer = consumer) (view : String → Option Checkpoint)
    : checkpoints.foldl put view consumer = checkpoints.getLast?.or (view consumer) := by
  induction checkpoints generalizing view with
  | nil => rfl
  | cons c rest ih =>
    have hc := h c List.mem_cons_self
    rw [List.foldl_cons, ih, List.getLast?_cons, ← hc, put_self]
    . cases rest.getLast? with
      | none => rfl
      | some _ => rfl
    . intro c' hc'
      exact h c' (List.mem_cons_of_mem c hc')

theorem foldl_put_of_ne {checkpoints : List Checkpoint} {consumer other : String}
    (h : ∀ c ∈ checkpoints, c.consumer = consumer) (hother : other ≠ consumer)
    (view : String → Option Checkpoint)
    : checkpoints.foldl put view other = view other := by
  induction checkpoints generalizing view with
  | nil => rfl
  | cons c rest ih =>
    have hc := h c List.mem_cons_self
    rw [List.foldl_cons, ih, put_of_ne]
    . rw [hc]
      exact hother
    . intro c' hc'
      exact h c' (List.mem_cons_of_mem c hc')

/-- The store keeps the checkpoints that `view` tells of. A save that fails keeps nothing. -/
structure Store.Keeps (store : Store σ) (view : σ → String → Option Checkpoint) : Prop where
  load : ∀ consumer s, (store.load consumer).Meets s
    (fun stored s' => stored = view s consumer ∧ view s' = view s) (fun _ s' => view s' = view s)
  save : ∀ c s, (store.save c).Meets s
    (fun _ s' => view s' = put (view s) c) (fun _ s' => view s' = view s)

structure Store.Reliable (store : Store σ) : Prop where
  load : ∀ consumer s, ∃ stored, ((store.load consumer).run s).result = .ok stored
  save : ∀ c s, ((store.save c).run s).result = .ok ()

namespace Table

theorem lookup_erase (t : Table) (consumer other : String)
    : (erase t consumer).lookup other = if other = consumer then none else t.lookup other := by
  unfold erase
  rw [lookup_filter (fun owner => decide (owner ≠ consumer))]
  simp

theorem lookup_put (t : Table) (c : Checkpoint)
    : (fun consumer => (Table.put t c).lookup consumer) =
        Checkpoint.put (fun consumer => t.lookup consumer) c := by
  funext consumer
  unfold Table.put Checkpoint.put
  rw [List.lookup_cons]
  split
  . next h =>
    rw [if_pos (by simpa using h)]
  . next h =>
    have hne : consumer ≠ c.consumer := by simpa using h
    rw [if_neg hne, lookup_erase, if_neg hne]

theorem store_keeps : store.Keeps fun t consumer => t.lookup consumer where
  load consumer t := by
    exact ⟨rfl, rfl⟩
  save c t := by
    exact lookup_put t c

end Table

/-- A store with a list of faults: each of them makes one save fail, which then does nothing. -/
def Store.faulty (store : Store σ) : Store (List (Option Error) × σ) where
  load consumer := (store.load consumer).zoom (·.2) fun s t => (t.1, s)
  save c := do
    match (← Action.read).1 with
    | some e :: rest =>
      Action.update fun t => (rest, t.2)
      Action.fail e
    | none :: rest =>
      Action.update fun t => (rest, t.2)
      (store.save c).zoom (·.2) fun s t => (t.1, s)
    | [] => (store.save c).zoom (·.2) fun s t => (t.1, s)
  delete consumer := (store.delete consumer).zoom (·.2) fun s t => (t.1, s)

theorem Store.Keeps.faulty {store : Store σ} {view : σ → String → Option Checkpoint}
    (h : store.Keeps view)
    : store.faulty.Keeps fun t => view t.2 where
  load consumer t := by
    rw [Store.faulty, Action.meets_zoom]
    exact h.load consumer t.2
  save c t := by
    have hfaulty := (h.save c t.2).faulty fun _ => rfl
    obtain ⟨faults, s⟩ := t
    match faults with
    | [] | none :: _ | some _ :: _ => exact hfaulty

end Checkpoint
end StateRelay
