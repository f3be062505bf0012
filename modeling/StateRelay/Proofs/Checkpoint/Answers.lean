import StateRelay.Proofs.Checkpoint.Directory

/-!
This module contains the store in a directory next to the one in memory: whatever is asked of them,
as long as no name or path is too long, both give the same answers.
-/

namespace StateRelay
namespace Checkpoint

inductive Operation where
  | save (c : Checkpoint)
  | load (consumer : String)
  | delete (consumer : String)
  /-- The store is opened anew. -/
  | reopen

inductive Answer where
  | done
  | loaded (stored : Option Checkpoint)

/-- What an operation does; `reopen` opens the store again. -/
def Operation.perform (store : Store σ) (reopen : Action σ Error Unit)
    : Operation → Action σ Error Answer
  | .save c => do
    store.save c
    return .done
  | .load consumer => return .loaded (← store.load consumer)
  | .delete consumer => do
    store.delete consumer
    return .done
  | .reopen => do
    reopen
    return .done

/-- What the operations answer, each of them performed on what the ones before it left. -/
def answers (store : Store σ) (reopen : Action σ Error Unit) (s : σ)
    : List Operation → List (Except Error Answer)
  | [] => []
  | operation :: rest =>
    let done := (operation.perform store reopen).run s
    done.result :: answers store reopen done.state rest

/-- The consumer that the operation is about is not too long, and neither is a path it uses. -/
def Operation.Within (dir : String) : Operation → Prop
  | .save c => c.consumer.utf8ByteSize ≤ 117 ∧
      (Directory.draftPath dir c.consumer).utf8ByteSize ≤ FileTree.maxPath
  | .load consumer => consumer.utf8ByteSize ≤ 117 ∧
      (Directory.path dir consumer).utf8ByteSize ≤ FileTree.maxPath
  | .delete consumer => consumer.utf8ByteSize ≤ 117 ∧
      (Directory.path dir consumer).utf8ByteSize ≤ FileTree.maxPath
  | .reopen => True

instance (dir : String) (operation : Operation) : Decidable (operation.Within dir) :=
  match operation with
  | .save _ => inferInstanceAs (Decidable (_ ∧ _))
  | .load _ => inferInstanceAs (Decidable (_ ∧ _))
  | .delete _ => inferInstanceAs (Decidable (_ ∧ _))
  | .reopen => inferInstanceAs (Decidable True)

theorem answers_cons {store : Store σ} {reopen : Action σ Error Unit} {s s' : σ}
    {operation : Operation} {result : Except Error Answer}
    (h : (operation.perform store reopen).Ends s result s') (rest : List Operation)
    : answers store reopen s (operation :: rest) = result :: answers store reopen s' rest := by
  rw [answers, h.1, h.2]

namespace Directory

open FileTree (checkPath)

variable {dir : String} {p : FileTree.Place} {t : FileTree} {table : Table}

theorem Mirrors.ends_perform (h : Mirrors dir p t table) (hdir : checkPath dir = .ok ())
    {operation : Operation} (hwithin : operation.Within dir)
    : ∃ answer t' table',
        (operation.perform (store dir) (make dir)).Ends t (.ok answer) t' ∧
        (operation.perform Table.store (Action.succeed ())).Ends table (.ok answer) table' ∧
        Mirrors dir p t' table' := by
  cases operation with
  | save c =>
    obtain ⟨hconsumer, hpath⟩ := hwithin
    have hfits := fits_fileName hdir hconsumer
      (Nat.le_trans (utf8ByteSize_path_le dir c.consumer) hpath)
    obtain ⟨t', hends, h'⟩ := h.ends_save hfits (fits_draftName hdir hconsumer hpath)
    exact ⟨.done, t', table.put c, hends.bind_ok ⟨rfl, rfl⟩, ⟨rfl, rfl⟩, h'⟩
  | load consumer =>
    have hends := h.ends_load (fits_fileName hdir hwithin.1 hwithin.2)
    exact ⟨.loaded (table.lookup consumer), t, table, hends.bind_ok ⟨rfl, rfl⟩, ⟨rfl, rfl⟩, h⟩
  | delete consumer =>
    obtain ⟨t', hends, h'⟩ := h.ends_delete (fits_fileName hdir hwithin.1 hwithin.2)
    exact ⟨.done, t', table.erase consumer, hends.bind_ok ⟨rfl, rfl⟩, ⟨rfl, rfl⟩, h'⟩
  | reopen =>
    exact ⟨.done, t, table, (h.ends_make hdir).bind_ok ⟨rfl, rfl⟩, ⟨rfl, rfl⟩, h⟩

theorem Mirrors.answers_eq {operations : List Operation} (h : Mirrors dir p t table)
    (hdir : checkPath dir = .ok ()) (hwithin : ∀ operation ∈ operations, operation.Within dir)
    : answers (store dir) (make dir) t operations
          = answers Table.store (Action.succeed ()) table operations ∧
        ∀ answer ∈ answers (store dir) (make dir) t operations, ∃ a, answer = .ok a := by
  induction operations generalizing t table with
  | nil => simp [answers]
  | cons operation rest ih =>
    rw [List.forall_mem_cons] at hwithin
    obtain ⟨answer, t', table', hfile, htable, h'⟩ := h.ends_perform hdir hwithin.1
    have ⟨hsame, hok⟩ := ih h' hwithin.2
    rw [answers_cons hfile, answers_cons htable, hsame]
    rw [hsame] at hok
    refine ⟨rfl, ?_⟩
    rw [List.forall_mem_cons]
    exact ⟨⟨answer, rfl⟩, hok⟩

/-- The path leads to a directory with nothing in it. -/
def IsEmptyDirectory (t : FileTree) (dir : String) : Prop :=
  ∃ p, t.resolve dir = .ok p ∧ t.get? p = some .directory ∧ t.below p = []

theorem mirrors_of_below_eq_nil (hleads : t.Leads dir p) (hempty : t.below p = [])
    : Mirrors dir p t [] where
  leads := hleads
  draft consumer := FileTree.get?_of_below_eq_nil hempty (isName_draftName consumer).ne_top
  file consumer := FileTree.get?_of_below_eq_nil hempty (isName_fileName consumer).ne_top
  own := by
    intro consumer c hc
    contradiction

/--
Whatever is saved, loaded, deleted and opened again, a directory that was empty answers as the
memory does, and nothing fails.
-/
theorem answers_of_empty_directory (t : FileTree) (dir : String) (operations : List Operation)
    (hempty : IsEmptyDirectory t dir) (hwithin : ∀ operation ∈ operations, operation.Within dir)
    : answers (store dir) (make dir) t operations
          = answers Table.store (Action.succeed ()) [] operations ∧
        ∀ answer ∈ answers (store dir) (make dir) t operations, ∃ a, answer = .ok a := by
  obtain ⟨p, hresolve, hdirectory, hbelow⟩ := hempty
  have ⟨hleads, hdir⟩ := FileTree.leads_of_resolve hresolve hdirectory
  exact (mirrors_of_below_eq_nil hleads hbelow).answers_eq hdir hwithin

theorem answers_of_empty_directory_reopened
    : IsEmptyDirectory ⟨[(["progress"], .directory)]⟩ "progress" ∧
        answers (store "progress") (make "progress") ⟨[(["progress"], .directory)]⟩
            [.save ⟨"web/sink", 7, 12, 5⟩, .reopen, .load "web_sink", .delete "web_sink", .delete "",
              .load "web/sink"]
          = [.ok .done, .ok .done, .ok (.loaded none), .ok .done, .ok .done,
              .ok (.loaded (some ⟨"web/sink", 7, 12, 5⟩))] := by
  have hcheck : checkPath "progress" = .ok () := by
    rw [FileTree.checkPath_eq_ok_iff]
    decide
  have hnames : FileTree.names "progress" = ["progress"] := by decide +kernel
  have hempty : IsEmptyDirectory ⟨[(["progress"], .directory)]⟩ "progress" := by
    refine ⟨["progress"], ?_, by decide, rfl⟩
    rw [FileTree.resolve, hcheck, hnames]
    rfl
  refine ⟨hempty, ?_⟩
  have h := answers_of_empty_directory _ _ [.save ⟨"web/sink", 7, 12, 5⟩, .reopen,
    .load "web_sink", .delete "web_sink", .delete "", .load "web/sink"] hempty (by decide +kernel)
  exact h.1

/-! ### Long paths -/

/-- A path to the place where relative paths begin, with slashes at its end. -/
def slashed (n : Nat) : String :=
  "." ++ String.ofList (List.replicate n '/')

theorem toList_slashed (n : Nat) : (slashed n).toList = ['.'] ++ List.replicate n '/' := by
  rw [slashed, String.toList_append]
  exact congrArg (['.'] ++ ·) String.toList_ofList

theorem utf8ByteSize_slashed (n : Nat) : (slashed n).utf8ByteSize = n + 1 := by
  rw [slashed, String.utf8ByteSize_append, Bytes.utf8ByteSize_replicate (by decide), Nat.add_comm]
  rfl

theorem checkPath_slashed {n : Nat} (hn : n < FileTree.maxPath)
    : checkPath (slashed n) = .ok () := by
  rw [FileTree.checkPath_eq_ok_iff, utf8ByteSize_slashed, toList_slashed]
  refine ⟨?_, hn⟩
  rw [List.mem_append, List.mem_replicate]
  simp

theorem resolve_slashed {n : Nat} (hn : n < FileTree.maxPath) (t : FileTree)
    : t.resolve (slashed n) = .ok [] := by
  have hfront : FileTree.front (slashed n).toList = ["."] := by
    have hpieces : FileTree.pieces ['.'] = ["."] := by decide
    rw [toList_slashed, FileTree.front, FileTree.pieces_append_slashes, hpieces]
    rfl
  rw [FileTree.resolve, checkPath_slashed hn, FileTree.names_eq, hfront]
  split
  . rfl
  . rfl

/-- A directory of any path can be empty and yet have no room for a draft's path. -/
theorem answers_of_long_path {n : Nat} (hn : n < FileTree.maxPath) {c : Checkpoint}
    (hpath : FileTree.maxPath < (draftPath (slashed n) c.consumer).utf8ByteSize)
    : answers (store (slashed n)) (make (slashed n)) {} [.save c]
        = [.error (.write (draftPath (slashed n) c.consumer) .nameTooLong)] := by
  have hsave := ends_save_of_lt (checkPath_slashed hn) hpath {}
  exact answers_cons (Action.Ends.bind_error hsave) []

theorem isEmptyDirectory_slashed {n : Nat} (hn : n < FileTree.maxPath)
    : IsEmptyDirectory {} (slashed n) := by
  exact ⟨[], resolve_slashed hn {}, rfl, rfl⟩

/-- A consumer of as many bytes as one can have. -/
def longest : String :=
  String.ofList (List.replicate 117 'x')

theorem utf8ByteSize_longest : longest.utf8ByteSize = 117 := by
  apply Bytes.utf8ByteSize_replicate
  decide

/-- In an empty directory with a path of 3901 bytes, a save fails that succeeds in memory. -/
theorem answers_differ_under_long_path
    : IsEmptyDirectory {} (slashed 3900) ∧ longest.utf8ByteSize ≤ 117 ∧
        answers (store (slashed 3900)) (make (slashed 3900)) {} [.save ⟨longest, 7, 12, 5⟩]
          = [.error (.write (draftPath (slashed 3900) longest) .nameTooLong)] ∧
        answers Table.store (Action.succeed ()) [] [.save ⟨longest, 7, 12, 5⟩] = [.ok .done] := by
  refine ⟨isEmptyDirectory_slashed (by decide), Nat.le_of_eq utf8ByteSize_longest, ?_, rfl⟩
  apply answers_of_long_path (by decide)
  have hjoin := FileTree.le_utf8ByteSize_join (slashed 3900) (draftName longest)
  rw [utf8ByteSize_slashed, utf8ByteSize_draftName, utf8ByteSize_longest] at hjoin
  rw [draftPath_eq]
  exact Nat.lt_of_lt_of_le (by decide) hjoin

end Directory
end Checkpoint
end StateRelay
