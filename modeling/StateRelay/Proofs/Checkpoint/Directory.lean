import StateRelay.Checkpoint.Directory
import StateRelay.Proofs.Checkpoint.Codec
import StateRelay.Proofs.Checkpoint.Store
import StateRelay.Proofs.FileTree.Basic
import StateRelay.Proofs.Text

/-!
This module contains what the store that keeps its checkpoints in a directory does to the files
there. Each consumer has a file and a draft of its own, and a checkpoint that is saved is loaded
again.
-/

namespace StateRelay
namespace Checkpoint
namespace Directory

open FileTree (join Leads Fits IsName IsFixed checkPath maxName maxPath)

/-! ### Names -/

def fileName (consumer : String) : String :=
  Hex.ofString consumer ++ ".checkpoint.json"

def draftName (consumer : String) : String :=
  fileName consumer ++ ".tmp"

theorem path_eq (dir consumer : String) : path dir consumer = join dir (fileName consumer) := by
  rfl

theorem draftPath_eq (dir consumer : String)
    : draftPath dir consumer = join dir (draftName consumer) := by
  rw [draftPath, path_eq, FileTree.join_append]
  rfl

theorem isName_fileName (consumer : String) : IsName (fileName consumer) := by
  apply FileTree.isName_append
  . exact Hex.slash_not_mem_ofString consumer
  . exact Hex.nul_not_mem_ofString consumer
  . decide
  . decide
  . decide

theorem isName_draftName (consumer : String) : IsName (draftName consumer) := by
  unfold draftName
  apply FileTree.isName_append
  . exact (isName_fileName consumer).slash
  . exact (isName_fileName consumer).nul
  . decide
  . decide
  . decide

theorem fileName_injective {a b : String} (h : fileName a = fileName b) : a = b := by
  apply Hex.ofString_injective
  unfold fileName at h
  rwa [String.append_left_inj] at h

theorem draftName_injective {a b : String} (h : draftName a = draftName b) : a = b := by
  apply fileName_injective
  unfold draftName at h
  rwa [String.append_left_inj] at h

theorem draftName_ne_fileName (a b : String) : draftName a ≠ fileName b := by
  have hdraft : (draftName a).toList.getLast? = some 'p' := by
    rw [draftName, String.toList_append, List.getLast?_append]
    rfl
  have hfile : (fileName b).toList.getLast? = some 'n' := by
    rw [fileName, String.toList_append, List.getLast?_append]
    rfl
  intro h
  rw [h, hfile] at hdraft
  contradiction

theorem utf8ByteSize_fileName (consumer : String)
    : (fileName consumer).utf8ByteSize = 2 * consumer.utf8ByteSize + 16 := by
  rw [fileName, String.utf8ByteSize_append, Hex.utf8ByteSize_ofString]
  rfl

theorem utf8ByteSize_draftName (consumer : String)
    : (draftName consumer).utf8ByteSize = 2 * consumer.utf8ByteSize + 20 := by
  rw [draftName, String.utf8ByteSize_append, utf8ByteSize_fileName]
  rfl

variable {dir consumer : String}

theorem utf8ByteSize_path_le (dir consumer : String)
    : (path dir consumer).utf8ByteSize ≤ (draftPath dir consumer).utf8ByteSize := by
  rw [draftPath, String.utf8ByteSize_append]
  apply Nat.le_add_right

theorem fits_fileName (hdir : checkPath dir = .ok ()) (hconsumer : consumer.utf8ByteSize ≤ 117)
    (hpath : (path dir consumer).utf8ByteSize ≤ maxPath)
    : Fits dir (fileName consumer) where
  path := FileTree.checkPath_join hdir (isName_fileName consumer) hpath
  name := by
    rw [utf8ByteSize_fileName, maxName]
    omega

theorem fits_draftName (hdir : checkPath dir = .ok ()) (hconsumer : consumer.utf8ByteSize ≤ 117)
    (hpath : (draftPath dir consumer).utf8ByteSize ≤ maxPath)
    : Fits dir (draftName consumer) where
  path := by
    apply FileTree.checkPath_join hdir (isName_draftName consumer)
    rw [← draftPath_eq]
    exact hpath
  name := by
    rw [utf8ByteSize_draftName, maxName]
    omega

/-! ### Loading -/

variable {t : FileTree}

/-- What is loaded depends on nothing but the content of the consumer's file. -/
theorem load_congr {t' : FileTree}
    (h : t'.contentOf (path dir consumer) = t.contentOf (path dir consumer))
    : ((load dir consumer).run t').result = ((load dir consumer).run t).result := by
  have hsim : Action.Sim
      (fun t' t => t'.contentOf (path dir consumer) = t.contentOf (path dir consumer))
      (load dir consumer) (load dir consumer) := by
    unfold load
    apply Action.Sim.bind
    . intro t' t h
      refine ⟨?_, h⟩
      exact congrArg Except.ok h
    . intro read
      split
      . apply Action.Sim.pure
      . apply Action.Sim.fail
      . split
        . apply Action.Sim.fail
        . unfold accept
          split
          . apply Action.Sim.pure
          . apply Action.Sim.bind
            . apply Action.Sim.report
            . intro _
              apply Action.Sim.pure
  exact (hsim t' t h).1

theorem load_absent (h : t.contentOf (path dir consumer) = .error .notFound)
    : (load dir consumer).Ends t (.ok none) t := by
  have hread := FileTree.readFile_ends t (path dir consumer)
  rw [h] at hread
  apply Action.Ends.bind_ok hread.outcome
  exact ⟨rfl, rfl⟩

theorem load_encodeIndented {c : Checkpoint}
    (h : t.contentOf (path dir c.consumer) = .ok c.encodeIndented)
    : (load dir c.consumer).Ends t (.ok (some c)) t := by
  have hread := FileTree.readFile_ends t (path dir c.consumer)
  rw [h] at hread
  apply Action.Ends.bind_ok hread.outcome
  simp only [decode_encodeIndented, accept, if_true]
  exact ⟨rfl, rfl⟩

/-! ### Operations -/

/-- The directory holds a file for each checkpoint of the table, and no drafts. -/
structure Mirrors (dir : String) (p : FileTree.Place) (t : FileTree) (table : Table) : Prop where
  leads : t.Leads dir p
  draft : ∀ consumer, t.get? (p ++ [draftName consumer]) = none
  file : ∀ consumer, t.get? (p ++ [fileName consumer])
    = (table.lookup consumer).map fun c => .file c.encodeIndented
  own : ∀ consumer c, table.lookup consumer = some c → c.consumer = consumer

variable {p : FileTree.Place} {table : Table}

theorem not_isFixed_fileName (p : FileTree.Place) (consumer : String)
    : ¬ IsFixed (p ++ [fileName consumer]) := by
  apply FileTree.not_isFixed_append
  exact (isName_fileName consumer).ne_top

theorem not_isFixed_draftName (p : FileTree.Place) (consumer : String)
    : ¬ IsFixed (p ++ [draftName consumer]) := by
  apply FileTree.not_isFixed_append
  exact (isName_draftName consumer).ne_top

theorem Mirrors.file_ne_directory (h : Mirrors dir p t table) (consumer : String)
    : t.get? (p ++ [fileName consumer]) ≠ some .directory := by
  rw [h.file]
  cases table.lookup consumer with
  | none => simp
  | some c => simp

theorem Mirrors.ends_load (h : Mirrors dir p t table) (hfits : Fits dir (fileName consumer))
    : (load dir consumer).Ends t (.ok (table.lookup consumer)) t := by
  have hresolve := h.leads.resolve_entry (isName_fileName consumer) hfits
  have hcontent := FileTree.contentOf_of_resolve hresolve
  rw [h.file consumer] at hcontent
  cases hstored : table.lookup consumer with
  | none =>
    rw [hstored] at hcontent
    exact load_absent hcontent
  | some c =>
    rw [hstored] at hcontent
    have hown := h.own consumer c hstored
    rw [← hown] at hcontent ⊢
    exact load_encodeIndented hcontent

/-- The tree in which a written draft of `c` has been moved to its place. -/
def published (t : FileTree) (p : FileTree.Place) (c : Checkpoint) : FileTree :=
  ((t.put (p ++ [draftName c.consumer]) (.file c.encodeIndented)).erase
    (p ++ [draftName c.consumer])).put (p ++ [fileName c.consumer]) (.file c.encodeIndented)

theorem get?_published (t : FileTree) (p q : FileTree.Place) (c : Checkpoint)
    : (published t p c).get? q
        =
      if q = p ++ [fileName c.consumer] then some (.file c.encodeIndented)
      else if q = p ++ [draftName c.consumer] then none
      else t.get? q := by
  rw [published, FileTree.get?_put _ (not_isFixed_fileName p _),
    FileTree.get?_erase _ (not_isFixed_draftName p _),
    FileTree.get?_put _ (not_isFixed_draftName p _)]
  split
  . rfl
  . split
    . rfl
    . rfl

theorem ends_draft_of_leads (hleads : t.Leads dir p) {c : Checkpoint}
    (hfits : Fits dir (draftName c.consumer))
    (hdraft : t.get? (p ++ [draftName c.consumer]) ≠ some .directory)
    : (draft dir c).Ends t (.ok ())
        (t.put (p ++ [draftName c.consumer]) (.file c.encodeIndented)) := by
  have hwrite :=
    hleads.writeFile_entry (isName_draftName c.consumer) hfits hdraft c.encodeIndented
  unfold draft
  rw [draftPath_eq]
  exact hwrite.mapError _

theorem ends_publish_of_leads {content : Bytes} (hleads : t.Leads dir p)
    (hfits : Fits dir (fileName consumer)) (hdraftFits : Fits dir (draftName consumer))
    (hdraft : t.get? (p ++ [draftName consumer]) = some (.file content))
    (hfile : t.get? (p ++ [fileName consumer]) ≠ some .directory)
    : (publish dir consumer).Ends t (.ok ())
        ((t.erase (p ++ [draftName consumer])).put (p ++ [fileName consumer]) (.file content)) := by
  have hrename := hleads.rename_entry (isName_draftName consumer) hdraftFits
    (isName_fileName consumer) hfits hdraft hfile
  unfold publish
  rw [draftPath_eq, path_eq]
  exact hrename.mapError _

theorem ends_save_of_leads (hleads : t.Leads dir p) {c : Checkpoint}
    (hfits : Fits dir (fileName c.consumer)) (hdraftFits : Fits dir (draftName c.consumer))
    (hdraft : t.get? (p ++ [draftName c.consumer]) ≠ some .directory)
    (hfile : t.get? (p ++ [fileName c.consumer]) ≠ some .directory)
    : (save dir c).Ends t (.ok ()) (published t p c) ∧ (published t p c).Leads dir p := by
  have hfixed := not_isFixed_draftName p c.consumer
  let written := t.put (p ++ [draftName c.consumer]) (.file c.encodeIndented)
  have hwritten : written.Leads dir p := hleads.put hfixed hdraft _
  have hentry : written.get? (p ++ [draftName c.consumer]) = some (.file c.encodeIndented) := by
    rw [FileTree.get?_put t hfixed, if_pos rfl]
  have hother : p ++ [fileName c.consumer] ≠ p ++ [draftName c.consumer] := by
    simpa using (draftName_ne_fileName c.consumer c.consumer).symm
  have hfree : written.get? (p ++ [fileName c.consumer]) ≠ some .directory := by
    rw [FileTree.get?_put t hfixed, if_neg hother]
    exact hfile
  constructor
  . apply Action.Ends.bind_ok (ends_draft_of_leads hleads hdraftFits hdraft)
    apply Action.Ends.bind_ok (ends_publish_of_leads hwritten hfits hdraftFits hentry hfree)
    exact ⟨rfl, rfl⟩
  . have herased : (written.erase (p ++ [draftName c.consumer])).Leads dir p := by
      apply hwritten.erase hfixed
      rw [hentry]
      simp
    apply herased.put (not_isFixed_fileName p c.consumer)
    rw [FileTree.get?_erase _ hfixed, if_neg hother]
    exact hfree

theorem Mirrors.ends_save (h : Mirrors dir p t table) {c : Checkpoint}
    (hfits : Fits dir (fileName c.consumer)) (hdraftFits : Fits dir (draftName c.consumer))
    : ∃ t', (save dir c).Ends t (.ok ()) t' ∧ Mirrors dir p t' (table.put c) := by
  have hfree : t.get? (p ++ [draftName c.consumer]) ≠ some .directory := by
    rw [h.draft]
    simp
  have ⟨hsave, hleads⟩ :=
    ends_save_of_leads h.leads hfits hdraftFits hfree (h.file_ne_directory c.consumer)
  have hlookup (consumer : String) : (table.put c).lookup consumer
      = if consumer = c.consumer then some c else table.lookup consumer :=
    congrFun (Table.lookup_put table c) consumer
  refine ⟨published t p c, hsave, hleads, ?_, ?_, ?_⟩
  . intro consumer
    rw [get?_published, if_neg (by simpa using draftName_ne_fileName consumer c.consumer)]
    split
    . rfl
    . exact h.draft consumer
  . intro consumer
    have hother : p ++ [fileName consumer] ≠ p ++ [draftName c.consumer] := by
      simpa using (draftName_ne_fileName c.consumer consumer).symm
    rw [get?_published, hlookup, if_neg hother, h.file]
    by_cases hsame : consumer = c.consumer
    . rw [hsame, if_pos rfl, if_pos rfl]
      rfl
    . rw [if_neg hsame, if_neg]
      simpa using mt fileName_injective hsame
  . intro consumer c' hc'
    rw [hlookup] at hc'
    split at hc'
    . next hsame =>
      injection hc' with hc'
      rw [← hc', hsame]
    . exact h.own consumer c' hc'

theorem Mirrors.erase {t' : FileTree} (h : Mirrors dir p t table) (hleads : t'.Leads dir p)
    (hget : ∀ q, t'.get? q = if q = p ++ [fileName consumer] then none else t.get? q)
    : Mirrors dir p t' (table.erase consumer) where
  leads := hleads
  draft other := by
    rw [hget, if_neg (by simpa using draftName_ne_fileName other consumer)]
    exact h.draft other
  file other := by
    rw [hget, Table.lookup_erase, h.file]
    by_cases hsame : other = consumer
    . rw [hsame, if_pos rfl, if_pos rfl]
      rfl
    . rw [if_neg hsame, if_neg]
      simpa using mt fileName_injective hsame
  own other c hc := by
    rw [Table.lookup_erase] at hc
    split at hc
    . contradiction
    . exact h.own other c hc

theorem Mirrors.ends_delete (h : Mirrors dir p t table) (hfits : Fits dir (fileName consumer))
    : ∃ t', (delete dir consumer).Ends t (.ok ()) t' ∧ Mirrors dir p t' (table.erase consumer) := by
  have hname := isName_fileName consumer
  have hfixed := not_isFixed_fileName p consumer
  have hentry := h.file consumer
  unfold delete
  rw [path_eq]
  cases hstored : table.lookup consumer with
  | none =>
    rw [hstored] at hentry
    refine ⟨t, ?_, h.erase h.leads ?_⟩
    . apply Action.Ends.bind_ok (h.leads.removeFile_absent hname hfits hentry).outcome
      exact ⟨rfl, rfl⟩
    . intro q
      split
      . next hq => rw [hq, hentry, Option.map_none]
      . rfl
  | some c =>
    rw [hstored] at hentry
    refine ⟨t.erase (p ++ [fileName consumer]), ?_, h.erase ?_ ?_⟩
    . apply Action.Ends.bind_ok (h.leads.removeFile_entry hname hfits hentry).outcome
      exact ⟨rfl, rfl⟩
    . exact h.leads.erase hfixed (h.file_ne_directory consumer)
    . exact FileTree.get?_erase t hfixed

theorem Mirrors.ends_make (h : Mirrors dir p t table) (hdir : checkPath dir = .ok ())
    : (make dir).Ends t (.ok ()) t := by
  exact (h.leads.makeDirectories hdir).mapError _

/-! ### Steps of a save -/

/-- From `t` to `t'` the consumer's draft has been written, and nothing else. -/
structure DraftWritten (dir consumer : String) (content : Bytes) (t t' : FileTree) : Prop where
  draft : t'.contentOf (draftPath dir consumer) = .ok content
  files : ∀ other, t'.contentOf (path dir other) = t.contentOf (path dir other)
  others : ∀ other, other ≠ consumer →
    t'.contentOf (draftPath dir other) = t.contentOf (draftPath dir other)

theorem meets_writeFile (dir consumer : String) (content : Bytes) (t : FileTree)
    : (FileTree.writeFile (draftPath dir consumer) content).Meets t
        (fun _ => DraftWritten dir consumer content t) (fun _ t' => t' = t) := by
  rw [draftPath_eq]
  apply (FileTree.writeFile_contentOf (isName_draftName consumer) content).mono
  . rintro _ t' ⟨hwritten, hothers⟩
    refine ⟨?_, ?_, ?_⟩
    . rw [draftPath_eq]
      exact hwritten
    . intro other
      apply hothers _ (isName_fileName other)
      exact (draftName_ne_fileName consumer other).symm
    . intro other hne
      rw [draftPath_eq]
      apply hothers _ (isName_draftName other)
      exact mt draftName_injective hne
  . intro _ _ h
    exact h

theorem meets_draft (dir : String) (c : Checkpoint) (t : FileTree)
    : (draft dir c).Meets t (fun _ => DraftWritten dir c.consumer c.encodeIndented t)
        (fun _ t' => t' = t) := by
  unfold draft
  rw [Action.meets_mapError]
  apply meets_writeFile

/-- A draft that is moved to its place leaves the files and the drafts of others as they are. -/
theorem meets_publish {content : Bytes}
    (h : t.contentOf (draftPath dir consumer) = .ok content)
    : (publish dir consumer).Meets t
        (fun _ t' => t'.contentOf (path dir consumer) = .ok content ∧
          ∀ other, other ≠ consumer →
            t'.contentOf (path dir other) = t.contentOf (path dir other) ∧
              t'.contentOf (draftPath dir other) = t.contentOf (draftPath dir other))
        (fun _ t' => t' = t) := by
  unfold publish
  rw [Action.meets_mapError]
  simp only [draftPath_eq, path_eq] at h ⊢
  apply (FileTree.rename_contentOf (isName_draftName consumer) (isName_fileName consumer) h).mono
  . rintro _ t' ⟨hmoved, hothers⟩
    refine ⟨hmoved, ?_⟩
    intro other hne
    constructor
    . apply hothers _ (isName_fileName other)
      . exact (draftName_ne_fileName consumer other).symm
      . exact mt fileName_injective hne
    . apply hothers _ (isName_draftName other)
      . exact mt draftName_injective hne
      . exact draftName_ne_fileName other consumer
  . intro _ _ h
    exact h

theorem ends_save_of_lt (hdir : checkPath dir = .ok ()) {c : Checkpoint}
    (hpath : maxPath < (draftPath dir c.consumer).utf8ByteSize) (t : FileTree)
    : (save dir c).Ends t
        (.error (.write (draftPath dir c.consumer) .nameTooLong)) t := by
  have hcheck : checkPath (draftPath dir c.consumer) = .error .nameTooLong := by
    apply FileTree.checkPath_of_lt _ hpath
    rw [draftPath_eq]
    exact FileTree.nul_not_mem_join hdir (isName_draftName c.consumer)
  have hwrite := FileTree.writeFile_of_checkPath_error hcheck t c.encodeIndented
  exact (hwrite.mapError _).bind_error

/-! ### The checkpoints in a directory of any content -/

/-- The checkpoint that is loaded for a consumer, if one is. -/
def view (dir : String) (t : FileTree) (consumer : String) : Option Checkpoint :=
  match ((load dir consumer).run t).result with
  | .ok stored => stored
  | .error _ => none

/-- A load writes nothing. -/
theorem state_load (dir consumer : String) (t : FileTree)
    : ((load dir consumer).run t).state = t := by
  have hread := (FileTree.readFile_ends t (path dir consumer)).outcome (φ := Error)
  unfold load
  rw [Action.run_bind_of_ok hread.1, hread.2]
  dsimp only
  split
  . rfl
  . rfl
  . split
    . rfl
    . unfold accept
      split
      . rfl
      . rfl

theorem view_congr {t' : FileTree}
    (h : t'.contentOf (path dir consumer) = t.contentOf (path dir consumer))
    : view dir t' consumer = view dir t consumer := by
  unfold view
  rw [load_congr h]

theorem view_of_published {t' : FileTree} {c : Checkpoint}
    (h : t'.contentOf (path dir c.consumer) = .ok c.encodeIndented)
    (hothers : ∀ other, other ≠ c.consumer →
      t'.contentOf (path dir other) = t.contentOf (path dir other))
    : view dir t' = put (view dir t) c := by
  funext consumer
  by_cases hconsumer : consumer = c.consumer
  . rw [hconsumer, put_self, view, (load_encodeIndented h).1]
  . rw [put_of_ne _ hconsumer, view_congr (hothers _ hconsumer)]

theorem store_keeps (dir : String) : (store dir).Keeps (view dir) where
  load consumer t := by
    have hiff := Action.meets_iff (s := t) (load dir consumer) fun answer t' =>
      (∀ stored, answer = .ok stored → stored = view dir t consumer) ∧ t' = t
    apply (hiff.2 ⟨?_, state_load dir consumer t⟩).mono
    . rintro stored _ ⟨hstored, rfl⟩
      exact ⟨hstored stored rfl, rfl⟩
    . rintro e _ ⟨_, rfl⟩
      rfl
    . intro stored hanswer
      rw [view, hanswer]
  save c t := by
    show (save dir c).Meets t _ _
    unfold save
    rw [Action.meets_bind]
    apply (meets_draft dir c t).mono
    . intro _ t' hwritten
      rw [Action.meets_bind]
      apply (meets_publish hwritten.draft).mono
      . rintro _ t'' ⟨hpublished, hothers⟩
        rw [Action.meets_report]
        apply view_of_published hpublished
        intro other hother
        rw [(hothers other hother).1, hwritten.files]
      . rintro _ _ rfl
        funext consumer
        exact view_congr (hwritten.files consumer)
    . rintro _ _ rfl
      rfl

end Directory

end Checkpoint
end StateRelay
