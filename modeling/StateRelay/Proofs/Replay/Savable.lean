import StateRelay.Proofs.Checkpoint.Answers
import StateRelay.Proofs.Replay.Resumption

/-!
This module contains for which consumers a store in a directory can save checkpoints. The draft that
a save writes first has a longer name than the file that a load reads, so that there are consumers
for whom every load succeeds and every save fails.
-/

namespace StateRelay
namespace Checkpoint
namespace Directory

open FileTree (join Leads Fits IsName checkPath maxName maxPath)

variable {t : FileTree} {p : FileTree.Place} {dir consumer : String}

/-! ### Room for names -/

/-- There is room for the name and for the path of the consumer's file. -/
def Loadable (dir consumer : String) : Prop :=
  consumer.utf8ByteSize ≤ 119 ∧ (path dir consumer).utf8ByteSize ≤ maxPath

/-- There is room for the name and for the path of the consumer's draft. -/
def Savable (dir consumer : String) : Prop :=
  consumer.utf8ByteSize ≤ 117 ∧ (draftPath dir consumer).utf8ByteSize ≤ maxPath

theorem fits_fileName_iff (hdir : checkPath dir = .ok ())
    : Fits dir (fileName consumer) ↔ Loadable dir consumer := by
  rw [FileTree.fits_iff hdir (isName_fileName consumer), utf8ByteSize_fileName, Loadable, path_eq,
    maxName]
  have : 2 * consumer.utf8ByteSize + 16 ≤ 255 ↔ consumer.utf8ByteSize ≤ 119 := by omega
  rw [this]

theorem fits_draftName_iff (hdir : checkPath dir = .ok ())
    : Fits dir (draftName consumer) ↔ Savable dir consumer := by
  rw [FileTree.fits_iff hdir (isName_draftName consumer), utf8ByteSize_draftName, Savable,
    draftPath_eq, maxName]
  have : 2 * consumer.utf8ByteSize + 20 ≤ 255 ↔ consumer.utf8ByteSize ≤ 117 := by omega
  rw [this]

theorem Savable.loadable (h : Savable dir consumer) : Loadable dir consumer := by
  have := utf8ByteSize_path_le dir consumer
  exact ⟨Nat.le_trans h.1 (by decide), Nat.le_trans this h.2⟩

theorem loadable_of_load (hleads : t.Leads dir p) (hdir : checkPath dir = .ok ())
    {stored : Option Checkpoint} (hload : ((load dir consumer).run t).result = .ok stored)
    : Loadable dir consumer := by
  rw [← fits_fileName_iff hdir]
  by_contra hnot
  have hresolve := hleads.resolve_of_not_fits hdir (isName_fileName consumer) hnot
  have hread := FileTree.readFile_ends t (path dir consumer)
  rw [path_eq, FileTree.contentOf_of_resolve_error hresolve] at hread
  have hends : (load dir consumer).Ends t
      (.error (.read (path dir consumer) .nameTooLong)) t := by
    apply Action.Ends.bind_ok hread.outcome
    exact ⟨rfl, rfl⟩
  rw [hends.1] at hload
  contradiction

/-! ### Saves -/

/-- At `p` is a directory, and neither the consumer's file nor its draft is one. -/
structure Clear (dir consumer : String) (p : FileTree.Place) (t : FileTree) : Prop where
  leads : t.Leads dir p
  file : t.get? (p ++ [fileName consumer]) ≠ some .directory
  draft : t.get? (p ++ [draftName consumer]) ≠ some .directory

theorem Clear.ends_save (h : Clear dir consumer p t) (hdir : checkPath dir = .ok ())
    (hsavable : Savable dir consumer) {c : Checkpoint} (hc : c.consumer = consumer)
    : ∃ t', (save dir c).Ends t (.ok ()) t' ∧ Clear dir consumer p t' := by
  subst hc
  have hfits := (fits_fileName_iff hdir).2 hsavable.loadable
  have hdraftFits := (fits_draftName_iff hdir).2 hsavable
  have ⟨hends, hleads⟩ := ends_save_of_leads h.leads hfits hdraftFits h.draft h.file
  refine ⟨published t p c, hends, hleads, ?_, ?_⟩
  . rw [get?_published, if_pos rfl]
    simp
  . rw [get?_published, if_neg (by simpa using draftName_ne_fileName c.consumer c.consumer),
      if_pos rfl]
    simp

theorem ends_save_of_not_savable (hleads : t.Leads dir p) (hdir : checkPath dir = .ok ())
    (hnot : ¬ Savable dir consumer) {c : Checkpoint} (hc : c.consumer = consumer)
    : (save dir c).Ends t (.error (.write (draftPath dir consumer) .nameTooLong)) t := by
  subst hc
  rw [← fits_draftName_iff hdir] at hnot
  have hresolve := hleads.resolve_of_not_fits hdir (isName_draftName c.consumer) hnot
  have hwrite : (FileTree.writeFile (draftPath dir c.consumer) c.encodeIndented).Ends t
      (.error .nameTooLong) t := by
    unfold FileTree.writeFile
    apply Action.Ends.bind_ok ⟨rfl, rfl⟩
    rw [FileTree.placeToWrite, draftPath_eq, hresolve]
    exact ⟨rfl, rfl⟩
  exact (hwrite.mapError _).bind_error

/-- The path leads to a directory, and neither the consumer's file nor its draft is one. -/
def IsClear (t : FileTree) (dir consumer : String) : Prop :=
  ∃ p, t.resolve dir = .ok p ∧ t.get? p = some .directory ∧
    t.get? (p ++ [fileName consumer]) ≠ some .directory ∧
    t.get? (p ++ [draftName consumer]) ≠ some .directory

theorem IsClear.exists_clear (h : IsClear t dir consumer)
    : checkPath dir = .ok () ∧ ∃ p, Clear dir consumer p t := by
  obtain ⟨p, hresolve, hdirectory, hfile, hdraft⟩ := h
  have ⟨hleads, hdir⟩ := FileTree.leads_of_resolve hresolve hdirectory
  exact ⟨hdir, p, hleads, hfile, hdraft⟩

theorem isClear_of_isEmptyDirectory (h : IsEmptyDirectory t dir) (consumer : String)
    : IsClear t dir consumer := by
  obtain ⟨p, hresolve, hdirectory, hempty⟩ := h
  refine ⟨p, hresolve, hdirectory, ?_, ?_⟩
  . rw [FileTree.get?_of_below_eq_nil hempty (isName_fileName consumer).ne_top]
    simp
  . rw [FileTree.get?_of_below_eq_nil hempty (isName_draftName consumer).ne_top]
    simp

theorem ends_load_of_isEmptyDirectory (h : IsEmptyDirectory t dir)
    (hloadable : Loadable dir consumer)
    : (load dir consumer).Ends t (.ok none) t := by
  obtain ⟨p, hresolve, hdirectory, hempty⟩ := h
  have ⟨hleads, hdir⟩ := FileTree.leads_of_resolve hresolve hdirectory
  exact (mirrors_of_below_eq_nil hleads hempty).ends_load ((fits_fileName_iff hdir).2 hloadable)

/-- A tree with a directory in which there is nothing. -/
def progress : FileTree :=
  ⟨[(["progress"], .directory)]⟩

theorem isEmptyDirectory_progress : IsEmptyDirectory progress "progress" := by
  have hcheck : checkPath "progress" = .ok () := by
    rw [FileTree.checkPath_eq_ok_iff]
    decide
  have hnames : FileTree.names "progress" = ["progress"] := by decide +kernel
  refine ⟨["progress"], ?_, by decide, rfl⟩
  rw [FileTree.resolve, hcheck, hnames]
  rfl

/-- A consumer with one byte more than a draft's name has room for. -/
def overlong : String :=
  String.ofList (List.replicate 118 'x')

theorem utf8ByteSize_overlong : overlong.utf8ByteSize = 118 := by
  apply Bytes.utf8ByteSize_replicate
  decide

/-- There are consumers that can be loaded and for whom no checkpoint can be saved. -/
theorem save_fails_after_load
    : IsClear progress "progress" overlong ∧
        (load "progress" overlong).Ends progress (.ok none) progress ∧
        (save "progress" ⟨overlong, 7, 12, 5⟩).Ends progress
          (.error (.write (draftPath "progress" overlong) .nameTooLong)) progress := by
  have hempty := isEmptyDirectory_progress
  have hclear := isClear_of_isEmptyDirectory hempty overlong
  have ⟨hdir, p, hp⟩ := hclear.exists_clear
  have hloadable : Loadable "progress" overlong := by
    have hjoin := FileTree.utf8ByteSize_join_le "progress" (fileName overlong)
    rw [utf8ByteSize_fileName, utf8ByteSize_overlong] at hjoin
    rw [Loadable, utf8ByteSize_overlong]
    exact ⟨by decide, Nat.le_trans hjoin (by decide)⟩
  have hnot : ¬ Savable "progress" overlong := by
    rw [Savable, utf8ByteSize_overlong]
    simp
  refine ⟨hclear, ends_load_of_isEmptyDirectory hempty hloadable, ?_⟩
  exact ends_save_of_not_savable hp.leads hdir hnot rfl

end Directory
end Checkpoint

/-! ### Runs -/

namespace Replay

open Checkpoint.Directory (Clear IsClear Loadable Savable draftPath)

/-- What a call does to the store. -/
def Call.Moves (store : Checkpoint.Store κ) : Call → κ → κ → Prop
  | .load consumer answer, k, k' => (store.load consumer).Ends k answer k'
  | .save c answer, k, k' => (store.save c).Ends k answer k'
  | _, k, k' => k' = k

theorem moves_of_does {handler : Handler η} {clock : Clock η} {store : Checkpoint.Store κ}
    {consumer : String} {batchBytes : UInt64} {backoff : Backoff} {call : Call} {s s' : η × κ}
    (h : (apart handler clock store consumer batchBytes backoff).Does call s s')
    : call.Moves store s.2 s'.2 := by
  cases call with
  | load _ _ => exact ⟨h.1, congrArg Prod.snd h.2⟩
  | save _ _ => exact ⟨h.1, congrArg Prod.snd h.2⟩
  | pause ms =>
    have hpause : s' = (clock.pause ms s.1, s.2) := h
    rw [hpause]
    rfl
  | _ => exact (congrArg Prod.snd h.2).symm

theorem exists_resumes (r : Replay σ) (calls : List Call) : ∃ stored, r.Resumes stored calls := by
  by_cases hloaded : ∃ answer rest, calls = .load r.consumer (.ok answer) :: rest
  . obtain ⟨stored, rest, rfl⟩ := hloaded
    refine ⟨stored, ?_⟩
    rintro answer _ ⟨⟩
    rfl
  . refine ⟨none, ?_⟩
    intro answer rest hcalls
    exact absurd ⟨answer, rest, hcalls⟩ hloaded

theorem save_consumer (r : Replay σ) (log : List Entry) (s : σ) {c : Checkpoint}
    {answer : Except Checkpoint.Error Unit}
    (hmem : .save c answer ∈ (r.record log s).state.calls)
    : c.consumer = r.consumer := by
  have ⟨stored, hstored⟩ := r.exists_resumes (r.record log s).state.calls
  exact ((r.record_course log s).marks hstored hmem).1

/-! ### Runs with a store in a directory -/

variable {dir consumer : String} {p : FileTree.Place} {t t' : FileTree} {calls : List Call}

/-- While there is room for the draft each save leaves a file behind, and no draft. -/
theorem save_ok_of_leads (h : Leads (Call.Moves (Checkpoint.Directory.store dir)) t calls t')
    (hconsumer : ∀ c answer, .save c answer ∈ calls → c.consumer = consumer)
    (hdir : FileTree.checkPath dir = .ok ()) (hclear : Clear dir consumer p t)
    (hsavable : Savable dir consumer) {c : Checkpoint} {answer : Except Checkpoint.Error Unit}
    (hmem : .save c answer ∈ calls)
    : answer = .ok () := by
  have ⟨_, hcalls⟩ := h.along hclear (by
    intro call hcall m m' hm hmoves
    cases call with
    | load owner _ =>
      have hm' : m' = m := hmoves.2.symm.trans (Checkpoint.Directory.state_load dir owner m)
      rw [hm']
      exact hm
    | save c answer =>
      have ⟨t', hends, hclear'⟩ := hm.ends_save hdir hsavable (hconsumer c answer hcall)
      have hm' : m' = t' := hmoves.2.symm.trans hends.2
      rw [hm']
      exact hclear'
    | _ =>
      rw [show m' = m from hmoves]
      exact hm)
  have ⟨m, m', hm, hmoves⟩ := hcalls _ hmem
  have ⟨t', hends, _⟩ := hm.ends_save hdir hsavable (hconsumer c answer hmem)
  exact hmoves.1.symm.trans hends.1

/-- Without room for the draft nothing changes, and each call is answered in the same tree. -/
theorem unchanged_of_leads (h : Leads (Call.Moves (Checkpoint.Directory.store dir)) t calls t')
    (hconsumer : ∀ c answer, .save c answer ∈ calls → c.consumer = consumer)
    (hdir : FileTree.checkPath dir = .ok ()) (hleads : t.Leads dir p)
    (hnot : ¬ Savable dir consumer)
    : t' = t ∧ ∀ call ∈ calls, ∃ m, call.Moves (Checkpoint.Directory.store dir) t m := by
  have ⟨hend, hcalls⟩ := h.along (I := (· = t)) rfl (by
    intro call hcall m m' hm hmoves
    subst hm
    cases call with
    | load owner _ => exact hmoves.2.symm.trans (Checkpoint.Directory.state_load dir owner m)
    | save c answer =>
      have hends := Checkpoint.Directory.ends_save_of_not_savable hleads hdir hnot
        (hconsumer c answer hcall)
      exact hmoves.2.symm.trans hends.2
    | _ => exact hmoves)
  refine ⟨hend, ?_⟩
  intro call hmem
  obtain ⟨m, m', rfl, hmoves⟩ := hcalls call hmem
  exact ⟨m', hmoves⟩

/--
Whoever can be loaded has at most 119 bytes. If there is room for the draft as well, all saves
succeed, and a run settles what it commits. Otherwise none succeeds: the first batch that a run
commits is its last one, and the next run begins with it again.
-/
theorem saves_after_load (handler : Handler η) (clock : Clock η) (dir consumer : String)
    (batchBytes : UInt64) (backoff : Backoff) (log : List Entry) (s : η) (t : FileTree)
    (hclear : IsClear t dir consumer) (stored : Option Checkpoint)
    (hload : ((Checkpoint.Directory.load dir consumer).run t).result = .ok stored)
    : let store := Checkpoint.Directory.store dir
      let done := (apart handler clock store consumer batchBytes backoff).record log (s, t)
      let total := account done.state.calls
      let failure := Checkpoint.Error.write (draftPath dir consumer) .nameTooLong
      Loadable dir consumer ∧
      (Savable dir consumer →
        (∀ c, c.consumer = consumer → ((store.save c).run t).result = .ok ()) ∧
        (∀ c answer, .save c answer ∈ done.state.calls → answer = .ok ()) ∧
        (log.length < UInt64.size → total.committed = total.settled)) ∧
      (¬ Savable dir consumer →
        (∀ c, c.consumer = consumer → (store.save c).Ends t (.error failure) t) ∧
        (∀ c answer, .save c answer ∈ done.state.calls → answer = .error failure) ∧
        done.state.state.2 = t ∧
        (log.length < UInt64.size → total.committed = [] ∨
          done.result = .error (.checkpoint failure) ∧ ∃ batch, total.committed = [batch])) := by
  intro store done total failure
  have ⟨hdir, p, hp⟩ := hclear.exists_clear
  let r := apart handler clock store consumer batchBytes backoff
  have hleads : Leads (Call.Moves store) t done.state.calls done.state.state.2 :=
    (r.record_leads log (s, t)).map (f := Prod.snd) fun _ _ _ => moves_of_does
  have hconsumer (c) (answer) (hmem : Call.save c answer ∈ done.state.calls)
      : c.consumer = consumer :=
    r.save_consumer log (s, t) hmem
  have hcommitted (hlog : log.length < UInt64.size)
      : Committed total done.state.calls done.result := by
    have ⟨stored, hstored⟩ := r.exists_resumes done.state.calls
    exact (r.record_course log (s, t)).committed hstored hlog
  refine ⟨Checkpoint.Directory.loadable_of_load hp.leads hdir hload, ?_, ?_⟩
  . intro hsavable
    have hsaves (c) (answer) (hmem : Call.save c answer ∈ done.state.calls) : answer = .ok () :=
      save_ok_of_leads hleads hconsumer hdir hp hsavable hmem
    refine ⟨?_, hsaves, ?_⟩
    . intro c hc
      have ⟨_, hends, _⟩ := hp.ends_save hdir hsavable hc
      exact hends.1
    . intro hlog
      cases hcommitted hlog with
      | inl heq => exact heq
      | inr hlast =>
        obtain ⟨_, _, _, ⟨c, e, hsuffix⟩, _⟩ := hlast
        have := hsaves c (.error e) (hsuffix.mem (by simp))
        contradiction
  . intro hnot
    have hends (c : Checkpoint) (hc : c.consumer = consumer)
        : (store.save c).Ends t (.error failure) t :=
      Checkpoint.Directory.ends_save_of_not_savable hp.leads hdir hnot hc
    have ⟨hend, hcalls⟩ := unchanged_of_leads hleads hconsumer hdir hp.leads hnot
    have hsaves (c) (answer) (hmem : Call.save c answer ∈ done.state.calls)
        : answer = .error failure := by
      have ⟨m, hmoves⟩ := hcalls _ hmem
      exact hmoves.1.symm.trans (hends c (hconsumer c answer hmem)).1
    refine ⟨hends, hsaves, hend, ?_⟩
    intro hlog
    have hsettled : total.settled = [] := by
      apply settled_foldl_of_saved_eq_nil
      apply List.eq_nil_iff_forall_not_mem.2
      intro c hc
      have := hsaves c _ (save_mem_of_mem_saved hc)
      contradiction
    cases hcommitted hlog with
    | inl heq =>
      rw [heq]
      exact Or.inl hsettled
    | inr hlast =>
      obtain ⟨batch, e, heq, _, hresult⟩ := hlast
      rw [hsettled] at heq
      refine Or.inr ⟨?_, batch, heq⟩
      rw [hresult]
      -- The load has succeeded, so that it was a save that failed.
      rcases (r.record_course log (s, t)).unanswered hresult with hmem | ⟨c, hmem⟩
      . have ⟨m, hmoves⟩ := hcalls _ hmem
        have := hmoves.1.symm.trans hload
        contradiction
      . have := hsaves c _ hmem
        rw [Except.error.inj this]

theorem saves_after_load_progress
    : let store := Checkpoint.Directory.store "progress"
      let tree := Checkpoint.Directory.progress
      let r := apart .reluctant .still store "web/sink" 1 (.immediate 1)
      IsClear tree "progress" "web/sink" ∧
        ((store.load "web/sink").run tree).result = .ok none ∧ Savable "progress" "web/sink" ∧
        ∀ c answer, .save c answer ∈ (r.record [Entry.upsert 7 []] (1, tree)).state.calls →
          answer = .ok () := by
  intro store tree r
  have hempty := Checkpoint.Directory.isEmptyDirectory_progress
  have hclear := Checkpoint.Directory.isClear_of_isEmptyDirectory hempty "web/sink"
  have hsavable : Savable "progress" "web/sink" := by
    unfold Savable
    decide +kernel
  have hload := Checkpoint.Directory.ends_load_of_isEmptyDirectory hempty hsavable.loadable
  have ⟨_, hsaves, _⟩ := saves_after_load .reluctant .still "progress" "web/sink" 1 (.immediate 1)
    [Entry.upsert 7 []] 1 tree hclear none hload.1
  exact ⟨hclear, hload.1, hsavable, (hsaves hsavable).2.1⟩

end Replay
end StateRelay
