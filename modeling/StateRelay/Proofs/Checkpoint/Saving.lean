import Mathlib.Data.List.Nodup
import Mathlib.Logic.Function.Basic
import StateRelay.Proofs.Checkpoint.Directory

/-!
This module contains saves that run at the same time, in a directory of any content. Each of them
writes its draft and moves it to its place, fails on the way or stops for good; the steps of
different saves come in any order. Whatever they do, what is loaded is a checkpoint that was moved
to its place, or what would have been loaded before.
-/

namespace StateRelay
namespace Checkpoint

open FileTree (join)

namespace Directory

variable {dir consumer : String} {t : FileTree}

theorem load_own : (load dir consumer).Meets t
    (fun stored _ => ∀ c, stored = some c → c.consumer = consumer) (fun _ _ => True) := by
  unfold load
  rw [Action.meets_bind, Action.meets_outcome]
  apply Action.meets_of_forall
  . intro content s
    cases hdecode : decode content with
    | error e => simp only [hdecode, Action.meets_fail]
    | ok c =>
      simp only [hdecode, accept]
      split
      . next hown => simpa using hown
      . simp
  . intro e s
    cases e with
    | notFound => simp
    | _ => simp only [Action.meets_fail]

end Directory

namespace Saving

open Directory (path draftPath draft publish save load)

/-- What happens to a save. -/
inductive Event where
  /-- So many bytes of the draft are in its file. -/
  | wrote (n : Nat)
  | drafted
  | renamed
  | returned (result : Except Error Unit)
  /-- It does nothing from now on, and does not return. -/
  | stopped

inductive Stage where
  | writing
  | drafted
  | renamed
  | ended

/-- What happens to the save of `c`, with the stage and the tree before and after. -/
inductive Happens (dir : String) (c : Checkpoint)
    : Stage → FileTree → Event → Stage → FileTree → Prop where
  | wrote {t t' : FileTree} (n : Nat) :
    (FileTree.writeFile (draftPath dir c.consumer) (c.encodeIndented.take n)).Ends t (.ok ()) t' →
    Happens dir c .writing t (.wrote n) .writing t'
  | drafted {t t' : FileTree} :
    (draft dir c).Ends t (.ok ()) t' → Happens dir c .writing t .drafted .drafted t'
  | notDrafted {t t' : FileTree} {e : Error} :
    (draft dir c).Ends t (.error e) t' →
    Happens dir c .writing t (.returned (.error e)) .ended t'
  /-- A fault that is not in the tree, such as a full disk. -/
  | writeFault (t : FileTree) (e : Error) :
    Happens dir c .writing t (.returned (.error e)) .ended t
  | renamed {t t' : FileTree} :
    (publish dir c.consumer).Ends t (.ok ()) t' → Happens dir c .drafted t .renamed .renamed t'
  | notRenamed {t t' : FileTree} {e : Error} :
    (publish dir c.consumer).Ends t (.error e) t' →
    Happens dir c .drafted t (.returned (.error e)) .ended t'
  | renameFault (t : FileTree) (e : Error) :
    Happens dir c .drafted t (.returned (.error e)) .ended t
  | returned (t : FileTree) : Happens dir c .renamed t (.returned (.ok ())) .ended t
  | stopped {stage : Stage} (t : FileTree) (h : stage ≠ .ended) :
    Happens dir c stage t .stopped .ended t

/-- What has happened to the saves since the tree was `start`, the stage of each and the tree. -/
inductive History (dir : String) (saves : List Checkpoint) (start : FileTree)
    : List (Checkpoint × Event) → (Checkpoint → Stage) → FileTree → Prop where
  | start : History dir saves start [] (fun _ => .writing) start
  | more {history : List (Checkpoint × Event)} {stage : Checkpoint → Stage} {t t' : FileTree}
    {c : Checkpoint} {event : Event} {next : Stage} :
    History dir saves start history stage t → c ∈ saves →
    Happens dir c (stage c) t event next t' →
    History dir saves start (history ++ [(c, event)]) (Function.update stage c next) t'

variable {dir : String} {saves : List Checkpoint} {start t t' : FileTree}
  {history : List (Checkpoint × Event)} {c : Checkpoint} {stage next : Stage} {event : Event}

/-- A save that nothing interrupts is one way in which a history can go on. -/
theorem History.uninterrupted {stage : Checkpoint → Stage}
    (h : History dir saves start history stage t) (hc : c ∈ saves) (hstage : stage c = .writing)
    : ∃ events : List (Checkpoint × Event), (∀ event ∈ events, event.1 = c) ∧
        History dir saves start
          (history ++ events ++ [(c, .returned ((save dir c).run t).result)])
          (Function.update stage c .ended) ((save dir c).run t).state := by
  unfold save
  cases hdraft : ((draft dir c).run t).result with
  | error e =>
    rw [Action.run_bind_of_error hdraft]
    refine ⟨[], by simp, ?_⟩
    rw [List.append_nil]
    apply h.more hc
    rw [hstage]
    exact .notDrafted ⟨hdraft, rfl⟩
  | ok =>
    rw [Action.run_bind_of_ok hdraft]
    have hdrafted : Happens dir c (stage c) t .drafted .drafted ((draft dir c).run t).state := by
      rw [hstage]
      exact .drafted ⟨hdraft, rfl⟩
    replace h := h.more hc hdrafted
    generalize ((draft dir c).run t).state = written at h
    have hstage : Function.update stage c .drafted c = .drafted := Function.update_self ..
    cases hpublish : ((publish dir c.consumer).run written).result with
    | error e =>
      rw [Action.run_bind_of_error hpublish]
      refine ⟨[(c, .drafted)], by simp, ?_⟩
      rw [← Function.update_idem Stage.drafted]
      apply h.more hc
      rw [hstage]
      exact .notRenamed ⟨hpublish, rfl⟩
    | ok =>
      rw [Action.run_bind_of_ok hpublish, Action.run_report]
      have hrenamed : Happens dir c (Function.update stage c .drafted c) written .renamed .renamed
          ((publish dir c.consumer).run written).state := by
        rw [hstage]
        exact .renamed ⟨hpublish, rfl⟩
      replace h := h.more hc hrenamed
      rw [Function.update_idem] at h
      refine ⟨[(c, .drafted), (c, .renamed)], by simp, ?_⟩
      have hover : Happens dir c (Function.update stage c .renamed c)
          ((publish dir c.consumer).run written).state (.returned (.ok ())) .ended
          ((publish dir c.consumer).run written).state := by
        rw [Function.update_self]
        exact .returned _
      replace h := h.more hc hover
      rw [Function.update_idem] at h
      simpa using h

/-! ### Events and stages -/

/-- What the stage of a save tells of its events. -/
structure Recorded (history : List (Checkpoint × Event)) (c : Checkpoint) (stage : Stage)
    : Prop where
  renamed : stage = .renamed → (c, .renamed) ∈ history
  passed : (c, .renamed) ∈ history → stage = .renamed ∨ stage = .ended
  ended : ∀ result, (c, .returned result) ∈ history → stage = .ended
  returned : ∀ result, (c, .returned result) ∈ history →
    (result = .ok () ↔ (c, .renamed) ∈ history)

theorem Recorded.of_ne {other : Checkpoint} (h : Recorded history other stage) (hne : other ≠ c)
    : Recorded (history ++ [(c, event)]) other stage := by
  have hmem (x : Event) : (other, x) ∈ history ++ [(c, event)] ↔ (other, x) ∈ history := by
    simp [hne]
  constructor
  . rw [hmem]
    exact h.renamed
  . rw [hmem]
    exact h.passed
  . simp only [hmem]
    exact h.ended
  . simp only [hmem]
    exact h.returned

/-- What an event tells of the stages before and after it. -/
structure Moves (stage : Stage) (event : Event) (next : Stage) : Prop where
  unfinished : stage ≠ .ended
  renamed : next = .renamed ↔ event = .renamed
  ended : stage = .renamed → next = .ended
  returned : ∀ result, event = .returned result →
    next = .ended ∧ (result = .ok () ↔ stage = .renamed)

theorem Happens.moves (h : Happens dir c stage t event next t')
    : Moves stage event next := by
  cases h with
  | stopped _ hstage => exact ⟨hstage, by simp, by simp, by simp⟩
  | _ => exact ⟨by simp, by simp, by simp, by simp⟩

theorem Recorded.snoc (h : Recorded history c stage) (hmoves : Moves stage event next)
    : Recorded (history ++ [(c, event)]) c next := by
  have hmem (x : Event) : (c, x) ∈ history ++ [(c, event)] ↔ (c, x) ∈ history ∨ x = event := by
    simp
  have hbefore (result : Except Error Unit) : (c, .returned result) ∉ history :=
    fun hreturned => hmoves.unfinished (h.ended result hreturned)
  constructor
  . intro hnext
    rw [hmem]
    exact .inr (hmoves.renamed.1 hnext).symm
  . rw [hmem]
    rintro (hrenamed | hnow)
    . have hstage := (h.passed hrenamed).resolve_right hmoves.unfinished
      exact .inr (hmoves.ended hstage)
    . exact .inl (hmoves.renamed.2 hnow.symm)
  . intro result hreturned
    rw [hmem] at hreturned
    rcases hreturned with hreturned | hnow
    . exact absurd hreturned (hbefore result)
    . exact (hmoves.returned result hnow.symm).1
  . intro result hreturned
    rw [hmem] at hreturned ⊢
    rcases hreturned with hreturned | hnow
    . exact absurd hreturned (hbefore result)
    . rw [(hmoves.returned result hnow.symm).2]
      constructor
      . intro hstage
        exact .inl (h.renamed hstage)
      . rintro (hrenamed | hnow')
        . exact (h.passed hrenamed).resolve_right hmoves.unfinished
        . rw [← hnow] at hnow'
          contradiction

theorem History.recorded {stage : Checkpoint → Stage}
    (h : History dir saves start history stage t) (c : Checkpoint)
    : Recorded history c (stage c) := by
  induction h with
  | start => constructor <;> simp
  | @more history stage t t' changed event next hbefore hc hevent ih =>
    by_cases hsame : c = changed
    . rw [hsame, Function.update_self]
      rw [hsame] at ih
      exact ih.snoc hevent.moves
    . rw [Function.update_of_ne hsame]
      exact ih.of_ne hsame

/-! ### Files -/

/-- What an event of the save of `c` does to the files and drafts. -/
structure Changed (dir : String) (c : Checkpoint) (event : Event) (next : Stage)
    (t t' : FileTree) : Prop where
  others : ∀ consumer, consumer ≠ c.consumer →
    t'.contentOf (path dir consumer) = t.contentOf (path dir consumer) ∧
      t'.contentOf (draftPath dir consumer) = t.contentOf (draftPath dir consumer)
  renamed : event = .renamed → t'.contentOf (path dir c.consumer) = .ok c.encodeIndented
  kept : event ≠ .renamed →
    t'.contentOf (path dir c.consumer) = t.contentOf (path dir c.consumer)
  drafted : next = .drafted → t'.contentOf (draftPath dir c.consumer) = .ok c.encodeIndented

theorem Changed.refl (hevent : event ≠ .renamed) (hnext : next ≠ .drafted) (t : FileTree)
    : Changed dir c event next t t where
  others _ _ := ⟨rfl, rfl⟩
  renamed h := absurd h hevent
  kept _ := rfl
  drafted h := absurd h hnext

theorem Changed.of_draft {content : Bytes}
    (h : Directory.DraftWritten dir c.consumer content t t') (hevent : event ≠ .renamed)
    (hnext : next = .drafted → content = c.encodeIndented)
    : Changed dir c event next t t' where
  others consumer hne := ⟨h.files consumer, h.others consumer hne⟩
  renamed hrenamed := absurd hrenamed hevent
  kept _ := h.files c.consumer
  drafted hdrafted := by rw [h.draft, hnext hdrafted]

theorem Happens.changed (h : Happens dir c stage t event next t')
    (hdraft : stage = .drafted → t.contentOf (draftPath dir c.consumer) = .ok c.encodeIndented)
    : Changed dir c event next t t' := by
  cases h with
  | wrote n hwrite =>
    have hwritten := hwrite.of_meets (Directory.meets_writeFile dir c.consumer _ t)
    exact Changed.of_draft hwritten (by simp) (by simp)
  | drafted hwrite =>
    have hwritten := hwrite.of_meets (Directory.meets_draft dir c t)
    exact Changed.of_draft hwritten (by simp) fun _ => rfl
  | notDrafted hwrite =>
    have hsame := hwrite.of_meets_error (Directory.meets_draft dir c t)
    rw [hsame]
    exact Changed.refl (by simp) (by simp) t
  | writeFault | renameFault | returned | stopped =>
    exact Changed.refl (by simp) (by simp) t
  | renamed hrename =>
    have ⟨hmoved, hothers⟩ := hrename.of_meets (Directory.meets_publish (hdraft rfl))
    exact ⟨hothers, fun _ => hmoved, fun h => absurd rfl h, by simp⟩
  | notRenamed hrename =>
    have hsame := hrename.of_meets_error (Directory.meets_publish (hdraft rfl))
    rw [hsame]
    exact Changed.refl (by simp) (by simp) t

/-- What the files and drafts hold when some of the saves have been under way since `start`. -/
structure Sound (dir : String) (saves : List Checkpoint) (start : FileTree)
    (history : List (Checkpoint × Event)) (stage : Checkpoint → Stage) (t : FileTree) : Prop where
  renamed : ∀ c ∈ saves, (c, .renamed) ∈ history →
    t.contentOf (path dir c.consumer) = .ok c.encodeIndented
  kept : ∀ consumer, (∀ c ∈ saves, c.consumer = consumer → (c, .renamed) ∉ history) →
    t.contentOf (path dir consumer) = start.contentOf (path dir consumer)
  drafted : ∀ c ∈ saves, stage c = .drafted →
    t.contentOf (draftPath dir c.consumer) = .ok c.encodeIndented

theorem consumer_ne (hdistinct : (saves.map (·.consumer)).Nodup) {other : Checkpoint}
    (hother : other ∈ saves) (hc : c ∈ saves) (hne : other ≠ c)
    : other.consumer ≠ c.consumer := by
  exact fun h => hne (List.inj_on_of_nodup_map hdistinct hother hc h)

theorem Sound.more {stage : Checkpoint → Stage} (h : Sound dir saves start history stage t)
    (hdistinct : (saves.map (·.consumer)).Nodup) (hc : c ∈ saves)
    (hchanged : Changed dir c event next t t')
    : Sound dir saves start (history ++ [(c, event)]) (Function.update stage c next) t' := by
  have hmem (other : Checkpoint) (x : Event)
      : (other, x) ∈ history ++ [(c, event)] ↔ (other, x) ∈ history ∨ other = c ∧ x = event := by
    simp
  refine ⟨?_, ?_, ?_⟩
  . intro other hother hrenamed
    rw [hmem] at hrenamed
    by_cases hsame : other = c
    . rw [hsame] at hrenamed ⊢
      by_cases hevent : event = .renamed
      . exact hchanged.renamed hevent
      . rw [hchanged.kept hevent]
        rcases hrenamed with hbefore | ⟨_, hnow⟩
        . exact h.renamed c hc hbefore
        . exact absurd hnow.symm hevent
    . have hbefore : (other, .renamed) ∈ history := by simpa [hsame] using hrenamed
      rw [(hchanged.others _ (consumer_ne hdistinct hother hc hsame)).1]
      exact h.renamed other hother hbefore
  . intro consumer hnot
    simp only [hmem, not_or, not_and] at hnot
    have hbefore := h.kept consumer fun other hother hsame => (hnot other hother hsame).1
    by_cases hsame : consumer = c.consumer
    . have hevent : event ≠ .renamed := fun hevent =>
        (hnot c hc hsame.symm).2 rfl hevent.symm
      rw [hsame, hchanged.kept hevent, ← hsame]
      exact hbefore
    . rw [(hchanged.others consumer hsame).1]
      exact hbefore
  . intro other hother hdrafted
    by_cases hsame : other = c
    . rw [hsame, Function.update_self] at hdrafted
      rw [hsame]
      exact hchanged.drafted hdrafted
    . rw [Function.update_of_ne hsame] at hdrafted
      rw [(hchanged.others _ (consumer_ne hdistinct hother hc hsame)).2]
      exact h.drafted other hother hdrafted

theorem History.sound {stage : Checkpoint → Stage}
    (hdistinct : (saves.map (·.consumer)).Nodup)
    (h : History dir saves start history stage t)
    : Sound dir saves start history stage t := by
  induction h with
  | start => exact ⟨by simp, fun _ _ => rfl, by simp⟩
  | more hbefore hc hevent ih =>
    apply ih.more hdistinct hc
    apply hevent.changed
    exact ih.drafted _ hc

/--
At every moment a consumer's checkpoint is the one whose file was moved to its place, or what it was
before all saves, and never another consumer's. A save that returns has succeeded just if its file
was moved. These are the steps of `save`: run without a break at any such moment, it goes on with
the history by events of its own, down to the result and the tree that it comes to.
-/
theorem load_during_saves (hdistinct : (saves.map (·.consumer)).Nodup)
    {stage : Checkpoint → Stage} (h : History dir saves start history stage t)
    : (∀ c ∈ saves, (c, .renamed) ∈ history →
        ((load dir c.consumer).run t).result = .ok (some c)) ∧
      (∀ consumer, (∀ c ∈ saves, c.consumer = consumer → (c, .renamed) ∉ history) →
        ((load dir consumer).run t).result = ((load dir consumer).run start).result) ∧
      (∀ c result, (c, .returned result) ∈ history →
        (result = .ok () ↔ (c, .renamed) ∈ history)) ∧
      (∀ consumer c, ((load dir consumer).run t).result = .ok (some c) →
        c.consumer = consumer) ∧
      ∀ c ∈ saves, stage c = .writing →
        ∃ events : List (Checkpoint × Event), (∀ event ∈ events, event.1 = c) ∧
          History dir saves start
            (history ++ events ++ [(c, .returned ((save dir c).run t).result)])
            (Function.update stage c .ended) ((save dir c).run t).state := by
  have hsound := h.sound hdistinct
  refine ⟨?_, ?_, ?_, ?_, fun c hc hstage => h.uninterrupted hc hstage⟩
  . intro c hc hrenamed
    exact (Directory.load_encodeIndented (hsound.renamed c hc hrenamed)).1
  . intro consumer hnot
    apply Directory.load_congr
    exact hsound.kept consumer hnot
  . intro c
    exact (h.recorded c).returned
  . intro consumer c hloaded
    have hends : (load dir consumer).Ends t (.ok (some c)) ((load dir consumer).run t).state :=
      ⟨hloaded, rfl⟩
    exact hends.of_meets Directory.load_own c rfl

theorem load_during_saves_beside_unfinished
    : ∃ history stage t,
        History "progress" [⟨"a", 1, 2, 3⟩, ⟨"b", 7, 12, 5⟩] ⟨[(["progress"], .directory)]⟩
          ([(⟨"a", 1, 2, 3⟩, .wrote 9)] ++ history ++ [(⟨"b", 7, 12, 5⟩, .returned (.ok ()))])
          stage t ∧
          ((load "progress" "b").run t).result = .ok (some ⟨"b", 7, 12, 5⟩) ∧
          ((load "progress" "a").run t).result
            = ((load "progress" "a").run ⟨[(["progress"], .directory)]⟩).result := by
  have hdir : FileTree.checkPath "progress" = .ok () := by
    rw [FileTree.checkPath_eq_ok_iff]
    decide
  have hleads : FileTree.Leads ⟨[(["progress"], .directory)]⟩ "progress" ["progress"] := by
    have hfront : FileTree.front "progress".toList = ["progress"] := by decide
    refine ⟨?_, by decide⟩
    rw [hfront]
    rfl
  have habsent {name : String} (hname : FileTree.IsName name)
      : FileTree.get? ⟨[(["progress"], .directory)]⟩ (["progress"] ++ [name]) = none :=
    FileTree.get?_of_below_eq_nil rfl hname.ne_top
  -- One save stops with the first bytes of its draft in the directory.
  have hfree : FileTree.get? ⟨[(["progress"], .directory)]⟩
      (["progress"] ++ [Directory.draftName "a"]) ≠ some .directory := by
    rw [habsent (Directory.isName_draftName "a")]
    simp
  have hwrite := hleads.writeFile_entry (Directory.isName_draftName "a")
    (Directory.fits_draftName hdir (by decide) (by decide +kernel)) hfree
    ((⟨"a", 1, 2, 3⟩ : Checkpoint).encodeIndented.take 9)
  have hfixed := Directory.not_isFixed_draftName ["progress"] "a"
  replace hleads := hleads.put hfixed hfree
    (.file ((⟨"a", 1, 2, 3⟩ : Checkpoint).encodeIndented.take 9))
  rw [← Directory.draftPath_eq] at hwrite
  have hwrote : Happens "progress" ⟨"a", 1, 2, 3⟩ .writing ⟨[(["progress"], .directory)]⟩
      (.wrote 9) .writing _ := .wrote 9 hwrite
  have hbegun : History "progress" [⟨"a", 1, 2, 3⟩, ⟨"b", 7, 12, 5⟩]
      ⟨[(["progress"], .directory)]⟩ [(⟨"a", 1, 2, 3⟩, .wrote 9)] _ _ :=
    .more .start List.mem_cons_self hwrote
  -- The other one is not interrupted.
  have hother {name : String} (hname : FileTree.IsName name)
      (hne : name ≠ Directory.draftName "a")
      : (FileTree.put ⟨[(["progress"], .directory)]⟩ (["progress"] ++ [Directory.draftName "a"])
          (.file ((⟨"a", 1, 2, 3⟩ : Checkpoint).encodeIndented.take 9))).get?
            (["progress"] ++ [name]) ≠ some .directory := by
    rw [FileTree.get?_put _ hfixed, if_neg (by simpa using hne), habsent hname]
    simp
  have hsave := (Directory.ends_save_of_leads hleads (c := ⟨"b", 7, 12, 5⟩)
    (Directory.fits_fileName hdir (by decide) (by decide +kernel))
    (Directory.fits_draftName hdir (by decide) (by decide +kernel))
    (hother (Directory.isName_draftName "b") (mt Directory.draftName_injective (by decide)))
    (hother (Directory.isName_fileName "b") (Directory.draftName_ne_fileName "a" "b").symm)).1
  have ⟨_, _, _, _, huninterrupted⟩ := load_during_saves (by decide) hbegun
  obtain ⟨history, hb, h⟩ := huninterrupted ⟨"b", 7, 12, 5⟩ (by simp) (by simp)
  rw [hsave.1] at h
  refine ⟨history, _, _, h, ?_⟩
  have ⟨hrenamed, hkept, hreturned, _⟩ := load_during_saves (by decide) h
  constructor
  . apply hrenamed ⟨"b", 7, 12, 5⟩ (by simp)
    apply (hreturned _ (.ok ()) (by simp)).1 rfl
  . apply hkept
    intro c hc ha hmoved
    have hne : c ≠ ⟨"b", 7, 12, 5⟩ := by
      rintro rfl
      simp at ha
    simp only [List.append_assoc, List.mem_append, List.mem_singleton, Prod.mk.injEq, hne,
      or_false, reduceCtorEq, and_false, false_or] at hmoved
    exact hne (hb _ hmoved)

end Saving
end Checkpoint
end StateRelay
