import Mathlib.Data.Finset.Lattice.Lemmas
import StateRelay.Proofs.Migration.Changeset
import StateRelay.Proofs.Migration.Protocol
import StateRelay.Proofs.Migration.Store

/-!
This module contains what the application of changesets comes to, whether it succeeds or not: the
pending changesets are gone through in order, a version is recorded after all statements of its
changeset, and where the run stops nothing of a later changeset has been sent.
-/

namespace StateRelay
namespace Migration

/-! ### What went through -/

def Call.succeeded? : Call → Option String
  | .execute statement (.ok ()) => some statement
  | _ => none

def Call.recorded? : Call → Option Int64
  | .record version _ (.ok ()) => some version
  | _ => none

/-- What `f` finds in the calls. -/
def collected (f : Call → Option α) (calls : List Call) : List α :=
  calls.filterMap f

@[simp]
theorem collected_nil (f : Call → Option α) : collected f [] = [] := by
  rfl

@[simp]
theorem collected_append (f : Call → Option α) (calls more : List Call)
    : collected f (calls ++ more) = collected f calls ++ collected f more := by
  apply List.filterMap_append

theorem filterMap_cons_toList (f : α → Option β) (a : α) (l : List α)
    : (a :: l).filterMap f = (f a).toList ++ l.filterMap f := by
  rw [List.filterMap_cons]
  cases f a with
  | none => rfl
  | some _ => rfl

@[simp]
theorem collected_cons (f : Call → Option α) (call : Call) (calls : List Call)
    : collected f (call :: calls) = (f call).toList ++ collected f calls := by
  apply filterMap_cons_toList

/-- The statements that went through. -/
abbrev succeeded (calls : List Call) : List String :=
  collected Call.succeeded? calls

/-- The versions that were recorded. -/
abbrev recorded (calls : List Call) : List Int64 :=
  collected Call.recorded? calls

/-! ### Statements -/

/-- What may be called next, while `statements` are brought through and `before` has been called. -/
def Call.Runs (statements : List String) (before : List Call) : Call → Prop
  | .execute statement _ => ∃ more, statements = succeeded before ++ statement :: more
  | .pause _ => True
  | .applied _ | .record _ _ _ | .remove _ _ => False

variable {backoff : Backoff} {c : Changeset} {statement : String} {statements : List String}
  {calls : List Call}

theorem Repeated.runs {n : Nat} (h : Repeated backoff statement n calls)
    : succeeded calls = [] ∧ recorded calls = [] ∧ EachAfter (Call.Runs [statement]) calls := by
  induction h with
  | none => simp
  | more _ _ _ ih =>
    obtain ⟨hsucceeded, hrecorded, hruns⟩ := ih
    simp [hsucceeded, hrecorded, hruns, Call.succeeded?, Call.recorded?, Call.Runs]

/-- What a call sends or records while statements are brought through. -/
structure Progress (statements : List String) (calls : List Call) (result : Except Error UInt32)
    : Prop where
  succeeded : succeeded calls <+: statements
  recorded : recorded calls = []
  complete : ∀ failed, result = .ok failed → Migration.succeeded calls = statements
  runs : EachAfter (Call.Runs statements) calls

theorem Sent.progress {result : Except Error UInt32} (h : Sent backoff c statement calls result)
    : Progress [statement] calls result := by
  cases h with
  | through hcalls hle =>
    obtain ⟨hsucceeded, hrecorded, hruns⟩ := hcalls.runs
    constructor
    . simp [hsucceeded, Call.succeeded?]
    . simp [hrecorded, Call.recorded?]
    . simp [hsucceeded, Call.succeeded?]
    . simp [hruns, hsucceeded, Call.Runs]
  | gaveUp hcalls hle hspent hattempts =>
    obtain ⟨hsucceeded, hrecorded, hruns⟩ := hcalls.runs
    constructor
    . simp [hsucceeded, Call.succeeded?]
    . simp [hrecorded, Call.recorded?]
    . simp
    . simp [hruns, hsucceeded, Call.Runs]
  | overflow hcalls hmax =>
    obtain ⟨hsucceeded, hrecorded, hruns⟩ := hcalls.runs
    exact ⟨by simp [hsucceeded], hrecorded, by simp, hruns⟩

theorem Call.Runs.append {before : List Call} {call : Call} (h : call.Runs statements before)
    (rest : List String)
    : call.Runs (statements ++ rest) before := by
  cases call with
  | execute statement answer =>
    obtain ⟨more, hmore⟩ := h
    exact ⟨more ++ rest, by rw [hmore, List.append_assoc, List.cons_append]⟩
  | _ => exact h

theorem Call.Runs.after {before : List Call} {call : Call} (h : call.Runs statements before)
    (earlier : List Call)
    : call.Runs (succeeded earlier ++ statements) (earlier ++ before) := by
  cases call with
  | execute statement answer =>
    obtain ⟨more, hmore⟩ := h
    exact ⟨more, by simp [hmore]⟩
  | _ => exact h

theorem Ran.progress {retries : UInt32} {result : Except Error UInt32}
    (h : Ran backoff c retries statements calls result)
    : Progress statements calls result := by
  induction h with
  | done => exact ⟨by simp, rfl, by simp, by simp⟩
  | @stopped retries statement rest calls e hcalls =>
    have hsent := hcalls.progress
    refine ⟨?_, hsent.recorded, by simp, ?_⟩
    . exact hsent.succeeded.trans (List.prefix_append [statement] rest)
    . exact hsent.runs.mono fun _ _ h => h.append rest
  | @overflow retries failed statement rest calls hcalls hsize =>
    have hsent := hcalls.progress
    refine ⟨?_, hsent.recorded, by simp, ?_⟩
    . exact hsent.succeeded.trans (List.prefix_append [statement] rest)
    . exact hsent.runs.mono fun _ _ h => h.append rest
  | @through retries failed next statement rest calls more result hcalls hnext hmore ih =>
    have hsent := hcalls.progress
    have hthrough := hsent.complete failed rfl
    constructor
    . simp only [collected_append, hthrough]
      exact (List.prefix_append_right_inj [statement]).2 ih.succeeded
    . simp only [collected_append, hsent.recorded, ih.recorded]
      rfl
    . intro total htotal
      simp only [collected_append, hthrough, ih.complete total htotal]
      rfl
    . rw [eachAfter_append]
      refine ⟨hsent.runs.mono fun _ _ h => h.append rest, ih.runs.mono ?_⟩
      intro before call h
      have := h.after calls
      rwa [hthrough] at this

/-! ### Changesets -/

/-- The changesets that are to be applied when the versions of `held` are. -/
def pending (flags : FeatureFlags) (held : Finset Int64) (changesets : List Changeset)
    : List Changeset :=
  changesets.filter fun c => c.version ∉ held ∧ c.isEnabled flags

/-- The changesets that are left alone because their gates are closed. -/
def withheld (flags : FeatureFlags) (held : Finset Int64) (changesets : List Changeset)
    : List Changeset :=
  changesets.filter fun c => c.version ∉ held ∧ c.isEnabled flags = false

/-- What may be called next, while changesets are applied and `before` has been called. -/
def Call.Fits (changesets : List Changeset) (before : List Call) : Call → Prop
  | .execute statement _ => ∃ past c rest part more,
      changesets = past ++ c :: rest ∧ c.up = part ++ statement :: more ∧
      recorded before = past.map (·.version) ∧ succeeded before = past.flatMap (·.up) ++ part
  | .record version name _ => ∃ past c rest,
      changesets = past ++ c :: rest ∧ version = c.version ∧ name = c.name ∧
      recorded before = past.map (·.version) ∧ succeeded before = (past ++ [c]).flatMap (·.up)
  | .pause _ => True
  | .applied _ | .remove _ _ => False

theorem Call.Runs.fits {before : List Call} {call : Call} (h : call.Runs c.up before)
    (hrecorded : recorded before = []) (rest : List Changeset)
    : call.Fits (c :: rest) before := by
  cases call with
  | execute statement answer =>
    obtain ⟨more, hmore⟩ := h
    exact ⟨[], c, rest, succeeded before, more, rfl, hmore, hrecorded, rfl⟩
  | pause ms => trivial
  | _ => contradiction

theorem Call.Fits.after {before earlier : List Call} {call : Call} {changesets : List Changeset}
    (h : call.Fits changesets before) (hsucceeded : succeeded earlier = c.up)
    (hrecorded : recorded earlier = [c.version])
    : call.Fits (c :: changesets) (earlier ++ before) := by
  cases call with
  | execute statement answer =>
    obtain ⟨past, next, rest, part, more, hchangesets, hup, hbefore, hthrough⟩ := h
    refine ⟨c :: past, next, rest, part, more, ?_, hup, ?_, ?_⟩
    . rw [hchangesets, List.cons_append]
    . simp only [collected_append, hrecorded, hbefore]
      rfl
    . simp only [collected_append, hsucceeded, hthrough, List.flatMap_cons, List.append_assoc]
  | record version name answer =>
    obtain ⟨past, next, rest, hchangesets, hversion, hname, hbefore, hthrough⟩ := h
    refine ⟨c :: past, next, rest, ?_, hversion, hname, ?_, ?_⟩
    . rw [hchangesets, List.cons_append]
    . simp only [collected_append, hrecorded, hbefore]
      rfl
    . simp only [collected_append, hsucceeded, hthrough, List.cons_append, List.flatMap_cons]
  | pause ms => trivial
  | _ => exact h

section

variable {flags : FeatureFlags} {held : Finset Int64} {changesets rest : List Changeset}

theorem pending_known (h : c.version ∈ held)
    : pending flags held (c :: rest) = pending flags held rest := by
  simp [pending, h]

theorem pending_gated (h : c.isEnabled flags = false)
    : pending flags held (c :: rest) = pending flags held rest := by
  simp [pending, h]

theorem pending_cons (h : c.version ∉ held) (henabled : c.isEnabled flags = true)
    (rest : List Changeset)
    : pending flags held (c :: rest) = c :: pending flags held rest := by
  simp [pending, h, henabled]

theorem withheld_known (h : c.version ∈ held)
    : withheld flags held (c :: rest) = withheld flags held rest := by
  simp [withheld, h]

theorem withheld_gated (h : c.version ∉ held) (hgate : c.isEnabled flags = false)
    : withheld flags held (c :: rest) = c :: withheld flags held rest := by
  simp [withheld, h, hgate]

theorem withheld_enabled (h : c.isEnabled flags = true)
    : withheld flags held (c :: rest) = withheld flags held rest := by
  simp [withheld, h]

end

/--
Of the pending changesets those in `past` are recorded, and some of the next one's statements went
through. Nothing else was called for.
-/
structure Reached (flags : FeatureFlags) (held : Finset Int64) (changesets : List Changeset)
    (calls : List Call) (past rest : List Changeset) : Prop where
  pending : pending flags held changesets = past ++ rest
  recorded : recorded calls = past.map (·.version)
  succeeded : ∃ part, part <+: (rest.take 1).flatMap (·.up) ∧
    succeeded calls = past.flatMap (·.up) ++ part
  fits : EachAfter (Call.Fits (past ++ rest.take 1)) calls

theorem Progress.fits {result : Except Error UInt32} (h : Progress c.up calls result)
    (rest : List Changeset)
    : EachAfter (Call.Fits (c :: rest)) calls := by
  refine h.runs.of_prefix.mono ?_
  rintro before call ⟨⟨after, hprefix⟩, hruns⟩
  have hrecorded := h.recorded
  simp only [← hprefix, collected_append, List.append_eq_nil_iff] at hrecorded
  exact hruns.fits hrecorded.1 rest

section

variable {flags : FeatureFlags} {held : Finset Int64} {changesets past rest : List Changeset}
  {failed : UInt32}

theorem Progress.reached {result : Except Error UInt32} (h : Progress c.up calls result)
    (hpending : pending flags held changesets = c :: rest)
    : Reached flags held changesets calls [] (c :: rest) where
  pending := hpending
  recorded := h.recorded
  succeeded := ⟨Migration.succeeded calls, by simpa using h.succeeded, rfl⟩
  fits := h.fits (rest.take 0)

theorem Progress.fits_record (h : Progress c.up calls (.ok failed)) (answer : Except Error Unit)
    (rest : List Changeset)
    : (Call.record c.version c.name answer).Fits (c :: rest) calls := by
  refine ⟨[], c, rest, rfl, rfl, rfl, h.recorded, ?_⟩
  rw [h.complete failed rfl]
  simp

/-- A changeset that cannot be recorded is as far as the calls get. -/
theorem Progress.reached_unrecorded (h : Progress c.up calls (.ok failed))
    (hpending : pending flags held changesets = c :: rest) (e : Error)
    : Reached flags held changesets (calls ++ [.record c.version c.name (.error e)]) []
        (c :: rest) where
  pending := hpending
  recorded := by simp [h.recorded, Call.recorded?]
  succeeded := by
    refine ⟨c.up, by simp, ?_⟩
    simp [h.complete failed rfl, Call.succeeded?]
  fits := by
    rw [eachAfter_append, eachAfter_cons]
    refine ⟨h.fits _, ?_, by simp⟩
    rw [List.append_nil]
    exact h.fits_record (.error e) _

/-- A changeset that was recorded goes before those that were reached from there. -/
theorem Reached.cons {more : List Call} (h : Reached flags held changesets more past rest)
    (hnew : c.version ∉ held) (henabled : c.isEnabled flags = true)
    (hprogress : Progress c.up calls (.ok failed))
    : Reached flags held (c :: changesets) (calls ++ .record c.version c.name (.ok ()) :: more)
        (c :: past) rest where
  pending := by rw [pending_cons hnew henabled, h.pending, List.cons_append]
  recorded := by simp [hprogress.recorded, h.recorded, Call.recorded?]
  succeeded := by
    obtain ⟨part, hpart, hsucceeded⟩ := h.succeeded
    refine ⟨part, hpart, ?_⟩
    simp [hprogress.complete failed rfl, hsucceeded, Call.succeeded?]
  fits := by
    rw [eachAfter_append, eachAfter_cons]
    refine ⟨hprogress.fits _, ?_, h.fits.mono ?_⟩
    . rw [List.append_nil]
      exact hprogress.fits_record (.ok ()) _
    . intro before call hfits
      have hall : Migration.succeeded (calls ++ [.record c.version c.name (.ok ())]) = c.up := by
        simp [hprogress.complete failed rfl, Call.succeeded?]
      have hversion : Migration.recorded (calls ++ [.record c.version c.name (.ok ())])
          = [c.version] := by
        simp [hprogress.recorded, Call.recorded?]
      simpa using hfits.after hall hversion

end

theorem Applied.reached {flags : FeatureFlags} {applied : List Int64} {report : Report}
    {changesets : List Changeset} {result : Except Error Report}
    (h : Applied backoff flags applied report changesets calls result)
    : ∃ past rest, Reached flags applied.toFinset changesets calls past rest ∧
        ∀ total, result = .ok total → rest = [] ∧
          total.executed = report.executed ++ past.map (·.version) ∧
          total.gated = report.gated ++
            (withheld flags applied.toFinset changesets).map (·.version) := by
  induction h with
  | done =>
    refine ⟨[], [], ⟨rfl, rfl, ⟨[], by simp, rfl⟩, by simp⟩, ?_⟩
    rintro total ⟨⟩
    simp [withheld]
  | known hknown _ ih =>
    have hknown := List.mem_toFinset.2 hknown
    obtain ⟨past, rest, hreached, hok⟩ := ih
    refine ⟨past, rest, { hreached with pending := ?_ }, ?_⟩
    . rw [pending_known hknown]
      exact hreached.pending
    . rw [withheld_known hknown]
      exact hok
  | gated hnew hgate _ ih =>
    have hnew := mt List.mem_toFinset.1 hnew
    obtain ⟨past, rest, hreached, hok⟩ := ih
    refine ⟨past, rest, { hreached with pending := ?_ }, ?_⟩
    . rw [pending_gated hgate]
      exact hreached.pending
    . intro total htotal
      obtain ⟨hrest, hexecuted, hgated⟩ := hok total htotal
      rw [withheld_gated hnew hgate]
      refine ⟨hrest, hexecuted, ?_⟩
      rw [hgated, Report.gate, List.append_assoc]
      rfl
  | @stopped report c rest calls e hnew henabled hcalls =>
    have hpending := pending_cons (mt List.mem_toFinset.1 hnew) henabled rest
    exact ⟨[], _, hcalls.progress.reached hpending, by simp⟩
  | @overflow report c rest calls failed hnew henabled hcalls hsize =>
    have hpending := pending_cons (mt List.mem_toFinset.1 hnew) henabled rest
    exact ⟨[], _, hcalls.progress.reached hpending, by simp⟩
  | @unrecorded report c rest calls failed e hnew henabled hcalls =>
    have hpending := pending_cons (mt List.mem_toFinset.1 hnew) henabled rest
    exact ⟨[], _, hcalls.progress.reached_unrecorded hpending e, by simp⟩
  | @recorded report c changesets calls more failed retries result hnew henabled hcalls hretries
      hmore ih =>
    have hnew := mt List.mem_toFinset.1 hnew
    obtain ⟨past, rest, hreached, hok⟩ := ih
    refine ⟨c :: past, rest, hreached.cons hnew henabled hcalls.progress, ?_⟩
    intro total htotal
    obtain ⟨hrest, hexecuted, hgated⟩ := hok total htotal
    rw [withheld_enabled henabled]
    refine ⟨hrest, ?_, hgated⟩
    rw [hexecuted, Report.apply, List.append_assoc]
    rfl

/-! ### Versions -/

/-- The versions that are held after a call. -/
def Call.change (held : Finset Int64) : Call → Finset Int64
  | .record version _ (.ok ()) => insert version held
  | .remove version (.ok ()) => held.erase version
  | _ => held

/-- How a call changes the versions that are held: if it asks for them it is told. -/
def Call.Shows (held held' : Finset Int64) (call : Call) : Prop :=
  held' = call.change held ∧
    ∀ versions, call = .applied (.ok versions) → versions.toFinset = held

/-- A migrator whose database and clock know nothing of its store. -/
def apart (set : MigrationSet) (flags : FeatureFlags) (backoff : Backoff) (executor : Executor η)
    (pause : Nat → η → η) (store : VersionStore κ)
    : Migrator (η × κ) where
  set := set
  flags := flags
  backoff := backoff
  executor := executor.zoom (·.1) fun s t => (s, t.2)
  store := store.zoom (·.2) fun s t => (t.1, s)
  pause ms t := (pause ms t.1, t.2)

/-- What a call does to a store that nothing else changes. -/
def VersionStore.Does (store : VersionStore κ) : Call → κ → κ → Prop
  | .applied answer, k, k' => store.applied.Ends k answer k'
  | .record version name answer, k, k' => (store.record version name).Ends k answer k'
  | .remove version answer, k, k' => (store.remove version).Ends k answer k'
  | .execute _ _, k, k' | .pause _, k, k' => k' = k

section

variable {store : VersionStore κ} {view : κ → Finset Int64} (hstore : store.Keeps view)
include hstore

theorem VersionStore.Keeps.shows {call : Call} {k k' : κ} (hdoes : store.Does call k k')
    : call.Shows (view k) (view k') := by
  match call with
  | .applied (.ok versions) =>
    have ⟨htold, hview⟩ := hdoes.of_meets (hstore.applied k)
    refine ⟨hview, ?_⟩
    rintro _ ⟨⟩
    exact htold
  | .applied (.error e) => exact ⟨hdoes.of_meets_error (hstore.applied k), by simp⟩
  | .record version name (.ok ()) =>
    exact ⟨hdoes.of_meets (hstore.record version name k), by simp⟩
  | .record version name (.error e) =>
    exact ⟨hdoes.of_meets_error (hstore.record version name k), by simp⟩
  | .remove version (.ok ()) => exact ⟨hdoes.of_meets (hstore.remove version k), by simp⟩
  | .remove version (.error e) =>
    exact ⟨hdoes.of_meets_error (hstore.remove version k), by simp⟩
  | .execute _ _ | .pause _ => exact ⟨congrArg view hdoes, by simp⟩

theorem VersionStore.Keeps.eq_foldl {calls : List Call} {k k' : κ}
    (h : Leads store.Does k calls k')
    : view k' = calls.foldl Call.change (view k) := by
  induction calls generalizing k with
  | nil => rw [show k' = k from h, List.foldl_nil]
  | cons call rest ih =>
    obtain ⟨m, hdoes, hrest⟩ := h
    rw [List.foldl_cons, ← (hstore.shows hdoes).1]
    exact ih hrest

end

section Apart

variable (set : MigrationSet) (flags : FeatureFlags) (backoff : Backoff) (executor : Executor η)
  (pause : Nat → η → η)

theorem does_apart {store : VersionStore κ} {call : Call} {s s' : η × κ}
    (h : (apart set flags backoff executor pause store).Does call s s')
    : store.Does call s.2 s'.2 := by
  cases call with
  | applied answer => exact ⟨h.1, congrArg (·.2) h.2⟩
  | record version name answer => exact ⟨h.1, congrArg (·.2) h.2⟩
  | remove version answer => exact ⟨h.1, congrArg (·.2) h.2⟩
  | execute statement answer => exact (congrArg (·.2) h.2).symm
  | pause ms => exact congrArg (·.2) h

variable {store : VersionStore κ} {view : κ → Finset Int64} (hstore : store.Keeps view)
include hstore

theorem shows_of_does {call : Call} {s s' : η × κ}
    (h : (apart set flags backoff executor pause store).Does call s s')
    : call.Shows (view s.2) (view s'.2) := by
  apply hstore.shows
  exact does_apart set flags backoff executor pause h

theorem view_eq_foldl {calls : List Call} {s s' : η × κ}
    (h : Leads (apart set flags backoff executor pause store).Does s calls s')
    : view s'.2 = calls.foldl Call.change (view s.2) := by
  apply hstore.eq_foldl
  apply h.map
  intro call s s' hdoes
  exact does_apart set flags backoff executor pause hdoes

end Apart

theorem foldl_change {calls : List Call}
    (h : ∀ call ∈ calls, ∀ version answer, call ≠ .remove version answer) (held : Finset Int64)
    : calls.foldl Call.change held = held ∪ (recorded calls).toFinset := by
  induction calls generalizing held with
  | nil => simp
  | cons call rest ih =>
    rw [List.forall_mem_cons] at h
    simp only [List.foldl_cons, ih h.2, collected_cons, List.toFinset_append]
    have hchange : call.change held = held ∪ call.recorded?.toList.toFinset := by
      match call with
      | .record version name (.ok ()) => simp [Call.change, Call.recorded?]
      | .record _ _ (.error _) | .applied _ | .execute _ _ | .pause _ =>
        simp [Call.change, Call.recorded?]
      | .remove version answer => exact absurd rfl (h.1 version answer)
    rw [hchange, Finset.union_assoc]

theorem foldl_change_of_fits {changesets : List Changeset} {calls : List Call}
    (h : EachAfter (Call.Fits changesets) calls) (held : Finset Int64)
    : calls.foldl Call.change held = held ∪ (recorded calls).toFinset := by
  apply foldl_change
  rintro call hcall version answer rfl
  obtain ⟨before, hfits⟩ := h.exists_before hcall
  exact hfits

/-! ### Whole runs -/

section

variable {flags : FeatureFlags} {held : Finset Int64} {changesets : List Changeset}

/-- To what is held, the pending changesets add all that are enabled. -/
theorem union_pending
    : held ∪ ((pending flags held changesets).map (·.version)).toFinset
        =
      held ∪ ((changesets.filter (·.isEnabled flags)).map (·.version)).toFinset := by
  ext v
  simp only [pending, Finset.mem_union, List.mem_toFinset, List.mem_map, List.mem_filter,
    decide_eq_true_eq]
  constructor
  . rintro (hheld | ⟨c, ⟨hc, _, henabled⟩, rfl⟩)
    . exact .inl hheld
    . exact .inr ⟨c, ⟨hc, henabled⟩, rfl⟩
  . rintro (hheld | ⟨c, ⟨hc, henabled⟩, rfl⟩)
    . exact .inl hheld
    . by_cases hheld : c.version ∈ held
      . exact .inl hheld
      . exact .inr ⟨c, ⟨hc, hheld, henabled⟩, rfl⟩

theorem increasing_pending (h : (changesets.map (·.version)).Pairwise (· < ·))
    : ((pending flags held changesets).map (·.version)).Pairwise (· < ·) := by
  apply List.Pairwise.sublist _ h
  apply List.Sublist.map
  apply List.filter_sublist

theorem increasing_withheld (h : (changesets.map (·.version)).Pairwise (· < ·))
    : ((withheld flags held changesets).map (·.version)).Pairwise (· < ·) := by
  apply List.Pairwise.sublist _ h
  apply List.Sublist.map
  apply List.filter_sublist

end

/-- All pending changesets went through, so that `held'` has every version that is enabled. -/
structure Completed (flags : FeatureFlags) (held : Finset Int64) (changesets : List Changeset)
    (calls : List Call) (held' : Finset Int64) (report : Report) : Prop where
  fits : EachAfter (Call.Fits (pending flags held changesets)) calls
  succeeded : succeeded calls = (pending flags held changesets).flatMap (·.up)
  versions : held' = held ∪ ((changesets.filter (·.isEnabled flags)).map (·.version)).toFinset
  executed : report.executed = (pending flags held changesets).map (·.version)
  gated : report.gated = (withheld flags held changesets).map (·.version)

theorem Reached.completed {flags : FeatureFlags} {held held' : Finset Int64}
    {changesets past : List Changeset} {report : Report}
    (h : Reached flags held changesets calls past [])
    (hversions : held' = held ∪ (past.map (·.version)).toFinset)
    (hexecuted : report.executed = past.map (·.version))
    (hgated : report.gated = (withheld flags held changesets).map (·.version))
    : Completed flags held changesets calls held' report := by
  have hpending : Migration.pending flags held changesets = past := by
    rw [h.pending, List.append_nil]
  obtain ⟨part, hpart, hsucceeded⟩ := h.succeeded
  rw [List.take_nil, List.flatMap_nil, List.prefix_nil] at hpart
  refine ⟨?_, ?_, ?_, ?_, hgated⟩
  . have hfits := h.fits
    rw [List.take_nil, List.append_nil] at hfits
    rw [hpending]
    exact hfits
  . rw [hsucceeded, hpart, List.append_nil, hpending]
  . rw [hversions, ← union_pending, hpending]
  . rw [hexecuted, hpending]

/-- Only the first of the pending changesets went through; the next one was not completed. -/
def Stopped (flags : FeatureFlags) (held : Finset Int64) (changesets : List Changeset)
    (calls : List Call) (held' : Finset Int64) : Prop :=
  ∃ past rest, Reached flags held changesets calls past rest ∧
    held' = held ∪ (past.map (·.version)).toFinset

/--
The changesets that are pending are gone through in the order of their versions, whatever the
database answers and whichever records fail. The versions that are held in the end are those whose
statements all went through.
-/
theorem up_settles (offered : List Changeset) (flags : FeatureFlags) (backoff : Backoff)
    (executor : Executor η) (pause : Nat → η → η) {store : VersionStore κ}
    {view : κ → Finset Int64} (hstore : store.Keeps view) (s : η × κ)
    : let set := (({} : MigrationSet).registerAll offered).1
      let m := apart set flags backoff executor pause store
      let held := view s.2
      let held' := view (m.up.run s).state.2
      Leads m.Does s (m.tapedUp s).state.calls (m.up.run s).state ∧
      ((pending flags held set.changesets).map (·.version)).Pairwise (· < ·) ∧
      ((withheld flags held set.changesets).map (·.version)).Pairwise (· < ·) ∧
      ∃ answer calls, (m.tapedUp s).state.calls = .applied answer :: calls ∧
        (∀ report, (m.up.run s).result = .ok report →
          Completed flags held set.changesets calls held' report) ∧
        (∀ e, (m.up.run s).result = .error e →
          Stopped flags held set.changesets calls held') := by
  intro set m held held'
  have hincreasing : set.Increasing := MigrationSet.increasing_empty.registerAll offered
  have hleads := m.tapedUp_leads s
  have hview := view_eq_foldl set flags backoff executor pause hstore hleads
  have hcourse : Course backoff flags set.changesets (m.tapedUp s).state.calls
      (m.tapedUp s).result := m.tapedUp_course s
  rw [m.result_tapedUp s] at hcourse
  rw [m.state_tapedUp s] at hleads hview
  refine ⟨hleads, increasing_pending hincreasing, increasing_withheld hincreasing, ?_⟩
  generalize (m.tapedUp s).state.calls = calls at hcourse hleads hview ⊢
  generalize (m.up.run s).result = result at hcourse ⊢
  cases hcourse with
  | unread =>
    refine ⟨_, [], rfl, by simp, ?_⟩
    intro _ _
    refine ⟨[], pending flags held set.changesets, ?_, ?_⟩
    . exact ⟨rfl, rfl, ⟨[], List.nil_prefix, rfl⟩, by simp⟩
    . simpa [Call.change] using hview
  | @read applied calls _ hcalls =>
    have hheld : applied.toFinset = held := by
      obtain ⟨_, hdoes, _⟩ := hleads
      exact (shows_of_does set flags backoff executor pause hstore hdoes).2 applied rfl
    obtain ⟨past, rest, hreached, hok⟩ := hcalls.reached
    rw [hheld] at hreached hok
    have hversions : held' = held ∪ (past.map (·.version)).toFinset := by
      rw [← hreached.recorded, ← foldl_change_of_fits hreached.fits]
      exact hview
    refine ⟨_, calls, rfl, ?_, ?_⟩
    . intro report hresult
      obtain ⟨rfl, hexecuted, hgated⟩ := hok report hresult
      exact hreached.completed hversions hexecuted hgated
    . intro _ _
      exact ⟨past, rest, hreached, hversions⟩

/-- Changesets of which one is gated and one is refused. -/
def offer : List Changeset :=
  [⟨1, "a", ["s", "t"], [], none⟩, ⟨2, "b", ["u"], [], some "gate"⟩, ⟨2, "c", [], [], none⟩,
    ⟨3, "d", ["v"], [], none⟩, ⟨4, "e", ["w"], [], none⟩]

/-- A migrator for them, with an executor and a store in memory. -/
def unreliable : Migrator (StatementLog × List (Option Error) × VersionTable) :=
  apart (({} : MigrationSet).registerAll offer).1 {} (.immediate 1) StatementLog.executor
    (fun _ log => log) VersionTable.store.faulty

/-- One statement will fail, and the second record. -/
def faults : StatementLog × List (Option Error) × VersionTable :=
  ({ failures := [.transient "lock"] }, [none, some (.versionStore "full")], [(7, "z")])

theorem up_settles_until_unrecorded
    : VersionTable.store.faulty.Keeps (fun t => (VersionTable.versions t.2).toFinset) ∧
        VersionTable.versions (unreliable.up.run faults).state.2.2 = [1, 7] ∧
        ∃ calls, Stopped {} {7} unreliable.set.changesets calls {1, 7} := by
  have hstore := VersionTable.store_keeps.faulty
  have h := up_settles offer {} (.immediate 1) StatementLog.executor (fun _ log => log) hstore
    faults
  have hmigrator : apart (({} : MigrationSet).registerAll offer).1 {} (.immediate 1)
      StatementLog.executor (fun _ log => log) VersionTable.store.faulty = unreliable := rfl
  have hversions : VersionTable.versions (unreliable.up.run faults).state.2.2 = [1, 7] := by
    decide +kernel
  have hfails : (unreliable.up.run faults).result.toOption = none := by decide +kernel
  refine ⟨hstore, hversions, ?_⟩
  dsimp only at h
  rw [hmigrator, hversions] at h
  obtain ⟨_, _, _, _, calls, _, _, hstopped⟩ := h
  cases hresult : (unreliable.up.run faults).result with
  | ok report =>
    rw [hresult] at hfails
    contradiction
  | error e => exact ⟨calls, hstopped e hresult⟩

end Migration
end StateRelay
