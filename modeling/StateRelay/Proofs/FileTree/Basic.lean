import StateRelay.FileTree.Basic
import StateRelay.Proofs.Action
import StateRelay.Proofs.FileTree.Path
import StateRelay.Proofs.Lookup

/-!
This module contains what the operations on a tree of files do to the entries of a directory. The
place of an entry is found whatever else the tree holds, as long as the directory is there.
-/

namespace StateRelay
namespace FileTree

/-! ### Nodes -/

theorem lookup_filter_ne (nodes : List (Place × Node)) (p q : Place)
    : (nodes.filter (·.1 ≠ p)).lookup q = if q = p then none else nodes.lookup q := by
  rw [lookup_filter (fun place => decide (place ≠ p))]
  simp

/-- The two places that are directories whatever the tree holds. -/
def IsFixed (p : Place) : Prop :=
  p = [] ∨ p = [topName]

theorem not_isFixed_append {p : Place} {name : String} (h : name ≠ topName)
    : ¬ IsFixed (p ++ [name]) := by
  rintro (hnil | htop)
  . simp at hnil
  . rw [List.append_eq_singleton_iff] at htop
    simp [h] at htop

theorem get?_put (t : FileTree) {p : Place} (h : ¬ IsFixed p) (n : Node) (q : Place)
    : (t.put p n).get? q = if q = p then some n else t.get? q := by
  unfold get? put
  split
  . next hq =>
    rw [if_neg]
    rintro rfl
    exact h hq
  . rw [List.lookup_cons]
    split
    . next hq => rw [if_pos (eq_of_beq hq)]
    . next hq =>
      have hq := ne_of_beq_false hq
      rw [if_neg hq, lookup_filter_ne, if_neg hq]

theorem get?_erase (t : FileTree) {p : Place} (h : ¬ IsFixed p) (q : Place)
    : (t.erase p).get? q = if q = p then none else t.get? q := by
  unfold get? erase
  split
  . next hq =>
    rw [if_neg]
    rintro rfl
    exact h hq
  . rw [lookup_filter_ne]

/-! ### Walks -/

theorem walk_append (t : FileTree) (here : Place) (ns ms : List String)
    : t.walk here (ns ++ ms) = t.walk here ns >>= fun p => t.walk p ms := by
  induction ns generalizing here with
  | nil => rfl
  | cons name rest ih =>
    rw [List.cons_append, walk, walk]
    split
    . rfl
    . rfl
    . cases step here name with
      | error e => rfl
      | ok there => exact ih there

theorem directory_of_walk {t : FileTree} {here p : Place} {name : String} {rest : List String}
    (h : t.walk here (name :: rest) = .ok p)
    : t.get? here = some .directory := by
  rw [walk] at h
  split at h
  . contradiction
  . contradiction
  . next hdirectory => exact hdirectory

/-- A walk that succeeds is the same in every tree with these directories. -/
theorem walk_mono {t t' : FileTree}
    (h : ∀ q, t.get? q = some .directory → t'.get? q = some .directory)
    {here p : Place} {ns : List String} (hwalk : t.walk here ns = .ok p)
    : t'.walk here ns = .ok p := by
  induction ns generalizing here with
  | nil => exact hwalk
  | cons name rest ih =>
    rw [walk] at hwalk ⊢
    split at hwalk
    . contradiction
    . contradiction
    . next hdirectory =>
      rw [h here hdirectory]
      cases hstep : step here name with
      | error e =>
        rw [hstep] at hwalk
        contradiction
      | ok there =>
        rw [hstep] at hwalk
        exact ih hwalk

theorem step_of_isName {name : String} (h : IsName name) (here : Place)
    : step here name
        =
      if maxName < name.utf8ByteSize then .error .nameTooLong else .ok (here ++ [name]) := by
  rw [step, if_neg h.ne_here, if_neg h.ne_parent]

/-- The path leads to a directory, whose place is `p`. -/
structure Leads (t : FileTree) (dir : String) (p : Place) : Prop where
  walk : t.walk [] (front dir.toList) = .ok p
  directory : t.get? p = some .directory

theorem Leads.mono {t t' : FileTree} {dir : String} {p : Place} (h : t.Leads dir p)
    (hdirs : ∀ q, t.get? q = some .directory → t'.get? q = some .directory)
    : t'.Leads dir p where
  walk := walk_mono hdirs h.walk
  directory := hdirs p h.directory

theorem Leads.put {t : FileTree} {dir : String} {p : Place} (h : t.Leads dir p) {q : Place}
    (hfixed : ¬ IsFixed q) (hq : t.get? q ≠ some .directory) (n : Node)
    : (t.put q n).Leads dir p := by
  apply h.mono
  intro r hr
  rw [get?_put t hfixed, if_neg, hr]
  rintro rfl
  exact hq hr

theorem Leads.erase {t : FileTree} {dir : String} {p : Place} (h : t.Leads dir p) {q : Place}
    (hfixed : ¬ IsFixed q) (hq : t.get? q ≠ some .directory)
    : (t.erase q).Leads dir p := by
  apply h.mono
  intro r hr
  rw [get?_erase t hfixed, if_neg, hr]
  rintro rfl
  exact hq hr

theorem leads_of_resolve {t : FileTree} {dir : String} {p : Place} (h : t.resolve dir = .ok p)
    (hdirectory : t.get? p = some .directory)
    : t.Leads dir p ∧ checkPath dir = .ok () := by
  unfold resolve at h
  cases hcheck : checkPath dir with
  | error e =>
    rw [hcheck] at h
    contradiction
  | ok =>
    rw [hcheck] at h
    change t.walk [] (names dir) = .ok p at h
    rw [names_eq, walk_append] at h
    cases hwalk : t.walk [] (front dir.toList) with
    | error e =>
      rw [hwalk] at h
      contradiction
    | ok q =>
      rw [hwalk] at h
      refine ⟨⟨?_, hdirectory⟩, rfl⟩
      change t.walk q _ = .ok p at h
      rw [hwalk]
      -- The slash at the end leads from a directory to itself.
      split at h
      . rw [walk] at h
        split at h
        . contradiction
        . contradiction
        . exact h
      . exact h

/-! ### Entries -/

/-- Nothing is wrong with the path of an entry, whatever the tree. -/
structure Fits (dir name : String) : Prop where
  path : checkPath (join dir name) = .ok ()
  name : name.utf8ByteSize ≤ maxName

variable {t t' : FileTree} {dir name : String} {p : Place}

theorem checkPath_eq_ok_iff (path : String)
    : checkPath path = .ok () ↔ '\x00' ∉ path.toList ∧ path.utf8ByteSize ≤ maxPath := by
  unfold checkPath
  simp only [List.contains_iff_mem]
  split
  . next h => simp [h]
  . next h =>
    split
    . next hsize => simp [hsize]
    . next hsize => simp [h, Nat.not_lt.1 hsize]

theorem checkPath_of_lt {path : String} (hnul : '\x00' ∉ path.toList)
    (hsize : maxPath < path.utf8ByteSize)
    : checkPath path = .error .nameTooLong := by
  unfold checkPath
  simp only [List.contains_iff_mem]
  rw [if_neg hnul, if_pos hsize]

theorem nul_not_mem_join (hdir : checkPath dir = .ok ()) (hname : IsName name)
    : '\x00' ∉ (join dir name).toList := by
  rw [checkPath_eq_ok_iff] at hdir
  rcases toList_join dir name with ⟨h, _⟩ | ⟨h, _⟩
  . rw [h, List.mem_append]
    exact not_or.2 ⟨hdir.1, hname.nul⟩
  . rw [h, List.mem_append, List.mem_cons]
    exact not_or.2 ⟨hdir.1, not_or.2 ⟨by decide, hname.nul⟩⟩

theorem checkPath_join (hdir : checkPath dir = .ok ()) (hname : IsName name)
    (hsize : (join dir name).utf8ByteSize ≤ maxPath)
    : checkPath (join dir name) = .ok () := by
  rw [checkPath_eq_ok_iff]
  exact ⟨nul_not_mem_join hdir hname, hsize⟩

theorem fits_iff (hdir : checkPath dir = .ok ()) (hname : IsName name)
    : Fits dir name ↔ name.utf8ByteSize ≤ maxName ∧ (join dir name).utf8ByteSize ≤ maxPath := by
  constructor
  . intro h
    exact ⟨h.name, ((checkPath_eq_ok_iff _).1 h.path).2⟩
  . intro h
    exact ⟨checkPath_join hdir hname h.2, h.1⟩

theorem get?_of_below_eq_nil (h : t.below p = []) (hname : name ≠ topName)
    : t.get? (p ++ [name]) = none := by
  have hfixed := not_isFixed_append (p := p) hname
  unfold IsFixed at hfixed
  rw [get?, if_neg hfixed, List.lookup_eq_none_iff]
  intro node hnode
  rw [below, List.filterMap_eq_nil_iff] at h
  have hnot := h node hnode
  simp only [ite_eq_right_iff, reduceCtorEq, imp_false] at hnot
  rw [bne_iff_ne]
  rintro heq
  apply hnot
  rw [← heq]
  simp

theorem resolve_join (hname : IsName name)
    : t.resolve (join dir name)
        =
      checkPath (join dir name) >>= fun _ =>
        t.walk [] (front dir.toList) >>= fun p => t.walk p [name] := by
  rw [resolve, names_join dir hname]
  simp only [walk_append]

theorem walk_singleton (h : t.get? p = some .directory) : t.walk p [name] = step p name := by
  rw [walk, h]
  cases step p name with
  | error e => rfl
  | ok q => rfl

theorem Leads.resolve_join (h : t.Leads dir p) (hname : IsName name)
    : t.resolve (join dir name) = checkPath (join dir name) >>= fun _ => step p name := by
  rw [FileTree.resolve_join hname, h.walk]
  cases checkPath (join dir name) with
  | error e => rfl
  | ok => exact walk_singleton h.directory

theorem Leads.resolve_entry (h : t.Leads dir p) (hname : IsName name) (hfits : Fits dir name)
    : t.resolve (join dir name) = .ok (p ++ [name]) := by
  rw [h.resolve_join hname, hfits.path, step_of_isName hname]
  exact if_neg (Nat.not_lt.2 hfits.name)

/-- An entry for which there is no room has no place, whatever the directory holds. -/
theorem Leads.resolve_of_not_fits (h : t.Leads dir p) (hdir : checkPath dir = .ok ())
    (hname : IsName name) (hnot : ¬ Fits dir name)
    : t.resolve (join dir name) = .error .nameTooLong := by
  rw [h.resolve_join hname]
  by_cases hpath : (join dir name).utf8ByteSize ≤ maxPath
  . rw [checkPath_join hdir hname hpath, step_of_isName hname]
    apply if_pos
    by_contra hle
    exact hnot ((fits_iff hdir hname).2 ⟨Nat.not_lt.1 hle, hpath⟩)
  . rw [checkPath_of_lt (nul_not_mem_join hdir hname) (Nat.not_le.1 hpath)]
    rfl

/-- The path of an entry leads nowhere but to its place in the directory. -/
theorem exists_of_resolve_join {q : Place} (hname : IsName name)
    (h : t.resolve (join dir name) = .ok q)
    : Fits dir name ∧ ∃ p, t.Leads dir p ∧ q = p ++ [name] := by
  rw [resolve_join hname] at h
  cases hcheck : checkPath (join dir name) with
  | error e =>
    rw [hcheck] at h
    contradiction
  | ok =>
    cases hwalk : t.walk [] (front dir.toList) with
    | error e =>
      rw [hcheck, hwalk] at h
      contradiction
    | ok p =>
      rw [hcheck, hwalk] at h
      change t.walk p [name] = .ok q at h
      have hget := directory_of_walk h
      rw [walk_singleton hget, step_of_isName hname] at h
      split at h
      . contradiction
      . next hsize =>
        injection h with h
        exact ⟨⟨hcheck, Nat.not_lt.1 hsize⟩, p, ⟨hwalk, hget⟩, h.symm⟩

/-! ### Reading -/

theorem contentOf_of_resolve {path : String} {q : Place} (h : t.resolve path = .ok q)
    : t.contentOf path
        =
      match t.get? q with
      | none => .error .notFound
      | some .directory => .error .isDirectory
      | some (.file content) => .ok content := by
  rw [contentOf, find, h]
  simp only [bind, Except.bind]
  cases t.get? q with
  | none => rfl
  | some n =>
    cases n with
    | file content => rfl
    | directory => rfl

theorem contentOf_of_resolve_error {path : String} {e : Error} (h : t.resolve path = .error e)
    : t.contentOf path = .error e := by
  rw [contentOf, find, h]
  rfl

theorem readFile_ends (t : FileTree) (path : String)
    : (readFile path).Ends t (t.contentOf path) t := by
  unfold readFile
  apply Action.Ends.bind_ok ⟨rfl, rfl⟩
  exact ⟨rfl, rfl⟩

theorem contentOf_join_congr (h : t.Leads dir p) (h' : t'.Leads dir p) (hname : IsName name)
    (hget : t'.get? (p ++ [name]) = t.get? (p ++ [name]))
    : t'.contentOf (join dir name) = t.contentOf (join dir name) := by
  have hresolve : t'.resolve (join dir name) = t.resolve (join dir name) := by
    rw [h.resolve_join hname, h'.resolve_join hname]
  cases hq : t.resolve (join dir name) with
  | error e =>
    rw [contentOf_of_resolve_error hq, contentOf_of_resolve_error (hresolve.trans hq)]
  | ok q =>
    have ⟨hfits, _⟩ := exists_of_resolve_join hname hq
    rw [h.resolve_entry hname hfits] at hq
    injection hq with hq
    rw [contentOf_of_resolve (h.resolve_entry hname hfits),
      contentOf_of_resolve (h'.resolve_entry hname hfits), hget]

/-! ### Writing -/

theorem placeToWrite_of_resolve {path : String} (h : t.resolve path = .ok (p ++ [name]))
    (hdirectory : t.get? p = some .directory)
    : t.placeToWrite path
        =
      if t.get? (p ++ [name]) = some .directory then .error .isDirectory
      else .ok (p ++ [name]) := by
  rw [placeToWrite, h]
  simp only [bind, Except.bind]
  rw [List.dropLast_concat, hdirectory]
  cases t.get? (p ++ [name]) with
  | none => rfl
  | some n =>
    cases n with
    | file content => rfl
    | directory => rfl

theorem Leads.placeToWrite_entry (h : t.Leads dir p) (hname : IsName name)
    (hfits : Fits dir name) (hentry : t.get? (p ++ [name]) ≠ some .directory)
    : t.placeToWrite (join dir name) = .ok (p ++ [name]) := by
  rw [placeToWrite_of_resolve (h.resolve_entry hname hfits) h.directory, if_neg hentry]

theorem exists_of_placeToWrite_join {q : Place} (hname : IsName name)
    (h : t.placeToWrite (join dir name) = .ok q)
    : Fits dir name ∧ ∃ p, t.Leads dir p ∧ q = p ++ [name] ∧ t.get? q ≠ some .directory := by
  cases hresolve : t.resolve (join dir name) with
  | error e =>
    rw [placeToWrite, hresolve] at h
    contradiction
  | ok r =>
    obtain ⟨hfits, p, hleads, rfl⟩ := exists_of_resolve_join hname hresolve
    rw [placeToWrite_of_resolve hresolve hleads.directory] at h
    split at h
    . contradiction
    . next hentry =>
      injection h with h
      rw [← h]
      exact ⟨hfits, p, hleads, rfl, hentry⟩

theorem Leads.writeFile_entry (h : t.Leads dir p) (hname : IsName name) (hfits : Fits dir name)
    (hentry : t.get? (p ++ [name]) ≠ some .directory) (content : Bytes)
    : (writeFile (join dir name) content).Ends t (.ok ()) (t.put (p ++ [name]) (.file content)) := by
  unfold writeFile
  apply Action.Ends.bind_ok ⟨rfl, rfl⟩
  rw [h.placeToWrite_entry hname hfits hentry]
  exact ⟨rfl, rfl⟩

/-- A file is written in the directory that its path leads to, or the tree stays as it is. -/
theorem writeFile_join (hname : IsName name) (content : Bytes)
    : (writeFile (join dir name) content).Meets t
        (fun _ t' => Fits dir name ∧ ∃ p, t.Leads dir p ∧ t.get? (p ++ [name]) ≠ some .directory ∧
          t' = t.put (p ++ [name]) (.file content))
        (fun _ t' => t' = t) := by
  simp only [writeFile, Action.meets_bind, Action.meets_read]
  cases hplace : t.placeToWrite (join dir name) with
  | error e => simp only [Action.meets_ofExcept_error]
  | ok q =>
    obtain ⟨hfits, p, hleads, rfl, hentry⟩ := exists_of_placeToWrite_join hname hplace
    simp only [Action.meets_ofExcept_ok, Action.meets_update]
    exact ⟨hfits, p, hleads, hentry, rfl⟩

theorem writeFile_of_checkPath_error {path : String} {e : Error} (h : checkPath path = .error e)
    (t : FileTree) (content : Bytes)
    : (writeFile path content).Ends t (.error e) t := by
  unfold writeFile
  apply Action.Ends.bind_ok ⟨rfl, rfl⟩
  rw [placeToWrite, resolve, h]
  exact ⟨rfl, rfl⟩

theorem Leads.rename_entry {target : String} {n : Node} (h : t.Leads dir p) (hname : IsName name)
    (hfits : Fits dir name) (htarget : IsName target) (htargetFits : Fits dir target)
    (hentry : t.get? (p ++ [name]) = some n) (hfree : t.get? (p ++ [target]) ≠ some .directory)
    : (rename (join dir name) (join dir target)).Ends t (.ok ())
        ((t.erase (p ++ [name])).put (p ++ [target]) n) := by
  unfold rename
  apply Action.Ends.bind_ok ⟨rfl, rfl⟩
  rw [h.resolve_entry hname hfits]
  apply Action.Ends.bind_ok ⟨rfl, rfl⟩
  rw [hentry, h.placeToWrite_entry htarget htargetFits hfree]
  exact ⟨rfl, rfl⟩

/-- An entry gets its new name in the directory that it is in, or the tree stays as it is. -/
theorem rename_join {target : String} (hname : IsName name) (htarget : IsName target)
    : (rename (join dir name) (join dir target)).Meets t
        (fun _ t' => Fits dir name ∧ Fits dir target ∧ ∃ p n, t.Leads dir p ∧
          t.get? (p ++ [name]) = some n ∧ t.get? (p ++ [target]) ≠ some .directory ∧
          t' = (t.erase (p ++ [name])).put (p ++ [target]) n)
        (fun _ t' => t' = t) := by
  simp only [rename, Action.meets_bind, Action.meets_read]
  cases hresolve : t.resolve (join dir name) with
  | error e => simp only [Action.meets_ofExcept_error]
  | ok q =>
    obtain ⟨hfits, p, hleads, rfl⟩ := exists_of_resolve_join hname hresolve
    simp only [Action.meets_ofExcept_ok]
    cases hget : t.get? (p ++ [name]) with
    | none => simp only [Action.meets_fail]
    | some n =>
      simp only [Action.meets_bind]
      cases hplace : t.placeToWrite (join dir target) with
      | error e => simp only [Action.meets_ofExcept_error]
      | ok r =>
        obtain ⟨htargetFits, p', hleads', rfl, hentry⟩ :=
          exists_of_placeToWrite_join htarget hplace
        have hp : p' = p := by
          have := hleads'.walk.symm.trans hleads.walk
          injection this
        rw [hp] at hentry ⊢
        simp only [Action.meets_ofExcept_ok, Action.meets_update]
        exact ⟨hfits, htargetFits, p, n, hleads, hget, hentry, rfl⟩

theorem Leads.removeFile_entry {content : Bytes} (h : t.Leads dir p) (hname : IsName name)
    (hfits : Fits dir name) (hentry : t.get? (p ++ [name]) = some (.file content))
    : (removeFile (join dir name)).Ends t (.ok ()) (t.erase (p ++ [name])) := by
  unfold removeFile
  apply Action.Ends.bind_ok ⟨rfl, rfl⟩
  rw [h.resolve_entry hname hfits]
  apply Action.Ends.bind_ok ⟨rfl, rfl⟩
  rw [hentry]
  exact ⟨rfl, rfl⟩

theorem Leads.removeFile_absent (h : t.Leads dir p) (hname : IsName name)
    (hfits : Fits dir name) (hentry : t.get? (p ++ [name]) = none)
    : (removeFile (join dir name)).Ends t (.error .notFound) t := by
  unfold removeFile
  apply Action.Ends.bind_ok ⟨rfl, rfl⟩
  rw [h.resolve_entry hname hfits]
  apply Action.Ends.bind_ok ⟨rfl, rfl⟩
  rw [hentry]
  exact ⟨rfl, rfl⟩

/-- Only the entry that is written has another content afterwards. -/
theorem writeFile_contentOf (hname : IsName name) (content : Bytes)
    : (writeFile (join dir name) content).Meets t
        (fun _ t' => t'.contentOf (join dir name) = .ok content ∧
          ∀ other, IsName other → other ≠ name →
            t'.contentOf (join dir other) = t.contentOf (join dir other))
        (fun _ t' => t' = t) := by
  apply (writeFile_join hname content).mono
  . rintro _ _ ⟨hfits, p, hleads, hentry, rfl⟩
    have hfixed := not_isFixed_append (p := p) hname.ne_top
    have hleads' := hleads.put hfixed hentry (.file content)
    constructor
    . rw [contentOf_of_resolve (hleads'.resolve_entry hname hfits), get?_put t hfixed, if_pos rfl]
    . intro other hother hne
      apply contentOf_join_congr hleads hleads' hother
      rw [get?_put t hfixed, if_neg]
      simpa using hne
  . intro _ _ h
    exact h

/-- A file that is renamed has its content under the new name, and all others keep theirs. -/
theorem rename_contentOf {target : String} {content : Bytes} (hname : IsName name)
    (htarget : IsName target) (h : t.contentOf (join dir name) = .ok content)
    : (rename (join dir name) (join dir target)).Meets t
        (fun _ t' => t'.contentOf (join dir target) = .ok content ∧
          ∀ other, IsName other → other ≠ name → other ≠ target →
            t'.contentOf (join dir other) = t.contentOf (join dir other))
        (fun _ t' => t' = t) := by
  apply (rename_join hname htarget).mono
  . rintro _ _ ⟨hfits, htargetFits, p, n, hleads, hentry, hfree, rfl⟩
    have hfixed := not_isFixed_append (p := p) hname.ne_top
    have htargetFixed := not_isFixed_append (p := p) htarget.ne_top
    have hn : n = .file content := by
      rw [contentOf_of_resolve (hleads.resolve_entry hname hfits), hentry] at h
      cases n with
      | directory => contradiction
      | file _ =>
        injection h with h
        rw [h]
    rw [hn] at hentry ⊢
    have herased : (t.erase (p ++ [name])).Leads dir p := by
      apply hleads.erase hfixed
      rw [hentry]
      simp
    have hleads' : ((t.erase (p ++ [name])).put (p ++ [target]) (.file content)).Leads dir p := by
      apply herased.put htargetFixed
      rw [get?_erase t hfixed]
      split
      . simp
      . exact hfree
    constructor
    . rw [contentOf_of_resolve (hleads'.resolve_entry htarget htargetFits),
        get?_put _ htargetFixed, if_pos rfl]
    . intro other hother hne hneTarget
      apply contentOf_join_congr hleads hleads' hother
      rw [get?_put _ htargetFixed, if_neg (by simpa using hneTarget), get?_erase t hfixed,
        if_neg (by simpa using hne)]
  . intro _ _ h
    exact h

/-! ### Making directories -/

theorem Leads.makeDirectory_front (h : t.Leads dir p)
    : ∃ e, (makeDirectory (front dir.toList)).Ends t (.error e) t ∧
        (e = .notFound → front dir.toList = []) := by
  have ⟨hwalk, hdirectory⟩ := h
  revert hwalk
  generalize front dir.toList = ns
  intro hwalk
  rcases ns.eq_nil_or_concat with rfl | ⟨above, last, rfl⟩
  . exact ⟨.notFound, ⟨rfl, rfl⟩, fun _ => rfl⟩
  . rw [List.concat_eq_append] at hwalk ⊢
    refine ⟨.alreadyExists, ?_, by simp⟩
    unfold makeDirectory
    rw [List.getLast?_concat]
    apply Action.Ends.bind_ok ⟨rfl, rfl⟩
    rw [List.dropLast_concat]
    rw [walk_append] at hwalk
    cases hparent : t.walk [] above with
    | error e =>
      rw [hparent] at hwalk
      contradiction
    | ok parent =>
      apply Action.Ends.bind_ok ⟨rfl, rfl⟩
      rw [hparent] at hwalk
      change t.walk parent [last] = .ok p at hwalk
      have hget := directory_of_walk hwalk
      rw [walk_singleton hget] at hwalk
      rw [hget]
      dsimp only
      split
      . exact ⟨rfl, rfl⟩
      . rw [hwalk]
        apply Action.Ends.bind_ok ⟨rfl, rfl⟩
        rw [hdirectory]
        exact ⟨rfl, rfl⟩

theorem Leads.orIsDirectory_front (h : t.Leads dir p) (e : Error)
    : (orIsDirectory (front dir.toList) e).Ends t (.ok ()) t := by
  unfold orIsDirectory
  apply Action.Ends.bind_ok ⟨rfl, rfl⟩
  rw [h.walk]
  dsimp only
  rw [if_pos h.directory]
  exact ⟨rfl, rfl⟩

theorem Leads.makeDirectories (h : t.Leads dir p) (hpath : checkPath dir = .ok ())
    : (makeDirectories dir).Ends t (.ok ()) t := by
  obtain ⟨e, hmake, hnone⟩ := h.makeDirectory_front
  unfold FileTree.makeDirectories
  rw [hpath, namesToMake_eq]
  apply Action.Ends.bind_ok ⟨rfl, rfl⟩
  apply Action.Ends.bind_ok hmake.outcome
  split
  . contradiction
  . next he =>
    injection he with he
    rw [plainNames_of_front (hnone he)]
    apply Action.Ends.bind_ok ⟨rfl, rfl⟩
    apply Action.Ends.bind_ok hmake.outcome
    exact h.orIsDirectory_front e
  . next he =>
    injection he with he
    rw [← he]
    exact h.orIsDirectory_front e

end FileTree
end StateRelay
