import Mathlib.Data.List.DropRight
import StateRelay.FileTree.Path

/-!
This module contains which names a path has once a name is put after it: those of the path, less the
`.` that a slash at its end stands for, and the name. A path to be made has the same names.
-/

namespace StateRelay
namespace FileTree

/-! ### Pieces -/

def pieces (cs : List Char) : List String :=
  ((cs.splitOn '/').map String.ofList).filter (· ≠ "")

theorem pieces_nil : pieces [] = [] := by
  rw [pieces, List.splitOn_nil]
  rfl

theorem pieces_append_slash (cs ds : List Char)
    : pieces (cs ++ '/' :: ds) = pieces cs ++ pieces ds := by
  rw [pieces, List.splitOn_append_cons_self, List.map_append, List.filter_append]
  rfl

theorem pieces_toList {name : String} (hslash : '/' ∉ name.toList) (hname : name ≠ "")
    : pieces name.toList = [name] := by
  have hsplit : name.toList.splitOn '/' = [name.toList] := by
    apply List.splitOnP_eq_singleton
    intro c hc
    exact beq_false_of_ne fun h => hslash (h ▸ hc)
  rw [pieces, hsplit, List.map_singleton, String.ofList_toList, List.filter_singleton]
  simp [hname]

theorem pieces_append_slashes (cs : List Char) (n : Nat)
    : pieces (cs ++ List.replicate n '/') = pieces cs := by
  induction n generalizing cs with
  | zero => rw [List.replicate_zero, List.append_nil]
  | succ n ih =>
    have hslashes := ih []
    rw [List.nil_append, pieces_nil] at hslashes
    rw [List.replicate_succ, pieces_append_slash, hslashes, List.append_nil]

/-! ### Names -/

theorem startsWith_slash (path : String)
    : path.startsWith "/" = true ↔ path.toList.head? = some '/' := by
  rw [String.startsWith_string_iff]
  cases path.toList with
  | nil => simp
  | cons c rest => simp [eq_comm]

theorem endsWith_slash (path : String)
    : path.endsWith "/" = true ↔ path.toList.getLast? = some '/' := by
  rw [String.endsWith_eq_endsWith_toSlice, String.Slice.endsWith_string_iff, String.copy_toSlice,
    List.getLast?_eq_some_iff]
  constructor
  . rintro ⟨front, h⟩
    exact ⟨front, h.symm⟩
  . rintro ⟨front, h⟩
    exact ⟨front, h.symm⟩

/-- The names that the characters stand for whether a slash ends them or not. -/
def front (cs : List Char) : List String :=
  (if cs.head? = some '/' then [topName] else []) ++ pieces cs

theorem names_eq (path : String)
    : names path
        =
      front path.toList ++
        if path.endsWith "/" && !(pieces path.toList).isEmpty then ["."] else [] := by
  rw [front]
  simp only [← startsWith_slash]
  rfl

theorem names_of_last {path : String} (h : path.toList.getLast? ≠ some '/')
    : names path = front path.toList := by
  rw [names_eq, Bool.eq_false_iff.2 (mt (endsWith_slash path).1 h)]
  apply List.append_nil

theorem front_append {cs ds : List Char} {more : List String} (hcs : cs ≠ [])
    (h : pieces (cs ++ ds) = pieces cs ++ more)
    : front (cs ++ ds) = front cs ++ more := by
  rw [front, front, h, List.head?_append_of_ne_nil cs hcs, List.append_assoc]

/-- A name that a directory can have an entry under. -/
structure IsName (name : String) : Prop where
  ne_empty : name ≠ ""
  slash : '/' ∉ name.toList
  nul : '\x00' ∉ name.toList
  ne_here : name ≠ "."
  ne_parent : name ≠ ".."

theorem IsName.ne_top {name : String} (h : IsName name) : name ≠ topName := by
  intro htop
  apply h.slash
  rw [htop]
  decide

theorem isName_append {front suffix : String} (hfront : '/' ∉ front.toList)
    (hfrontNul : '\x00' ∉ front.toList) (hsuffix : '/' ∉ suffix.toList)
    (hsuffixNul : '\x00' ∉ suffix.toList) (hlength : 2 < suffix.toList.length)
    : IsName (front ++ suffix) := by
  have hlong : 2 < (front ++ suffix).toList.length := by
    rw [String.toList_append, List.length_append]
    omega
  have hne {short : String} (hshort : short.toList.length ≤ 2) : front ++ suffix ≠ short := by
    intro h
    rw [h] at hlong
    omega
  refine ⟨hne (by decide), ?_, ?_, hne (by decide), hne (by decide)⟩
  . rw [String.toList_append, List.mem_append]
    exact not_or.2 ⟨hfront, hsuffix⟩
  . rw [String.toList_append, List.mem_append]
    exact not_or.2 ⟨hfrontNul, hsuffixNul⟩

theorem join_append (dir name suffix : String)
    : join dir name ++ suffix = join dir (name ++ suffix) := by
  unfold join
  split
  . rfl
  . split
    . exact String.append_assoc
    . exact String.append_assoc

theorem le_utf8ByteSize_join (dir name : String)
    : dir.utf8ByteSize + name.utf8ByteSize ≤ (join dir name).utf8ByteSize := by
  unfold join
  split
  . next h => simp [h]
  . split
    . rw [String.utf8ByteSize_append]
    . rw [String.utf8ByteSize_append, String.utf8ByteSize_append]
      omega

theorem utf8ByteSize_join_le (dir name : String)
    : (join dir name).utf8ByteSize ≤ dir.utf8ByteSize + 1 + name.utf8ByteSize := by
  unfold join
  split
  . apply Nat.le_add_left
  . split
    . rw [String.utf8ByteSize_append]
      omega
    . rw [String.utf8ByteSize_append, String.utf8ByteSize_append]
      exact Nat.le_refl _

theorem toList_join (dir name : String)
    : (join dir name).toList = dir.toList ++ name.toList ∧
          (dir = "" ∨ dir.toList.getLast? = some '/') ∨
        (join dir name).toList = dir.toList ++ '/' :: name.toList ∧ dir ≠ "" := by
  unfold join
  split
  . next h =>
    rw [h]
    exact .inl ⟨rfl, .inl rfl⟩
  . next hdir =>
    split
    . next hlast => exact .inl ⟨String.toList_append, .inr ((endsWith_slash dir).1 hlast)⟩
    . refine .inr ⟨?_, hdir⟩
      rw [String.toList_append, String.toList_append, List.append_assoc]
      rfl

theorem front_join (dir : String) {name : String} (hname : IsName name)
    : front (join dir name).toList = front dir.toList ++ [name] := by
  have hpieces := pieces_toList hname.slash hname.ne_empty
  rcases toList_join dir name with ⟨h, hdir | hlast⟩ | ⟨h, hdir⟩
  . rw [h, hdir]
    have hhead : name.toList.head? ≠ some '/' := fun hhead =>
      hname.slash (List.mem_of_mem_head? hhead)
    rw [String.toList_empty, List.nil_append, front, if_neg hhead, hpieces]
    rfl
  . obtain ⟨cs, hcs⟩ := List.getLast?_eq_some_iff.1 hlast
    rw [h, hcs]
    apply front_append
    . simp
    . rw [List.append_assoc, List.singleton_append, pieces_append_slash, pieces_append_slash,
        pieces_nil, List.append_nil, hpieces]
  . rw [h]
    apply front_append
    . exact fun hnil => hdir (String.toList_eq_nil_iff.1 hnil)
    . rw [pieces_append_slash, hpieces]

theorem names_join (dir : String) {name : String} (hname : IsName name)
    : names (join dir name) = front dir.toList ++ [name] := by
  have hne : name.toList ≠ [] := fun hnil => hname.ne_empty (String.toList_eq_nil_iff.1 hnil)
  rw [← front_join dir hname]
  apply names_of_last
  intro hlast
  apply hname.slash
  apply List.mem_of_getLast?
  rcases toList_join dir name with ⟨h, _⟩ | ⟨h, _⟩
  . rwa [h, List.getLast?_append_of_ne_nil _ hne] at hlast
  . rwa [h, List.getLast?_append_of_ne_nil _ (List.cons_ne_nil _ _),
      List.getLast?_cons_of_ne_nil hne] at hlast

theorem plainNames_of_front {path : String} (h : front path.toList = [])
    : plainNames path = [] := by
  have hpieces : pieces path.toList = [] := (List.append_eq_nil_iff.1 h).2
  have hnames : names path = [] := by
    rw [names_eq, h, hpieces, List.isEmpty_nil, Bool.not_true, Bool.and_false]
    rfl
  rw [plainNames, hnames]

theorem eq_rdropWhile_append_slashes (cs : List Char)
    : cs = cs.rdropWhile (· = '/') ++
        List.replicate (cs.rtakeWhile (· = '/')).length '/' := by
  have hslashes : cs.rtakeWhile (· = '/')
      = List.replicate (cs.rtakeWhile (· = '/')).length '/' := by
    rw [List.eq_replicate_iff]
    refine ⟨rfl, ?_⟩
    intro c hc
    have := List.mem_rtakeWhile_imp hc
    simpa using this
  rw [← hslashes, List.rdropWhile_append_rtakeWhile]

theorem namesToMake_eq (path : String) : namesToMake path = front path.toList := by
  have hslashes := eq_rdropWhile_append_slashes path.toList
  have hlast := List.rdropWhile_last_not (· = '/') path.toList
  unfold namesToMake
  rw [show (path.toList.reverse.dropWhile (· = '/')).reverse
    = path.toList.rdropWhile (· = '/') from rfl]
  generalize path.toList.rdropWhile (· = '/') = kept at hslashes hlast ⊢
  dsimp only
  split
  . next h =>
    -- All of the path is slashes, if anything.
    have hkept : kept = [] := by simpa using h
    have hpieces : pieces path.toList = [] := by
      rw [hslashes, hkept, pieces_append_slashes, pieces_nil]
    rw [names_eq, hpieces, List.isEmpty_nil, Bool.not_true, Bool.and_false]
    apply List.append_nil
  . next h =>
    have hkept : kept ≠ [] := by simpa using h
    have hfront : front path.toList = front kept := by
      have hpieces : pieces (kept ++ List.replicate
          (path.toList.rtakeWhile (· = '/')).length '/') = pieces kept ++ [] := by
        rw [pieces_append_slashes, List.append_nil]
      rw [hslashes, front_append hkept hpieces, List.append_nil]
    rw [hfront, names_of_last, String.toList_ofList]
    rw [String.toList_ofList, List.getLast?_eq_some_getLast hkept]
    simpa using hlast hkept

end FileTree
end StateRelay
