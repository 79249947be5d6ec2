import SlotTemplate.Files

/-!
# Paths that lead downwards

The segments of a path are what stands between its slashes. A path that is not absolute and has no
segment of two dots leads downwards: behind a directory it leads from there to a file below it.

* `Path.intercalate_segments`, `Path.not_mem_of_mem_segments`: what segments are;
* `Path.staysInside_iff`: which paths lead downwards;
* `Path.join_eq`: a path that leads downwards stands behind the directory;
* `Files.walk_split`, `Files.descend_of_walk`: the steps of a path, taken apart, and steps
  downwards;
* `Files.find?_join`: what is found behind a directory lies below it.
-/

namespace SlotTemplate

namespace Path

/-! ## Segments -/

variable {path name root : String}

theorem intercalate_segments (path : String) : String.intercalate "/" (segments path) = path := by
  have same : (segments path).map String.toList = path.toList.splitOn '/' := by
    rw [segments, List.map_map]
    exact (List.map_congr_left fun _ _ => String.toList_ofList).trans (List.map_id _)
  apply String.toList_inj.1
  rw [String.toList_intercalate, same]
  exact List.intercalate_splitOn '/'

theorem not_mem_of_mem_splitOn {a : Char} {cs ds : List Char} (h : ds ∈ cs.splitOn a) :
    a ∉ ds := by
  induction cs generalizing ds with
  | nil =>
    rw [List.splitOn_nil, List.mem_singleton] at h
    rw [h]
    exact List.not_mem_nil
  | cons c cs ih =>
    rw [List.splitOn_cons_eq_if_modifyHead] at h
    split at h
    · rcases List.mem_cons.1 h with rfl | h
      · exact List.not_mem_nil
      · exact ih h
    · rename_i other
      cases split : cs.splitOn a with
      | nil => exact absurd split (List.splitOn_ne_nil a cs)
      | cons first others =>
        rw [split] at h ih
        rcases List.mem_cons.1 h with rfl | h
        · refine List.not_mem_cons_of_ne_of_not_mem ?_ (ih List.mem_cons_self)
          rintro rfl
          exact other BEq.rfl
        · exact ih (List.mem_cons_of_mem _ h)

theorem not_mem_of_mem_segments {s : String} (h : s ∈ segments path) : '/' ∉ s.toList := by
  obtain ⟨cs, hcs, rfl⟩ := List.mem_map.1 h
  rw [String.toList_ofList]
  exact not_mem_of_mem_splitOn hcs

theorem segments_ne_nil (path : String) : segments path ≠ [] := by
  simp [segments]

theorem segments_append (a b : String) : segments (a ++ "/" ++ b) = segments a ++ segments b := by
  have spelling : (a ++ "/" ++ b).toList = a.toList ++ '/' :: b.toList := by simp
  rw [segments, spelling, List.splitOn_append_cons_self, List.map_append]
  rfl

/-- What stands between slashes is a segment. -/
theorem mem_segments_intercalate {s : String} (whole : s ∈ segments s) {ss : List String}
    (h : s ∈ ss) : s ∈ segments (String.intercalate "/" ss) := by
  induction ss with
  | nil => cases h
  | cons t ts ih =>
    by_cases last : ts = []
    · subst last
      rw [List.mem_singleton] at h
      rw [String.intercalate_singleton, ← h]
      exact whole
    · rw [String.intercalate_cons_of_ne_nil last, segments_append]
      rcases List.mem_cons.1 h with rfl | h
      · exact List.mem_append_left _ whole
      · exact List.mem_append_right _ (ih h)

/-! ## Paths that lead downwards -/

theorem isAbsolute_iff : isAbsolute path = true ↔ ∃ rest, path = "/" ++ rest := by
  rw [isAbsolute, String.startsWith_string_iff]
  constructor
  · rintro ⟨rest, spelled⟩
    refine ⟨String.ofList rest, String.toList_inj.1 (spelled.symm.trans ?_)⟩
    rw [String.toList_append, String.toList_ofList (l := rest)]
  · rintro ⟨rest, rfl⟩
    exact ⟨rest.toList, String.toList_append.symm⟩

theorem isAbsolute_append (named : root ≠ "") (rest : String) :
    isAbsolute (root ++ rest) = isAbsolute root := by
  apply Bool.eq_iff_iff.2
  rw [isAbsolute, isAbsolute, String.startsWith_string_iff, String.startsWith_string_iff,
    String.toList_append]
  cases spelled : root.toList with
  | nil => exact absurd (String.toList_eq_nil_iff.1 spelled) named
  | cons c cs =>
    have slash : "/".toList = ['/'] := rfl
    rw [slash, List.cons_append, List.cons_prefix_cons, List.cons_prefix_cons]
    simp

theorem staysInside_iff :
    staysInside path = true ↔ isAbsolute path = false ∧ ".." ∉ segments path := by
  rw [staysInside, Bool.and_eq_true, Bool.not_eq_true', List.all_eq_true]
  refine and_congr_right fun _ => ⟨fun all up => ?_, fun down s hs => ?_⟩
  · exact absurd (all ".." up) (by decide)
  · refine bne_iff_ne.2 ?_
    rintro rfl
    exact down hs

/-- A path that is not absolute stands behind a directory, with a slash in between unless there is
one or the directory has no name. -/
theorem join_eq (root : String) (relative : isAbsolute name = false) :
    root = "" ∧ join root name = name ∨
      root ≠ "" ∧ (∃ r, root = r ++ "/" ∧ join root name = r ++ "/" ++ name) ∨
      root ≠ "" ∧ join root name = root ++ "/" ++ name := by
  by_cases unnamed : root = ""
  · subst unnamed
    exact .inl ⟨rfl, if_pos (Bool.or_true _)⟩
  · have named : (isAbsolute name || root.isEmpty) = false := by
      rw [relative, Bool.false_or]
      exact Bool.eq_false_iff.2 fun empty => unnamed (String.isEmpty_iff.1 empty)
    rw [join, if_neg (by rw [named]; exact Bool.false_ne_true)]
    split
    · rename_i ends
      obtain ⟨r, spelled⟩ := String.Slice.endsWith_string_iff.1 ends
      rw [String.copy_toSlice] at spelled
      have whole : root = String.ofList r ++ "/" := by
        apply String.toList_inj.1
        rw [String.toList_append, String.toList_ofList (l := r)]
        exact spelled.symm
      exact .inr (.inl ⟨unnamed, String.ofList r, whole, by rw [← whole]⟩)
    · exact .inr (.inr ⟨unnamed, rfl⟩)

end Path

namespace FileTree

/-- Steps downwards, from directory to directory. -/
def descend? : List String → FileTree → Option FileTree
  | [], t => some t
  | s :: ss, t => (t.entries.get? s).bind (descend? ss)

end FileTree

namespace Files

variable {here t : FileTree} {above : List FileTree}

/-! ## Steps -/

/-- A step from a place whose directories above are given. -/
def step? (here : FileTree) (above : List FileTree) (s : String) :
    Option (FileTree × List FileTree) :=
  match here, above with
  | .file _, _ => none
  | .directory entries, above =>
    if s = "" ∨ s = "." then some (here, above)
    else if s = ".." then some (above.headD here, above.tail)
    else (entries.get? s).map fun child => (child, here :: above)

theorem walk_cons (here : FileTree) (above : List FileTree) (s : String) (ss : List String) :
    walk here above (s :: ss) = (step? here above s).bind fun p => walk p.1 p.2 ss := by
  cases here with
  | file contents => rfl
  | directory entries =>
    simp only [walk, step?]
    split
    · rfl
    split
    · cases above <;> rfl
    · cases entries.get? s <;> rfl

/-- The first steps of a path that leads to something lead somewhere, and from there the others are
taken. -/
theorem walk_split {ss ss' : List String} (h : walk here above (ss ++ ss') = some t) :
    ∃ mid above', ∀ others, walk here above (ss ++ others) = walk mid above' others := by
  induction ss generalizing here above with
  | nil => exact ⟨here, above, fun _ => rfl⟩
  | cons s ss ih =>
    rw [List.cons_append, walk_cons] at h
    obtain ⟨p, step, behind⟩ := Option.bind_eq_some_iff.1 h
    obtain ⟨mid, above', same⟩ := ih behind
    refine ⟨mid, above', fun others => ?_⟩
    rw [List.cons_append, walk_cons, step, Option.bind_some, same]

/-- Steps without dots lead downwards. -/
theorem descend_of_walk {ss : List String} (h : walk here above ss = some t) (down : ".." ∉ ss) :
    here.descend? (ss.filter fun s => s ≠ "" ∧ s ≠ ".") = some t := by
  induction ss generalizing here above with
  | nil => exact h
  | cons s ss ih =>
    obtain ⟨first, others⟩ := List.ne_and_not_mem_of_not_mem_cons down
    cases here with
    | file contents => cases h
    | directory entries =>
      rw [walk_cons, step?] at h
      by_cases blank : s = "" ∨ s = "."
      · rw [if_pos blank] at h
        rw [List.filter_cons_of_neg (by rcases blank with rfl | rfl <;> decide)]
        exact ih h others
      · rw [if_neg blank, if_neg (Ne.symm first)] at h
        have kept : decide (s ≠ "" ∧ s ≠ ".") = true := decide_eq_true (not_or.1 blank)
        rw [List.filter_cons, if_pos kept]
        cases found : entries.get? s with
        | none =>
          rw [found] at h
          cases h
        | some child =>
          rw [found] at h
          rw [FileTree.descend?, FileTree.entries, found]
          exact ih h others

/-- What steps without dots lead to lies below the directory that they start from. -/
theorem walk_downwards {front ss : List String} (found : walk here above (front ++ ss) = some t)
    (nonempty : ss ≠ []) (down : ".." ∉ ss) :
    ∃ mid, walk here above front = some mid ∧ walk here above (front ++ [""]) = some mid ∧
      mid.descend? (ss.filter fun s => s ≠ "" ∧ s ≠ ".") = some t := by
  obtain ⟨mid, above', same⟩ := walk_split found
  have behind : walk mid above' ss = some t := (same ss).symm.trans found
  have here' := same []
  rw [List.append_nil] at here'
  refine ⟨mid, here', (same [""]).trans ?_, descend_of_walk behind down⟩
  cases mid with
  | directory entries => rfl
  | file contents =>
    cases ss with
    | nil => exact absurd rfl nonempty
    | cons s ss => cases behind

/-! ## Directories -/

/-- The directory that a path names; the working directory has no name. -/
def directory? (f : Files) (root : String) : Option FileTree :=
  if root.isEmpty then walk f.root [] f.working else f.find? root

/-- Where the steps of a path start. -/
def start (f : Files) (path : String) : List String :=
  if Path.isAbsolute path then [] else f.working

variable {f : Files} {root name : String}

theorem find?_eq {path : String} (named : path ≠ "") :
    f.find? path = walk f.root [] (f.start path ++ Path.segments path) := by
  rw [find?, if_neg fun empty => named (String.isEmpty_iff.1 empty), start]
  split <;> rfl

theorem start_append (named : root ≠ "") (rest : String) :
    f.start (root ++ rest) = f.start root := by
  rw [start, start, Path.isAbsolute_append named]

/-- What is found behind a directory, by a name that leads downwards, lies below the directory. -/
theorem find?_join (inside : Path.staysInside name = true)
    (found : f.find? (Path.join root name) = some t) :
    ∃ directory, f.directory? root = some directory ∧
      directory.descend? ((Path.segments name).filter fun s => s ≠ "" ∧ s ≠ ".") = some t := by
  obtain ⟨relative, down⟩ := Path.staysInside_iff.1 inside
  have nonempty := Path.segments_ne_nil name
  have named : Path.join root name ≠ "" := by
    intro unnamed
    rw [unnamed] at found
    cases found
  rw [find?_eq named] at found
  rcases Path.join_eq root relative with
    ⟨rfl, same⟩ | ⟨root_ne, r, rfl, same⟩ | ⟨root_ne, same⟩
  · rw [same, start, relative, if_neg Bool.false_ne_true] at found
    obtain ⟨mid, here', -, below⟩ := walk_downwards found nonempty down
    exact ⟨mid, here', below⟩
  · have blank : Path.segments (r ++ "/") = Path.segments r ++ [""] := by
      have whole := Path.segments_append r ""
      rwa [String.append_empty] at whole
    rw [same, start_append root_ne, Path.segments_append, ← List.append_assoc] at found
    obtain ⟨mid, -, here', below⟩ := walk_downwards found nonempty down
    refine ⟨mid, ?_, below⟩
    rw [directory?, if_neg fun empty => root_ne (String.isEmpty_iff.1 empty), find?_eq root_ne,
      blank, ← List.append_assoc, here']
  · rw [same, Path.segments_append, String.append_assoc, start_append root_ne,
      ← List.append_assoc] at found
    obtain ⟨mid, here', -, below⟩ := walk_downwards found nonempty down
    refine ⟨mid, ?_, below⟩
    rw [directory?, if_neg fun empty => root_ne (String.isEmpty_iff.1 empty), find?_eq root_ne,
      here']

end Files

end SlotTemplate
