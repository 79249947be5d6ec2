import Mathlib.Data.List.Induction
import SlotTemplate.Proofs.Text.Runs
import SlotTemplate.Text.Snake

/-!
# Names in snake case and their words

Each character of a name leads to one piece: itself as a small letter, behind an underscore if a
word starts there. The pieces are joined, and the underscores at both ends are left out.

* `separateFrom_eq_pieces`: where words are separated, seen from the whole name;
* `trimUnderscores_split`: what is left out at the ends;
* `snake_stable`: the form of a name in snake case, which another conversion leaves as it is.
-/

namespace SlotTemplate.Text

variable {c : Char} {cs : List Char}

/-! ## Where words start -/

/-- Whether a capital stands at a place of a text, behind a small letter or in front of something
other than a capital. -/
def StartsWordAt (cs : List Char) (i : Nat) : Prop :=
  cs[i]?.any Char.isUpper ∧
    (0 < i ∧ cs[i - 1]?.any Char.isLower ∨ cs[i + 1]?.any (!·.isUpper))

instance (cs : List Char) (i : Nat) : Decidable (StartsWordAt cs i) :=
  inferInstanceAs (Decidable (_ ∧ _))

/-- What comes of a character at a place of a text. -/
def piece (cs : List Char) (p : Char × Nat) : List Char :=
  if StartsWordAt cs p.2 then ['_', p.1.toLower] else [p.1.toLower]

theorem startsWordAt_iff (before : List Char) (c : Char) (after : List Char) :
    StartsWordAt (before ++ c :: after) before.length ↔
      (c.isUpper && startsWord before.getLast? after.head?) = true := by
  have here : (before ++ c :: after)[before.length]? = some c := by simp
  have behind : (before ++ c :: after)[before.length + 1]? = after.head? := by
    simp [List.getElem?_append_right, List.head?_eq_getElem?]
  have ahead : (0 < before.length ∧ (before ++ c :: after)[before.length - 1]?.any Char.isLower) ↔
      before.getLast?.any Char.isLower := by
    cases before using List.reverseRecOn with
    | nil => simp
    | append_singleton before b => simp
  rw [StartsWordAt, here, behind, ahead, startsWord, Bool.and_eq_true, Bool.or_eq_true]
  rfl

/-- By the text so far: its last character is the one that the separation looks back at. -/
theorem separateFrom_eq_pieces (before cs : List Char) : separateFrom before.getLast? cs =
    (cs.zipIdx before.length).flatMap (piece (before ++ cs)) := by
  induction cs generalizing before with
  | nil => rfl
  | cons c cs ih =>
    have rest := ih (before ++ [c])
    rw [List.getLast?_concat, List.length_append, List.length_singleton, List.append_assoc,
      List.singleton_append] at rest
    rw [separateFrom, List.zipIdx_cons, List.flatMap_cons, ← rest, piece]
    simp only [startsWordAt_iff]
    split
    · rfl
    · rfl

/-! ## Small letters -/

theorem toLower_of_not_isUpper (h : c.isUpper = false) : c.toLower = c :=
  dif_neg (of_decide_eq_false h)

theorem isUpper_toLower (c : Char) : c.toLower.isUpper = false := by
  cases capital : c.isUpper with
  | false => rwa [toLower_of_not_isUpper capital]
  | true =>
    have range : 'A'.val ≤ c.val ∧ c.val ≤ 'Z'.val := of_decide_eq_true capital
    have small : c.toLower.val = c.val + ('a'.val - 'A'.val) := congrArg Char.val (dif_pos range)
    -- small letters come behind all capitals
    have behind : 'Z'.val < c.toLower.val := by
      grind [UInt32.toNat_add]
    exact decide_eq_false fun again => absurd again.2 (UInt32.not_le.2 behind)

theorem separateFrom_of_small {before : Option Char} (h : ∀ c ∈ cs, c.isUpper = false) :
    separateFrom before cs = cs := by
  induction cs generalizing before with
  | nil => rfl
  | cons c cs ih =>
    obtain ⟨here, there⟩ := List.forall_mem_cons.1 h
    have small : c.toLower = c := toLower_of_not_isUpper here
    rw [separateFrom, here, Bool.false_and, if_neg Bool.false_ne_true, small, ih there]

/-- Apart from underscores, a separated text has the characters of the text in small letters. -/
theorem filter_separateFrom (before : Option Char) (cs : List Char) :
    (separateFrom before cs).filter (· != '_') = (cs.map Char.toLower).filter (· != '_') := by
  induction cs generalizing before with
  | nil => rfl
  | cons c cs ih =>
    rw [separateFrom, List.map_cons]
    split
    · rw [List.filter_cons_of_neg (by decide), List.filter_cons, ih, List.filter_cons]
    · rw [List.filter_cons, ih, List.filter_cons]

/-! ## Underscores at the ends -/

theorem trimUnderscores_eq_trimmed (cs : List Char) :
    trimUnderscores cs = trimmed (· == '_') cs := rfl

theorem eq_replicate_of_all (h : ∀ c ∈ cs, (c == '_') = true) :
    cs = List.replicate cs.length '_' :=
  List.eq_replicate_of_mem fun c hc => eq_of_beq (h c hc)

theorem trimUnderscores_split (cs : List Char) : ∃ left right,
    cs = List.replicate left '_' ++ trimUnderscores cs ++ List.replicate right '_' := by
  obtain ⟨run, split, behind⟩ := trimmed_split (· == '_') cs
  have before : ∀ c ∈ cs.takeWhile (· == '_'), (c == '_') = true :=
    List.all_eq_true.1 List.all_takeWhile
  rw [eq_replicate_of_all before, eq_replicate_of_all behind, ← List.append_assoc,
    ← trimUnderscores_eq_trimmed] at split
  exact ⟨_, _, split⟩

theorem head?_trimUnderscores (cs : List Char) : (trimUnderscores cs).head? ≠ some '_' := by
  rw [trimUnderscores_eq_trimmed]
  intro head
  cases trimmed_head head

theorem getLast?_trimUnderscores (cs : List Char) : (trimUnderscores cs).getLast? ≠ some '_' := by
  rw [trimUnderscores_eq_trimmed]
  intro last
  cases trimmed_last last

theorem trimUnderscores_of_ends (head : cs.head? ≠ some '_') (last : cs.getLast? ≠ some '_') :
    trimUnderscores cs = cs := by
  have other {c : Char} {o : Option Char} (hc : c ∈ o) (h : o ≠ some '_') : (c == '_') = false := by
    refine beq_eq_false_iff_ne.2 ?_
    rintro rfl
    exact h hc
  have whole : trimmed (· == '_') ([] ++ (cs ++ [])) = cs :=
    trimmed_between (List.forall_mem_nil _) (List.forall_mem_nil _)
      (fun c hc => other hc head) (fun c hc => other hc last)
  rwa [List.nil_append, List.append_nil] at whole

theorem filter_trimUnderscores (cs : List Char) :
    (trimUnderscores cs).filter (· != '_') = cs.filter (· != '_') := by
  obtain ⟨left, right, same⟩ := trimUnderscores_split cs
  have none (n : Nat) : (List.replicate n '_').filter (· != '_') = [] :=
    List.filter_replicate_of_neg (by decide)
  conv_rhs => rw [same]
  rw [List.filter_append, List.filter_append, none, none, List.nil_append, List.append_nil]

/-! ## Names -/

theorem toList_snake (s : String) :
    (snake s).toList = trimUnderscores (separateFrom none s.toList) := by
  rw [snake, String.toList_ofList]

theorem filter_snake (s : String) :
    (snake s).toList.filter (· != '_') = (s.toList.map Char.toLower).filter (· != '_') := by
  rw [toList_snake, filter_trimUnderscores, filter_separateFrom]

theorem isUpper_of_mem_snake {s : String} (h : c ∈ (snake s).toList) : c.isUpper = false := by
  by_cases under : c = '_'
  · rw [under]
    rfl
  · have kept : c ∈ (snake s).toList.filter (· != '_') :=
      List.mem_filter.2 ⟨h, bne_iff_ne.2 under⟩
    rw [filter_snake] at kept
    obtain ⟨d, -, rfl⟩ := List.mem_map.1 (List.mem_filter.1 kept).1
    exact isUpper_toLower d

/-- A name in snake case has no capitals and no underscores at its ends, and is its own form in
snake case. It has the characters of the name in small letters, and underscores where words start;
only those at the ends are left out. -/
theorem snake_stable (s : String) :
    (∀ c ∈ (snake s).toList, c.isUpper = false) ∧
    (snake s).toList.head? ≠ some '_' ∧ (snake s).toList.getLast? ≠ some '_' ∧
    snake (snake s) = snake s ∧
    (snake s).toList.filter (· != '_') = (s.toList.map Char.toLower).filter (· != '_') ∧
    separateFrom none s.toList = s.toList.zipIdx.flatMap (piece s.toList) ∧
    ∃ left right, separateFrom none s.toList =
      List.replicate left '_' ++ (snake s).toList ++ List.replicate right '_' := by
  have small : ∀ c ∈ (snake s).toList, c.isUpper = false := fun c => isUpper_of_mem_snake
  have head : (snake s).toList.head? ≠ some '_' :=
    toList_snake s ▸ head?_trimUnderscores (separateFrom none s.toList)
  have last : (snake s).toList.getLast? ≠ some '_' :=
    toList_snake s ▸ getLast?_trimUnderscores (separateFrom none s.toList)
  refine ⟨small, head, last, ?_, filter_snake s, separateFrom_eq_pieces [] s.toList, ?_⟩
  · rw [snake, separateFrom_of_small small, trimUnderscores_of_ends head last, String.ofList_toList]
  · rw [toList_snake]
    exact trimUnderscores_split _

/-- Runs of capitals stay together, and digits separate nothing. -/
example : snake "HTMLParser" = "html_parser" ∧ snake "_My2URLs_" = "my2ur_ls" := by decide +kernel

end SlotTemplate.Text
