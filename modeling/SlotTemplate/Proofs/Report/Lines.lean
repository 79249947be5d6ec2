import SlotTemplate.Report.SourceLine

/-!
# Positions in lines

Reading a text up to a character, one has come to a line of what is read and to a column of that
line. These are the line and the column at which the character is found.

* `splitLines_append`: the lines of a text up to a character and beyond it;
* `locate_eq_position`: a character is found in its line and its column;
* `locate_injective`: no two positions are found at the same place.
-/

namespace SlotTemplate.SourceLine

/-- Line and column, counted from one, of the last character of a text. -/
def position (cs : List Char) : Nat × Nat :=
  ((splitLines cs).length, ((splitLines cs).getLast?.elim 0 List.length))

/-- The lines of a text up to a character are lines of the whole, but for the last one, which the
whole may go on with. -/
theorem splitLines_append (before : List Char) (c : Char) (behind : List Char) :
    ∃ front part rest back, part ≠ [] ∧ splitLines (before ++ [c]) = front ++ [part] ∧
      splitLines (before ++ c :: behind) = front ++ (part ++ rest) :: back := by
  induction before with
  | nil =>
    have alone : splitLines [c] = [] ++ [[c]] := by
      rw [splitLines]
      split <;> rfl
    rw [List.nil_append, List.nil_append, alone, splitLines]
    split
    · exact ⟨[], [c], [], _, List.cons_ne_nil _ _, rfl, rfl⟩
    · cases splitLines behind with
      | nil => exact ⟨[], [c], [], [], List.cons_ne_nil _ _, rfl, rfl⟩
      | cons l ls => exact ⟨[], [c], l, ls, List.cons_ne_nil _ _, rfl, rfl⟩
  | cons d before ih =>
    obtain ⟨front, part, rest, back, nonempty, here, whole⟩ := ih
    -- whether a line ends behind `d` can be seen from the next character
    have next : (before ++ [c]).head? = (before ++ c :: behind).head? := by
      cases before <;> rfl
    rw [List.cons_append, List.cons_append, splitLines, splitLines, next, here, whole]
    split
    · exact ⟨[d] :: front, part, rest, back, nonempty, rfl, rfl⟩
    · cases front with
      | nil => exact ⟨[], d :: part, rest, back, List.cons_ne_nil _ _, rfl, rfl⟩
      | cons l front => exact ⟨(d :: l) :: front, part, rest, back, nonempty, rfl, rfl⟩

theorem place_append (start : Nat) (front back : List (List Char)) :
    place start (front ++ back) =
      place start front ++ place (start + front.flatten.length) back := by
  induction front generalizing start with
  | nil => rfl
  | cons l front ih =>
    rw [List.cons_append, place, place, ih, List.flatten_cons, List.length_append, Nat.add_assoc,
      List.cons_append]

theorem length_place (start : Nat) (ls : List (List Char)) :
    (place start ls).length = ls.length := by
  induction ls generalizing start with
  | nil => rfl
  | cons l ls ih => rw [place, List.length_cons, List.length_cons, ih]

/-- Lines start behind those before them. -/
theorem start_le_of_mem_place {start : Nat} {ls : List (List Char)} :
    ∀ l ∈ place start ls, start ≤ l.start ∧ l.start ≤ start + ls.flatten.length := by
  induction ls generalizing start with
  | nil => exact List.forall_mem_nil _
  | cons l ls ih =>
    refine List.forall_mem_cons.2 ⟨⟨Nat.le_refl _, Nat.le_add_right _ _⟩, fun m hm => ?_⟩
    have := ih m hm
    rw [List.flatten_cons, List.length_append]
    omega

/-- The line of a position is the last one that does not start behind it. -/
theorem locate_of_le {source : List Char} {i : Nat} (inside : i ≤ source.length) :
    locate source i = ((ofSource source).takeWhile fun l => decide (l.start ≤ i)).getLast?.map
      fun l => (((ofSource source).takeWhile fun l => decide (l.start ≤ i)).length - 1,
        i - l.start) :=
  if_pos inside

/-- A character is found in its line and its column. -/
theorem locate_eq_position (before : List Char) (c : Char) (behind : List Char) :
    (locate (before ++ c :: behind) before.length).map (fun (line, column) =>
      (line + 1, column + 1)) = some (position (before ++ [c])) := by
  obtain ⟨front, part, rest, back, nonempty, here, whole⟩ := splitLines_append before c behind
  have size : front.flatten.length + part.length = before.length + 1 := by
    have read := congrArg List.length (flatten_splitLines (before ++ [c]))
    rw [here] at read
    simpa using read
  have positive := List.length_pos_iff.2 nonempty
  have lines : ofSource (before ++ c :: behind) = place 0 front ++
      ⟨front.flatten.length, part ++ rest⟩ ::
        place (front.flatten.length + (part ++ rest).length) back := by
    have some : (before ++ c :: behind).isEmpty = false := by cases before <;> rfl
    rw [ofSource, some, if_neg Bool.false_ne_true, whole, place_append, place, Nat.zero_add]
  -- the lines that start at the character or before it are those up to its own
  have reached : (ofSource (before ++ c :: behind)).takeWhile
      (fun l => decide (l.start ≤ before.length)) =
        place 0 front ++ [⟨front.flatten.length, part ++ rest⟩] := by
    rw [lines, List.takeWhile_append_of_pos, List.takeWhile_cons_of_pos]
    · congr 2
      cases next : place (front.flatten.length + (part ++ rest).length) back with
      | nil => rfl
      | cons m ms =>
        have behind := (start_le_of_mem_place m (by rw [next]; exact List.mem_cons_self)).1
        rw [List.length_append] at behind
        apply List.takeWhile_cons_of_neg
        simp only [decide_eq_true_eq]
        omega
    · simp only [decide_eq_true_eq]
      omega
    · intro l hl
      have := (start_le_of_mem_place l hl).2
      simp only [decide_eq_true_eq]
      omega
  have inside : before.length ≤ (before ++ c :: behind).length := by
    rw [List.length_append]
    omega
  rw [locate_of_le inside, reached, List.getLast?_concat, List.length_append, length_place,
    position, here, List.getLast?_concat, List.length_append]
  simp only [Option.map_some, Option.elim_some, List.length_singleton, Option.some.injEq,
    Prod.mk.injEq]
  omega

/-- A position lies in the line that it is found in, as far behind the start of the line as the
column says. -/
theorem locate_eq_some {source : List Char} {i line column : Nat}
    (h : locate source i = some (line, column)) :
    ∃ l, (ofSource source)[line]? = some l ∧ i = l.start + column := by
  have inside := (Option.ite_none_right_eq_some.1 h).1
  rw [locate_of_le inside] at h
  obtain ⟨l, last, place⟩ := Option.map_eq_some_iff.1 h
  obtain ⟨rfl, rfl⟩ := Prod.mk.inj place
  have reached := List.all_eq_true.1 List.all_takeWhile l (List.mem_of_getLast? last)
  have starts : l.start ≤ i := of_decide_eq_true reached
  rw [List.getLast?_eq_getElem?] at last
  refine ⟨l, ?_, by omega⟩
  obtain ⟨more, whole⟩ := List.takeWhile_prefix (fun l => decide (l.start ≤ i))
    (l := ofSource source)
  have shorter := (List.getElem?_eq_some_iff.1 last).1
  rw [← last, ← List.getElem?_append_left shorter, whole]

/-- No two positions are found at the same place. -/
theorem locate_injective {source : List Char} {i j : Nat} {place : Nat × Nat}
    (h : locate source i = some place) (h' : locate source j = some place) : i = j := by
  obtain ⟨l, found, rfl⟩ := locate_eq_some h
  obtain ⟨l', found', rfl⟩ := locate_eq_some h'
  cases found.symm.trans found'
  rfl

/-- Every position that a source reaches is found. -/
theorem exists_locate {source : List Char} {i : Nat} (inside : i ≤ source.length) :
    ∃ place, locate source i = some place := by
  have first : ∃ l ls, ofSource source = l :: ls ∧ l.start = 0 := by
    unfold ofSource
    split
    · exact ⟨_, _, rfl, rfl⟩
    · rename_i some
      cases lines : splitLines source with
      | nil =>
        have read := flatten_splitLines source
        rw [lines] at read
        rw [← read] at some
        exact absurd rfl some
      | cons l ls => exact ⟨_, _, rfl, rfl⟩
  obtain ⟨l, ls, lines, start⟩ := first
  rw [locate_of_le inside, lines, List.takeWhile_cons_of_pos (by simp [start]),
    List.getLast?_cons]
  exact ⟨_, rfl⟩

end SlotTemplate.SourceLine
