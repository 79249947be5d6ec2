/-!
# Runs of characters of a kind

* `run_append`: the run that a text starts with ends where another character follows;
* `trimmed`: a text without the runs at both ends, and `trimmed_split`: where it stands;
* `trimmed_between`: it is all that stands between two such runs, if other characters end it.
-/

namespace SlotTemplate.Text

variable {p : Char → Bool} {c : Char} {cs : List Char}

/-- The longest run of characters of a kind ends where another character follows. -/
theorem run_append {rest : List Char} (all : ∀ c ∈ cs, p c = true)
    (stop : ∀ c ∈ rest.head?, p c = false) :
    (cs ++ rest).takeWhile p = cs ∧ (cs ++ rest).dropWhile p = rest := by
  have ends : rest.takeWhile p = [] ∧ rest.dropWhile p = rest := by
    cases rest with
    | nil => exact ⟨rfl, rfl⟩
    | cons c rest => simp [stop c rfl]
  rw [List.takeWhile_append_of_pos all, List.dropWhile_append_of_pos all, ends.1, ends.2]
  exact ⟨List.append_nil cs, rfl⟩

/-- So a text starts with one such run only. -/
theorem run_unique {cs' rest rest' : List Char}
    (all : ∀ c ∈ cs, p c = true) (all' : ∀ c ∈ cs', p c = true)
    (stop : ∀ c ∈ rest.head?, p c = false) (stop' : ∀ c ∈ rest'.head?, p c = false)
    (same : cs ++ rest = cs' ++ rest') : cs = cs' ∧ rest = rest' := by
  obtain ⟨run, behind⟩ := run_append all stop
  obtain ⟨run', behind'⟩ := run_append all' stop'
  rw [same] at run behind
  exact ⟨run.symm.trans run', behind.symm.trans behind'⟩

theorem head_dropWhile (h : c ∈ (cs.dropWhile p).head?) : p c = false := by
  have first := List.head?_dropWhile_not p cs
  rw [Option.mem_def.1 h] at first
  simpa using first

/-! ## Both ends -/

/-- A text without the characters of a kind at both ends. -/
def trimmed (p : Char → Bool) (cs : List Char) : List Char :=
  ((cs.dropWhile p).reverse.dropWhile p).reverse

theorem dropWhile_eq_trimmed_append (p : Char → Bool) (cs : List Char) :
    ∃ run, cs.dropWhile p = trimmed p cs ++ run ∧ ∀ c ∈ run, p c = true := by
  refine ⟨((cs.dropWhile p).reverse.takeWhile p).reverse, ?_, fun c hc => ?_⟩
  · rw [trimmed, ← List.reverse_append, List.takeWhile_append_dropWhile, List.reverse_reverse]
  · exact List.all_eq_true.1 List.all_takeWhile c (List.mem_reverse.1 hc)

/-- What is left stands in the text between two runs. -/
theorem trimmed_split (p : Char → Bool) (cs : List Char) :
    ∃ run, cs = cs.takeWhile p ++ (trimmed p cs ++ run) ∧ ∀ c ∈ run, p c = true := by
  obtain ⟨run, start, all⟩ := dropWhile_eq_trimmed_append p cs
  refine ⟨run, ?_, all⟩
  rw [← start, List.takeWhile_append_dropWhile]

theorem trimmed_head (h : c ∈ (trimmed p cs).head?) : p c = false := by
  obtain ⟨run, start, -⟩ := dropWhile_eq_trimmed_append p cs
  have first : c ∈ (cs.dropWhile p).head? := by
    rw [start, List.head?_append, Option.mem_def.1 h]
    rfl
  exact head_dropWhile first

theorem trimmed_last (h : c ∈ (trimmed p cs).getLast?) : p c = false := by
  rw [trimmed, List.getLast?_reverse] at h
  exact head_dropWhile h

/-- Runs around a text that starts and ends with other characters are left out. -/
theorem trimmed_between {front back : List Char} (before : ∀ c ∈ front, p c = true)
    (behind : ∀ c ∈ back, p c = true) (head : ∀ c ∈ cs.head?, p c = false)
    (last : ∀ c ∈ cs.getLast?, p c = false) : trimmed p (front ++ (cs ++ back)) = cs := by
  have reversed : ∀ c ∈ back.reverse, p c = true := fun c hc => behind c (List.mem_reverse.1 hc)
  cases cs with
  | nil =>
    have blank : (back ++ []).dropWhile p = [] :=
      (run_append behind fun _ h => absurd h (Option.not_mem_none _)).2
    rw [List.append_nil] at blank
    rw [List.nil_append, trimmed, List.dropWhile_append_of_pos before, blank]
    rfl
  | cons d u =>
    have follows : ∀ c ∈ (d :: u ++ back).head?, p c = false := head
    have stop : ∀ c ∈ (d :: u).reverse.head?, p c = false := by
      rwa [List.head?_reverse]
    rw [trimmed, (run_append before follows).2, List.reverse_append, (run_append reversed stop).2,
      List.reverse_reverse]

end SlotTemplate.Text
