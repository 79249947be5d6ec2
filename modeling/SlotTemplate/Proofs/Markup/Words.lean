import SlotTemplate.Markup.Lexer
import SlotTemplate.Proofs.Text.Runs

/-!
# Words of a tag

* `Text.words_append`: a run of characters that are not blank is a word;
* `Text.trim_split`: where a trimmed text stands;
* `Tag.Spells`: what a tag spells that is written as a name and arguments.
-/

namespace SlotTemplate

namespace Text

theorem trim_eq_trimmed (cs : List Char) : trim cs = trimmed isBlank cs := rfl

/-- A text that starts and ends with characters that are not blank. -/
structure Inked (cs : List Char) : Prop where
  first : ∃ c u, cs = c :: u ∧ isBlank c = false
  last : ∃ u c, cs = u ++ [c] ∧ isBlank c = false

/-- Blanks around such a text are trimmed. -/
theorem trim_between {front cs back : List Char} (h : Inked cs)
    (before : ∀ c ∈ front, isBlank c = true) (behind : ∀ c ∈ back, isBlank c = true) :
    trim (front ++ (cs ++ back)) = cs := by
  obtain ⟨c, u, e, hc⟩ := h.first
  obtain ⟨v, d, e', hd⟩ := h.last
  refine trimmed_between before behind (fun x hx => ?_) (fun x hx => ?_)
  · rw [e] at hx
    cases hx
    exact hc
  · rw [e', List.getLast?_concat] at hx
    cases hx
    exact hd

theorem trim_inked {cs : List Char} (h : Inked cs) : trim (' ' :: (cs ++ [' '])) = cs := by
  have blank : ∀ c ∈ [' '], isBlank c = true := List.forall_mem_singleton.2 (by decide)
  exact trim_between h blank blank

/-- A trimmed text stands in the text behind the blanks at its start. -/
theorem trim_split (cs : List Char) :
    ∃ blanks, cs = cs.takeWhile isBlank ++ (trim cs ++ blanks) := by
  obtain ⟨blanks, split, -⟩ := trimmed_split isBlank cs
  exact ⟨blanks, split⟩

/-- A trimmed text starts with no blank. -/
theorem trim_head {c : Char} {cs rest : List Char} (h : trim cs = c :: rest) :
    isBlank c = false := by
  have first : c ∈ (trimmed isBlank cs).head? := by
    rw [← trim_eq_trimmed, h]
    rfl
  exact trimmed_head first

/-- A trimmed text ends with no blank. -/
theorem trim_last {c : Char} {cs : List Char} (h : c ∈ (trim cs).getLast?) : isBlank c = false :=
  trimmed_last h

theorem words_nil : words [] = [] := by
  rw [words]
  rfl

theorem words_blank {c : Char} {cs : List Char} (h : isBlank c = true) :
    words (c :: cs) = words cs := by
  have same : trimStart (c :: cs) = trimStart cs := List.dropWhile_cons_of_pos h
  rw [words, words]
  split
  · rename_i start
    rw [same] at start
    split
    · rfl
    · rename_i start'
      cases start.symm.trans start'
  · rename_i start
    rw [same] at start
    split
    · rename_i start'
      cases start.symm.trans start'
    · rename_i start'
      cases start.symm.trans start'
      rfl

/-- A run of characters that are not blank is a word, up to a blank or the end. -/
theorem words_append {w rest : List Char} (hne : w ≠ []) (ink : ∀ c ∈ w, isBlank c = false)
    (stop : ∀ c ∈ rest.head?, isBlank c = true) : words (w ++ rest) = w :: words rest := by
  cases w with
  | nil => exact absurd rfl hne
  | cons c w =>
    obtain ⟨hc, hw⟩ := List.forall_mem_cons.1 ink
    have start : trimStart (c :: w ++ rest) = c :: (w ++ rest) :=
      List.dropWhile_cons_of_neg (by simp [hc])
    have run : (w ++ rest).takeWhile (!isBlank ·) = w ∧ (w ++ rest).dropWhile (!isBlank ·) = rest :=
      run_append (fun d hd => by simp [hw d hd]) fun d hd => by simp [stop d hd]
    rw [words]
    split
    · rename_i start'
      cases start.symm.trans start'
    · rename_i start'
      cases start.symm.trans start'
      rw [run.1, run.2]

end Text

namespace Tag

/-- A tag spells a name and, behind a blank, arguments. -/
structure Spells (t : Tag) (name : String) (args : List Char) : Prop where
  contents : t.contents.toList = name.toList ++ args
  nonempty : name.toList ≠ []
  ink : ∀ c ∈ name.toList, Text.isBlank c = false
  stop : ∀ c ∈ args.head?, Text.isBlank c = true

namespace Spells

variable {t : Tag} {name : String} {args : List Char}

theorem words (h : t.Spells name args) : t.words = name :: (Text.words args).map String.ofList := by
  rw [Tag.words, h.contents, Text.words_append h.nonempty h.ink h.stop]
  simp

theorem name_eq (h : t.Spells name args) : t.name = name := by
  rw [Tag.name, h.words]
  rfl

theorem args_eq (h : t.Spells name args) : t.args = String.ofList args := by
  rw [Tag.args, h.name_eq, h.contents, Text.dropBytes_append]

end Spells

/-- A tag whose contents start with no blank spells its name and what follows it. -/
theorem spells_of_inked {t : Tag} {c : Char} {cs : List Char}
    (contents : t.contents.toList = c :: cs) (ink : Text.isBlank c = false) :
    t.Spells (String.ofList (c :: cs.takeWhile (!Text.isBlank ·)))
      (cs.dropWhile (!Text.isBlank ·)) := by
  have taken := List.all_eq_true.1 (List.all_takeWhile (p := (!Text.isBlank ·)) (l := cs))
  have left := List.head?_dropWhile_not (!Text.isBlank ·) cs
  refine ⟨?_, ?_, ?_, fun d hd => ?_⟩
  · rw [contents, String.toList_ofList, List.cons_append, List.takeWhile_append_dropWhile]
  · simp
  · rw [String.toList_ofList]
    exact List.forall_mem_cons.2 ⟨ink, fun d hd => by simpa using taken d hd⟩
  · rw [hd] at left
    simpa using left

end Tag

end SlotTemplate
