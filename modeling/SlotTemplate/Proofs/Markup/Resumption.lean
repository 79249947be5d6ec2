import SlotTemplate.Proofs.Markup.Scan

/-!
# Opening pairs that are never closed

A scan could take the brace of an opening pair that is never closed for text and go on right behind
it. The lexer does not: such a pair hides all that follows.

* `Resumes`: the scan that goes on;
* `tokenize_resumes_iff`: the lexer does as this scan does exactly where no text hides a delimited
  part;
* `not_resumes_tokenize`: it does not do so everywhere.
-/

namespace SlotTemplate.Markup

/-- The scan from left to right that takes a complete delimited part where one starts, and else a
single character as text. -/
inductive Resumes : List Char → List Piece → Prop where
  | nil : Resumes [] []
  | part {d : Delimiter} {body rest : List Char} {ps : List Piece} (closed : Body d.guard body)
      (more : Resumes rest ps) :
      Resumes ((Piece.markup d body).source ++ rest) (.markup d body :: ps)
  | char {c : Char} {rest : List Char} {ps : List Piece}
      (never : ∀ (d : Delimiter) body tail, Body d.guard body →
        c :: rest ≠ (Piece.markup d body).source ++ tail)
      (more : Resumes rest ps) : Resumes (c :: rest) (consText c ps)

/-- A complete delimited part stands in a text. -/
def HoldsPart (cs : List Char) : Prop :=
  ∃ (before : List Char) (d : Delimiter) (body after : List Char), Body d.guard body ∧
    cs = before ++ ((Piece.markup d body).source ++ after)

theorem HoldsPart.cons {c : Char} {cs : List Char} (h : HoldsPart cs) : HoldsPart (c :: cs) := by
  obtain ⟨before, d, body, after, closed, rfl⟩ := h
  exact ⟨c :: before, d, body, after, closed, rfl⟩

/-- A part that stands in a text starts there or behind its first character. -/
theorem holdsPart_cons_iff {c : Char} {cs : List Char} :
    HoldsPart (c :: cs) ↔ (∃ (d : Delimiter) (body after : List Char), Body d.guard body ∧
      c :: cs = (Piece.markup d body).source ++ after) ∨ HoldsPart cs := by
  constructor
  · rintro ⟨before, d, body, after, closed, e⟩
    cases before with
    | nil => exact .inl ⟨d, body, after, closed, e⟩
    | cons x before => exact .inr ⟨before, d, body, after, closed, (List.cons.inj e).2⟩
  · rintro (⟨d, body, after, closed, e⟩ | h)
    · exact ⟨[], d, body, after, closed, e⟩
    · exact h.cons

theorem not_holdsPart_nil : ¬ HoldsPart [] := by
  rintro ⟨before, d, body, after, -, e⟩
  simp [Piece.source] at e

theorem Resumes.source {cs : List Char} {ps : List Piece} (h : Resumes cs ps) :
    ps.flatMap Piece.source = cs := by
  induction h with
  | nil => rfl
  | part _ _ ih => rw [List.flatMap_cons, ih]
  | char _ _ ih => rw [source_consText, ih]

/-- The scan that goes on leaves no delimited part in a text. -/
theorem Resumes.not_holdsPart {cs : List Char} {ps : List Piece} (h : Resumes cs ps) :
    ∀ t, .text t ∈ ps → ¬ HoldsPart t := by
  induction h with
  | nil => simp
  | part _ _ ih => simpa using ih
  | @char c rest ps never more ih =>
    -- a part that starts with this character would be one of the source, too
    have first (t after : List Char) (e : rest = t ++ after) (free : ¬ HoldsPart t) :
        ¬ HoldsPart (c :: t) := by
      rw [holdsPart_cons_iff]
      rintro (⟨d, body, tail, closed, same⟩ | h)
      · refine never d body (tail ++ after) closed ?_
        rw [e, ← List.cons_append, same, List.append_assoc]
      · exact free h
    intro t ht
    unfold consText at ht
    split at ht
    · rename_i cs ps
      rcases List.mem_cons.1 ht with same | ht
      · cases same
        exact first cs _ more.source.symm (ih cs List.mem_cons_self)
      · exact ih t (List.mem_cons_of_mem _ ht)
    · rcases List.mem_cons.1 ht with same | ht
      · cases same
        exact first [] rest rfl not_holdsPart_nil
      · exact ih t ht

theorem resumes_text {cs : List Char} (nonempty : cs ≠ []) (free : ¬ HoldsPart cs) :
    Resumes cs [.text cs] := by
  induction cs with
  | nil => exact absurd rfl nonempty
  | cons c cs ih =>
    rw [holdsPart_cons_iff, not_or] at free
    have never : ∀ (d : Delimiter) body tail, Body d.guard body →
        c :: cs ≠ (Piece.markup d body).source ++ tail :=
      fun d body tail closed e => free.1 ⟨d, body, tail, closed, e⟩
    cases cs with
    | nil => exact .char never .nil
    | cons x cs => exact .char never (ih (List.cons_ne_nil x cs) free.2)

/-- The lexer goes on as long as no text hides a delimited part. -/
theorem Cuts.resumes {cs : List Char} {ps : List Piece} (h : Cuts cs ps)
    (free : ∀ t, .text t ∈ ps → ¬ HoldsPart t) : Resumes cs ps := by
  induction h with
  | nil => exact .nil
  | part closed _ ih => exact .part closed (ih fun t ht => free t (List.mem_cons_of_mem _ ht))
  | @char c rest ps plain _ ih =>
    refine .char (fun d body tail _ e => ?_) (ih fun t ht => ?_)
    · rw [source_markup_append] at e
      exact plain d _ e
    · unfold consText at free
      split at free
      · rename_i cs ps
        rcases List.mem_cons.1 ht with same | ht
        · cases same
          exact fun h => free _ List.mem_cons_self h.cons
        · exact free t (List.mem_cons_of_mem _ ht)
      · exact free t (List.mem_cons_of_mem _ ht)
  | unclosed => exact resumes_text (List.cons_ne_nil _ _) (free _ List.mem_cons_self)

theorem text_of_lexeme?_iff {p : Piece} {t : List Char} (pos line : Nat) :
    (∃ l, p.lexeme? pos line = some l ∧ l.token = .text (String.ofList t)) ↔ .text t = p := by
  cases p with
  | text cs => simp [Piece.lexeme?, String.ofList_inj, eq_comm]
  | markup d body => cases d <;> simp [Piece.lexeme?, delimited]

/-- The texts among the lexemes are those among the pieces. -/
theorem text_mem_place_iff {ps : List Piece} {t : List Char} (pos line : Nat) :
    (∃ l ∈ place pos line ps, l.token = .text (String.ofList t)) ↔ .text t ∈ ps := by
  induction ps generalizing pos line with
  | nil => simp [place]
  | cons p ps ih =>
    rw [List.mem_cons, ← text_of_lexeme?_iff pos line,
      ← ih (pos + Text.byteSize p.source) (line + Text.newlines p.source), place]
    cases p.lexeme? pos line <;> simp

theorem forall_text_iff {source : String} {ps : List Piece} (h : tokenize source = place 0 1 ps) :
    (∀ l ∈ tokenize source, ∀ s, l.token = .text s → ¬ HoldsPart s.toList) ↔
      ∀ t, .text t ∈ ps → ¬ HoldsPart t := by
  rw [h]
  constructor
  · intro free t ht
    obtain ⟨l, hl, token⟩ := (text_mem_place_iff 0 1).2 ht
    simpa using free l hl _ token
  · intro free l hl s token
    refine free s.toList ((text_mem_place_iff 0 1).1 ⟨l, hl, ?_⟩)
    rw [token, String.ofList_toList]

/-- The lexer does as the scan that goes on exactly where no text hides a delimited part. -/
theorem tokenize_resumes_iff (source : String) :
    (∃ ps, Resumes source.toList ps ∧ tokenize source = place 0 1 ps) ↔
      ∀ l ∈ tokenize source, ∀ s, l.token = .text s → ¬ HoldsPart s.toList := by
  constructor
  · rintro ⟨ps, resumes, same⟩
    exact (forall_text_iff same).2 resumes.not_holdsPart
  · intro free
    have same : tokenize source = place 0 1 (scan source.toList) := rfl
    exact ⟨_, (cuts_scan _).resumes ((forall_text_iff same).1 free), same⟩

/-- The tag behind the opening pair of a variable that is never closed is not found. -/
theorem not_resumes_tokenize :
    ¬ ∀ source, ∃ ps, Resumes source.toList ps ∧ tokenize source = place 0 1 ps := by
  intro all
  obtain ⟨ps, resumes, same⟩ := all "\x7b\x7b {% a %}"
  have hidden : tokenize "\x7b\x7b {% a %}" =
      [⟨.text "\x7b\x7b {% a %}", ⟨0, 10⟩, 1⟩] := by decide +kernel
  have free := (forall_text_iff same).2 resumes.not_holdsPart
  rw [hidden] at free
  refine free _ List.mem_cons_self _ rfl
    ⟨['{', '{', ' '], .block, [' ', 'a', ' '], [], ?_, rfl⟩
  exact .char (by decide) (.char (by decide) (.char (by decide) .nil))

end SlotTemplate.Markup
