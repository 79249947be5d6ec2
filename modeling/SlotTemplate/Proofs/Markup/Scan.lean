import SlotTemplate.Markup.Lexer

/-!
# How a source is cut into pieces

* `Body`: what may stand between an opening pair and its closing pair;
* `splitClose_eq_some_iff`: a body is split off exactly where it stands before a closing pair;
* `Cuts`: the scan from left to right, and `cuts_iff`: it is what the lexer does;
* `Cuts.formed`, `Cuts.merged`: no piece is empty, and no text follows a text;
* `scan_append`: a source that does not end with a text is cut apart from what follows it;
* `place_append`: the pieces of what follows are placed from its end on.
-/

namespace SlotTemplate.Markup

/-- A text in which no closing pair stands. A guard takes the character behind it along, which is no
brace. -/
inductive Body (guard : Char) : List Char → Prop where
  | nil : Body guard []
  | char {c : Char} {cs : List Char} (other : c ≠ guard) (rest : Body guard cs) :
      Body guard (c :: cs)
  | pair {c : Char} {cs : List Char} (unclosed : c ≠ '}') (rest : Body guard cs) :
      Body guard (guard :: c :: cs)

theorem Delimiter.ofOpening?_opening (d : Delimiter) : ofOpening? d.opening = some d := by
  cases d <;> rfl

theorem body_of_splitClose {g : Char} {cs body rest : List Char}
    (h : splitClose g cs = some (body, rest)) : Body g body := by
  fun_induction splitClose g cs generalizing body with
  | case1 => cases h
  | case2 => cases h
  | case3 =>
    cases h
    exact .nil
  | case4 d r unclosed ih =>
    obtain ⟨⟨b, r'⟩, hb, he⟩ := Option.map_eq_some_iff.1 h
    cases he
    exact .pair unclosed (ih hb)
  | case5 c d r other ih =>
    obtain ⟨⟨b, r'⟩, hb, he⟩ := Option.map_eq_some_iff.1 h
    cases he
    exact .char other (ih hb)

theorem Body.splitClose {g : Char} {body : List Char} (h : Body g body) (rest : List Char) :
    splitClose g (body ++ g :: '}' :: rest) = some (body, rest) := by
  induction h with
  | nil => simp [Markup.splitClose]
  | @char c cs other _ ih =>
    -- the text behind the character is not empty, so that the last equation applies
    obtain ⟨d, tail, e⟩ : ∃ d tail, cs ++ g :: '}' :: rest = d :: tail := by
      cases cs with
      | nil => exact ⟨_, _, rfl⟩
      | cons d cs => exact ⟨_, _, rfl⟩
    rw [e] at ih
    rw [List.cons_append, e, Markup.splitClose, if_neg other, ih]
    rfl
  | pair unclosed _ ih =>
    rw [List.cons_append, List.cons_append, Markup.splitClose, if_pos rfl, if_neg unclosed, ih]
    rfl

/-- A body is split off exactly where it stands before a closing pair. -/
theorem splitClose_eq_some_iff {g : Char} {cs body rest : List Char} :
    splitClose g cs = some (body, rest) ↔ Body g body ∧ cs = body ++ g :: '}' :: rest := by
  constructor
  · intro h
    exact ⟨body_of_splitClose h, splitClose_eq_some h⟩
  · rintro ⟨h, rfl⟩
    exact h.splitClose rest

/-- The scan of a source from left to right. A complete delimited part is a piece of its own, an
opening pair that is never closed makes text of all that follows, and any other character is
text. -/
inductive Cuts : List Char → List Piece → Prop where
  | nil : Cuts [] []
  | part {d : Delimiter} {body rest : List Char} {ps : List Piece} (closed : Body d.guard body)
      (more : Cuts rest ps) : Cuts ((Piece.markup d body).source ++ rest) (.markup d body :: ps)
  | char {c : Char} {rest : List Char} {ps : List Piece}
      (plain : ∀ (d : Delimiter) tail, c :: rest ≠ '{' :: d.opening :: tail)
      (more : Cuts rest ps) : Cuts (c :: rest) (consText c ps)
  | unclosed {d : Delimiter} {rest : List Char}
      (never : ∀ body tail, Body d.guard body → rest ≠ body ++ d.guard :: '}' :: tail) :
      Cuts ('{' :: d.opening :: rest) [.text ('{' :: d.opening :: rest)]

theorem splitClose_eq_none_iff {g : Char} {cs : List Char} :
    splitClose g cs = none ↔ ∀ body tail, Body g body → cs ≠ body ++ g :: '}' :: tail := by
  constructor
  · rintro h body tail closed rfl
    cases h.symm.trans (closed.splitClose tail)
  · intro h
    cases found : splitClose g cs with
    | none => rfl
    | some r =>
      obtain ⟨closed, e⟩ := splitClose_eq_some_iff.1 found
      exact absurd e (h _ _ closed)

theorem source_markup_append (d : Delimiter) (body rest : List Char) :
    (Piece.markup d body).source ++ rest =
      '{' :: d.opening :: (body ++ d.guard :: '}' :: rest) := by
  simp [Piece.source]

theorem cuts_scan (cs : List Char) : Cuts cs (scan cs) := by
  fun_induction scan cs with
  | case1 => exact .nil
  | case2 c rest d opens body rest' found ih =>
    obtain ⟨closed, rfl⟩ := splitClose_eq_some_iff.1 found
    rw [← Delimiter.opening_of_ofOpening? opens, ← source_markup_append]
    exact .part closed ih
  | case3 c rest d opens found =>
    rw [← Delimiter.opening_of_ofOpening? opens]
    exact .unclosed (splitClose_eq_none_iff.1 found)
  | case4 c rest opens ih =>
    refine .char (fun d tail e => ?_) ih
    cases e
    cases opens.symm.trans d.ofOpening?_opening
  | case5 c rest other ih =>
    exact .char (fun d tail e => other _ _ (List.cons.inj e).1 (List.cons.inj e).2) ih

theorem scan_part {d : Delimiter} {body : List Char} (closed : Body d.guard body)
    (rest : List Char) :
    scan ((Piece.markup d body).source ++ rest) = .markup d body :: scan rest := by
  rw [source_markup_append, scan, d.ofOpening?_opening]
  simp only
  split
  · rename_i found
    cases (closed.splitClose rest).symm.trans found
    rfl
  · rename_i found
    cases (closed.splitClose rest).symm.trans found

theorem scan_char {c : Char} {rest : List Char}
    (plain : ∀ (d : Delimiter) tail, c :: rest ≠ '{' :: d.opening :: tail) :
    scan (c :: rest) = consText c (scan rest) := by
  by_cases brace : c = '{'
  · subst brace
    cases rest with
    | nil => simp [scan]
    | cons x rest =>
      have opens : Delimiter.ofOpening? x = none := by
        cases found : Delimiter.ofOpening? x with
        | none => rfl
        | some d =>
          rw [← Delimiter.opening_of_ofOpening? found] at plain
          exact absurd rfl (plain d rest)
      rw [scan, opens]
  · rw [scan]
    exact fun _ _ e => absurd e brace

/-- The scan from left to right is what the lexer does. -/
theorem cuts_iff {cs : List Char} {ps : List Piece} : Cuts cs ps ↔ scan cs = ps := by
  constructor
  · intro h
    induction h with
    | nil => simp [scan]
    | part closed _ ih => rw [scan_part closed, ih]
    | char plain _ ih => rw [scan_char plain, ih]
    | @unclosed d rest never =>
      rw [scan, d.ofOpening?_opening]
      simp only
      split
      · rename_i found
        cases (splitClose_eq_none_iff.2 never).symm.trans found
      · rfl
  · rintro rfl
    exact cuts_scan cs

/-! ## Pieces -/

/-- A piece that a scan can come upon: a text that is not empty, or a complete delimited part. -/
def Piece.Formed : Piece → Prop
  | .text cs => cs ≠ []
  | .markup d body => Body d.guard body

/-- Whether a piece is plain text. -/
def Piece.IsText : Piece → Prop
  | .text _ => True
  | .markup _ _ => False

/-- No text follows a text. -/
def Merged : List Piece → Prop
  | [] => True
  | p :: ps => (p.IsText → ∀ q ∈ ps.head?, ¬ q.IsText) ∧ Merged ps

theorem formed_consText {c : Char} {ps : List Piece} (h : ∀ p ∈ ps, p.Formed) :
    ∀ p ∈ consText c ps, p.Formed := by
  unfold consText
  split
  · exact List.forall_mem_cons.2 ⟨List.cons_ne_nil c _, (List.forall_mem_cons.1 h).2⟩
  · exact List.forall_mem_cons.2 ⟨List.cons_ne_nil c [], h⟩

theorem merged_consText {c : Char} {ps : List Piece} (h : Merged ps) : Merged (consText c ps) := by
  unfold consText
  split
  · exact ⟨fun _ => h.1 trivial, h.2⟩
  · rename_i other
    refine ⟨fun _ q hq => ?_, h⟩
    cases q with
    | text cs =>
      obtain ⟨ps, rfl⟩ := List.head?_eq_some_iff.1 hq
      exact absurd rfl (other cs ps)
    | markup => exact id

namespace Cuts

variable {cs : List Char} {ps : List Piece}

theorem formed (h : Cuts cs ps) : ∀ p ∈ ps, p.Formed := by
  induction h with
  | nil => simp
  | part closed _ ih => exact List.forall_mem_cons.2 ⟨closed, ih⟩
  | char _ _ ih => exact formed_consText ih
  | unclosed => simp [Piece.Formed]

theorem merged (h : Cuts cs ps) : Merged ps := by
  induction h with
  | nil => trivial
  | part _ _ ih => exact ⟨False.elim, ih⟩
  | char _ _ ih => exact merged_consText ih
  | unclosed => simp [Merged]

end Cuts

/-! ## Concatenation -/

/-- The last piece, if there is one, is no text. -/
def EndsClosed (ps : List Piece) : Prop := ∀ p ∈ ps.getLast?, ¬ p.IsText

theorem endsClosed_cons {p q : Piece} {ps : List Piece} :
    EndsClosed (p :: q :: ps) ↔ EndsClosed (q :: ps) := by
  simp [EndsClosed]

/-- A character before pieces that do not end with a text is put before one of them. -/
theorem endsClosed_of_consText {c : Char} {ps : List Piece} (h : EndsClosed (consText c ps)) :
    EndsClosed ps ∧ ps ≠ [] ∧ ∀ qs, consText c ps ++ qs = consText c (ps ++ qs) := by
  cases ps with
  | nil => exact absurd trivial (h (.text [c]) rfl)
  | cons p ps =>
    cases p with
    | markup => exact ⟨endsClosed_cons.1 h, by simp, fun _ => rfl⟩
    | text cs =>
      cases ps with
      | nil => exact absurd trivial (h (.text (c :: cs)) rfl)
      | cons p ps => exact ⟨endsClosed_cons.2 (endsClosed_cons.1 h), by simp, fun _ => rfl⟩

theorem Cuts.append {a b : List Char} {ps qs : List Piece} (ha : Cuts a ps) (hb : Cuts b qs)
    (ends : EndsClosed ps) : Cuts (a ++ b) (ps ++ qs) := by
  induction ha with
  | nil => exact hb
  | @part d body rest ps closed _ ih =>
    rw [List.append_assoc]
    refine .part closed (ih ?_)
    cases ps with
    | nil => simp [EndsClosed]
    | cons p ps => exact endsClosed_cons.1 ends
  | @char c rest ps plain more ih =>
    obtain ⟨ends', nonempty, same⟩ := endsClosed_of_consText ends
    rw [same, List.cons_append]
    refine .char (fun d tail e => ?_) (ih ends')
    -- the opening pair would reach over the seam only if nothing stood behind the character
    cases rest with
    | nil =>
      cases more
      exact nonempty rfl
    | cons x rest =>
      cases e
      exact plain d rest rfl
  | unclosed => exact absurd trivial (ends _ rfl)

/-- A source that does not end with a text is cut apart from what follows it. -/
theorem scan_append {a : List Char} (b : List Char) (ends : EndsClosed (scan a)) :
    scan (a ++ b) = scan a ++ scan b :=
  cuts_iff.1 ((cuts_scan a).append (cuts_scan b) ends)

/-- Pieces are placed from the end of those in front of them on. -/
theorem place_append (ps qs : List Piece) (pos line : Nat) :
    place pos line (ps ++ qs) = place pos line ps ++
      place (pos + Text.byteSize (ps.flatMap Piece.source))
        (line + Text.newlines (ps.flatMap Piece.source)) qs := by
  induction ps generalizing pos line with
  | nil => rfl
  | cons p ps ih =>
    simp only [List.cons_append, place, ih, List.flatMap_cons, Text.byteSize_append,
      Text.newlines_append, Nat.add_assoc]
    cases p.lexeme? pos line <;> rfl

end SlotTemplate.Markup
