import SlotTemplate.Proofs.Markup.Scan
import SlotTemplate.Proofs.Markup.Words

/-!
# The places of lexemes

* `Lexeme.Exact`: a lexeme says truly where it stands and what stands there;
* `Covers`: lexemes that leave out comments and nothing else;
* `tokenize_places`: the lexemes of a source are exact, stand one behind another, and cover it.
-/

namespace SlotTemplate

/-- A tag says truly what its name and its arguments are: the name is the first word of the
contents, and in the source the arguments stand where the tag says. -/
structure Tag.Exact (source : List Char) (t : Tag) : Prop where
  contents : t.contents.toList = t.name.toList ++ t.args.toList
  ink : ∀ c ∈ t.name.toList, Text.isBlank c = false
  stop : ∀ c ∈ t.args.toList.head?, Text.isBlank c = true
  named : t.contents ≠ "" → t.name ≠ ""
  cut : t.cutsCleanly = true
  args : Text.slice source ⟨t.argsOffset, t.argsOffset + Text.byteSize t.args.toList⟩ =
    t.args.toList

namespace Markup

/-- A span of a source is a complete delimited part whose trimmed contents stand at an offset. -/
structure Encloses (source : List Char) (span : Span) (d : Delimiter) (contents : String)
    (offset : Nat) : Prop where
  part : ∃ body, Body d.guard body ∧ Text.slice source span = (Piece.markup d body).source ∧
    contents.toList = Text.trim body
  inside : span.start + 2 ≤ offset ∧ offset + Text.byteSize contents.toList + 2 ≤ span.stop
  contents : Text.slice source ⟨offset, offset + Text.byteSize contents.toList⟩ = contents.toList

/-- A token of a lexeme says truly what stands at the lexeme's place. -/
def Token.Exact (source : List Char) (span : Span) (line : Nat) : Token → Prop
  | .text s => Text.slice source span = s.toList
  | .variable contents offset => Encloses source span .variable contents offset
  | .block tag => Encloses source span .block tag.contents tag.offset ∧ tag.span = span ∧
      tag.line = line ∧ tag.Exact source

/-- A lexeme says truly where it stands and what stands there. -/
structure Lexeme.Exact (source : List Char) (l : Lexeme) : Prop where
  nonempty : l.span.start < l.span.stop
  inside : l.span.stop ≤ Text.byteSize source
  starts : Text.isBoundary l.span.start source = true
  stops : Text.isBoundary l.span.stop source = true
  line : l.line = 1 + Text.newlines (Text.takeBytes l.span.start source)
  token : l.token.Exact source l.span l.line

def Lexeme.IsText (l : Lexeme) : Prop := ∃ s, l.token = .text s

/-- A text that consists of comments. -/
def Comments (cs : List Char) : Prop :=
  ∃ bodies : List (List Char), (∀ body ∈ bodies, Body Delimiter.comment.guard body) ∧
    cs = (bodies.map (Piece.markup .comment)).flatMap Piece.source

/-- From an offset on, a source consists of lexemes and of comments between them. -/
def Covers (source : List Char) (pos : Nat) : List Lexeme → Prop
  | [] => Comments (Text.slice source ⟨pos, Text.byteSize source⟩)
  | l :: ls => pos ≤ l.span.start ∧ Comments (Text.slice source ⟨pos, l.span.start⟩) ∧
      Covers source l.span.stop ls

/-! ## What an exact lexeme is good for -/

/-- Trimmed contents end with no blank. -/
theorem Encloses.ink {source : List Char} {span : Span} {d : Delimiter} {contents : String}
    {offset : Nat} (h : Encloses source span d contents offset) :
    ∀ c ∈ contents.toList.getLast?, Text.isBlank c = false := by
  obtain ⟨body, -, -, trimmed⟩ := h.part
  rw [trimmed]
  exact fun c => Text.trim_last

namespace Lexeme.Exact

variable {source : List Char} {l : Lexeme} {tag : Tag}

theorem block (exact : l.Exact source) (token : l.token = .block tag) :
    Encloses source l.span .block tag.contents tag.offset ∧ tag.span = l.span ∧
      tag.line = l.line ∧ tag.Exact source := by
  have stands := exact.token
  rwa [token] at stands

/-- No blank ends the arguments of a tag. -/
theorem args_ink (exact : l.Exact source) (token : l.token = .block tag) :
    ∀ c ∈ tag.args.toList.getLast?, Text.isBlank c = false := by
  obtain ⟨encloses, -, -, written⟩ := exact.block token
  intro c hc
  refine encloses.ink c ?_
  rw [written.contents, List.getLast?_append, hc]
  rfl

end Lexeme.Exact

end Markup

/-! ## One lexeme -/

/-- A tag whose contents stand at its offset and start with no blank is exact. -/
theorem Tag.exact_of_stands {t : Tag} {contents front back : List Char}
    (written : t.contents.toList = contents) (offset : t.offset = Text.byteSize front)
    (ink : ∀ c cs, contents = c :: cs → Text.isBlank c = false) :
    t.Exact (front ++ (contents ++ back)) := by
  obtain ⟨args, split, inked, stop, named⟩ : ∃ args, contents = t.name.toList ++ args ∧
      (∀ c ∈ t.name.toList, Text.isBlank c = false) ∧
      (∀ c ∈ args.head?, Text.isBlank c = true) ∧ (t.contents ≠ "" → t.name ≠ "") := by
    cases contents with
    | nil =>
      have empty : t.contents = "" := String.toList_eq_nil_iff.1 written
      have name : t.name = "" := by rw [Tag.name, Tag.words, written, Text.words_nil]; rfl
      exact ⟨[], by rw [name]; rfl, by simp [name], by simp, fun h => absurd empty h⟩
    | cons c cs =>
      have spells := spells_of_inked written (ink c cs rfl)
      rw [← spells.name_eq] at spells
      refine ⟨_, written.symm.trans spells.contents, spells.ink, spells.stop, fun _ empty => ?_⟩
      exact spells.nonempty (String.toList_eq_nil_iff.2 empty)
  subst split
  have args_eq : t.args.toList = args := by
    rw [Tag.args, written, Text.dropBytes_append, String.toList_ofList]
  have cut : t.cutsCleanly = true := by
    rw [Tag.cutsCleanly, written]
    exact Text.isBoundary_append _ _
  have stands : Text.slice ((front ++ t.name.toList) ++ (args ++ back))
      ⟨t.argsOffset, t.argsOffset + Text.byteSize args⟩ = args := by
    rw [Tag.argsOffset, offset, ← Text.byteSize_append]
    exact Text.slice_append _ _ _
  refine ⟨?_, inked, ?_, named, cut, ?_⟩
  · rw [args_eq, written]
  · rwa [args_eq]
  · rw [args_eq]
    simpa only [List.append_assoc] using stands

namespace Markup

theorem byteSize_markup (d : Delimiter) (body : List Char) :
    Text.byteSize (Piece.markup d body).source = 4 + Text.byteSize body := by
  have brace : '{'.utf8Size = 1 ∧ '}'.utf8Size = 1 := by decide
  have marks : d.opening.utf8Size = 1 ∧ d.guard.utf8Size = 1 := by cases d <;> decide
  simp only [Piece.source, Text.byteSize_cons, Text.byteSize_append, Text.byteSize_nil, brace,
    marks]
  omega

/-- What a delimited part says about itself between what stands before it and behind it. -/
theorem encloses_of_stands (d : Delimiter) {body : List Char} (closed : Body d.guard body)
    (before after : List Char) :
    let offset := Text.byteSize before + 2 + Text.byteSize (body.takeWhile Text.isBlank)
    let front := before ++ '{' :: d.opening :: body.takeWhile Text.isBlank
    ∃ back, before ++ ((Piece.markup d body).source ++ after) =
        front ++ (Text.trim body ++ back) ∧ offset = Text.byteSize front ∧
      Encloses (before ++ ((Piece.markup d body).source ++ after))
        ⟨Text.byteSize before, Text.byteSize before + 4 + Text.byteSize body⟩ d
        (String.ofList (Text.trim body)) offset := by
  intro offset front
  obtain ⟨blanks, split⟩ := Text.trim_split body
  have brace : '{'.utf8Size = 1 ∧ d.opening.utf8Size = 1 := by cases d <;> decide
  have size : offset = Text.byteSize front := by
    simp only [offset, front, Text.byteSize_append, Text.byteSize_cons, brace]
    omega
  have source : before ++ ((Piece.markup d body).source ++ after) =
      front ++ (Text.trim body ++ (blanks ++ d.guard :: '}' :: after)) := by
    have whole : body ++ d.guard :: '}' :: after =
        (body.takeWhile Text.isBlank ++ (Text.trim body ++ blanks)) ++
          d.guard :: '}' :: after := by
      rw [← split]
    rw [source_markup_append, whole]
    simp [front]
  refine ⟨_, source, size, ⟨body, closed, ?_, String.toList_ofList⟩, ?_, ?_⟩
  · rw [Nat.add_assoc, ← byteSize_markup]
    exact Text.slice_append _ _ _
  · have whole := congrArg Text.byteSize split
    simp only [Text.byteSize_append] at whole
    simp only [offset, String.toList_ofList]
    omega
  · rw [String.toList_ofList, source, size]
    exact Text.slice_append _ _ _

theorem exact_of_stands {token : Token} {part : List Char} (nonempty : part ≠ [])
    (before after : List Char)
    (stands : token.Exact (before ++ (part ++ after))
      ⟨Text.byteSize before, Text.byteSize before + Text.byteSize part⟩
      (1 + Text.newlines before)) :
    Lexeme.Exact (before ++ (part ++ after)) ⟨token,
      ⟨Text.byteSize before, Text.byteSize before + Text.byteSize part⟩,
      1 + Text.newlines before⟩ := by
  have size := Text.byteSize_pos nonempty
  refine ⟨?_, ?_, Text.isBoundary_append _ _, ?_, ?_, stands⟩
  · exact Nat.lt_add_of_pos_right size
  · simp only [Text.byteSize_append]
    omega
  · rw [← List.append_assoc, ← Text.byteSize_append]
    exact Text.isBoundary_append _ _
  · rw [Text.takeBytes_append]

theorem Piece.source_ne_nil {p : Piece} (formed : p.Formed) : p.source ≠ [] := by
  cases p with
  | text cs => exact formed
  | markup d body => exact List.cons_ne_nil _ _

/-- The lexeme of a piece, between what stands before it and behind it, is exact. -/
theorem exact_of_lexeme? {p : Piece} {l : Lexeme} (formed : p.Formed) (before after : List Char)
    (h : p.lexeme? (Text.byteSize before) (1 + Text.newlines before) = some l) :
    l.span = ⟨Text.byteSize before, Text.byteSize (before ++ p.source)⟩ ∧
      (l.IsText ↔ p.IsText) ∧ l.Exact (before ++ (p.source ++ after)) := by
  rw [Text.byteSize_append]
  cases p with
  | text cs =>
    cases h
    refine ⟨rfl, ⟨fun _ => trivial, fun _ => ⟨_, rfl⟩⟩, exact_of_stands formed before after ?_⟩
    rw [Token.Exact, String.toList_ofList]
    exact Text.slice_append _ _ _
  | markup d body =>
    obtain ⟨back, source, offset, encloses⟩ := encloses_of_stands d formed before after
    -- the token of a variable or a tag; a comment has none
    obtain ⟨token, rfl, marked, stands⟩ : ∃ token, l = ⟨token,
        ⟨Text.byteSize before, Text.byteSize before + 4 + Text.byteSize body⟩,
        1 + Text.newlines before⟩ ∧ (∀ s, token ≠ .text s) ∧
        token.Exact (before ++ ((Piece.markup d body).source ++ after))
          ⟨Text.byteSize before, Text.byteSize before + 4 + Text.byteSize body⟩
          (1 + Text.newlines before) := by
      cases d with
      | «variable» =>
        cases h
        exact ⟨_, rfl, by simp, encloses⟩
      | block =>
        cases h
        refine ⟨_, rfl, by simp, encloses, rfl, rfl, ?_⟩
        rw [source]
        exact Tag.exact_of_stands String.toList_ofList offset fun c cs => Text.trim_head
      | comment => cases h
    rw [Nat.add_assoc, ← byteSize_markup] at stands ⊢
    refine ⟨rfl, ⟨?_, False.elim⟩, exact_of_stands (Piece.source_ne_nil formed) before after stands⟩
    rintro ⟨s, text⟩
    exact absurd text (marked s)

/-! ## All lexemes -/

/-- From the end of a part of a source on, pieces are placed one after another. -/
theorem place_cons (before : List Char) (p : Piece) (ps : List Piece) :
    place (Text.byteSize before) (1 + Text.newlines before) (p :: ps) =
      (p.lexeme? (Text.byteSize before) (1 + Text.newlines before)).toList ++
        place (Text.byteSize (before ++ p.source)) (1 + Text.newlines (before ++ p.source)) ps := by
  rw [place, Text.byteSize_append, Text.newlines_append, Nat.add_assoc]
  cases p.lexeme? (Text.byteSize before) (1 + Text.newlines before) <;> rfl

theorem isComment_of_lexeme? {p : Piece} {pos line : Nat} (h : p.lexeme? pos line = none) :
    ∃ body, p = .markup .comment body := by
  cases p with
  | text => cases h
  | markup d body =>
    cases d with
    | «variable» | block => cases h
    | comment => exact ⟨body, rfl⟩

section

variable (before : List Char) {ps : List Piece}

/-- What holds of the lexeme of each piece, between what stands before it and behind it, holds of
all lexemes. -/
theorem forall_mem_place {P : List Char → Lexeme → Prop}
    (each : ∀ {p : Piece} {l : Lexeme} (before after : List Char), p.Formed →
      p.lexeme? (Text.byteSize before) (1 + Text.newlines before) = some l →
      P (before ++ (p.source ++ after)) l)
    (formed : ∀ p ∈ ps, p.Formed) :
    ∀ l ∈ place (Text.byteSize before) (1 + Text.newlines before) ps,
      P (before ++ ps.flatMap Piece.source) l := by
  induction ps generalizing before with
  | nil => simp [place]
  | cons p ps ih =>
    obtain ⟨here, there⟩ := List.forall_mem_cons.1 formed
    intro l hl
    rw [place_cons, List.mem_append] at hl
    rw [List.flatMap_cons]
    rcases hl with hl | hl
    · exact each before _ here (Option.mem_toList.1 hl)
    · rw [← List.append_assoc]
      exact ih _ there l hl

/-- Lexemes stand behind the part of the source from whose end on they are placed; right behind it
stands a text only if the first piece is one. -/
theorem start_of_mem_place (formed : ∀ p ∈ ps, p.Formed) :
    ∀ l ∈ place (Text.byteSize before) (1 + Text.newlines before) ps,
      Text.byteSize before ≤ l.span.start ∧
        ((∀ p ∈ ps.head?, ¬ p.IsText) → l.IsText → Text.byteSize before < l.span.start) := by
  induction ps generalizing before with
  | nil => simp [place]
  | cons p ps ih =>
    obtain ⟨here, there⟩ := List.forall_mem_cons.1 formed
    intro l hl
    rw [place_cons, List.mem_append] at hl
    rcases hl with hl | hl
    · obtain ⟨span, text, -⟩ := exact_of_lexeme? here before [] (Option.mem_toList.1 hl)
      rw [span]
      exact ⟨Nat.le_refl _, fun free isText => absurd (text.1 isText) (free p rfl)⟩
    · have size := Text.byteSize_pos (Piece.source_ne_nil here)
      have behind := (ih _ there l hl).1
      rw [Text.byteSize_append] at behind
      omega

theorem pairwise_place (formed : ∀ p ∈ ps, p.Formed) (merged : Merged ps) :
    (place (Text.byteSize before) (1 + Text.newlines before) ps).Pairwise fun l m =>
      l.span.stop ≤ m.span.start ∧ (l.IsText → m.IsText → l.span.stop < m.span.start) := by
  induction ps generalizing before with
  | nil => simp [place]
  | cons p ps ih =>
    obtain ⟨here, there⟩ := List.forall_mem_cons.1 formed
    rw [place_cons, List.pairwise_append]
    refine ⟨?_, ih _ there merged.2, fun l hl m hm => ?_⟩
    · cases p.lexeme? (Text.byteSize before) (1 + Text.newlines before) <;> simp
    · obtain ⟨span, text, -⟩ := exact_of_lexeme? here before [] (Option.mem_toList.1 hl)
      obtain ⟨le, lt⟩ := start_of_mem_place _ there m hm
      rw [span]
      exact ⟨le, fun first => lt (merged.1 (text.1 first))⟩

theorem Comments.append_comment {cs body : List Char} (h : Comments cs)
    (closed : Body Delimiter.comment.guard body) :
    Comments (cs ++ (Piece.markup .comment body).source) := by
  obtain ⟨bodies, all, rfl⟩ := h
  refine ⟨bodies ++ [body], ?_, by simp⟩
  simpa [or_imp, forall_and] using ⟨all, closed⟩

/-- Comments are left out between lexemes and nothing else; `gap` is left out so far. -/
theorem covers_place {gap : List Char} (formed : ∀ p ∈ ps, p.Formed) (comments : Comments gap) :
    Covers (before ++ (gap ++ ps.flatMap Piece.source)) (Text.byteSize before)
      (place (Text.byteSize (before ++ gap)) (1 + Text.newlines (before ++ gap)) ps) := by
  induction ps generalizing before gap with
  | nil =>
    have left := Text.slice_append before gap []
    rw [← Text.byteSize_append, List.append_nil] at left
    rw [List.flatMap_nil, List.append_nil, place, Covers, left]
    exact comments
  | cons p ps ih =>
    obtain ⟨here, there⟩ := List.forall_mem_cons.1 formed
    rw [place_cons, List.flatMap_cons]
    cases h : p.lexeme? (Text.byteSize (before ++ gap)) (1 + Text.newlines (before ++ gap)) with
    | none =>
      obtain ⟨body, rfl⟩ := isComment_of_lexeme? h
      have more := ih before there (comments.append_comment here)
      rw [Option.toList_none, List.nil_append]
      simpa only [List.append_assoc] using more
    | some l =>
      have span := (exact_of_lexeme? here (before ++ gap) [] h).1
      have left := Text.slice_append before gap (p.source ++ ps.flatMap Piece.source)
      have none : Comments [] := ⟨[], by simp, rfl⟩
      have more := ih (before ++ gap ++ p.source) there none
      rw [Option.toList_some, List.singleton_append, Covers, span, Text.byteSize_append]
      refine ⟨Nat.le_add_right _ _, ?_, ?_⟩
      · rw [left]
        exact comments
      · simpa only [List.append_assoc, List.nil_append, List.append_nil] using more

end

theorem forall_tokenize {P : List Char → Lexeme → Prop}
    (each : ∀ {p : Piece} {l : Lexeme} (before after : List Char), p.Formed →
      p.lexeme? (Text.byteSize before) (1 + Text.newlines before) = some l →
      P (before ++ (p.source ++ after)) l)
    (source : String) : ∀ l ∈ tokenize source, P source.toList l := by
  have all := forall_mem_place [] each (cuts_scan source.toList).formed
  rwa [scan_source] at all

theorem tokenize_exact (source : String) : ∀ l ∈ tokenize source, l.Exact source.toList :=
  forall_tokenize (fun before after formed h => (exact_of_lexeme? formed before after h).2.2) source

/-- The lexemes of a source say truly where they stand and what stands there. They stand one behind
another, no text right behind a text, and what they leave out are comments. -/
theorem tokenize_places (source : String) :
    (∀ l ∈ tokenize source, l.Exact source.toList) ∧
      ((tokenize source).Pairwise fun l m =>
        l.span.stop ≤ m.span.start ∧ (l.IsText → m.IsText → l.span.stop < m.span.start)) ∧
      Covers source.toList 0 (tokenize source) := by
  have cuts := cuts_scan source.toList
  have none : Comments [] := ⟨[], by simp, rfl⟩
  have covers := covers_place [] cuts.formed none
  rw [scan_source] at covers
  exact ⟨tokenize_exact source, pairwise_place [] cuts.formed cuts.merged, covers⟩

end Markup

end SlotTemplate
