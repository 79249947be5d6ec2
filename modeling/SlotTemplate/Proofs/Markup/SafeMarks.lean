import SlotTemplate.Proofs.Markup.Replacement

/-!
# Sources with marked variables

The filter `safe` is written behind what each variable of a source holds. All else stays as it is.

* `Cuts.mapBody`: a source is cut into the same pieces when parts hold something else;
* `Text.trim_extend`: what is written behind the contents of a part becomes a part of them;
* `Markup.tokenize_markSafe`: a marked source has the lexemes of the source, with marked variables.
-/

namespace SlotTemplate

namespace Text

/-- The blanks at the end of a text, up to what is no blank or to the blanks at its start. -/
def blankEnd (cs : List Char) : List Char := ((trimStart cs).reverse.takeWhile isBlank).reverse

theorem trim_blankEnd (cs : List Char) :
    cs.takeWhile isBlank ++ (trim cs ++ blankEnd cs) = cs := by
  rw [trim, trimEnd, blankEnd, ← List.reverse_append, List.takeWhile_append_dropWhile,
    List.reverse_reverse, trimStart, List.takeWhile_append_dropWhile]

theorem isBlank_of_mem_blankEnd {cs : List Char} : ∀ c ∈ blankEnd cs, isBlank c = true :=
  fun c hc => List.all_eq_true.1 List.all_takeWhile c (List.mem_reverse.1 hc)

/-- A text with a suffix right behind what it holds between blanks. -/
def extend (suffix cs : List Char) : List Char :=
  cs.takeWhile isBlank ++ (trim cs ++ suffix ++ blankEnd cs)

/-- What is written behind the contents of a text becomes a part of them. -/
theorem trim_extend {suffix : List Char} (h : Inked suffix) (cs : List Char) :
    trim (extend suffix cs) = trim cs ++ suffix := by
  refine trim_between ⟨?_, ?_⟩ (List.all_eq_true.1 List.all_takeWhile) isBlank_of_mem_blankEnd
  · cases inner : trim cs with
    | nil => exact h.first
    | cons c u => exact ⟨c, u ++ suffix, rfl, trim_head inner⟩
  · obtain ⟨u, c, rfl, ink⟩ := h.last
    exact ⟨trim cs ++ u, c, (List.append_assoc _ _ _).symm, ink⟩

end Text

namespace Markup

/-! ## Parts that hold something else -/

/-- A piece with another text in its delimiters. -/
def Piece.mapBody (f : Delimiter → List Char → List Char) : Piece → Piece
  | .text cs => .text cs
  | .markup d body => .markup d (f d body)

section

variable (f : Delimiter → List Char → List Char)

theorem map_consText (c : Char) (ps : List Piece) :
    (consText c ps).map (Piece.mapBody f) = consText c (ps.map (Piece.mapBody f)) := by
  cases ps with
  | nil => rfl
  | cons p ps => cases p <;> rfl

/-- Pieces start with the same character whatever they hold. -/
theorem head?_mapBody (ps : List Piece) :
    ((ps.map (Piece.mapBody f)).flatMap Piece.source).head? =
      (ps.flatMap Piece.source).head? := by
  induction ps with
  | nil => rfl
  | cons p ps ih =>
    cases p with
    | text cs =>
      cases cs with
      | nil => exact ih
      | cons => rfl
    | markup => rfl

/-- A source is cut into the same pieces when its parts hold something else. -/
theorem Cuts.mapBody (closed : ∀ d body, Body d.guard body → Body d.guard (f d body))
    {cs : List Char} {ps : List Piece} (h : Cuts cs ps) :
    Cuts ((ps.map (Piece.mapBody f)).flatMap Piece.source) (ps.map (Piece.mapBody f)) := by
  induction h with
  | nil => exact .nil
  | part body _ ih => exact .part (closed _ _ body) ih
  | @char c rest ps plain more ih =>
    rw [map_consText, source_consText]
    refine .char (fun d tail opens => ?_) ih
    obtain ⟨rfl, behind⟩ := List.cons.inj opens
    have head := head?_mapBody f ps
    rw [behind, ← cuts_iff.1 more, scan_source] at head
    obtain ⟨tail', rfl⟩ := List.head?_eq_some_iff.1 head.symm
    exact plain d tail' rfl
  | unclosed never =>
    rw [List.map_singleton, List.flatMap_singleton]
    exact .unclosed never

end

/-! ## Marked variables -/

/-- The filter as it is written. -/
def safeFilter : List Char := ['|', 's', 'a', 'f', 'e']

/-- What a part holds once variables are marked. -/
def markSafeBody : Delimiter → List Char → List Char
  | .variable, body => Text.extend safeFilter body
  | _, body => body

theorem Body.markSafe (d : Delimiter) (body : List Char) (h : Body d.guard body) :
    Body d.guard (markSafeBody d body) := by
  cases d with
  | block | comment => exact h
  | «variable» =>
    have blank : Text.isBlank '}' = false := by decide
    have rest : Body '}' (['s', 'a', 'f', 'e'] ++ Text.blankEnd body) := by
      refine .of_not_mem fun mem => ?_
      rcases List.mem_append.1 mem with word | trailing
      · exact absurd word (by decide)
      · rw [Text.isBlank_of_mem_blankEnd _ trailing] at blank
        cases blank
    rw [← Text.trim_blankEnd body, ← List.append_assoc] at h
    have marked := h.before (x := '|') (by decide) (by decide) rest
    simpa [markSafeBody, Text.extend, safeFilter] using marked

def Token.markSafe : Token → Token
  | .variable contents offset => .variable (contents ++ "|safe") offset
  | token => token

/-- A lexeme with a marked variable, at the same place. -/
def Lexeme.markSafe (l : Lexeme) : Lexeme := { l with token := l.token.markSafe }

theorem lexeme?_markSafe (p : Piece) (pos line pos' line' : Nat) :
    (p.lexeme? pos line).map (fun l => l.markSafe.relocate .erased) =
      ((p.mapBody markSafeBody).lexeme? pos' line').map (Lexeme.relocate .erased) := by
  cases p with
  | text cs => rfl
  | markup d body =>
    cases d with
    | «variable» =>
      have ink : Text.Inked safeFilter := ⟨⟨_, _, rfl, by decide⟩, [_, _, _, _], _, rfl, by decide⟩
      have filter : "|safe" = String.ofList safeFilter := by decide
      have contents : String.ofList (Text.trim body) ++ "|safe" =
          String.ofList (Text.trim (markSafeBody .variable body)) := by
        rw [markSafeBody, Text.trim_extend ink, String.ofList_append, filter]
      simp only [Piece.lexeme?, Piece.mapBody, delimited, Option.map_some, Lexeme.markSafe,
        Token.markSafe, contents]
      rfl
    | block => rfl
    | comment => rfl

theorem place_markSafe (ps : List Piece) (pos line pos' line' : Nat) :
    SameTokens ((place pos line ps).map Lexeme.markSafe)
      (place pos' line' (ps.map (Piece.mapBody markSafeBody))) := by
  rw [SameTokens, List.map_map]
  induction ps generalizing pos line pos' line' with
  | nil => rfl
  | cons p ps ih =>
    have here := lexeme?_markSafe p pos line pos' line'
    rw [List.map_cons, place, place]
    cases found : p.lexeme? pos line with
    | none =>
      rw [found] at here
      rw [Option.map_eq_none_iff.1 here.symm]
      exact ih _ _ _ _
    | some l =>
      rw [found] at here
      obtain ⟨l', found', same⟩ := Option.map_eq_some_iff.1 here.symm
      rw [found', List.map_cons, List.map_cons, ih, same]
      rfl

end Markup

/-- A source with marked variables. -/
def Markup.markSafe (source : String) : String :=
  String.ofList (((scan source.toList).map (Piece.mapBody markSafeBody)).flatMap Piece.source)

/-- A marked source has the lexemes of the source, with marked variables. -/
theorem Markup.tokenize_markSafe (source : String) :
    SameTokens ((tokenize source).map Lexeme.markSafe) (tokenize (markSafe source)) := by
  have cuts := (cuts_scan source.toList).mapBody markSafeBody Body.markSafe
  rw [tokenize, tokenize, markSafe, String.toList_ofList, cuts_iff.1 cuts]
  exact place_markSafe _ _ _ _ _

/-- The filter goes right behind the contents of a variable, whatever stands around it. -/
example : Markup.markSafe "a{{ x|upper  }}{% if x %}\x7b# \x7b\x7b x #\x7d" =
    "a{{ x|upper|safe  }}{% if x %}\x7b# \x7b\x7b x #\x7d" := by
  decide +kernel

end SlotTemplate
