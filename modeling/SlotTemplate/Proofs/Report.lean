import SlotTemplate.Proofs.Argument.Beginnings
import SlotTemplate.Proofs.Blame
import SlotTemplate.Proofs.Report.Lines
import SlotTemplate.Report

/-!
# Where reports point

An error says in bytes where it starts, and its report takes that number to count characters. The
place that the report names is that of another character, unless the text in front of the error has
one byte for each character.

* `Report.prints_iff`: the place that can be read off a report;
* `Engine.compile_error_starts`: every error starts with a character of the source;
* `Engine.report_place`: when a report names the place of that character.
-/

namespace SlotTemplate

/-! ## What is printed of a place -/

namespace Report

variable {r : Report}

/-- The row with the message. -/
def messageRow (r : Report) : String := Color.red.paint "Error:" ++ " " ++ r.message ++ "\n"

/-- The row that names a place, behind an indentation. -/
def placeRow (r : Report) (indent line column : Nat) : String :=
  spaces indent ++ Color.margin.paintEach ['╭', '─', '['] ++
    (r.file ++ ":" ++ toString line ++ ":" ++ toString column) ++ Color.margin.paint "]"

/-- What is read off the text of a report: behind the message, line and column of a place, or
nothing. -/
inductive Prints (r : Report) : Option (Nat × Nat) → Prop where
  | message (text : r.text = r.messageRow) : Prints r none
  | place {indent line column : Nat} {below : String}
      (text : r.text = r.messageRow ++ (r.placeRow indent line column ++ ("\n" ++ below))) :
      Prints r (some (line, column))

theorem placeRows_eq {line column : Nat} (h : r.position? = some (line, column)) :
    ∃ indent rows, r.placeRows = r.placeRow indent line column :: rows := by
  have reached := (Option.ite_none_right_eq_some.1 h).1
  obtain ⟨⟨last, place⟩, found⟩ := SourceLine.exists_locate reached
  rw [placeRows, h, found]
  exact ⟨_, _, rfl⟩

/-- A report prints its position. -/
theorem prints_position (r : Report) : r.Prints r.position? := by
  cases h : r.position? with
  | none =>
    refine .message ?_
    rw [text, placeRows, h, List.map_singleton, String.join_cons, String.join_nil,
      String.append_empty]
    rfl
  | some place =>
    obtain ⟨indent, rows, placed⟩ := placeRows_eq h
    refine @Prints.place r indent _ _ (String.join (rows.map (· ++ "\n"))) ?_
    rw [text, placed, List.map_cons, List.map_cons, String.join_cons, String.join_cons, messageRow]
    simp only [String.append_assoc]

/-- A number ends where no digit follows. -/
theorem numeral_unique {n n' : Nat} {rest rest' : List Char} (stop : Argument.NoDigit rest)
    (stop' : Argument.NoDigit rest')
    (same : (toString n).toList ++ rest = (toString n').toList ++ rest') :
    n = n' ∧ rest = rest' := by
  have digits (m : Nat) : ∀ d ∈ Nat.toDigits 10 m, d.isDigit = true := fun _ =>
    Nat.isDigit_of_mem_toDigits (by decide) (by decide)
  rw [Nat.toString_eq_repr, Nat.toString_eq_repr, Nat.toList_repr, Nat.toList_repr] at same
  obtain ⟨numeral, behind⟩ := Text.run_unique (digits n) (digits n') stop stop' same
  have value := congrArg Digits.value? numeral
  rw [Digits.value?_toDigits, Digits.value?_toDigits] at value
  exact ⟨Option.some.inj value, behind⟩

/-- A row names one place. -/
theorem placeRow_unique {indent indent' line line' column column' : Nat} {below below' : String}
    (same : r.placeRow indent line column ++ ("\n" ++ below) =
      r.placeRow indent' line' column' ++ ("\n" ++ below')) : line = line' ∧ column = column' := by
  have chars := congrArg String.toList same
  have colon : ":".toList = [':'] := rfl
  obtain ⟨_, corner⟩ : ∃ cs, (Color.margin.paintEach ['╭', '─', '[']).toList = '\x1b' :: cs :=
    List.head?_eq_some_iff.1 (by decide +kernel)
  obtain ⟨_, bracket⟩ : ∃ cs, (Color.margin.paint "]").toList = '\x1b' :: cs :=
    List.head?_eq_some_iff.1 (by decide +kernel)
  simp only [placeRow, spaces, String.toList_append, String.toList_ofList, List.append_assoc,
    corner, bracket, colon, List.cons_append, List.nil_append] at chars
  have blank (n : Nat) : ∀ c ∈ List.replicate n ' ', (c == ' ') = true := by
    intro c mem
    rw [List.eq_of_mem_replicate mem]
    rfl
  have stop {p : Char → Bool} {c : Char} {rest : List Char} (other : p c = false) :
      ∀ d ∈ (c :: rest).head?, p d = false := by
    rintro d ⟨⟩
    exact other
  obtain ⟨-, frame⟩ := Text.run_unique (blank indent) (blank indent') (stop rfl) (stop rfl) chars
  have file := List.append_cancel_left (List.cons.inj frame).2
  have place := (List.cons.inj (List.append_cancel_left file)).2
  obtain ⟨lines, behind⟩ := numeral_unique (stop rfl) (stop rfl) place
  obtain ⟨columns, -⟩ := numeral_unique (stop rfl) (stop rfl) (List.cons.inj behind).2
  exact ⟨lines, columns⟩

theorem Prints.unique {p p' : Option (Nat × Nat)} (h : r.Prints p) (h' : r.Prints p') : p = p' := by
  have longer {row below : String} : r.messageRow ≠ r.messageRow ++ (row ++ ("\n" ++ below)) := by
    intro same
    have size := congrArg String.length same
    simp only [String.length_append] at size
    have : "\n".length = 1 := rfl
    omega
  cases h with
  | message text =>
    cases h' with
    | message => rfl
    | place text' => exact absurd (text.symm.trans text') longer
  | place text =>
    cases h' with
    | message text' => exact absurd (text'.symm.trans text) longer
    | place text' =>
      obtain ⟨rfl, rfl⟩ :=
        placeRow_unique ((String.append_right_inj _).1 (text.symm.trans text'))
      rfl

/-- What is read off a report is its position, and nothing else is. -/
theorem prints_iff {place? : Option (Nat × Nat)} : r.Prints place? ↔ r.position? = place? := by
  constructor
  · exact r.prints_position.unique
  · rintro rfl
    exact r.prints_position

/-- The position of a report is that of the character which as many others precede as the span says
that bytes do. -/
theorem position?_eq_iff {before behind : List Char} {c : Char}
    (split : r.source = before ++ c :: behind) :
    r.position? = some (SourceLine.position (before ++ [c])) ↔
      r.span.start = before.length ∧ lastPosition r.span ≤ r.source.length := by
  have here := SourceLine.locate_eq_position before c behind
  rw [← split] at here
  rw [position?, Option.ite_none_right_eq_some]
  constructor
  · rintro ⟨reached, there⟩
    obtain ⟨⟨line, column⟩, found, counted⟩ := Option.map_eq_some_iff.1 there
    obtain ⟨⟨line', column'⟩, found', counted'⟩ := Option.map_eq_some_iff.1 here
    obtain ⟨lines, columns⟩ := Prod.mk.inj (counted.trans counted'.symm)
    cases Nat.succ.inj lines
    cases Nat.succ.inj columns
    exact ⟨SourceLine.locate_injective found found', reached⟩
  · rintro ⟨start, reached⟩
    rw [start]
    exact ⟨reached, here⟩

end Report

/-! ## Where errors start -/

namespace Text

theorem length_le_byteSize (cs : List Char) : cs.length ≤ byteSize cs := by
  induction cs with
  | nil => exact Nat.le_refl _
  | cons c cs ih =>
    have := c.utf8Size_pos
    rw [List.length_cons, byteSize_cons]
    omega

/-- Bytes and characters count the same where each character has one byte. -/
theorem byteSize_eq_length_iff {cs : List Char} :
    byteSize cs = cs.length ↔ ∀ c ∈ cs, c.utf8Size = 1 := by
  induction cs with
  | nil => exact iff_of_true rfl (List.forall_mem_nil _)
  | cons c cs ih =>
    have := c.utf8Size_pos
    have := length_le_byteSize cs
    rw [List.forall_mem_cons, ← ih, byteSize_cons, List.length_cons]
    omega

theorem exists_char_of_isBoundary {n : Nat} {cs : List Char} (boundary : isBoundary n cs = true)
    (inside : n < byteSize cs) :
    ∃ before c behind, cs = before ++ c :: behind ∧ n = byteSize before := by
  obtain ⟨before, rest, rfl, rfl⟩ := isBoundary_iff.1 boundary
  cases rest with
  | nil =>
    rw [List.append_nil] at inside
    exact absurd inside (Nat.lt_irrefl _)
  | cons c behind => exact ⟨before, c, behind, rfl, rfl⟩

end Text

open Markup Grammar

/-- An error starts in a lexeme, and there with a character of the source. -/
structure Markup.Lexeme.Bears (l : Lexeme) (source : List Char) (err : CompileError) : Prop where
  boundary : Text.isBoundary err.span.start source = true
  inside : err.span.start < l.span.stop

namespace Markup.Lexeme.Exact

variable {source : List Char} {l : Lexeme} {tag : Tag} {e : TagError}

theorem bears (exact : l.Exact source) (token : l.token = .block tag) {err : CompileError}
    (span : err.span = tag.span) : l.Bears source err := by
  obtain ⟨-, place, -⟩ := exact.block token
  constructor
  · rw [span, place]
    exact exact.starts
  · rw [span, place]
    exact exact.nonempty

theorem bears_of_tagSite (exact : l.Exact source) (stands : l.token.Stands source)
    (token : l.token = .block tag) (points : (tagSite tag).Points tag.args e) :
    l.Bears source (.tag e) := by
  obtain ⟨encloses, -, -, written⟩ := exact.block token
  rw [token] at stands
  have size := congrArg Text.byteSize written.contents
  rw [Text.byteSize_append] at size
  have closing := encloses.inside.2
  have start := points.le
  simp only [tagSite, Tag.argsOffset] at start
  refine ⟨points.isBoundary (Tag.args_stand stands written), ?_⟩
  simp only [CompileError.span]
  omega

theorem bears_of_variable (exact : l.Exact source) (stands : l.token.Stands source)
    {contents : String} {offset : Nat} (token : l.token = .variable contents offset)
    (points : (variableSite contents offset l.line).Points contents e) :
    l.Bears source (.tag e) := by
  have encloses := exact.token
  rw [token] at encloses stands
  have closing := encloses.inside.2
  have start := points.le
  simp only [variableSite] at start
  refine ⟨points.isBoundary stands, ?_⟩
  simp only [CompileError.span]
  omega

end Markup.Lexeme.Exact

/-- What a tag itself has to say is wrong from a character of the tag on. -/
theorem Binding.bears_of_header {source : List Char} {l : Lexeme} {tag : Tag} {b : Binding}
    {e : TagError} (exact : l.Exact source) (stands : l.token.Stands source)
    (token : l.token = .block tag) (h : b.header tag = .error e) : l.Bears source (.tag e) := by
  have slot (failed : tag.slotName = .error e) : l.Bears source (.tag e) := by
    unfold Tag.slotName at failed
    split at failed <;> cases failed
    exact exact.bears token rfl
  have args (points : (tagSite tag).Points tag.args e) := exact.bears_of_tagSite stands token points
  have ink := exact.args_ink token
  cases b with
  | conditional => exact args (Tag.condition_points ink (map_eq_error_iff.1 h))
  | loop => exact args (Tag.loopHeader_points ink (map_eq_error_iff.1 h))
  | load =>
    rw [header] at h
    split at h <;> cases h
    exact exact.bears token rfl
  | slot | slotOutput => exact slot (map_eq_error_iff.1 h)
  | inline | block => exact args (Tag.invocationArguments_points ink (map_eq_error_iff.1 h))
  | plain => cases h

theorem Markup.Lexeme.Wrong.bears {source : List Char} {l : Lexeme} {err : CompileError}
    (h : l.Wrong err) (exact : l.Exact source) (stands : l.token.Stands source) :
    l.Bears source err := by
  cases h with
  | tag token span => exact exact.bears token span
  | header token invalid => exact Binding.bears_of_header exact stands token invalid
  | output token invalid =>
    have encloses := exact.token
    rw [token] at encloses
    exact exact.bears_of_variable stands token (Expr.ofVariable_points encloses.ink invalid)

/-- Every error of a source starts with one of its characters and stops in it. -/
theorem Engine.compile_error_starts {e : Engine} {name source : String} {err : CompileError}
    (h : e.compileNamed name source = .error err) :
    err.span.stop ≤ Text.byteSize source.toList ∧ ∃ before c behind,
      source.toList = before ++ c :: behind ∧ err.span.start = Text.byteSize before := by
  obtain ⟨l, mem, wrong⟩ := (Parser.parse_eq_error_iff.1 (map_eq_error_iff.1 h)).wrong
  have exact := tokenize_exact source l mem
  have bears := wrong.bears exact (tokenize_stands source l mem)
  constructor
  · exact (wrong.blamed exact).span.stops.trans exact.inside
  · exact Text.exists_char_of_isBoundary bears.boundary (bears.inside.trans_le exact.inside)

/-- The report of an error names the place of the character that the error starts with exactly if
all characters in front of it have one byte, and the last byte of the error has no higher position
than the source has characters. If it has, the report names no place, and else the place of the
character which as many others precede as bytes precede the error. -/
theorem Engine.report_place {e : Engine} {name source : String} {err : CompileError}
    (h : e.compileNamed name source = .error err) (file : String) :
    ∃ before c behind, source.toList = before ++ c :: behind ∧
      err.span.start = Text.byteSize before ∧
      ((err.report source file).Prints (some (SourceLine.position (before ++ [c]))) ↔
        (∀ b ∈ before, b.utf8Size = 1) ∧
          Report.lastPosition err.span ≤ source.toList.length) ∧
      ((∀ b ∈ source.toList, b.utf8Size = 1) →
        (err.report source file).Prints (some (SourceLine.position (before ++ [c])))) ∧
      (source.toList.length < Report.lastPosition err.span →
        (err.report source file).Prints none) ∧
      ∀ front d back, source.toList = front ++ d :: back → err.span.start = front.length →
        Report.lastPosition err.span ≤ source.toList.length →
        (err.report source file).Prints (some (SourceLine.position (front ++ [d]))) := by
  obtain ⟨stop, before, c, behind, split, start⟩ := compile_error_starts h
  have prints {front back : List Char} {d : Char} (split : source.toList = front ++ d :: back) :
      (err.report source file).Prints (some (SourceLine.position (front ++ [d]))) ↔
        err.span.start = front.length ∧ Report.lastPosition err.span ≤ source.toList.length :=
    Report.prints_iff.trans (Report.position?_eq_iff split)
  refine ⟨before, c, behind, split, start, ?_, fun single => ?_, fun beyond => ?_, ?_⟩
  · rw [prints split, start, Text.byteSize_eq_length_iff]
  · have ascii := Text.byteSize_eq_length_iff.2 single
    have front : ∀ b ∈ before, b.utf8Size = 1 := by
      intro b mem
      apply single b
      rw [split]
      exact List.mem_append_left _ mem
    have reached : Report.lastPosition err.span ≤ source.toList.length := by
      have inside := congrArg Text.byteSize split
      rw [Text.byteSize_append] at inside
      rw [Report.lastPosition]
      omega
    exact (prints split).2 ⟨start.trans (Text.byteSize_eq_length_iff.2 front), reached⟩
  · exact Report.prints_iff.2 (if_neg (Nat.not_le.2 beyond))
  · exact fun front d back split start reached => (prints split).2 ⟨start, reached⟩

theorem Engine.report_place_second_line :
    let source := "a\n{% nope %}"
    let err := .unknownTag "nope" ⟨2, 12⟩ 2 []
    Engine.default.compileNamed "page" source = .error err ∧ ∃ before c behind,
      source.toList = before ++ c :: behind ∧ err.span.start = Text.byteSize before ∧
      (err.report source "page.html").Prints (some (SourceLine.position (before ++ [c]))) := by
  intro source err
  have failed : Engine.default.compileNamed "page" source = .error err := by decide +kernel
  have ascii : (source.toList.all fun b => b.utf8Size == 1) = true := by decide +kernel
  obtain ⟨before, c, behind, split, start, -, single, -, -⟩ :=
    Engine.report_place failed "page.html"
  refine ⟨failed, before, c, behind, split, start, single fun b mem => ?_⟩
  exact eq_of_beq (List.all_eq_true.1 ascii b mem)

/-- A letter with two bytes in front of an error moves the place that is named. -/
theorem Engine.not_report_place :
    ¬ ∀ (e : Engine) (name source file : String) (err : CompileError),
      e.compileNamed name source = .error err → ∃ before c behind,
        source.toList = before ++ c :: behind ∧ err.span.start = Text.byteSize before ∧
        (err.report source file).Prints (some (SourceLine.position (before ++ [c]))) := by
  intro right
  let source := "é{% nope %} end"
  let err : CompileError := .unknownTag "nope" ⟨2, 12⟩ 1 []
  have failed : Engine.default.compileNamed "page" source = .error err := by decide +kernel
  have named : (err.report source "page.html").position? = some (1, 3) := by decide +kernel
  obtain ⟨before, c, behind, split, start, prints⟩ := right _ _ _ "page.html" _ failed
  have place := Report.prints_iff.1 prints
  rw [named, Option.some.injEq] at place
  have text : source.toList = 'é' :: '{' :: "% nope %\x7d end".toList := by decide +kernel
  have sizes : 'é'.utf8Size = 2 ∧ '{'.utf8Size = 1 := by decide
  rw [text] at split
  -- the tag starts behind the letter and nothing else
  cases before with
  | nil => cases start
  | cons b before =>
    obtain ⟨rfl, behindLetter⟩ := List.cons.inj split
    cases before with
    | nil =>
      obtain ⟨rfl, -⟩ := List.cons.inj behindLetter
      exact absurd place (by decide)
    | cons b before =>
      obtain ⟨rfl, -⟩ := List.cons.inj behindLetter
      have bytes : 2 = Text.byteSize ('é' :: '{' :: before) := start
      rw [Text.byteSize_cons, Text.byteSize_cons, sizes.1, sizes.2] at bytes
      omega

end SlotTemplate
