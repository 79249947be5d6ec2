import SlotTemplate.Proofs.Markup.Concatenation

/-!
# Parts in place of a tag

Where a tag stands in a source, other delimited parts can stand: the lexemes in front of it stay as
they are, and those behind it say the same at other places.

* `Cuts.exchange`: in front of a delimited part, a source is cut into the same pieces whatever part
  it is;
* `SameTokens`: lexemes that say the same wherever they stand;
* `tokenize_replace`: the lexemes of a source with closed parts in place of a tag;
* `tokenize_written`: the lexemes of a source with two tags in place of one.
-/

namespace SlotTemplate

/-- A source with a text in place of the part that a span covers. -/
def Markup.replace (source : String) (s : Span) (part : String) : String :=
  String.ofList
    (Text.takeBytes s.start source.toList ++ (part.toList ++ Text.dropBytes s.stop source.toList))

/-- A tag as it is written between single blanks. -/
def Tag.written (name args : String) : String := "\x7b% " ++ name ++ args ++ " %\x7d"

/-- A name that a tag can have: it has no blank, and the tag that it is written in ends behind
it. -/
structure Tag.IsName (name : String) : Prop where
  nonempty : name.toList ≠ []
  ink : ∀ c ∈ name.toList, Text.isBlank c = false
  body : Markup.Body Markup.Delimiter.block.guard (name.toList ++ [' '])

namespace Markup

/-! ## Parts of a body -/

namespace Body

variable {g x : Char} {u v : List Char}

theorem of_not_mem {cs : List Char} (h : g ∉ cs) : Body g cs := by
  induction cs with
  | nil => exact .nil
  | cons c cs ih =>
    obtain ⟨here, there⟩ := not_or.1 (mt List.mem_cons.2 h)
    exact .char (Ne.symm here) (ih there)

/-- Between characters that have no part in it, a text without a closing pair is a body. -/
theorem of_unclosed (other : x ≠ g) (unclosed : x ≠ '}') {cs : List Char}
    (free : ¬ [g, '}'] <:+: cs) : Body g (cs ++ [x]) := by
  -- a guard in front, which waits for the character behind it, does no harm either
  suffices both : Body g (cs ++ [x]) ∧ (¬ [g, '}'] <:+: g :: cs → Body g (g :: (cs ++ [x]))) from
    both.1
  induction cs with
  | nil => exact ⟨.char other .nil, fun _ => .pair unclosed .nil⟩
  | cons c cs ih =>
    obtain ⟨plain, guarded⟩ := ih fun inside => free (inside.trans (List.suffix_cons c cs).isInfix)
    constructor
    · by_cases guard : c = g
      · subst guard
        exact guarded free
      · exact .char guard plain
    · intro free'
      have opened : c ≠ '}' := by
        rintro rfl
        exact free' ⟨[], cs, rfl⟩
      exact .pair opened plain

/-- What a body starts with may stand in front of another body, if the character behind it can
neither be a guard nor close a part. -/
theorem before (h : Body g (u ++ v)) (other : x ≠ g) (unclosed : x ≠ '}') {w : List Char}
    (hw : Body g w) : Body g (u ++ x :: w) := by
  generalize e : u ++ v = cs at h
  induction h generalizing u with
  | nil =>
    obtain ⟨rfl, -⟩ := List.append_eq_nil_iff.1 e
    exact .char other hw
  | char here _ ih =>
    cases u with
    | nil => exact .char other hw
    | cons c u =>
      obtain ⟨rfl, e'⟩ := List.cons.inj e
      exact .char here (ih e')
  | pair here _ ih =>
    cases u with
    | nil => exact .char other hw
    | cons c u =>
      obtain ⟨rfl, e'⟩ := List.cons.inj e
      cases u with
      | nil => exact .pair unclosed hw
      | cons d u =>
        obtain ⟨rfl, e''⟩ := List.cons.inj e'
        exact .pair here (ih e'')

/-- What follows a character that is no guard is a body of its own. -/
theorem behind (h : Body g (u ++ x :: v)) (other : x ≠ g) : Body g v := by
  generalize e : u ++ x :: v = cs at h
  induction h generalizing u with
  | nil => cases u <;> cases e
  | char _ rest ih =>
    cases u with
    | nil =>
      obtain ⟨-, rfl⟩ := List.cons.inj e
      exact rest
    | cons c u => exact ih (List.cons.inj e).2
  | pair _ rest ih =>
    cases u with
    | nil => exact absurd (List.cons.inj e).1 other
    | cons c u =>
      have e' := (List.cons.inj e).2
      cases u with
      | nil =>
        obtain ⟨-, rfl⟩ := List.cons.inj e'
        exact rest
      | cons d u => exact ih (List.cons.inj e').2

end Body

/-! ## Pieces around a part -/

/-- A text in front of a delimited part may start with a character of its own. -/
theorem consText_eq_append {c : Char} {d : Delimiter} {body : List Char} {ps qs rest : List Piece}
    (h : consText c ps = qs ++ .markup d body :: rest) :
    ∃ front, ps = front ++ .markup d body :: rest ∧
      qs.flatMap Piece.source = c :: front.flatMap Piece.source ∧
      ∀ d' body' rest', consText c (front ++ .markup d' body' :: rest') =
        qs ++ .markup d' body' :: rest' := by
  cases qs with
  | nil =>
    unfold consText at h
    split at h <;> cases h
  | cons q qs =>
    unfold consText at h
    split at h
    · rename_i cs ps
      obtain ⟨rfl, rfl⟩ := List.cons.inj h
      exact ⟨.text cs :: qs, rfl, rfl, fun _ _ _ => rfl⟩
    · rename_i other
      obtain ⟨rfl, rfl⟩ := List.cons.inj h
      refine ⟨qs, rfl, rfl, fun d' body' rest' => ?_⟩
      cases qs with
      | nil => rfl
      | cons q qs =>
        cases q with
        | text cs => exact absurd rfl (other cs _)
        | markup => rfl

/-- In front of a delimited part, a source is cut into the same pieces whatever part it is, and what
follows it may be anything. -/
theorem Cuts.exchange {cs : List Char} {d : Delimiter} {body : List Char} {ps qs : List Piece}
    (h : Cuts cs (ps ++ .markup d body :: qs)) :
    ∃ after, cs = ps.flatMap Piece.source ++ ((Piece.markup d body).source ++ after) ∧
      Cuts after qs ∧ ∀ d' body' after' qs', Body d'.guard body' → Cuts after' qs' →
        Cuts (ps.flatMap Piece.source ++ ((Piece.markup d' body').source ++ after'))
          (ps ++ .markup d' body' :: qs') := by
  generalize e : ps ++ .markup d body :: qs = pieces at h
  induction h generalizing ps with
  | nil => cases ps <;> cases e
  | @part d₁ body₁ rest ps₁ closed more ih =>
    cases ps with
    | nil =>
      cases e
      exact ⟨rest, rfl, more, fun _ _ _ _ => .part⟩
    | cons p ps =>
      obtain ⟨rfl, e'⟩ := List.cons.inj e
      obtain ⟨after, rfl, cut, other⟩ := ih e'
      refine ⟨after, by simp, cut, fun d' body' after' qs' closed' cut' => ?_⟩
      rw [List.flatMap_cons, List.append_assoc]
      exact .part closed (other d' body' after' qs' closed' cut')
  | @char c rest ps₁ plain more ih =>
    obtain ⟨front, rfl, source, same⟩ := consText_eq_append e.symm
    obtain ⟨after, rfl, cut, other⟩ := ih rfl
    rw [source]
    refine ⟨after, rfl, cut, fun d' body' after' qs' closed' cut' => ?_⟩
    rw [← same]
    refine .char (fun opener tail opens => ?_) (other d' body' after' qs' closed' cut')
    -- the character behind this one is the same, since both parts start with a brace
    obtain ⟨rfl, opens'⟩ := List.cons.inj opens
    cases pre : front.flatMap Piece.source with
    | nil =>
      rw [pre] at opens' plain
      exact plain opener _ (congrArg _ (List.cons_eq_cons.2 ⟨(List.cons.inj opens').1, rfl⟩))
    | cons x pre' =>
      rw [pre] at opens' plain
      exact plain opener _ (congrArg _ (List.cons_eq_cons.2 ⟨(List.cons.inj opens').1, rfl⟩))
  | unclosed =>
    cases ps with
    | nil => cases e
    | cons p ps => cases ps <;> cases (List.cons.inj e).2

/-- A delimited part that ends where it closes. -/
def Piece.Closed (p : Piece) : Prop := ∃ d body, p = .markup d body ∧ Body d.guard body

/-- Closed parts are cut off one after another. -/
theorem Cuts.parts {parts qs : List Piece} (closed : ∀ p ∈ parts, p.Closed) {after : List Char}
    (h : Cuts after qs) : Cuts (parts.flatMap Piece.source ++ after) (parts ++ qs) := by
  induction parts with
  | nil => exact h
  | cons p parts ih =>
    obtain ⟨⟨d, body, rfl, here⟩, there⟩ := List.forall_mem_cons.1 closed
    rw [List.flatMap_cons, List.append_assoc]
    exact .part here (ih there)

/-! ## Lexemes -/

/-- Lexemes say the same, wherever they stand. -/
def SameTokens (ls ls' : List Lexeme) : Prop :=
  ls.map (Lexeme.relocate .erased) = ls'.map (Lexeme.relocate .erased)

theorem SameTokens.relocate (r : Relocation) (ls : List Lexeme) :
    SameTokens ls (ls.map (Lexeme.relocate r)) := by
  rw [SameTokens, List.map_map]
  refine List.map_congr_left fun l _ => ?_
  obtain ⟨token, span, line⟩ := l
  cases token <;> rfl

/-- Pieces have lexemes that say the same wherever they are placed. -/
theorem sameTokens_place (pos line pos' line' : Nat) (ps : List Piece) :
    SameTokens (place pos line ps) (place pos' line' ps) := by
  have start (pos line : Nat) : SameTokens (place 0 0 ps) (place pos line ps) := by
    have shifted := place_shift (n := pos) (k := line) 0 0 ps
    rw [Nat.zero_add, Nat.zero_add] at shifted
    rw [shifted]
    exact .relocate _ _
  exact (start pos line).symm.trans (start pos' line')

/-- Where a lexeme stands, there is its piece. -/
theorem place_eq_append (before : List Char) {ps : List Piece} {read rest : List Lexeme}
    {l : Lexeme}
    (h : place (Text.byteSize before) (1 + Text.newlines before) ps = read ++ l :: rest) :
    ∃ front p back pos line, ps = front ++ p :: back ∧
      place (Text.byteSize before) (1 + Text.newlines before) front = read ∧
      p.lexeme? (Text.byteSize (before ++ front.flatMap Piece.source))
        (1 + Text.newlines (before ++ front.flatMap Piece.source)) = some l ∧
      rest = place pos line back := by
  induction ps generalizing before read with
  | nil => cases read <;> cases h
  | cons p ps ih =>
    rw [place_cons] at h
    have later {read' : List Lexeme}
        (tail : place (Text.byteSize (before ++ p.source)) (1 + Text.newlines (before ++ p.source))
          ps = read' ++ l :: rest)
        (here : (p.lexeme? (Text.byteSize before) (1 + Text.newlines before)).toList ++ read' =
          read) :
        ∃ front q back pos line, p :: ps = front ++ q :: back ∧
          place (Text.byteSize before) (1 + Text.newlines before) front = read ∧
          q.lexeme? (Text.byteSize (before ++ front.flatMap Piece.source))
            (1 + Text.newlines (before ++ front.flatMap Piece.source)) = some l ∧
          rest = place pos line back := by
      obtain ⟨front, q, back, pos, line, rfl, placed, lexeme, behind⟩ := ih _ tail
      refine ⟨p :: front, q, back, pos, line, rfl, ?_, ?_, behind⟩
      · rw [place_cons, placed, here]
      · rwa [List.flatMap_cons, ← List.append_assoc]
    cases found : p.lexeme? (Text.byteSize before) (1 + Text.newlines before) with
    | none =>
      rw [found] at h
      exact later h (by rw [found]; rfl)
    | some m =>
      rw [found] at h
      cases read with
      | nil =>
        obtain ⟨rfl, behind⟩ := List.cons.inj h
        refine ⟨[], p, ps, _, _, rfl, rfl, ?_, behind.symm⟩
        rwa [List.flatMap_nil, List.append_nil]
      | cons m' read =>
        obtain ⟨rfl, behind⟩ := List.cons.inj h
        exact later behind (by rw [found]; rfl)

/-- The piece of a tag. -/
theorem tag_of_lexeme? {p : Piece} {pos line : Nat} {l : Lexeme} {tag : Tag}
    (h : p.lexeme? pos line = some l) (token : l.token = .block tag) :
    ∃ body, p = .markup .block body ∧ tag.contents.toList = Text.trim body := by
  cases p with
  | text =>
    cases h
    cases token
  | markup d body =>
    cases d with
    | «variable» =>
      cases h
      cases token
    | block =>
      cases h
      cases token
      exact ⟨body, rfl, String.toList_ofList⟩
    | comment => cases h

/-- A tag is the next lexeme. -/
theorem place_block (body : List Char) (pos line : Nat) (ps : List Piece) :
    ∃ l tag pos' line', place pos line (.markup .block body :: ps) = l :: place pos' line' ps ∧
      l.token = .block tag ∧ tag.contents.toList = Text.trim body :=
  ⟨_, _, _, _, rfl, rfl, String.toList_ofList⟩

/-- A source with closed parts in place of a tag has their lexemes there, and the others say the
same as before. -/
theorem tokenize_replace {source : String} {read rest : List Lexeme} {l : Lexeme} {tag : Tag}
    (stands : tokenize source = read ++ l :: rest) (token : l.token = .block tag) {text : String}
    {first : Piece} {parts : List Piece} (closed : ∀ p ∈ first :: parts, p.Closed)
    (written : text.toList = (first :: parts).flatMap Piece.source) :
    ∃ pos line rest', tokenize (replace source l.span text) =
      read ++ (place pos line (first :: parts) ++ rest') ∧ SameTokens rest rest' := by
  obtain ⟨front, p, back, pos, line, pieces, rfl, lexeme, rfl⟩ := place_eq_append [] stands
  obtain ⟨body, rfl, -⟩ := tag_of_lexeme? lexeme token
  have cuts := cuts_scan source.toList
  rw [pieces] at cuts
  have formed : (Piece.markup .block body).Formed := cuts.formed _ (by simp)
  obtain ⟨after, split, cut, other⟩ := cuts.exchange
  obtain ⟨span, -⟩ := exact_of_lexeme? formed ([] ++ front.flatMap Piece.source) [] lexeme
  have behind : Text.dropBytes (Text.byteSize (front.flatMap Piece.source ++
      (Piece.markup .block body).source)) source.toList = after := by
    rw [split, ← List.append_assoc, Text.dropBytes_append]
  obtain ⟨⟨d, body', rfl, here⟩, there⟩ := List.forall_mem_cons.1 closed
  have replaced := cuts_iff.1 (other d body' _ _ here (cut.parts there))
  rw [replace, span, List.nil_append, behind, split, Text.takeBytes_append, written,
    List.flatMap_cons, List.append_assoc, tokenize, String.toList_ofList, replaced, place_append,
    ← List.cons_append, place_append]
  exact ⟨_, _, _, rfl, sameTokens_place _ _ _ _ _⟩

end Markup

/-! ## Written tags -/

open Markup

theorem Tag.written_toList (name args : String) :
    (written name args).toList =
      (Piece.markup .block (' ' :: (name.toList ++ args.toList ++ [' ']))).source := by
  simp [written, Piece.source, Delimiter.opening, Delimiter.guard]

namespace Tag.IsName

variable {name : String} {tag : Tag} {body : List Char}

/-- A name is one that a tag can have if it has no blank and no percent sign. -/
theorem of_all (nonempty : name.toList ≠ [])
    (all : name.toList.all fun c => !Text.isBlank c && c != '%') : IsName name := by
  have each : ∀ c ∈ name.toList, Text.isBlank c = false ∧ c ≠ '%' := by
    simpa using all
  refine ⟨nonempty, fun c hc => (each c hc).1, .of_not_mem fun mem => ?_⟩
  rcases List.mem_append.1 mem with inside | blank
  · exact (each _ inside).2 rfl
  · exact absurd (List.mem_singleton.1 blank) (by decide)

/-- So is one that has no blank and does not close the tag. -/
theorem of_unclosed (nonempty : name.toList ≠ [])
    (ink : ∀ c ∈ name.toList, Text.isBlank c = false)
    (free : ¬ ['%', '}'] <:+: name.toList) : IsName name :=
  ⟨nonempty, ink, .of_unclosed (by decide) (by decide) free⟩

theorem trim (h : IsName name) {args : List Char}
    (last : ∀ c ∈ args.getLast?, Text.isBlank c = false) :
    Text.trim (' ' :: (name.toList ++ args ++ [' '])) = name.toList ++ args := by
  refine Text.trim_inked ⟨?_, ?_⟩
  · obtain ⟨c, cs, e⟩ := List.exists_cons_of_ne_nil h.nonempty
    exact ⟨c, cs ++ args, by rw [e, List.cons_append], h.ink c (by simp [e])⟩
  · rcases List.eq_nil_or_concat args with rfl | ⟨cs, c, rfl⟩
    · obtain ⟨cs, c, e⟩ := (List.eq_nil_or_concat _).resolve_left h.nonempty
      rw [List.concat_eq_append] at e
      exact ⟨cs, c, by rw [List.append_nil, e], h.ink c (by simp [e])⟩
    · rw [List.concat_eq_append] at last ⊢
      exact ⟨name.toList ++ cs, c, by rw [List.append_assoc], last c (by simp)⟩

/-- What follows the name of a tag of a source may follow another name in a tag. -/
theorem body_of_exact {source : List Char} (h : IsName name) (exact : tag.Exact source)
    (closed : Body Delimiter.block.guard body) (trimmed : tag.contents.toList = Text.trim body) :
    Body Delimiter.block.guard (' ' :: (name.toList ++ tag.args.toList ++ [' '])) := by
  refine .char (by decide) ?_
  cases args : tag.args.toList with
  | nil =>
    rw [List.append_nil]
    exact h.body
  | cons c cs =>
    have blank : Text.isBlank c = true := exact.stop c (by rw [args]; rfl)
    have other : c ≠ Delimiter.block.guard ∧ c ≠ '}' := by
      constructor <;> rintro rfl <;> exact absurd blank (by decide)
    -- behind its first blank, the text of the arguments is the end of a body
    obtain ⟨blanks, split⟩ := Text.trim_split body
    rw [← trimmed, exact.contents, args] at split
    have own : Body Delimiter.block.guard (cs ++ blanks) := by
      rw [split] at closed
      refine Body.behind (u := body.takeWhile Text.isBlank ++ tag.name.toList) ?_ other.1
      simpa using closed
    have rest : Body Delimiter.block.guard (cs ++ [' ']) :=
      own.before (by decide) (by decide) .nil
    rw [List.append_assoc]
    exact h.body.before other.1 other.2 rest

end Tag.IsName

/-- A source with two written tags in place of a tag, the first of which takes over its
arguments. -/
theorem Markup.tokenize_written {source : String} {read rest : List Lexeme} {l : Lexeme} {tag : Tag}
    (stands : tokenize source = read ++ l :: rest) (token : l.token = .block tag)
    {first last : String} (one : Tag.IsName first) (two : Tag.IsName last) :
    ∃ l₁ l₂ tag₁ tag₂ rest',
      tokenize (replace source l.span (Tag.written first tag.args ++ Tag.written last "")) =
        read ++ l₁ :: l₂ :: rest' ∧
      (l₁.token = .block tag₁ ∧ tag₁.name = first ∧ tag₁.args = tag.args) ∧
      (l₂.token = .block tag₂ ∧ tag₂.name = last) ∧ SameTokens rest rest' := by
  have placed := tokenize_exact source l (by simp [stands])
  obtain ⟨⟨⟨body, closed, -, trimmed⟩, -, -⟩, -, -, exact⟩ := placed.block token
  have ends : Body Delimiter.block.guard (' ' :: (last.toList ++ [] ++ [' '])) := by
    rw [List.append_nil]
    exact .char (by decide) two.body
  let front : List Char := ' ' :: (first.toList ++ tag.args.toList ++ [' '])
  let back : List Char := ' ' :: (last.toList ++ [] ++ [' '])
  have parts : ∀ p ∈ [Piece.markup .block front, .markup .block back], p.Closed :=
    List.forall_mem_cons.2 ⟨⟨_, _, rfl, one.body_of_exact exact closed trimmed⟩,
      List.forall_mem_singleton.2 ⟨_, _, rfl, ends⟩⟩
  have written : (Tag.written first tag.args ++ Tag.written last "").toList =
      [Piece.markup .block front, .markup .block back].flatMap Piece.source := by
    rw [String.toList_append, Tag.written_toList, Tag.written_toList, List.flatMap_cons,
      List.flatMap_singleton]
    rfl
  obtain ⟨pos, line, rest', tokens, same⟩ := tokenize_replace stands token parts written
  obtain ⟨l₁, tag₁, pos₁, line₁, placed₁, token₁, contents₁⟩ :=
    place_block front pos line [.markup .block back]
  obtain ⟨l₂, tag₂, pos₂, line₂, placed₂, token₂, contents₂⟩ := place_block back pos₁ line₁ []
  rw [placed₁, placed₂] at tokens
  rw [one.trim (placed.args_ink token)] at contents₁
  rw [two.trim (by simp)] at contents₂
  have spells₁ : tag₁.Spells first tag.args.toList :=
    ⟨contents₁, one.nonempty, one.ink, exact.stop⟩
  have spells₂ : tag₂.Spells last [] := ⟨contents₂, two.nonempty, two.ink, by simp⟩
  refine ⟨l₁, l₂, tag₁, tag₂, rest', tokens, ⟨token₁, spells₁.name_eq, ?_⟩,
    ⟨token₂, spells₂.name_eq⟩, same⟩
  rw [spells₁.args_eq, String.ofList_toList]

end SlotTemplate
